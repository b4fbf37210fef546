import FluentBuilder.Cli.Command
import FluentBuilder.Inspection
import FluentBuilder.Config

/-! What each command prints and writes, and its exit code. -/
namespace FluentBuilder

structure View where
  cwd : Text
  read : Text → Reading
  refusal : File → Option PathError

structure Outcome where
  exit : Nat := 0
  stdout : Text := []
  stderr : Text := []
  writes : List File := []
deriving DecidableEq, Repr

namespace Outcome

def indented (t : Text) : Text :=
  t.flatMap fun c => if c = '\n' then "\n    ".toList else [c]

def error (message : Text) (cause : Option Text) : Outcome where
  exit := 1
  stderr :=
    "Error: ".toList ++ message ++ "\n".toList ++
      match cause with
      | none => []
      | some c => "\nCaused by:\n    ".toList ++ indented c ++ "\n".toList

/-- The end of a command whose indent is too wide for any text. -/
def overflow : Outcome where
  exit := 101
  stderr := "capacity overflow\n".toList

def stopped : Stop → Outcome
  | .failed f => error f.message none
  | .indentTooWide => overflow

def usage : Outcome where
  exit := 2
  stderr := "error: the arguments are not understood\n".toList

end Outcome

def configPath (cwd : Text) (workspace : Option Text) : Text :=
  joinPath (workspace.getD cwd) Config.fileName

def Config.defaultFile : File := ⟨Config.fileName, Config.defaultContent⟩

def Command.reads (cwd : Text) : Command → List Text
  | generate input workspace _ => [configPath cwd workspace, input]
  | inspect input _ => [configPath cwd none, input]
  | init _ => [Config.fileName]
  | version => []

namespace View

def config (v : View) (workspace : Option Text) : Except Outcome Config :=
  let path := configPath v.cwd workspace
  match Config.load (v.read path) with
  | .ok config => .ok (config.getD {})
  | .error e => .error (.error (e.message path) (some e.cause))

def unreadable (path : Text) (e : PathError) : Outcome :=
  .error ("failed to read ".toList ++ path) (some e.message)

/-- The document to generate from; where there is no file, none is open. -/
def document (v : View) (path : Text) : Except Outcome (Option Document) :=
  match v.read path with
  | .ok t => .ok (some ⟨path, t⟩)
  | .unreadable e => .error (unreadable path e)
  | .absent _ => .ok none

end View

/-- A line for a message; what is only printed needs no notice of being saved. -/
def Message.line (printOnly : Bool) (m : Message) : Text :=
  if m.isError then "error: ".toList ++ m.text ++ "\n".toList
  else if printOnly then []
  else m.text ++ "\n".toList

/-- Prints the events of a run; its files are printed or else left to be written. -/
def Outcome.ofTrace (printOnly : Bool) (r : Traced File) : Outcome :=
  match r.result with
  | .error .indentTooWide => .overflow
  | result =>
    let files := r.events.filterMap Event.file?
    { exit := match result with
        | .ok _ => 0
        | .error _ => 1
      stdout := if printOnly then files.flatMap (·.content) else []
      stderr := (r.events.filterMap Event.message?).flatMap (·.line printOnly)
      writes := if printOnly then [] else files }

namespace View

def generate (v : View) (input : Text) (workspace : Option Text) (printOnly : Bool) :
    Except Outcome Outcome := do
  let config ← v.config workspace
  let host : Host := {
    root := workspace.getD v.cwd
    document := ← v.document input
    refusal := fun f => if printOnly then none else (v.refusal f).map PathError.message }
  return .ofTrace printOnly (execute host config Interface.byPattern)

def inspect (v : View) (input : Text) (format : Format) : Except Outcome Outcome := do
  let t ← (v.read input).toExcept.mapError (unreadable input)
  let config ← v.config none
  let i ← (FluentBuilder.inspect t config).result.mapError Outcome.stopped
  return {
    stdout := match format with
      | .yaml => i.yaml
      | .json => i.json }

def init (v : View) (force : Bool) : Outcome :=
  if (v.read Config.fileName).isPresent && !force then
    .error (Config.fileName ++ " already exists. Use --force to overwrite.".toList) none
  else
    match v.refusal Config.defaultFile with
    | some e => .error e.message none
    | none =>
      { stderr := "Created ".toList ++ Config.fileName ++ "\n".toList
        writes := [Config.defaultFile] }

def merged : Except Outcome Outcome → Outcome
  | .ok o => o
  | .error o => o

def run (v : View) : Command → Outcome
  | .generate input workspace stdout => merged (v.generate input workspace stdout)
  | .inspect input format => merged (v.inspect input format)
  | .init force => v.init force
  | .version => { stdout := "i2b 0.1.0\n".toList }

def runArgs (v : View) (args : List Text) : Outcome :=
  match Command.read args with
  | some c => v.run c
  | none => .usage

end View

namespace Disk

def view (d : Disk) : View := ⟨d.cwd, d.read, d.refusal⟩

def after (d : Disk) (o : Outcome) : Disk := o.writes.foldl write d

end Disk
end FluentBuilder
