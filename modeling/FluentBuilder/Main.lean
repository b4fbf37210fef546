import FluentBuilder.Cli.Run

/-! The program: it reads the files at which a command may look, writes, and prints. -/
namespace FluentBuilder.Program

/-- Error numbers come with either sign. -/
def isCode (code : UInt32) (n : UInt32) : Bool := code = n || code = 0 - n

def pathError (e : IO.Error) : PathError :=
  let plain := PathError.other e.toString.toList
  match e with
  | .noFileOrDirectory _ _ _ => .missing
  | .inappropriateType _ code _ =>
    if isCode code 20 then .notADirectory else if isCode code 21 then .isADirectory else plain
  | .invalidArgument _ code _ => if isCode code 36 then .nameTooLong else plain
  | .permissionDenied _ code _ => if isCode code 13 then .denied else plain
  | _ => plain

def isPresent (path : Text) : IO Bool := do
  try
    discard (IO.FS.realPath (String.ofList path))
    return true
  catch _ => return false

def read (path : Text) : IO Reading := do
  try
    return (Content.ofBytes (← IO.FS.readBinFile (String.ofList path))).reading
  catch e =>
    let why := pathError e
    return if ← isPresent path then .unreadable why else .absent why

def write (f : File) : IO (Option PathError) := do
  try
    IO.FS.writeFile (String.ofList f.path) (String.ofList f.content)
    return none
  catch e => return some (pathError e)

def run (args : List Text) : IO Outcome := do
  let cwd := (← IO.currentDir).toString.toList
  let paths := ((Command.read args).map (Command.reads cwd)).getD []
  let found ← paths.mapM fun p => return (p, ← read p)
  let view (fault : Option PathError) : View :=
    ⟨cwd, fun p => (found.lookup p).getD (.absent .missing), fun _ => fault⟩
  let outcome := (view none).runArgs args
  match ← outcome.writes.findSomeM? write with
  | none => return outcome
  | some fault => return (view (some fault)).runArgs args

end FluentBuilder.Program

open FluentBuilder in
def main (args : List String) : IO UInt32 := do
  let outcome ← Program.run (args.map String.toList)
  (← IO.getStdout).putStr (String.ofList outcome.stdout)
  (← IO.getStderr).putStr (String.ofList outcome.stderr)
  return UInt32.ofNat outcome.exit
