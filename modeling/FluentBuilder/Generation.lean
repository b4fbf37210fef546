import FluentBuilder.Builder
import FluentBuilder.Interface

/-! From a document to its builder file: the checks on the text in their order, the class, and the
run against a host that shows messages and takes the file. -/
namespace FluentBuilder
open Traced

structure Declaration where
  name : Text
  baseName : Text
  style : Style
  fields : List Field
deriving DecidableEq, Repr

structure Document where
  path : Text
  text : Text
deriving DecidableEq, Repr

def File.toDocument (f : File) : Document := ⟨f.path, f.content⟩

structure Host where
  /-- Root of the open workspace, empty when there is none. -/
  root : Text
  document : Option Document
  /-- Why a file cannot be written, if it cannot. -/
  refusal : File → Option Text

def consult (extractor : Extractor) (t : Text) : Traced (List Field) :=
  let x := extractor t
  ⟨.consulted :: x.records.map .logged, x.result.mapError .failed⟩

def configuredStyle (config : Config) (t : Text) : Traced Style :=
  match config.restyle (Style.sniff t) with
  | some s => pure s
  | none => stop .indentTooWide

def analyze (t : Text) (config : Config) (extractor : Extractor) : Traced Declaration := do
  if t.isEmpty then fail .noText
  if Interface.hasCallable t then fail .unsupportedMember
  ofExcept (Interface.requireMarker t)
  let style ← configuredStyle config t
  log (.style style.terminator)
  let name ← ofExcept (Interface.extractName t)
  let fields ← consult extractor t
  log (.declared name fields.length)
  let baseName := if config.stripInterfacePrefix then Interface.baseName name else name
  pure { name, baseName, style, fields }

def Declaration.content (d : Declaration) : Text := assemble d.baseName d.name d.fields d.style

def generate (document : Document) (config : Config) (extractor : Extractor) : Traced File := do
  let declaration ← analyze document.text config extractor
  pure ⟨outputPath document.path, declaration.content⟩

def save (refusal : File → Option Text) (file : File) : Traced Unit := do
  log (.writing (Text.utf8Length file.content) file.path)
  match refusal file with
  | none => emit (.wrote file)
  | some detail =>
    log (.writeFailed file.path detail)
    fail (.writeFailed detail)

def run (host : Host) (config : Config) (extractor : Extractor) : Traced File := do
  if host.root.isEmpty then fail .noWorkspace
  match host.document with
  | none => fail .noEditor
  | some document =>
    let file ← generate document config extractor
    save host.refusal file
    pure file

def Failure.notice (f : Failure) : Message := ⟨true, f.message⟩

def File.notice (f : File) : Message := ⟨false, "Builder class saved to: ".toList ++ f.path⟩

/-- What follows the end of a run: one message, and for a failure a record of it. -/
def closing : Except Stop File → List Event
  | .ok file => [.shown file.notice]
  | .error (.failed f) => [.logged (.stopped f), .shown f.notice]
  | .error .indentTooWide => []

def execute (host : Host) (config : Config) (extractor : Extractor) : Traced File :=
  let r := run host config extractor
  ⟨r.events ++ closing r.result, r.result⟩

end FluentBuilder
