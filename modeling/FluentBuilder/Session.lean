import FluentBuilder.Generation

/-! An editing session: documents and settings change between runs, and what was shown and written
is kept. -/
namespace FluentBuilder

inductive Step where
  | setRoot (root : Text)
  | openDocument (document : Document)
  | append (t : Text)
  | close
  | openLastWrite
  /-- From here on every write fails with this detail, or none does. -/
  | failWrites (detail : Option Text)
  | configure (config : Config)
  | execute
  | executeWith (extractor : Extractor)

structure Session where
  root : Text := []
  document : Option Document := none
  config : Config := {}
  writeFault : Option Text := none
  shown : List Message := []
  written : List File := []
  /-- How often an extractor given to `executeWith` was asked. -/
  consultations : Nat := 0

structure Report where
  result : Option (Except Stop File)
  events : List Event
  session : Session

namespace Session

def host (s : Session) : Host where
  root := s.root
  document := s.document
  refusal := fun _ => s.writeFault

def quiet (s : Session) : Report := ⟨none, [], s⟩

def conclude (s : Session) (counted : Bool) (r : Traced File) : Report where
  result := some r.result
  events := r.events
  session :=
    { s with
      shown := s.shown ++ r.events.filterMap Event.message?
      written := s.written ++ r.events.filterMap Event.file?
      consultations :=
        s.consultations + if counted then r.events.count .consulted else 0 }

def step (s : Session) : Step → Report
  | .setRoot root => quiet { s with root }
  | .openDocument d => quiet { s with document := some d }
  | .append t => quiet { s with document := s.document.map fun d => { d with text := d.text ++ t } }
  | .close => quiet { s with document := none }
  | .openLastWrite => quiet { s with document := s.written.getLast?.map File.toDocument }
  | .failWrites detail => quiet { s with writeFault := detail }
  | .configure config => quiet { s with config }
  | .execute => s.conclude false (FluentBuilder.execute s.host s.config Interface.byPattern)
  | .executeWith extractor => s.conclude true (FluentBuilder.execute s.host s.config extractor)

def run (s : Session) : List Step → List Report
  | [] => []
  | a :: steps =>
    let r := s.step a
    r :: run r.session steps

end Session
end FluentBuilder
