import FluentBuilder.Cli.Run
import FluentBuilder.Proofs.Agreement
import FluentBuilder.Proofs.LineBreaks
import FluentBuilder.Proofs.Sibling

/-! What the commands on a document have in common: a generation, printed or written, and an
inspection come to the same end. -/
namespace FluentBuilder
open Interface

def made (root : Text) (document : Option Document) (config : Config) (extractor : Extractor) :
    Except Stop File :=
  if root = [] then .error (.failed .noWorkspace)
  else
    match document with
    | none => .error (.failed .noEditor)
    | some d => (generate d config extractor).result

section
variable {root : Text} {document : Option Document} {config : Config} {extractor : Extractor}
  {file : File}

theorem made_of_document (hr : root ≠ []) (d : Document) :
    made root (some d) config extractor = (generate d config extractor).result := by
  rw [made, if_neg hr]

theorem made_eq_ok_iff : made root document config extractor = .ok file ↔ root ≠ [] ∧
    ∃ d declaration, document = some d ∧
      (analyze d.text config extractor).result = .ok declaration ∧ file = declaration.file d.path := by
  by_cases hr : root = []
  · simp [made, hr]
  · cases document with
    | none => simp [made, hr]
    | some d =>
      rw [made_of_document hr, generate_eq_ok_iff]
      simp [hr]

/-- The file system has a say in the last step of a run only. -/
theorem result_run (host : Host) (config : Config) (extractor : Extractor) :
    (run host config extractor).result =
      match made host.root host.document config extractor with
      | .error s => .error s
      | .ok file =>
        match host.refusal file with
        | none => .ok file
        | some detail => .error (.failed (.writeFailed detail)) := by
  have h := ran config extractor host
  generalize run host config extractor = r at h
  cases h with
  | noWorkspace hr => simp [made, hr]
  | noEditor hr hd => simp [made, hr, hd]
  | stopped hr hd ha => simp only [hd, made_of_document hr, generate_of_error ha]
  | refused hr hd ha hw => simp only [hd, made_of_document hr, generate_of_ok ha, hw]
  | saved hr hd ha hw => simp only [hd, made_of_document hr, generate_of_ok ha, hw]

end

namespace Outcome

def told : Stop → Outcome
  | .failed e => { exit := 1, stderr := e.notice.line false }
  | .indentTooWide => overflow

theorem line_notice (e : Failure) (printOnly : Bool) :
    e.notice.line printOnly = e.notice.line false := rfl

theorem ofTrace_execute (printOnly : Bool) (host : Host) (config : Config)
    (extractor : Extractor) : ofTrace printOnly (execute host config extractor) =
      match (FluentBuilder.run host config extractor).result with
      | .ok file =>
        { stdout := if printOnly then file.content else []
          stderr := file.notice.line printOnly
          writes := if printOnly then [] else [file] }
      | .error s => told s := by
  have hresult : (execute host config extractor).result =
      (FluentBuilder.run host config extractor).result := rfl
  unfold ofTrace
  rw [hresult, files_execute, messages_execute]
  match (FluentBuilder.run host config extractor).result with
  | .ok file => simp [filesOf, closing, Event.message?]
  | .error (.failed e) =>
    simp [filesOf, closing, List.filterMap_cons, Event.message?, told, line_notice e printOnly]
  | .error .indentTooWide => rfl

structure Fails (o : Outcome) : Prop where
  exit : o.exit ≠ 0
  writes : o.writes = []

theorem fails_told (s : Stop) : (told s).Fails := by
  cases s with
  | failed e => exact ⟨Nat.one_ne_zero, rfl⟩
  | indentTooWide => exact ⟨by decide, rfl⟩

theorem fails_stopped (s : Stop) : (stopped s).Fails := by
  cases s with
  | failed e => exact ⟨Nat.one_ne_zero, rfl⟩
  | indentTooWide => exact ⟨by decide, rfl⟩

section
variable {ε α β : Type} {x : Except Outcome α} {f : α → Except Outcome β}

/-- Whatever ends it early leaves every file as it was. -/
def Spares (x : Except Outcome α) : Prop := ∀ o, x = .error o → o.Fails

theorem spares_bind (hx : Spares x) (hf : ∀ a, Spares (f a)) : Spares (x >>= f) := by
  cases x with
  | error e =>
    rintro o ⟨⟩
    exact hx e rfl
  | ok a => exact hf a

theorem spares_mapError {g : ε → Outcome} (hg : ∀ e, (g e).Fails) (x : Except ε α) :
    Spares (x.mapError g) := by
  cases x with
  | error e =>
    rintro o ⟨⟩
    exact hg e
  | ok a =>
    rintro o ⟨⟩

theorem spares_pure (a : α) : Spares (pure a) := by
  rintro o ⟨⟩

end

end Outcome

namespace View
open Outcome
variable {v : View} {input path : Text} {workspace : Option Text} {file : File} {o : Outcome}

theorem spares_config (v : View) (workspace : Option Text) : Spares (v.config workspace) := by
  intro o h
  simp only [config] at h
  split at h
  · cases h
  · cases h
    exact ⟨Nat.one_ne_zero, rfl⟩

theorem fails_unreadable (path : Text) (e : PathError) : (unreadable path e).Fails :=
  ⟨Nat.one_ne_zero, rfl⟩

theorem spares_document (v : View) (path : Text) : Spares (v.document path) := by
  intro o h
  unfold document at h
  split at h
  · cases h
  · cases h
    exact fails_unreadable _ _
  · cases h

theorem document_eq_ok_iff {d : Document} :
    v.document path = .ok (some d) ↔ ∃ t, v.read path = .ok t ∧ d = ⟨path, t⟩ := by
  unfold document
  cases v.read path <;> simp [eq_comm]

def made (v : View) (input : Text) (workspace : Option Text) : Except Outcome File := do
  let config ← v.config workspace
  let document ← v.document input
  (FluentBuilder.made (workspace.getD v.cwd) document config byPattern).mapError .told

def deliver (v : View) (file : File) (printOnly : Bool) : Outcome :=
  if printOnly then { stdout := file.content }
  else
    match v.refusal file with
    | none => { stderr := file.notice.line false, writes := [file] }
    | some e => .told (.failed (.writeFailed e.message))

theorem deliver_of_none (h : v.refusal file = none) :
    v.deliver file false = { stderr := file.notice.line false, writes := [file] } := by
  simp [deliver, h]

theorem deliver_of_some {e : PathError} (h : v.refusal file = some e) :
    v.deliver file false = .told (.failed (.writeFailed e.message)) := by
  simp [deliver, h]

theorem eq_of_mem_writes_deliver {f : File} {printOnly : Bool}
    (h : f ∈ (v.deliver file printOnly).writes) : f = file := by
  cases printOnly with
  | true => cases h
  | false =>
    cases hrefusal : v.refusal file with
    | none =>
      rw [deliver_of_none hrefusal] at h
      exact List.mem_singleton.1 h
    | some e =>
      rw [deliver_of_some hrefusal, (fails_told _).writes] at h
      cases h

theorem run_generate (v : View) (input : Text) (workspace : Option Text) (printOnly : Bool) :
    v.run (.generate input workspace printOnly) =
      match v.made input workspace with
      | .ok file => v.deliver file printOnly
      | .error o => o := by
  have hrun : v.run (.generate input workspace printOnly) =
      merged (v.generate input workspace printOnly) := rfl
  rw [hrun, generate, made]
  cases v.config workspace with
  | error o => rfl
  | ok config =>
    cases v.document input with
    | error o => rfl
    | ok document =>
      change Outcome.ofTrace printOnly _ = match (FluentBuilder.made (workspace.getD v.cwd) document
          config byPattern).mapError Outcome.told with
        | .ok file => v.deliver file printOnly
        | .error o => o
      rw [Outcome.ofTrace_execute, result_run]
      cases FluentBuilder.made (workspace.getD v.cwd) document config byPattern with
      | error s => rfl
      | ok file =>
        cases printOnly with
        | true => rfl
        | false =>
          cases hwrite : v.refusal file with
          | none => simp [Except.mapError, deliver_of_none hwrite, hwrite]
          | some e => simp [Except.mapError, deliver_of_some hwrite, hwrite]

theorem made_eq_ok_iff : v.made input workspace = .ok file ↔ workspace.getD v.cwd ≠ [] ∧
    ∃ config t declaration, v.config workspace = .ok config ∧ v.read input = .ok t ∧
      (analyze t config byPattern).result = .ok declaration ∧ file = declaration.file input := by
  simp only [made, bind_eq_ok_iff, mapError_eq_ok_iff, FluentBuilder.made_eq_ok_iff]
  constructor
  · rintro ⟨config, hconfig, _, hdocument, hroot, d, declaration, rfl, ha, rfl⟩
    obtain ⟨t, ht, rfl⟩ := document_eq_ok_iff.1 hdocument
    exact ⟨hroot, config, t, declaration, hconfig, ht, ha, rfl⟩
  · rintro ⟨hroot, config, t, declaration, hconfig, ht, ha, rfl⟩
    exact ⟨config, hconfig, some ⟨input, t⟩, document_eq_ok_iff.2 ⟨t, ht, rfl⟩, hroot, _,
      declaration, rfl, ha, rfl⟩

theorem path_of_made (h : v.made input workspace = .ok file) : file.path = outputPath input := by
  obtain ⟨_, _, _, _, _, _, _, rfl⟩ := made_eq_ok_iff.1 h
  rfl

theorem spares_made (v : View) (input : Text) (workspace : Option Text) :
    Spares (v.made input workspace) :=
  spares_bind (spares_config v workspace) fun _ =>
    spares_bind (spares_document v input) fun _ => spares_mapError fails_told _

/-- The two courses of a generation: what is done with the file matters in one of them only. -/
theorem generated (v : View) (input : Text) (workspace : Option Text) :
    (∃ file, v.made input workspace = .ok file ∧
      ∀ printOnly, v.run (.generate input workspace printOnly) = v.deliver file printOnly) ∨
    ∃ o, o.Fails ∧ (∀ file, v.made input workspace ≠ .ok file) ∧
      ∀ printOnly, v.run (.generate input workspace printOnly) = o := by
  simp only [run_generate]
  cases hmade : v.made input workspace with
  | ok file => exact .inl ⟨file, rfl, fun _ => rfl⟩
  | error o =>
    exact .inr ⟨o, spares_made v input workspace o hmade, by simp, fun _ => rfl⟩

theorem exit_printed : (v.run (.generate input workspace true)).exit = 0 ↔
    ∃ file, v.made input workspace = .ok file := by
  obtain ⟨file, hmade, hrun⟩ | ⟨o, hfails, hnone, hrun⟩ := v.generated input workspace
  · rw [hrun]
    exact ⟨fun _ => ⟨file, hmade⟩, fun _ => rfl⟩
  · rw [hrun]
    exact ⟨fun h => absurd h hfails.exit, fun ⟨file, h⟩ => absurd h (hnone file)⟩

theorem exit_plain : (v.run (.generate input workspace false)).exit = 0 ↔
    ∃ file, v.made input workspace = .ok file ∧ v.refusal file = none := by
  obtain ⟨file, hmade, hrun⟩ | ⟨o, hfails, hnone, hrun⟩ := v.generated input workspace
  · rw [hrun]
    cases hrefusal : v.refusal file with
    | none => simp [deliver_of_none hrefusal, hmade, hrefusal]
    | some e => simpa [deliver_of_some hrefusal, hmade, hrefusal] using (fails_told _).exit
  · rw [hrun]
    exact ⟨fun h => absurd h hfails.exit, fun ⟨file, h, _⟩ => absurd h (hnone file)⟩

theorem writes_printed : (v.run (.generate input workspace true)).writes = [] := by
  obtain ⟨file, _, hrun⟩ | ⟨o, hfails, _, hrun⟩ := v.generated input workspace
  · rw [hrun]
    rfl
  · rw [hrun]
    exact hfails.writes

theorem writes_of_exit_plain (h : (v.run (.generate input workspace false)).exit ≠ 0) :
    (v.run (.generate input workspace false)).writes = [] := by
  obtain ⟨file, _, hrun⟩ | ⟨o, hfails, _, hrun⟩ := v.generated input workspace
  · rw [hrun] at h ⊢
    cases hrefusal : v.refusal file with
    | none =>
      rw [deliver_of_none hrefusal] at h
      exact absurd rfl h
    | some e =>
      rw [deliver_of_some hrefusal]
      exact (fails_told _).writes
  · rw [hrun]
    exact hfails.writes

theorem stderr_printed (h : (v.run (.generate input workspace true)).exit ≠ 0) :
    (v.run (.generate input workspace true)).stderr =
      (v.run (.generate input workspace false)).stderr := by
  obtain ⟨file, hmade, _⟩ | ⟨o, _, _, hrun⟩ := v.generated input workspace
  · exact absurd (exit_printed.2 ⟨file, hmade⟩) h
  · rw [hrun, hrun]

theorem spares_inspect (v : View) (input : Text) (format : Format) :
    Spares (v.inspect input format) :=
  spares_bind (spares_mapError (fails_unreadable input) _) fun _ =>
    spares_bind (spares_config v none) fun _ =>
      spares_bind (spares_mapError fails_stopped _) fun _ => spares_pure _

theorem path_of_mem_writes {f : File} {printOnly : Bool}
    (h : f ∈ (v.run (.generate input workspace printOnly)).writes) : f.path = outputPath input := by
  obtain ⟨file, hmade, hrun⟩ | ⟨o, hfails, _, hrun⟩ := v.generated input workspace
  · rw [hrun] at h
    rw [eq_of_mem_writes_deliver h, path_of_made hmade]
  · rw [hrun, hfails.writes] at h
    cases h

theorem writes_inspect (v : View) (input : Text) (format : Format) :
    (v.run (.inspect input format)).writes = [] := by
  have hrun : v.run (.inspect input format) = merged (v.inspect input format) := rfl
  rw [hrun]
  cases hinspect : v.inspect input format with
  | error o => exact (spares_inspect v input format o hinspect).writes
  | ok o =>
    simp only [inspect, bind_eq_ok_iff] at hinspect
    obtain ⟨_, _, _, _, _, _, ⟨⟩⟩ := hinspect
    rfl

theorem exit_inspect (v : View) (input : Text) (format : Format) :
    (v.run (.inspect input format)).exit = 0 ↔ ∃ config t declaration, v.config none = .ok config ∧
      v.read input = .ok t ∧ (analyze t config byPattern).result = .ok declaration := by
  have hrun : v.run (.inspect input format) = merged (v.inspect input format) := rfl
  have hmerged : (merged (v.inspect input format)).exit = 0 ↔
      ∃ o, v.inspect input format = .ok o ∧ o.exit = 0 := by
    cases hinspect : v.inspect input format with
    | error o => simpa [merged] using (spares_inspect v input format o hinspect).exit
    | ok o => simp [merged]
  rw [hrun, hmerged]
  simp only [inspect, bind_eq_ok_iff, mapError_eq_ok_iff, Reading.toExcept_eq_ok_iff, result_inspect,
    map_eq_ok_iff]
  constructor
  · rintro ⟨_, ⟨t, ht, config, hconfig, _, ⟨declaration, ha, _⟩, _⟩, _⟩
    exact ⟨config, t, declaration, hconfig, ht, ha⟩
  · rintro ⟨config, t, declaration, hconfig, ht, ha⟩
    exact ⟨_, ⟨t, ht, config, hconfig, _, ⟨declaration, ha, rfl⟩, rfl⟩, rfl⟩

/-- With no workspace of its own, a generation needs what an inspection needs. -/
theorem exit_inspect_iff_exit_printed (hcwd : v.cwd ≠ []) (format : Format) :
    (v.run (.inspect input format)).exit = 0 ↔
      (v.run (.generate input none true)).exit = 0 := by
  -- They read document and configuration in different orders, but each needs both.
  rw [exit_inspect, exit_printed]
  constructor
  · rintro ⟨config, t, declaration, hconfig, ht, ha⟩
    exact ⟨_, made_eq_ok_iff.2 ⟨hcwd, config, t, declaration, hconfig, ht, ha, rfl⟩⟩
  · rintro ⟨file, hfile⟩
    obtain ⟨_, config, t, declaration, hconfig, ht, ha, _⟩ := made_eq_ok_iff.1 hfile
    exact ⟨config, t, declaration, hconfig, ht, ha⟩

theorem writes_of_exit_zero (h : (v.run (.generate input workspace false)).exit = 0) :
    ∃ file, v.made input workspace = .ok file ∧ v.refusal file = none ∧
      (v.run (.generate input workspace false)).writes = [file] ∧
      (v.run (.generate input workspace true)).stdout = file.content := by
  obtain ⟨file, hmade, hrefusal⟩ := exit_plain.1 h
  refine ⟨file, hmade, hrefusal, ?_, ?_⟩
  · simp only [run_generate, hmade, deliver_of_none hrefusal]
  · simp only [run_generate, hmade]
    rfl

end View

namespace Disk
variable {d : Disk} {input : Text} {workspace : Option Text} {f : File} {o : Outcome}

theorem after_of_no_writes (h : o.writes = []) : d.after o = d := by
  rw [after, h, List.foldl_nil]

theorem after_of_writes (h : o.writes = [f]) : d.after o = d.write f := by
  rw [after, h, List.foldl_cons, List.foldl_nil]

/-- What a generation that ends well leaves: the builder file with its text, and every other file as
it was, the document among them. -/
structure Wrote (d : Disk) (input content : Text) (d' : Disk) (source place : Place) : Prop where
  place_input : d.place? input = some source
  place_output : d.place? (outputPath input) = some place
  differ : source ≠ place
  changed : d.ChangedAt d' place (.text content)
  /-- Unless a file was there already that could not be read. -/
  output : (∀ stored, d.file? place = some stored → stored.fault = none) →
    d'.read (outputPath input) = .ok content
  input : d'.read input = d.read input

theorem wrote_of_made {file : File} (h : d.view.made input workspace = .ok file)
    (hrefusal : d.refusal file = none) :
    ∃ source place, d.Wrote input file.content (d.write file) source place := by
  obtain ⟨_, config, t, declaration, _, ht, ha, rfl⟩ := View.made_eq_ok_iff.1 h
  have hread : d.read input = .ok t := ht
  have hne : t ≠ [] := (analyze_eq_ok_iff.1 ha).1.ne_nil
  obtain ⟨source, hsource⟩ := place?_of_read hread hne
  obtain ⟨place, hplace⟩ := place?_outputPath hrefusal
  have hdiffer : source ≠ place := place?_ne_place?_outputPath hsource hplace
  have hchanged : d.ChangedAt (d.write (declaration.file input)) place _ :=
    changedAt_write hplace hrefusal
  refine ⟨source, place, hsource, hplace, hdiffer, hchanged, read_write hplace hrefusal, ?_⟩
  rw [hread]
  refine hchanged.readings input t ?_ hread
  rw [hsource]
  exact fun h => hdiffer (Option.some_inj.1 h)

end Disk

/-- A generation that is written, the same one printed and an inspection agree: on success, on the
text and on what a failure says. -/
theorem generate_consistent (d : Disk) (input : Text) (workspace : Option Text) :
    let plain := d.view.run (.generate input workspace false)
    let printed := d.view.run (.generate input workspace true)
    (plain.exit = 0 → plain.writes = [⟨outputPath input, printed.stdout⟩] ∧
      ∃ source place, d.Wrote input printed.stdout (d.after plain) source place) ∧
    (plain.exit ≠ 0 → d.after plain = d) ∧
    d.after printed = d ∧
    (plain.exit = 0 → printed.exit = 0) ∧
    (printed.exit ≠ 0 → printed.stderr = plain.stderr) ∧
    (workspace = none → ∀ format,
      (d.view.run (.inspect input format)).exit = 0 ↔ printed.exit = 0) := by
  intro plain printed
  refine ⟨?wrote, ?kept, Disk.after_of_no_writes View.writes_printed, ?exit, View.stderr_printed,
    ?inspect⟩
  case wrote =>
    intro h
    obtain ⟨file, hmade, hrefusal, hwrites, hstdout⟩ := View.writes_of_exit_zero h
    have hprinted : printed.stdout = file.content := hstdout
    rw [hprinted, Disk.after_of_writes hwrites, hwrites, ← View.path_of_made hmade]
    exact ⟨rfl, Disk.wrote_of_made hmade hrefusal⟩
  case kept => exact fun h => Disk.after_of_no_writes (View.writes_of_exit_plain h)
  case exit =>
    intro h
    obtain ⟨file, hmade, _⟩ := View.exit_plain.1 h
    exact View.exit_printed.2 ⟨file, hmade⟩
  case inspect =>
    rintro rfl format
    exact View.exit_inspect_iff_exit_printed d.cwd_ne_nil format

def desk : Disk where
  home := ["work".toList]
  files := [
    (["work".toList, notes.path], { content := .text notes.text }),
    (["work".toList, Config.fileName], { content := .text "indent: 4\nline_break: lf\n".toList })]

theorem generate_desk :
    let input := "/work/../work/notes.ts".toList
    let plain := desk.view.run (.generate input none false)
    let printed := desk.view.run (.generate input none true)
    plain.exit = 0 ∧
      (∃ source place, desk.Wrote input printed.stdout (desk.after plain) source place) ∧
      (desk.view.run (.inspect input .json)).exit = 0 := by
  intro input plain printed
  have hexit : plain.exit = 0 := by decide +kernel
  obtain ⟨hwrote, _, _, hprinted, _, hinspect⟩ := generate_consistent desk input none
  exact ⟨hexit, (hwrote hexit).2, (hinspect rfl .json).2 (hprinted hexit)⟩

end FluentBuilder
