import FluentBuilder.Proofs.Course
import FluentBuilder.Session

/-! What runs leave behind: one message each, and a file for each run that ends well. -/
namespace FluentBuilder
open Traced
variable {t : Text} {host : Host} {config : Config} {extractor : Extractor}

def filesOf : Except Stop File → List File
  | .ok file => [file]
  | .error _ => []

namespace Event

def isInternal : Event → Bool
  | logged _ => true
  | consulted => true
  | _ => false

theorem message?_of_isInternal {e : Event} (h : e.isInternal = true) : e.message? = none := by
  cases e <;> simp_all [isInternal, message?]

theorem file?_of_isInternal {e : Event} (h : e.isInternal = true) : e.file? = none := by
  cases e <;> simp_all [isInternal, file?]

end Event

theorem analyze_internal : ∀ e ∈ (analyze t config extractor).events, e.isInternal = true := by
  have h := analyzed t config extractor
  have hasked : ∀ e ∈ asked t extractor, e.isInternal = true := by
    simp [asked, Event.isInternal]
  generalize analyze t config extractor = r at h
  cases h with
  | declared =>
    intro e he
    simp only [List.cons_append, List.mem_cons, List.mem_append, List.not_mem_nil, or_false] at he
    obtain rfl | he | rfl := he
    · rfl
    · exact hasked e he
    · rfl
  | refused =>
    intro e he
    cases List.mem_cons.1 he with
    | inl he => rw [he]; rfl
    | inr he => exact hasked e he
  | _ => simp [styled, Event.isInternal]

theorem messages_analyze : (analyze t config extractor).events.filterMap Event.message? = [] :=
  List.filterMap_eq_nil_iff.2 fun e he => Event.message?_of_isInternal (analyze_internal e he)

theorem files_analyze : (analyze t config extractor).events.filterMap Event.file? = [] :=
  List.filterMap_eq_nil_iff.2 fun e he => Event.file?_of_isInternal (analyze_internal e he)

theorem analyze_ne_wide (hw : config.indent < Style.maxIndent) :
    (analyze t config extractor).result ≠ .error .indentTooWide := by
  have h := analyzed t config extractor
  generalize analyze t config extractor = r at h
  cases h with
  | wide _ hle => omega
  | _ => simp

theorem messages_run : (run host config extractor).events.filterMap Event.message? = [] := by
  have h := ran config extractor host
  generalize run host config extractor = r at h
  cases h <;> simp [messages_analyze, List.filterMap_cons, Event.message?]

/-- A run writes its file if it ends well, and nothing otherwise. -/
theorem files_run :
    (run host config extractor).events.filterMap Event.file? =
      filesOf (run host config extractor).result := by
  have h := ran config extractor host
  generalize run host config extractor = r at h
  cases h <;> simp [files_analyze, List.filterMap_cons, Event.file?, filesOf]

theorem run_ne_wide (hw : config.indent < Style.maxIndent) :
    (run host config extractor).result ≠ .error .indentTooWide := by
  have h := ran config extractor host
  generalize run host config extractor = r at h
  cases h with
  | stopped _ _ ha =>
    intro he
    cases he
    exact analyze_ne_wide hw ha
  | _ => simp

theorem messages_execute :
    (execute host config extractor).events.filterMap Event.message? =
      (closing (run host config extractor).result).filterMap Event.message? := by
  simp only [execute, List.filterMap_append, messages_run, List.nil_append]

theorem files_closing (r : Except Stop File) : (closing r).filterMap Event.file? = [] := by
  match r with
  | .ok _ => rfl
  | .error (.failed _) => rfl
  | .error .indentTooWide => rfl

theorem files_execute :
    (execute host config extractor).events.filterMap Event.file? =
      filesOf (run host config extractor).result := by
  simp only [execute, List.filterMap_append, files_run, files_closing, List.append_nil]

/-- The one message of an execution tells how it ended, and a file goes with a good end only. -/
theorem execute_tells (host : Host) (extractor : Extractor) (hw : config.indent < Style.maxIndent) :
    let x := execute host config extractor
    (∃ file, x.result = .ok file ∧ x.events.filterMap Event.file? = [file] ∧
      x.events.filterMap Event.message? = [file.notice]) ∨
    ∃ e, x.result = .error (.failed e) ∧ x.events.filterMap Event.file? = [] ∧
      x.events.filterMap Event.message? = [e.notice] := by
  intro x
  have hm : x.events.filterMap Event.message? = _ := messages_execute
  have hf : x.events.filterMap Event.file? = _ := files_execute
  have hx : x.result = (run host config extractor).result := rfl
  rw [hm, hf, hx]
  match hr : (run host config extractor).result with
  | .ok file => exact .inl ⟨file, rfl, rfl, rfl⟩
  | .error (.failed e) => exact .inr ⟨e, rfl, rfl, rfl⟩
  | .error .indentTooWide => exact absurd hr (run_ne_wide hw)

namespace Step

def extractor? : Step → Option Extractor
  | .execute => some Interface.byPattern
  | .executeWith extractor => some extractor
  | _ => none

def isExecution (a : Step) : Bool := a.extractor?.isSome

end Step

def Report.saved? (r : Report) : Option File :=
  match r.result with
  | some (.ok file) => some file
  | _ => none

namespace Session
variable {s : Session} {a : Step}

def after (s : Session) : List Step → Session
  | [] => s
  | a :: steps => after (s.step a).session steps

/-- All that a session takes from one of its executions: the message that tells the result, and the
file of a good one. What the next execution depends on is as before. -/
structure Takes (s : Session) (a : Step) : Prop where
  told : (∃ file, (s.step a).result = some (.ok file) ∧
      (s.step a).session.written = s.written ++ [file] ∧
      (s.step a).session.shown =
        s.shown ++ [⟨false, "Builder class saved to: ".toList ++ file.path⟩]) ∨
    ∃ e : Failure, (s.step a).result = some (.error (.failed e)) ∧
      (s.step a).session.written = s.written ∧
      (s.step a).session.shown = s.shown ++ [⟨true, e.message⟩]
  root : (s.step a).session.root = s.root
  document : (s.step a).session.document = s.document
  config : (s.step a).session.config = s.config
  writeFault : (s.step a).session.writeFault = s.writeFault
  again : ((s.step a).session.step a).result = (s.step a).result

theorem step_eq_conclude (h : a.extractor? = some extractor) :
    ∃ counted, s.step a = s.conclude counted (FluentBuilder.execute s.host s.config extractor) := by
  cases a with
  | execute =>
    cases h
    exact ⟨false, rfl⟩
  | executeWith x =>
    cases h
    exact ⟨true, rfl⟩
  | _ => simp [Step.extractor?] at h

theorem takes (hw : s.config.indent < Style.maxIndent) (h : a.isExecution = true) : s.Takes a := by
  obtain ⟨extractor, hx⟩ := Option.isSome_iff_exists.1 h
  obtain ⟨counted, hs⟩ := s.step_eq_conclude hx
  have hroot : (s.step a).session.root = s.root := by rw [hs]; rfl
  have hdocument : (s.step a).session.document = s.document := by rw [hs]; rfl
  have hconfig : (s.step a).session.config = s.config := by rw [hs]; rfl
  have hfault : (s.step a).session.writeFault = s.writeFault := by rw [hs]; rfl
  have hresult : (s.step a).result = some (FluentBuilder.execute s.host s.config extractor).result := by
    rw [hs]; rfl
  refine ⟨?_, hroot, hdocument, hconfig, hfault, ?_⟩
  · rw [hs]
    simp only [conclude]
    obtain ⟨file, hr, hf, hm⟩ | ⟨e, hr, hf, hm⟩ := execute_tells s.host extractor hw
    · exact .inl ⟨file, by rw [hr], by rw [hf], by rw [hm]; rfl⟩
    · exact .inr ⟨e, by rw [hr], by rw [hf, List.append_nil], by rw [hm]; rfl⟩
  · obtain ⟨_, hs'⟩ := (s.step a).session.step_eq_conclude hx
    have hhost : (s.step a).session.host = s.host := by simp only [host, hroot, hdocument, hfault]
    rw [hs', hhost, hconfig, hresult]
    rfl

theorem step_adds (hw : s.config.indent < Style.maxIndent) (a : Step) :
    (s.step a).session.shown.length = s.shown.length + (if a.isExecution then 1 else 0) ∧
      (s.step a).session.written = s.written ++ (s.step a).saved?.toList := by
  by_cases h : a.isExecution = true
  · obtain ⟨file, hr, hf, hm⟩ | ⟨e, hr, hf, hm⟩ := (takes hw h).told
    · simp [hf, hm, h, Report.saved?, hr]
    · simp [hf, hm, h, Report.saved?, hr]
  · cases a with
    | execute => exact absurd rfl h
    | executeWith => exact absurd rfl h
    | _ => simp [step, quiet, Report.saved?, Step.isExecution, Step.extractor?]

theorem step_config (hw : s.config.indent < Style.maxIndent)
    (ha : ∀ config, a = .configure config → config.indent < Style.maxIndent) :
    (s.step a).session.config.indent < Style.maxIndent := by
  cases a with
  | configure config => exact ha config rfl
  | _ => exact hw

theorem after_adds {steps : List Step} (hw : s.config.indent < Style.maxIndent)
    (h : ∀ config, .configure config ∈ steps → config.indent < Style.maxIndent) :
    (s.after steps).config.indent < Style.maxIndent ∧
      (s.after steps).shown.length = s.shown.length + steps.countP Step.isExecution ∧
      (s.after steps).written = s.written ++ (s.run steps).filterMap Report.saved? := by
  induction steps generalizing s with
  | nil => exact ⟨hw, rfl, by simp [after, run]⟩
  | cons a steps ih =>
    have hconfig := step_config hw fun config ha => h config (ha ▸ List.mem_cons_self)
    obtain ⟨hshown, hwritten⟩ := step_adds hw a
    obtain ⟨hlast, hm, hf⟩ := ih hconfig fun config hc => h config (List.mem_cons_of_mem _ hc)
    refine ⟨hlast, ?_, ?_⟩
    · rw [after, hm, hshown, List.countP_cons]
      omega
    · rw [after, hf, hwritten, run, List.append_assoc]
      cases hs : (s.step a).saved? <;> simp [hs]

/-- Over a whole session there are as many messages as executions, and the files written are those of
the executions that ended well, in their order; and wherever the session stands, each further
execution takes what `Takes` says and no more. -/
theorem session_effects (steps : List Step)
    (h : ∀ config, Step.configure config ∈ steps → config.indent < Style.maxIndent) :
    let s : Session := after {} steps
    s.shown.length = steps.countP Step.isExecution ∧
      s.written = (run {} steps).filterMap Report.saved? ∧
      ∀ a : Step, a.isExecution = true → s.Takes a := by
  have hw : ({} : Session).config.indent < Style.maxIndent := by decide
  obtain ⟨hlast, hm, hf⟩ := after_adds hw h
  refine ⟨?_, ?_, fun a ha => takes hlast ha⟩
  · rw [hm]
    exact Nat.zero_add _
  · rw [hf]
    rfl

def sampleSteps : List Step := [
  .setRoot "work".toList,
  .openDocument ⟨"a.ts".toList, "export interface A \x7b\n  b: c\n\x7d\n".toList⟩,
  .execute,
  .configure { indent := 4 },
  .failWrites (some "disk full".toList),
  .executeWith fun _ => ⟨[], .ok [⟨['x'], ['y']⟩]⟩,
  .failWrites none,
  .append "f()".toList,
  .execute]

theorem session_effects_sample :
    (∀ config, Step.configure config ∈ sampleSteps → config.indent < Style.maxIndent) ∧
      (after {} sampleSteps).shown.length = 3 ∧
      (after {} sampleSteps).written.length = 1 := by
  have h : ∀ config, Step.configure config ∈ sampleSteps → config.indent < Style.maxIndent := by
    intro config hc
    simp only [sampleSteps, List.mem_cons, Step.configure.injEq, reduceCtorEq, false_or,
      List.not_mem_nil, or_false] at hc
    subst hc
    decide
  obtain ⟨hshown, hwritten, _⟩ := session_effects sampleSteps h
  refine ⟨h, hshown, ?_⟩
  rw [hwritten]
  decide +kernel

end Session
end FluentBuilder
