import FluentBuilder.Proofs.Effects
import FluentBuilder.Proofs.Layout
import FluentBuilder.Proofs.Member

/-! A builder is no interface: it has calls of its own, and a run on the file of an earlier run is
refused for them. -/
namespace FluentBuilder
open Traced Interface Text
variable {host : Host} {config : Config} {extractor : Extractor} {file : File}

/-- Every class has its `build()`, with or without fields. -/
theorem hasCallable_assemble (base declared : Text) (fields : List Field) (s : Style) :
    hasCallable (assemble base declared fields s) = true := by
  have hline : s.indent ++ "public build(): ".toList ++ declared ++ " \x7b".toList ∈
      writtenLines base declared fields s := by
    unfold writtenLines
    simp only [List.mem_append, List.mem_cons, true_or, or_true]
  have hbuild : HasCall "public build(): ".toList :=
    ⟨'d', by decide, .inl ⟨"public buil".toList, "): ".toList, rfl⟩⟩
  have hwithin : "public build(): ".toList <:+:
      s.indent ++ "public build(): ".toList ++ declared ++ " \x7b".toList :=
    ⟨s.indent, declared ++ " \x7b".toList, by simp only [List.append_assoc]⟩
  rw [hasCallable_iff_hasCall, assemble_eq_unlines_written]
  exact hbuild.of_infix (hwithin.trans (infix_unlines hline))

theorem content_of_run (h : (run host config extractor).result = .ok file) :
    ∃ base declared fields s, file.content = assemble base declared fields s := by
  have hrun := ran config extractor host
  generalize run host config extractor = r at h hrun
  cases hrun with
  | @saved _ d _ _ _ _ =>
    cases h
    exact ⟨d.baseName, d.name, d.fields, d.style, rfl⟩
  | _ => cases h

theorem hasCallable_of_run (h : (run host config extractor).result = .ok file) :
    hasCallable file.content = true := by
  obtain ⟨base, declared, fields, s, hcontent⟩ := content_of_run h
  rw [hcontent]
  exact hasCallable_assemble base declared fields s

theorem execute_of_callable {d : Document} (hr : host.root ≠ []) (hd : host.document = some d)
    (hc : hasCallable d.text = true) (config : Config) (extractor : Extractor) :
    execute host config extractor =
      ⟨[.logged (.stopped .unsupportedMember), .shown Failure.unsupportedMember.notice],
        .error (.failed .unsupportedMember)⟩ := by
  have hne : d.text ≠ [] := by
    intro he
    rw [he] at hc
    cases hc
  have ha : analyze d.text config extractor = fail .unsupportedMember :=
    eq_of_analyzed (.callable hne hc)
  have hrun : run host config extractor = fail .unsupportedMember := by
    rw [run_of_document config extractor hr hd, generate, ha]
    rfl
  rw [execute, hrun]
  rfl

namespace Session
variable {s : Session}

theorem callable_step (h : ∀ f ∈ s.written, hasCallable f.content = true) (a : Step) :
    ∀ f ∈ (s.step a).session.written, hasCallable f.content = true := by
  cases hx : a.extractor? with
  | none =>
    have hwritten : (s.step a).session.written = s.written := by
      cases a with
      | execute => cases hx
      | executeWith => cases hx
      | _ => rfl
    rwa [hwritten]
  | some extractor =>
    obtain ⟨counted, hs⟩ := s.step_eq_conclude hx
    rw [hs]
    simp only [conclude, files_execute]
    intro f hf
    cases List.mem_append.1 hf with
    | inl hf => exact h f hf
    | inr hf =>
      cases hr : (FluentBuilder.run s.host s.config extractor).result with
      | error e =>
        rw [hr] at hf
        cases hf
      | ok file =>
        rw [hr] at hf
        rw [List.mem_singleton.1 hf]
        exact hasCallable_of_run hr

theorem callable_after (steps : List Step) (h : ∀ f ∈ s.written, hasCallable f.content = true) :
    ∀ f ∈ (s.after steps).written, hasCallable f.content = true := by
  induction steps generalizing s with
  | nil => exact h
  | cons a steps ih => exact ih (callable_step h a)

/-- The session with the file written last open again, under a configuration of its own. -/
def reopened (s : Session) (config : Config) : Session :=
  s.after [.openLastWrite, .configure config]

theorem step_reopened (hroot : s.root ≠ []) (hwritten : s.written ≠ [])
    (h : ∀ f ∈ s.written, hasCallable f.content = true) (config : Config) {a : Step}
    (ha : a.isExecution = true) :
    let r := (s.reopened config).step a
    r.result = some (.error (.failed .unsupportedMember)) ∧ .consulted ∉ r.events ∧
      r.session.written = s.written := by
  obtain ⟨extractor, hx⟩ := Option.isSome_iff_exists.1 ha
  obtain ⟨counted, hs⟩ := (s.reopened config).step_eq_conclude hx
  have hlast : s.written.getLast? = some (s.written.getLast hwritten) :=
    List.getLast?_eq_some_getLast hwritten
  have hdocument : (s.reopened config).host.document =
      some (s.written.getLast hwritten).toDocument := by
    change s.written.getLast?.map File.toDocument = _
    rw [hlast]
    rfl
  have hcall : hasCallable (s.written.getLast hwritten).toDocument.text = true :=
    h _ (List.getLast_mem hwritten)
  have hrun := execute_of_callable hroot hdocument hcall (s.reopened config).config extractor
  simp only [hs, hrun]
  exact ⟨rfl, by simp [conclude], List.append_nil _⟩

end Session

/-- A builder has a call, whatever it is made of, so that a run on the file of an earlier run is
refused before the extractor is asked, and nothing is written. In a session this holds of the file
written last, wherever the session stands. -/
theorem builder_refused :
    (∀ base declared fields s, hasCallable (assemble base declared fields s) = true) ∧
    (∀ host config extractor file, (execute host config extractor).result = .ok file →
      ∀ (later : Host) (config' : Config) (extractor' : Extractor), later.root ≠ [] →
        later.document = some file.toDocument →
        let again := execute later config' extractor'
        again.result = .error (.failed .unsupportedMember) ∧ .consulted ∉ again.events ∧
          again.events.filterMap Event.file? = []) ∧
    ∀ (steps : List Step) (config' : Config) (a : Step), a.isExecution = true →
      let s := Session.after {} steps
      s.root ≠ [] → s.written ≠ [] →
        let again := (s.reopened config').step a
        again.result = some (.error (.failed .unsupportedMember)) ∧ .consulted ∉ again.events ∧
          again.session.written = s.written := by
  refine ⟨hasCallable_assemble, ?_, ?_⟩
  · intro host config extractor file h later config' extractor' hroot hdocument
    have hcall : hasCallable file.content = true := hasCallable_of_run h
    intro again
    have hagain : again = _ := execute_of_callable hroot hdocument hcall config' extractor'
    rw [hagain]
    exact ⟨rfl, by simp, rfl⟩
  · intro steps config' a ha s hroot hwritten
    have hcall : ∀ f ∈ s.written, hasCallable f.content = true :=
      Session.callable_after steps (by simp)
    exact Session.step_reopened hroot hwritten hcall config' ha

theorem builder_refused_sample :
    let s := Session.after {} Session.sampleSteps
    s.root ≠ [] ∧ s.written ≠ [] ∧
      ((s.reopened {}).step .execute).result = some (.error (.failed .unsupportedMember)) := by
  intro s
  have hroot : s.root ≠ [] := by decide +kernel
  have hwritten : s.written ≠ [] := by decide +kernel
  exact ⟨hroot, hwritten,
    (builder_refused.2.2 Session.sampleSteps {} .execute rfl hroot hwritten).1⟩

end FluentBuilder
