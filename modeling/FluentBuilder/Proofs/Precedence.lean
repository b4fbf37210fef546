import FluentBuilder.Proofs.Course
import FluentBuilder.Proofs.Declaration
import FluentBuilder.Proofs.Extraction

/-! Which of the obstacles on its way ends a run: the first one that is met. -/
namespace FluentBuilder
open Interface

/-- What ends a run early: the stops it can lead to, none where it is not met. -/
abbrev Obstacle := Stop → Prop

namespace Obstacle

def of (condition : Prop) (stop : Stop) : Obstacle := fun s => condition ∧ s = stop

@[simp] theorem of_iff {c : Prop} {stop s : Stop} : of c stop s ↔ c ∧ s = stop := Iff.rfl

/-- The stop of the first obstacle that is met. -/
def FirstMet : List Obstacle → Stop → Prop
  | [], _ => False
  | o :: os, s => o s ∨ (∀ r, ¬ o r) ∧ FirstMet os s

def NoneMet (os : List Obstacle) : Prop := ∀ o ∈ os, ∀ s, ¬ o s

@[simp] theorem firstMet_nil {s : Stop} : ¬ FirstMet [] s := id

@[simp] theorem firstMet_cons {o : Obstacle} {os : List Obstacle} {s : Stop} :
    FirstMet (o :: os) s ↔ o s ∨ (∀ r, ¬ o r) ∧ FirstMet os s := Iff.rfl

@[simp] theorem noneMet_nil : NoneMet [] := by simp [NoneMet]

@[simp] theorem noneMet_cons {o : Obstacle} {os : List Obstacle} :
    NoneMet (o :: os) ↔ (∀ s, ¬ o s) ∧ NoneMet os := by simp [NoneMet]

theorem firstMet_append {os os' : List Obstacle} (h : NoneMet os) {s : Stop} :
    FirstMet (os ++ os') s ↔ FirstMet os' s := by
  induction os with
  | nil => rfl
  | cons o os ih =>
    obtain ⟨ho, hos⟩ := noneMet_cons.1 h
    simp [ho, ih hos]

theorem not_firstMet {os : List Obstacle} (h : NoneMet os) {s : Stop} : ¬ FirstMet os s := by
  rw [← List.append_nil os, firstMet_append h]
  exact firstMet_nil

theorem noneMet_append {os os' : List Obstacle} : NoneMet (os ++ os') ↔ NoneMet os ∧ NoneMet os' := by
  simp [NoneMet, or_imp, forall_and]

end Obstacle

section
open Obstacle
variable (host : Host) (config : Config) (extractor : Extractor)

def Host.Holds (P : Text → Prop) : Prop := ∃ d, host.document = some d ∧ P d.text

/-- The obstacles that are looked for before the fields are, in their order. -/
def checks : List Obstacle := [
  .of (host.root = []) (.failed .noWorkspace),
  .of (host.document = none) (.failed .noEditor),
  .of (host.Holds (· = [])) (.failed .noText),
  .of (host.Holds HasCall) (.failed .unsupportedMember),
  .of (host.Holds (¬ marker <:+: ·)) (.failed .notADeclaration),
  .of (Style.maxIndent ≤ config.indent) .indentTooWide,
  .of (host.Holds (¬ Declares ·)) (.failed .noDeclaration)]

def unreadable : Obstacle := fun s =>
  ∃ d e, host.document = some d ∧ (extractor d.text).result = .error e ∧ s = .failed e

def unwritable : Obstacle := fun s =>
  ∃ d file detail, host.document = some d ∧ (generate d config extractor).result = .ok file ∧
    host.refusal file = some detail ∧ s = .failed (.writeFailed detail)

def obstacles : List Obstacle :=
  checks host config ++ [unreadable host extractor] ++ [unwritable host config extractor]

variable {host config extractor} {d : Document}

theorem holds_iff {P : Text → Prop} (hd : host.document = some d) : host.Holds P ↔ P d.text := by
  simp [Host.Holds, hd]

theorem admitted_iff {t : Text} : Admitted t ↔ t ≠ [] ∧ ¬ HasCall t ∧ marker <:+: t := by
  rw [← hasCallable_iff_hasCall, ← hasMarker_iff, Bool.not_eq_true]
  exact ⟨fun h => ⟨h.ne_nil, h.no_call, h.marked⟩, fun h => ⟨h.1, h.2.1, h.2.2⟩⟩

theorem unreadable_iff {s : Stop} (hd : host.document = some d) :
    unreadable host extractor s ↔ ∃ e, (extractor d.text).result = .error e ∧ s = .failed e := by
  simp [unreadable, hd]

theorem unwritable_iff {s : Stop} {declaration : Declaration} (hd : host.document = some d)
    (ha : (analyze d.text config extractor).result = .ok declaration) :
    unwritable host config extractor s ↔
      ∃ detail, host.refusal (declaration.file d.path) = some detail ∧
        s = .failed (.writeFailed detail) := by
  simp [unwritable, hd, generate_of_ok ha]

theorem not_hasCall {t : Text} (h : hasCallable t = false) : ¬ HasCall t := by
  rw [← hasCallable_iff_hasCall, h]
  exact Bool.false_ne_true

theorem not_marker {t : Text} (h : hasMarker t = false) : ¬ marker <:+: t := by
  rw [← hasMarker_iff, h]
  exact Bool.false_ne_true

theorem noneMet_checks {name : Text} (hr : host.root ≠ []) (hd : host.document = some d)
    (ht : Admitted d.text) (hw : config.indent < Style.maxIndent)
    (hn : name? d.text = some name) : NoneMet (checks host config) := by
  obtain ⟨hne, hcall, hmark⟩ := admitted_iff.1 ht
  have hdecl : Declares d.text := name?_ne_none_iff.1 (by simp [hn])
  simp [checks, hr, hd, holds_iff hd, hne, hcall, hmark, hw, hdecl]

theorem noneMet_of_ok {declaration : Declaration} (hr : host.root ≠ [])
    (hd : host.document = some d)
    (ha : (analyze d.text config extractor).result = .ok declaration) :
    NoneMet (checks host config ++ [unreadable host extractor]) := by
  have hend := analyzed d.text config extractor
  generalize analyze d.text config extractor = y at ha hend
  cases hend with
  | declared ht hw hn hx =>
    exact noneMet_append.2 ⟨noneMet_checks hr hd ht hw hn, by simp [unreadable_iff hd, hx]⟩
  | _ => cases ha

theorem firstMet_of_error {s : Stop} (h : (run host config extractor).result = .error s) (r : Stop) :
    FirstMet (obstacles host config extractor) r ↔ r = s := by
  have hrun := ran config extractor host
  generalize run host config extractor = x at h hrun
  cases hrun with
  | noWorkspace hr =>
    cases h
    simp [obstacles, checks, hr]
  | noEditor hr hd =>
    cases h
    simp [obstacles, checks, hr, hd]
  | @stopped d s hr hd ha =>
    have hend := analyzed d.text config extractor
    cases h
    generalize analyze d.text config extractor = y at ha hend
    cases hend with
    | noText ht =>
      cases ha
      simp [obstacles, checks, hr, hd, holds_iff hd, ht]
    | callable ht hc =>
      cases ha
      have hcall := hasCallable_iff_hasCall.1 hc
      simp [obstacles, checks, hr, hd, holds_iff hd, ht, hcall]
    | unmarked ht hc hm =>
      cases ha
      simp [obstacles, checks, hr, hd, holds_iff hd, ht, not_hasCall hc, not_marker hm]
    | wide ht hw =>
      cases ha
      obtain ⟨hne, hcall, hmark⟩ := admitted_iff.1 ht
      simp [obstacles, checks, hr, hd, holds_iff hd, hne, hcall, hmark, hw]
    | unnamed ht hw hn =>
      cases ha
      obtain ⟨hne, hcall, hmark⟩ := admitted_iff.1 ht
      have hdecl := name?_eq_none_iff.1 hn
      simp [obstacles, checks, hr, hd, holds_iff hd, hne, hcall, hmark, Nat.not_le.2 hw, hdecl]
    | refused ht hw hn hx =>
      cases ha
      rw [obstacles, List.append_assoc, firstMet_append (noneMet_checks hr hd ht hw hn)]
      simp [unreadable_iff hd, hx]
    | declared => cases ha
  | @refused d declaration detail hr hd ha hw =>
    cases h
    have hclear := noneMet_of_ok hr hd ha
    rw [obstacles, firstMet_append hclear]
    simp [unwritable_iff hd ha, hw]
  | saved => cases h

theorem noneMet_of_saved {file : File} (h : (run host config extractor).result = .ok file) :
    NoneMet (obstacles host config extractor) := by
  have hrun := ran config extractor host
  generalize run host config extractor = x at h hrun
  cases hrun with
  | saved hr hd ha hw =>
    exact noneMet_append.2 ⟨noneMet_of_ok hr hd ha, by simp [unwritable_iff hd ha, hw]⟩
  | _ => cases h

theorem result_eq_error_iff {s : Stop} :
    (execute host config extractor).result = .error s ↔
      FirstMet (obstacles host config extractor) s := by
  have hx : (execute host config extractor).result = (run host config extractor).result := rfl
  rw [hx]
  cases hr : (run host config extractor).result with
  | error r => simp [firstMet_of_error hr, eq_comm]
  | ok file => simp [not_firstMet (noneMet_of_saved hr)]

theorem result_eq_ok_iff :
    (∃ file, (execute host config extractor).result = .ok file) ↔
      NoneMet (obstacles host config extractor) := by
  have hx : (execute host config extractor).result = (run host config extractor).result := rfl
  rw [hx]
  cases hr : (run host config extractor).result with
  | error r =>
    have hmet := (firstMet_of_error hr r).2 rfl
    simp only [reduceCtorEq, exists_false, false_iff]
    exact fun h => not_firstMet h hmet
  | ok file => simp [noneMet_of_saved hr]

theorem count_asked (t : Text) (extractor : Extractor) : (asked t extractor).count .consulted = 1 := by
  simp [asked, List.count_eq_zero]

theorem count_analyze (hr : host.root ≠ []) (hd : host.document = some d) :
    (analyze d.text config extractor).events.count .consulted = 1 ∧ NoneMet (checks host config) ∨
      (analyze d.text config extractor).events.count .consulted = 0 ∧
        ¬ NoneMet (checks host config) := by
  have hend := analyzed d.text config extractor
  generalize analyze d.text config extractor = y at hend
  cases hend with
  | noText ht => simp [checks, holds_iff hd, ht]
  | callable ht hc =>
    have hcall := hasCallable_iff_hasCall.1 hc
    simp [checks, holds_iff hd, hcall]
  | unmarked ht hc hm => simp [checks, holds_iff hd, not_marker hm]
  | wide ht hw => simp [checks, Nat.not_lt.2 hw]
  | unnamed ht hw hn =>
    have hdecl := name?_eq_none_iff.1 hn
    simp [checks, styled, holds_iff hd, hdecl]
  | refused ht hw hn hx => exact .inl ⟨by simp [styled, count_asked], noneMet_checks hr hd ht hw hn⟩
  | declared ht hw hn hx => exact .inl ⟨by simp [styled, count_asked], noneMet_checks hr hd ht hw hn⟩

theorem count_closing (r : Except Stop File) : (closing r).count .consulted = 0 := by
  match r with
  | .ok _ => rfl
  | .error (.failed _) => rfl
  | .error .indentTooWide => rfl

theorem count_execute (host : Host) (config : Config) (extractor : Extractor) :
    (execute host config extractor).events.count .consulted = 1 ∧ NoneMet (checks host config) ∨
      (execute host config extractor).events.count .consulted = 0 ∧
        ¬ NoneMet (checks host config) := by
  have hrun := ran config extractor host
  simp only [execute, List.count_append, count_closing, Nat.add_zero]
  generalize run host config extractor = x at hrun
  cases hrun with
  | noWorkspace hr => simp [checks, hr]
  | noEditor hr hd => simp [checks, hd]
  | stopped hr hd ha => exact count_analyze hr hd
  | refused hr hd ha hw => simpa using count_analyze hr hd
  | saved hr hd ha hw => simpa using count_analyze hr hd

end

/-- A run ends at the first obstacle it meets and well if it meets none; it asks the extractor once,
unless a check before that fails; and the extractor by pattern has three failures of its own. -/
theorem execution_precedence (host : Host) (config : Config) (extractor : Extractor) :
    (∀ s, (execute host config extractor).result = .error s ↔
      Obstacle.FirstMet (obstacles host config extractor) s) ∧
    ((∃ file, (execute host config extractor).result = .ok file) ↔
      Obstacle.NoneMet (obstacles host config extractor)) ∧
    ((execute host config extractor).events.count .consulted = 1 ↔
      Obstacle.NoneMet (checks host config)) ∧
    ((execute host config extractor).events.count .consulted = 0 ↔
      ¬ Obstacle.NoneMet (checks host config)) ∧
    ∀ t r, (byPattern t).result = r ↔ Extracted t r := by
  refine ⟨fun s => result_eq_error_iff, result_eq_ok_iff, ?_, ?_, fun t r => extracted_iff⟩
  · obtain ⟨hc, h⟩ | ⟨hc, h⟩ := count_execute host config extractor
    · simp [hc, h]
    · simp [hc, h]
  · obtain ⟨hc, h⟩ | ⟨hc, h⟩ := count_execute host config extractor
    · simp [hc, h]
    · simp [hc, h]

end FluentBuilder
