import FluentBuilder.Proofs.Extraction
import Mathlib.Logic.Basic

/-! Which types the type scan takes, place by place: whole runs up to the end of a line or statement,
and no colon that begins one is lost. -/
namespace FluentBuilder.Interface
open Text
variable {t : Text} {colon stop : Nat} {spans others : List (Nat × Nat)}

/-- A colon, a blank, and a character that does not end a type. -/
structure OpensType (t : Text) (colon : Nat) : Prop where
  opened : t[colon]? = some ':'
  blank : ∃ b, t[colon + 1]? = some b ∧ isBlank b = true
  type : ∃ c, t[colon + 2]? = some c ∧ endsType c = false

/-- Behind a colon and a blank, the characters before `stop` are all that come before the end of the
line or the statement. -/
structure IsTypeRun (t : Text) (colon stop : Nat) : Prop where
  opened : t[colon]? = some ':'
  blank : ∃ b, t[colon + 1]? = some b ∧ isBlank b = true
  lt : colon + 2 < stop
  run : ∀ i, colon + 2 ≤ i → i < stop → ∃ c, t[i]? = some c ∧ endsType c = false
  maximal : ∀ c, t[stop]? = some c → endsType c = true

/-- Runs in the order of their places, none over another. A colon that opens a type opens exactly one
of them or is a character of another. -/
structure IsTypeScan (t : Text) (spans : List (Nat × Nat)) : Prop where
  run : ∀ s ∈ spans, IsTypeRun t s.1 s.2
  apart : spans.Pairwise fun r s => r.2 ≤ s.1
  kept : ∀ colon, OpensType t colon →
    Xor (∃! s, s ∈ spans ∧ s.1 = colon) (∃ s ∈ spans, s.1 + 2 ≤ colon ∧ colon < s.2)

namespace IsTypeRun

theorem opens (h : IsTypeRun t colon stop) : OpensType t colon :=
  ⟨h.opened, h.blank, h.run (colon + 2) (Nat.le_refl _) h.lt⟩

theorem stop_le (h : IsTypeRun t colon stop) {other : Nat} (h' : IsTypeRun t colon other) :
    other ≤ stop := by
  by_contra hlt
  obtain ⟨c, hc, hends⟩ := h'.run stop (Nat.le_of_lt h.lt) (Nat.lt_of_not_le hlt)
  rw [h.maximal c hc] at hends
  cases hends

end IsTypeRun

section
variable {a b : Nat × Nat} {xs ys : List (Nat × Nat)}

def Covered (spans : List (Nat × Nat)) (i : Nat) : Prop := ∃ s ∈ spans, s.1 ≤ i ∧ i < s.2

theorem head_le_of_covered (hb : b.1 < b.2) (hys : ∀ s ∈ ys, b.2 ≤ s.1) {i : Nat}
    (h : Covered (b :: ys) i) : b.1 ≤ i := by
  obtain ⟨s, hs, hle, _⟩ := h
  cases List.mem_cons.1 hs with
  | inl he => rwa [← he]
  | inr hs =>
    have := hys s hs
    omega

theorem covered_tail {i : Nat} (hi : b.2 ≤ i) (h : Covered (b :: ys) i) : Covered ys i := by
  obtain ⟨s, hs, hle, hlt⟩ := h
  cases List.mem_cons.1 hs with
  | inl he =>
    rw [he] at hlt
    omega
  | inr hs => exact ⟨s, hs, hle, hlt⟩

/-- Spans in order are known by where they lie, if each is known by where it begins. -/
theorem eq_of_covered (hx : xs.Pairwise fun r s => r.2 ≤ s.1) (hy : ys.Pairwise fun r s => r.2 ≤ s.1)
    (hxlt : ∀ s ∈ xs, s.1 < s.2) (hylt : ∀ s ∈ ys, s.1 < s.2)
    (heq : ∀ r ∈ xs, ∀ s ∈ ys, r.1 = s.1 → r = s)
    (hxy : ∀ s ∈ xs, Covered ys s.1) (hyx : ∀ s ∈ ys, Covered xs s.1) : xs = ys := by
  induction xs generalizing ys with
  | nil =>
    cases ys with
    | nil => rfl
    | cons b ys =>
      obtain ⟨_, hs, _⟩ := hyx b List.mem_cons_self
      cases hs
  | cons a xs ih =>
    cases ys with
    | nil =>
      obtain ⟨_, hs, _⟩ := hxy a List.mem_cons_self
      cases hs
    | cons b ys =>
      rw [List.pairwise_cons] at hx hy
      obtain ⟨hax, hx⟩ := hx
      obtain ⟨hby, hy⟩ := hy
      simp only [List.forall_mem_cons] at hxlt hylt heq hxy hyx
      have hba : b.1 ≤ a.1 := head_le_of_covered hylt.1 hby hxy.1
      have hab : a.1 ≤ b.1 := head_le_of_covered hxlt.1 hax hyx.1
      obtain rfl : a = b := heq.1.1 (Nat.le_antisymm hab hba)
      have hrest := ih hx hy hxlt.2 hylt.2 (fun r hr => (heq.2 r hr).2)
        (fun s hs => covered_tail (hax s hs) (hxy.2 s hs))
        fun s hs => covered_tail (hby s hs) (hyx.2 s hs)
      rw [hrest]

end

namespace IsTypeScan

theorem covered (h : IsTypeScan t spans) (hcolon : OpensType t colon) : Covered spans colon := by
  obtain ⟨⟨s, ⟨hs, rfl⟩, _⟩, _⟩ | ⟨⟨s, hs, hle, hlt⟩, _⟩ := h.kept colon hcolon
  · have := (h.run s hs).lt
    exact ⟨s, hs, Nat.le_refl _, by omega⟩
  · exact ⟨s, hs, by omega, hlt⟩

theorem unique (h : IsTypeScan t spans) (h' : IsTypeScan t others) : spans = others := by
  have hlt {spans : List (Nat × Nat)} (h : IsTypeScan t spans) : ∀ s ∈ spans, s.1 < s.2 := by
    intro s hs
    have := (h.run s hs).lt
    omega
  refine eq_of_covered h.apart h'.apart (hlt h) (hlt h') ?_ (fun s hs => h'.covered (h.run s hs).opens)
    fun s hs => h.covered (h'.run s hs).opens
  intro r hr s hs he
  have hrun := h'.run s hs
  rw [← he] at hrun
  exact Prod.ext he (Nat.le_antisymm (hrun.stop_le (h.run r hr)) ((h.run r hr).stop_le hrun))

end IsTypeScan

def typeSpans (t : Text) : List (Nat × Nat) := (hits typeExpression t).map fun h => (h.start, h.stop)

theorem isTypeRun_of_typeExpression {before after capture : Text} {n : Nat}
    (h : typeExpression after = some (capture, n)) :
    IsTypeRun (before ++ after) before.length (before.length + n) ∧
      (before ++ after).extract (before.length + 2) (before.length + n) = capture := by
  obtain ⟨b, rest, rfl, hb, hne, hcapture, hrest, rfl⟩ := eq_of_typeExpression h
  have hpos := List.length_pos_iff.2 hne
  have hbehind (i : Nat) : (before ++ ':' :: b :: (capture ++ rest))[before.length + (i + 2)]? =
      (capture ++ rest)[i]? := getElem?_behind before _ (i + 2)
  constructor
  · refine ⟨getElem?_behind before _ 0, ⟨b, getElem?_behind before _ 1, hb⟩, by omega, ?_, ?_⟩
    · intro i hle hlt
      obtain ⟨k, rfl⟩ := Nat.exists_eq_add_of_le hle
      have hk : k < capture.length := by omega
      refine ⟨capture[k], ?_, hcapture _ (List.getElem_mem hk)⟩
      rw [Nat.add_assoc, Nat.add_comm 2, hbehind, List.getElem?_append_left hk,
        List.getElem?_eq_getElem hk]
    · intro c hc
      rw [hbehind, List.getElem?_append_right (Nat.le_refl _), Nat.sub_self,
        ← List.head?_eq_getElem?] at hc
      exact hrest c hc
  · have hcount : before.length + (capture.length + 2) - (before.length + 2) = capture.length := by
      omega
    rw [List.extract_eq_take_drop, hcount, List.drop_length_add_append]
    simp

theorem typeExpression_of_opens (h : OpensType t colon) : typeExpression (t.drop colon) ≠ none := by
  obtain ⟨b, hb, hblank⟩ := h.blank
  obtain ⟨c, hc, hends⟩ := h.type
  obtain ⟨hlt, rfl⟩ := List.getElem?_eq_some_iff.1 hc
  rw [drop_eq_pair h.opened hb, List.drop_eq_getElem_cons hlt]
  exact typeExpression_ne_none hblank hends

theorem isTypeRun_of_mem {s : Nat × Nat} (hs : s ∈ typeSpans t) : IsTypeRun t s.1 s.2 := by
  obtain ⟨h, hm, rfl⟩ := List.mem_map.1 hs
  obtain ⟨before, after, rfl, hstart, happly⟩ := typeExpression_advancing.applies_of_mem hm
  rw [Hit.stop, ← hstart]
  exact (isTypeRun_of_typeExpression happly).1

theorem covered_typeSpans (h : OpensType t colon) : Covered (typeSpans t) colon := by
  obtain ⟨g, hg, hplace⟩ := typeExpression_advancing.covered_drop (typeExpression_of_opens h)
  exact ⟨(g.start, g.stop), List.mem_map_of_mem hg, hplace⟩

theorem eq_of_mem_typeSpans {r s : Nat × Nat} (hr : r ∈ typeSpans t) (hs : s ∈ typeSpans t) {i : Nat}
    (hri : r.1 ≤ i ∧ i < r.2) (hsi : s.1 ≤ i ∧ i < s.2) : r = s := by
  obtain ⟨g, hg, rfl⟩ := List.mem_map.1 hr
  obtain ⟨h, hh, rfl⟩ := List.mem_map.1 hs
  obtain rfl | hle | hle := typeExpression_advancing.apart hg hh
  · rfl
  · omega
  · omega

theorem isTypeScan_typeSpans (t : Text) : IsTypeScan t (typeSpans t) := by
  have hapart : (typeSpans t).Pairwise fun r s => r.2 ≤ s.1 := by
    rw [typeSpans, List.pairwise_map]
    exact typeExpression_advancing.pairwise t
  refine ⟨fun s => isTypeRun_of_mem, hapart, fun colon hcolon => ?_⟩
  obtain ⟨s, hs, hle, hlt⟩ := covered_typeSpans hcolon
  by_cases he : s.1 = colon
  · refine .inl ⟨⟨s, ⟨hs, he⟩, ?_⟩, ?_⟩
    · intro r hr
      have := (isTypeRun_of_mem hr.1).lt
      exact eq_of_mem_typeSpans hr.1 hs (i := colon) (by omega) ⟨hle, hlt⟩
    · intro hother
      obtain ⟨r, hr, hrle, hrlt⟩ := hother
      have hrs := eq_of_mem_typeSpans hr hs (i := colon) (by omega) ⟨hle, hlt⟩
      rw [hrs] at hrle
      omega
  · -- between the opening colon and the run there is only the blank
    have hne : s.1 + 1 ≠ colon := by
      rintro rfl
      obtain ⟨b, hb, hblank⟩ := (isTypeRun_of_mem hs).blank
      cases hb.symm.trans hcolon.opened
      exact absurd hblank (by decide)
    refine .inr ⟨⟨s, hs, by omega, hlt⟩, ?_⟩
    intro hopening
    obtain ⟨r, ⟨hr, hrcolon⟩, _⟩ := hopening
    have := (isTypeRun_of_mem hr).lt
    have hrs := eq_of_mem_typeSpans hr hs (i := colon) (by omega) ⟨hle, hlt⟩
    exact he (hrs ▸ hrcolon)

theorem isTypeScan_iff : IsTypeScan t spans ↔ spans = typeSpans t := by
  constructor
  · exact fun h => h.unique (isTypeScan_typeSpans t)
  · rintro rfl
    exact isTypeScan_typeSpans t

theorem map_extract_typeSpans (t : Text) :
    (typeSpans t).map (fun s => t.extract (s.1 + 2) s.2) = typeExpressions t := by
  rw [typeSpans, List.map_map, typeExpressions, captures]
  apply List.map_congr_left
  intro h hm
  obtain ⟨before, after, rfl, hstart, happly⟩ := typeExpression_advancing.applies_of_mem hm
  rw [Function.comp, Hit.stop, ← hstart]
  exact (isTypeRun_of_typeExpression happly).2

theorem typeExpressions_eq_nil_iff_not_opens :
    typeExpressions t = [] ↔ ¬ ∃ colon, OpensType t colon := by
  rw [← map_extract_typeSpans, List.map_eq_nil_iff]
  constructor
  · intro h hopen
    obtain ⟨colon, hcolon⟩ := hopen
    obtain ⟨s, hs, _⟩ := covered_typeSpans hcolon
    rw [h] at hs
    cases hs
  · intro h
    rw [List.eq_nil_iff_forall_not_mem]
    intro s hs
    exact h ⟨s.1, (isTypeRun_of_mem hs).opens⟩

/-- The type scan takes whole runs and loses no colon that opens a type, which leaves one way to take
them. It fails exactly if there is no such colon. -/
theorem extractTypeExpressions_lossless (t : Text) :
    (extractTypeExpressions t = .error .noDataTypes ↔ ¬ ∃ colon, OpensType t colon) ∧
    ∃ spans, (∀ others, IsTypeScan t others ↔ others = spans) ∧
      ∀ types, extractTypeExpressions t = .ok types ↔
        (∃ colon, OpensType t colon) ∧ types = spans.map fun s => t.extract (s.1 + 2) s.2 := by
  refine ⟨?failure, typeSpans t, fun _ => isTypeScan_iff, fun types => ?types⟩
  case failure =>
    rw [extractTypeExpressions_eq_error_iff, typeExpressions_eq_nil_iff_not_opens]
  case types =>
    rw [extractTypeExpressions_eq_ok_iff, map_extract_typeSpans, ne_eq,
      typeExpressions_eq_nil_iff_not_opens, not_not]

/-- The blank may end a line, and then the type is on the next one, colons and all. -/
example : typeExpressions "a: ;\nb:\nc: d;\ne: f".toList = ["c: d".toList, "f".toList] := by decide

end FluentBuilder.Interface
