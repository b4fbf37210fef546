import FluentBuilder.Interface
import FluentBuilder.Proofs.Declaration

/-! Which declaration gives the name: the first whose marker is not glued to a word and has a name
behind it. -/
namespace FluentBuilder.Interface
open Text
variable {t before rest name : Text} {i : Nat}

/-- In this place stands the marker, at the start or behind a character of no word, with blanks and
the first character of a name after it. -/
structure DeclaresAt (t : Text) (i : Nat) : Prop where
  free : i = 0 ∨ ∃ c, t[i - 1]? = some c ∧ isUnicodeWord c = false
  named : ∃ gap c rest, t.drop i = marker ++ (gap ++ c :: rest) ∧ gap ≠ [] ∧
    (∀ b ∈ gap, isBlank b = true) ∧ isWord c = true

/-- Behind the marker in this place come blanks, and then the name, which ends where its word does.
As a name has no blank, the blanks are all that come before it. -/
def IsNameAt (t : Text) (i : Nat) (name : Text) : Prop :=
  ∃ gap rest, t.drop i = marker ++ (gap ++ (name ++ rest)) ∧ gap ≠ [] ∧
    (∀ b ∈ gap, isBlank b = true) ∧ name ≠ [] ∧ (∀ c ∈ name, isWord c = true) ∧
    ∀ c, rest.head? = some c → isWord c = false

theorem isNameAt_iff : IsNameAt t i name ↔ nameAt? (t.drop i) = some name :=
  nameAt?_eq_some_iff.symm

theorem declaresAt_iff : DeclaresAt (before ++ rest) before.length ↔
    before.getLast?.any isUnicodeWord = false ∧ nameAt? rest ≠ none := by
  have hfree : (before.length = 0 ∨ ∃ c, (before ++ rest)[before.length - 1]? = some c ∧
      isUnicodeWord c = false) ↔ before.getLast?.any isUnicodeWord = false := by
    obtain rfl | ⟨init, c, rfl⟩ := List.eq_nil_or_concat before
    · simp
    · simp
  rw [nameAt?_ne_none_iff, ← hfree]
  constructor
  · intro h
    have hnamed := h.named
    rw [List.drop_left] at hnamed
    exact ⟨h.free, hnamed⟩
  · intro h
    refine ⟨h.1, ?_⟩
    rw [List.drop_left]
    exact h.2

theorem first_of_nameFrom? (before : Text) (h : nameFrom? before.getLast? rest = some name) :
    ∃ i, DeclaresAt (before ++ rest) i ∧ IsNameAt (before ++ rest) i name ∧
      ∀ j, before.length ≤ j → j < i → ¬ DeclaresAt (before ++ rest) j := by
  induction rest generalizing before with
  | nil => cases h
  | cons c rest ih =>
    by_cases hat : DeclaresAt (before ++ c :: rest) before.length
    · refine ⟨before.length, hat, ?_, fun j hle hlt => absurd hlt (Nat.not_lt_of_le hle)⟩
      obtain ⟨hfree, hnamed⟩ := declaresAt_iff.1 hat
      obtain ⟨found, hfound⟩ := Option.ne_none_iff_exists'.1 hnamed
      rw [isNameAt_iff, List.drop_left, ← h]
      simp [nameFrom?, hfree, hfound]
    · have hskip : (if before.getLast?.any isUnicodeWord then none else nameAt? (c :: rest)) = none := by
        rw [declaresAt_iff, not_and, not_not] at hat
        by_cases hfree : before.getLast?.any isUnicodeWord = false
        · simp [hfree, hat hfree]
        · rw [if_pos (by simpa using hfree)]
      have hrest : nameFrom? (before ++ [c]).getLast? rest = some name := by
        rw [nameFrom?, hskip] at h
        simpa using h
      obtain ⟨i, hdeclares, hname, hfirst⟩ := ih _ hrest
      rw [List.append_assoc, List.singleton_append] at hdeclares hname hfirst
      refine ⟨i, hdeclares, hname, fun j hle hlt => ?_⟩
      obtain rfl | hlt' := Nat.eq_or_lt_of_le hle
      · exact hat
      · exact hfirst j (by rwa [List.length_append, List.length_singleton]) hlt

theorem first_of_name? (h : name? t = some name) :
    ∃ i, DeclaresAt t i ∧ IsNameAt t i name ∧ ∀ j < i, ¬ DeclaresAt t j := by
  obtain ⟨i, hdeclares, hname, hfirst⟩ := first_of_nameFrom? [] h
  exact ⟨i, hdeclares, hname, fun j => hfirst j (Nat.zero_le j)⟩

theorem name?_ne_none_of_declaresAt (h : DeclaresAt t i) : name? t ≠ none := by
  obtain ⟨_, _, _, hdrop, _⟩ := h.named
  have hlt : i < t.length := by
    by_contra hle
    rw [List.drop_of_length_le (Nat.le_of_not_lt hle)] at hdrop
    cases hdrop
  have hlen : (t.take i).length = i := List.length_take_of_le (Nat.le_of_lt hlt)
  have hsplit : DeclaresAt (t.take i ++ t.drop i) (t.take i).length := by
    rwa [List.take_append_drop, hlen]
  obtain ⟨hfree, hnamed⟩ := declaresAt_iff.1 hsplit
  exact nameFrom?_ne_none_iff.2
    ⟨t.take i, t.drop i, (List.take_append_drop i t).symm, by simpa using hfree, hnamed⟩

theorem name?_eq_some_iff : name? t = some name ↔
    ∃ i, DeclaresAt t i ∧ IsNameAt t i name ∧ ∀ j < i, ¬ DeclaresAt t j := by
  refine ⟨first_of_name?, fun h => ?_⟩
  obtain ⟨i, hdeclares, hname, hfirst⟩ := h
  obtain ⟨found, hfound⟩ := Option.ne_none_iff_exists'.1 (name?_ne_none_of_declaresAt hdeclares)
  obtain ⟨k, hdeclares', hname', hfirst'⟩ := first_of_name? hfound
  obtain rfl : i = k := by
    obtain hlt | he | hlt := Nat.lt_trichotomy i k
    · exact absurd hdeclares (hfirst' i hlt)
    · exact he
    · exact absurd hdeclares' (hfirst k hlt)
  rw [hfound, ← isNameAt_iff.1 hname, ← isNameAt_iff.1 hname']

theorem extractName_eq_ok_iff : extractName t = .ok name ↔ name? t = some name := by
  unfold extractName
  split
  case h_1 h => rw [h, Except.ok.injEq, Option.some.injEq]
  case h_2 h => simp [h]

theorem extractName_eq_error_iff : extractName t = .error .noDeclaration ↔ name? t = none := by
  unfold extractName
  split
  case h_1 h => simp [h]
  case h_2 h => simp [h]

theorem requireMarker_of_declaresAt (h : DeclaresAt t i) : requireMarker t = .ok () := by
  obtain ⟨gap, c, rest, hdrop, _⟩ := h.named
  have hmarker : hasMarker t = true := by
    rw [hasMarker_iff]
    have hprefix : marker <+: t.drop i := ⟨gap ++ c :: rest, hdrop.symm⟩
    exact hprefix.isInfix.trans (List.drop_suffix i t).isInfix
  rw [requireMarker, if_pos hmarker]

/-- The name is the whole word behind the marker of the first declaration. There is none exactly if
nothing is declared, and where there is one the text has passed for an interface before. -/
theorem extractName_first (t : Text) :
    (∀ name, extractName t = .ok name ↔
      ∃ i, DeclaresAt t i ∧ IsNameAt t i name ∧ ∀ j < i, ¬ DeclaresAt t j) ∧
    ((∃ name, extractName t = .ok name) ↔ ∃ i, DeclaresAt t i) ∧
    (extractName t = .error .noDeclaration ↔ ¬ ∃ i, DeclaresAt t i) ∧
    ((∃ name, extractName t = .ok name) → requireMarker t = .ok ()) := by
  have hsome : (∃ i, DeclaresAt t i) ↔ ∃ name, name? t = some name := by
    rw [← Option.ne_none_iff_exists']
    constructor
    · rintro ⟨i, hi⟩
      exact name?_ne_none_of_declaresAt hi
    · intro hne
      obtain ⟨name, hname⟩ := Option.ne_none_iff_exists'.1 hne
      obtain ⟨i, hi, _⟩ := first_of_name? hname
      exact ⟨i, hi⟩
  simp only [extractName_eq_ok_iff, extractName_eq_error_iff]
  refine ⟨fun name => name?_eq_some_iff, hsome.symm, ?none, ?marked⟩
  case none => rw [hsome, ← Option.ne_none_iff_exists', ne_eq, not_not]
  case marked =>
    intro hname
    obtain ⟨i, hi⟩ := hsome.2 hname
    exact requireMarker_of_declaresAt hi

/-- Glued to a word, without a name, and then in order. -/
example : extractName "reexport interface A export interface \x7b export interface\n\tB2-C".toList =
    .ok "B2".toList := by decide +kernel

end FluentBuilder.Interface
