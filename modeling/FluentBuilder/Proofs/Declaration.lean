import FluentBuilder.Interface
import Mathlib.Data.List.TakeWhile

/-! Where a text declares an interface, and which name it declares there. -/
namespace FluentBuilder.Interface
open Text
variable {t before rest name : Text} {previous : Option Char}

theorem hasMarker_iff : hasMarker t = true ↔ marker <:+: t := occurs_iff

theorem prefix_append_cons_iff {p x y : Text} {s : Char} (hs : s ∉ p) :
    p <+: x ++ s :: y ↔ p <+: x := by
  induction x generalizing p with
  | nil =>
    cases p with
    | nil => simp
    | cons a p =>
      have ha : a ≠ s := fun he => hs (by simp [he])
      simp [ha]
  | cons c x ih =>
    cases p with
    | nil => simp
    | cons a p => simp [ih fun hp => hs (List.mem_cons_of_mem a hp)]

theorem infix_append_cons_iff {p x y : Text} {s : Char} (hs : s ∉ p) (hp : p ≠ []) :
    p <:+: x ++ s :: y ↔ p <:+: x ∨ p <:+: y := by
  induction x with
  | nil =>
    have hstart := prefix_append_cons_iff (x := []) (y := y) hs
    simp only [List.nil_append] at hstart
    simp [List.infix_cons_iff, hstart, hp]
  | cons c x ih =>
    have hstart := prefix_append_cons_iff (x := c :: x) (y := y) hs
    rw [List.cons_append] at hstart ⊢
    rw [List.infix_cons_iff, List.infix_cons_iff, hstart, ih, or_assoc]

theorem hasMarker_append_cons {s : Char} (hs : s ∉ marker) (x y : Text) :
    hasMarker (x ++ s :: y) = (hasMarker x || hasMarker y) := by
  rw [Bool.eq_iff_iff, Bool.or_eq_true]
  simp only [hasMarker_iff, infix_append_cons_iff hs (by decide)]

theorem nameAt?_nil : nameAt? [] = none := rfl

theorem nameAt?_eq_some_iff :
    nameAt? t = some name ↔ ∃ gap rest, t = marker ++ (gap ++ (name ++ rest)) ∧ gap ≠ [] ∧
      (∀ b ∈ gap, isBlank b = true) ∧ name ≠ [] ∧ (∀ c ∈ name, isWord c = true) ∧
      ∀ c, rest.head? = some c → isWord c = false := by
  constructor
  · intro h
    unfold nameAt? at h
    split at h
    case h_1 b r hafter =>
      rw [after?_eq_some_iff] at hafter
      simp only [Bool.and_eq_true, Bool.not_eq_true', Option.ite_none_right_eq_some,
        Option.some.injEq] at h
      obtain ⟨⟨hb, hne⟩, rfl⟩ := h
      refine ⟨b :: r.takeWhile isBlank, (r.dropWhile isBlank).dropWhile isWord, ?_, by simp,
        ?_, by simpa using hne, fun c hc => List.mem_takeWhile_imp hc, ?_⟩
      · rw [List.takeWhile_append_dropWhile, List.cons_append, List.takeWhile_append_dropWhile, hafter]
      · intro x hx
        cases List.mem_cons.1 hx with
        | inl he => rwa [he]
        | inr hx => exact List.mem_takeWhile_imp hx
      · intro c hc
        simpa [hc] using List.head?_dropWhile_not isWord (r.dropWhile isBlank)
    case h_2 => simp at h
  · intro h
    obtain ⟨gap, rest, rfl, hgap, hblank, hname, hword, hrest⟩ := h
    obtain ⟨b, gap, rfl⟩ := List.exists_cons_of_ne_nil hgap
    have hafter : after? marker (marker ++ ((b :: gap) ++ (name ++ rest))) =
        some (b :: (gap ++ (name ++ rest))) := after?_eq_some_iff.2 rfl
    have hskip : (gap ++ (name ++ rest)).dropWhile isBlank = name ++ rest := by
      rw [List.dropWhile_append_of_pos fun x hx => hblank x (List.mem_cons_of_mem _ hx)]
      obtain ⟨c, name, rfl⟩ := List.exists_cons_of_ne_nil hname
      simp [isBlank_eq_false_of_isWord (hword c List.mem_cons_self)]
    have htake : (name ++ rest).takeWhile isWord = name := by
      rw [List.takeWhile_append_of_pos hword]
      cases rest with
      | nil => simp
      | cons c rest => simp [hrest c rfl]
    rw [nameAt?, hafter]
    simp [hskip, htake, hblank b List.mem_cons_self, hname]

theorem nameFrom?_ne_none_iff :
    nameFrom? previous t ≠ none ↔ ∃ before rest, t = before ++ rest ∧
      (before.getLast?.or previous).any isUnicodeWord = false ∧ nameAt? rest ≠ none := by
  induction t generalizing previous with
  | nil =>
    constructor
    · simp [nameFrom?]
    · intro h
      obtain ⟨before, rest, h, _, hat⟩ := h
      rw [(List.append_eq_nil_iff.1 h.symm).2] at hat
      exact absurd nameAt?_nil hat
  | cons c t ih =>
    have hsplit : nameFrom? previous (c :: t) ≠ none ↔
        (previous.any isUnicodeWord = false ∧ nameAt? (c :: t) ≠ none) ∨
          nameFrom? (some c) t ≠ none := by
      cases hp : previous.any isUnicodeWord <;> simp [nameFrom?, hp, imp_iff_not_or]
    rw [hsplit, ih]
    constructor
    · intro h
      obtain ⟨hp, hat⟩ | ⟨before, rest, rfl, hp, hat⟩ := h
      · exact ⟨[], c :: t, rfl, hp, hat⟩
      · refine ⟨c :: before, rest, rfl, ?_, hat⟩
        rw [List.getLast?_cons]
        cases h : before.getLast? <;> simpa [h] using hp
    · intro h
      obtain ⟨before, rest, h, hp, hat⟩ := h
      cases before with
      | nil => exact .inl ⟨hp, by simpa [h] using hat⟩
      | cons d before =>
        obtain ⟨rfl, rfl⟩ := List.cons.inj h
        refine .inr ⟨before, rest, rfl, ?_, hat⟩
        rw [List.getLast?_cons] at hp
        cases h : before.getLast? <;> simpa [h] using hp

theorem nameFrom?_append_of_silent
    (h : ∀ x y, before = x ++ y → y ≠ [] → nameAt? (y ++ rest) = none) :
    nameFrom? previous (before ++ rest) = nameFrom? (before.getLast?.or previous) rest := by
  induction before generalizing previous with
  | nil => rfl
  | cons c before ih =>
    have hc : nameAt? (c :: (before ++ rest)) = none := h [] (c :: before) rfl (by simp)
    have hrest : nameFrom? (some c) (before ++ rest) = _ :=
      ih fun x y hxy => h (c :: x) y (by rw [hxy]; rfl)
    rw [List.cons_append, nameFrom?, hc, hrest, List.getLast?_cons]
    cases hlast : before.getLast? <;> simp

/-- Of the character before a text only matters whether it belongs to a word. -/
theorem nameFrom?_eq_name? (h : previous.any isUnicodeWord = false) :
    nameFrom? previous t = name? t := by
  cases t with
  | nil => rfl
  | cons c t => simp [name?, nameFrom?, h]

theorem nameAt?_of_nameFrom? (h : nameFrom? previous t = some name) :
    ∃ rest, rest <:+ t ∧ nameAt? rest = some name := by
  induction t generalizing previous with
  | nil => cases h
  | cons c t ih =>
    simp only [nameFrom?, Option.orElse_eq_orElse, Option.orElse_eq_or, Option.or_eq_some_iff] at h
    obtain hat | ⟨_, hfrom⟩ := h
    · split at hat
      · cases hat
      · exact ⟨c :: t, List.suffix_refl _, hat⟩
    · obtain ⟨rest, hrest, hat⟩ := ih hfrom
      exact ⟨rest, hrest.trans (List.suffix_cons c t), hat⟩

theorem isWord_of_mem_name? (h : name? t = some name) : ∀ c ∈ name, isWord c = true := by
  obtain ⟨rest, _, hat⟩ := nameAt?_of_nameFrom? h
  obtain ⟨_, _, _, _, _, _, hword, _⟩ := nameAt?_eq_some_iff.1 hat
  exact hword

theorem name?_of_nameAt? (h : nameAt? t = some name) : name? t = some name := by
  cases t with
  | nil =>
    rw [nameAt?_nil] at h
    cases h
  | cons c t => simp [name?, nameFrom?, h]

theorem baseName_eq (name : Text) :
    baseName name = if name.head? = some 'I' then name.tail else name := by
  unfold baseName
  split
  · rfl
  · cases name with
    | nil => rfl
    | cons c name =>
      have hc : c ≠ 'I' := by
        intro he
        simp_all
      simp [hc]

/-- Between the two parts lies a boundary of a word. -/
def IsBoundary (before after : Text) : Prop :=
  before.getLast?.any isUnicodeWord ≠ after.head?.any isUnicodeWord

/-- The marker, not glued to a word before it, with blanks and the first character of a name after. -/
def Declares (t : Text) : Prop :=
  ∃ before gap c rest, t = before ++ (marker ++ (gap ++ c :: rest)) ∧
    IsBoundary before (marker ++ (gap ++ c :: rest)) ∧ gap ≠ [] ∧
    (∀ b ∈ gap, isBlank b = true) ∧ isWord c = true

theorem isBoundary_marker : IsBoundary before (marker ++ rest) ↔
    before.getLast?.any isUnicodeWord = false := by
  have he : (marker ++ rest).head?.any isUnicodeWord = true := by
    have hhead : (marker ++ rest).head? = some 'e' := rfl
    rw [hhead]
    decide
  rw [IsBoundary, he]
  simp

theorem nameAt?_ne_none_iff :
    nameAt? t ≠ none ↔ ∃ gap c rest, t = marker ++ (gap ++ c :: rest) ∧ gap ≠ [] ∧
      (∀ b ∈ gap, isBlank b = true) ∧ isWord c = true := by
  rw [Option.ne_none_iff_exists']
  constructor
  · intro h
    obtain ⟨name, h⟩ := h
    obtain ⟨gap, rest, rfl, hgap, hblank, hname, hword, _⟩ := nameAt?_eq_some_iff.1 h
    obtain ⟨c, name, rfl⟩ := List.exists_cons_of_ne_nil hname
    exact ⟨gap, c, name ++ rest, rfl, hgap, hblank, hword c List.mem_cons_self⟩
  · intro h
    obtain ⟨gap, c, rest, rfl, hgap, hblank, hc⟩ := h
    refine ⟨(c :: rest).takeWhile isWord, nameAt?_eq_some_iff.2
      ⟨gap, (c :: rest).dropWhile isWord, ?_, hgap, hblank, by simp [hc],
        fun x hx => List.mem_takeWhile_imp hx, ?_⟩⟩
    · rw [List.takeWhile_append_dropWhile]
    · intro x hx
      simpa [hx] using List.head?_dropWhile_not isWord (c :: rest)

theorem name?_ne_none_iff : name? t ≠ none ↔ Declares t := by
  rw [name?, nameFrom?_ne_none_iff]
  constructor
  · intro h
    obtain ⟨before, rest, rfl, hp, hat⟩ := h
    obtain ⟨gap, c, rest, rfl, hgap, hblank, hc⟩ := nameAt?_ne_none_iff.1 hat
    exact ⟨before, gap, c, rest, rfl, isBoundary_marker.2 (by simpa using hp), hgap, hblank, hc⟩
  · intro h
    obtain ⟨before, gap, c, rest, rfl, hp, hgap, hblank, hc⟩ := h
    exact ⟨before, _, rfl, by simpa using isBoundary_marker.1 hp,
      nameAt?_ne_none_iff.2 ⟨gap, c, rest, rfl, hgap, hblank, hc⟩⟩

theorem marker_prefix_of_nameAt? (h : nameAt? t ≠ none) : marker <+: t := by
  obtain ⟨gap, c, rest, rfl, _⟩ := nameAt?_ne_none_iff.1 h
  exact List.prefix_append _ _

theorem name?_eq_none_iff : name? t = none ↔ ¬ Declares t := by
  rw [← name?_ne_none_iff, not_not]

end FluentBuilder.Interface
