import FluentBuilder.Builder
import Mathlib.Data.List.Basic

/-! The lines of a builder class: its joins and separators come out as one list of lines, each with
its line break. -/
namespace FluentBuilder
open Text

namespace Text
variable {b sep t : Text} {lines xs : List Text} {c : Char}

def unlines (b : Text) (lines : List Text) : Text := lines.flatMap (· ++ b)

@[simp] theorem unlines_nil : unlines b [] = [] := rfl

@[simp] theorem unlines_cons (l : Text) : unlines b (l :: lines) = l ++ (b ++ unlines b lines) := by
  simp [unlines]

@[simp] theorem unlines_append (ls : List Text) :
    unlines b (lines ++ ls) = unlines b lines ++ unlines b ls := by
  simp [unlines]

theorem infix_unlines {l : Text} (h : l ∈ lines) : l <:+: unlines b lines := by
  obtain ⟨x, y, rfl⟩ := List.append_of_mem h
  refine ⟨unlines b x, b ++ unlines b y, ?_⟩
  rw [unlines_append, unlines_cons, List.append_assoc]

theorem count_unlines (h : ∀ l ∈ lines, c ∉ l) :
    (unlines b lines).count c = lines.length * b.count c := by
  induction lines with
  | nil => simp
  | cons l lines ih =>
    have hl : l.count c = 0 := List.count_eq_zero.2 (h l List.mem_cons_self)
    have hrest := ih fun l' hl' => h l' (List.mem_cons_of_mem l hl')
    rw [unlines_cons, List.count_append, List.count_append, hl, hrest, List.length_cons,
      Nat.succ_mul]
    omega

/-- The items of a list with a separator behind all but the last. -/
def listed (sep : Text) : List Text → List Text
  | [] => []
  | [x] => [x]
  | x :: y :: xs => (x ++ sep) :: listed sep (y :: xs)

@[simp] theorem length_listed (sep : Text) (xs : List Text) :
    (listed sep xs).length = xs.length := by
  induction xs using listed.induct with
  | case1 => rfl
  | case2 => rfl
  | case3 x y xs ih =>
    rw [listed, List.length_cons, ih]
    rfl

@[simp] theorem listed_nil (xs : List Text) : listed [] xs = xs := by
  induction xs using listed.induct with
  | case1 => rfl
  | case2 => rfl
  | case3 x y xs ih => rw [listed, ih, List.append_nil]

theorem mem_listed {l : Text} (h : l ∈ listed sep xs) : ∃ x ∈ xs, l = x ∨ l = x ++ sep := by
  induction xs using listed.induct with
  | case1 => cases h
  | case2 x => exact ⟨x, List.mem_cons_self, .inl (List.mem_singleton.1 h)⟩
  | case3 x y xs ih =>
    cases List.mem_cons.1 h with
    | inl h => exact ⟨x, List.mem_cons_self, .inr h⟩
    | inr h =>
      obtain ⟨z, hz, hl⟩ := ih h
      exact ⟨z, List.mem_cons_of_mem x hz, hl⟩

theorem append_intercalate (h : xs ≠ []) (t sep : Text) :
    t ++ (sep ++ t).intercalate xs = sep.intercalate (xs.map (t ++ ·)) := by
  induction xs using listed.induct with
  | case1 => exact absurd rfl h
  | case2 => simp
  | case3 x y xs ih =>
    have hrest := ih (by simp)
    rw [List.intercalate_cons_cons, List.map_cons, List.map_cons, List.intercalate_cons_cons,
      ← List.map_cons, ← hrest]
    simp only [List.append_assoc]

theorem intercalate_eq_unlines (h : xs ≠ []) (b sep : Text) :
    (sep ++ b).intercalate xs ++ b = unlines b (listed sep xs) := by
  induction xs using listed.induct with
  | case1 => exact absurd rfl h
  | case2 => simp [listed]
  | case3 x y xs ih =>
    rw [List.intercalate_cons_cons, List.append_assoc, ih (by simp), listed, unlines_cons]
    simp only [List.append_assoc]

theorem unlines_intercalate {α : Type} {f : α → Text} {block : α → List Text}
    (hblock : ∀ x, f x ++ b = unlines b (block x)) {xs : List α} (h : xs ≠ []) :
    (b ++ b).intercalate (xs.map f) ++ b = unlines b (List.intercalate [[]] (xs.map block)) := by
  induction xs with
  | nil => exact absurd rfl h
  | cons x xs ih =>
    cases xs with
    | nil => simp [hblock]
    | cons y xs =>
      have hrest := ih (by simp)
      rw [List.map_cons] at hrest
      rw [List.map_cons, List.map_cons, List.map_cons, List.map_cons, List.intercalate_cons_cons,
        List.intercalate_cons_cons, List.append_assoc, hrest, unlines_append, unlines_append,
        ← hblock, ← List.map_cons]
      simp

theorem length_intercalate {k : Nat} {blocks : List (List Text)} (h : blocks ≠ [])
    (hk : ∀ block ∈ blocks, block.length = k) :
    (List.intercalate [[]] blocks).length + 1 = blocks.length * (k + 1) := by
  induction blocks with
  | nil => exact absurd rfl h
  | cons x blocks ih =>
    have hx := hk x List.mem_cons_self
    cases blocks with
    | nil => simp [hx]
    | cons y blocks =>
      have hrest := ih (by simp) fun block hb => hk block (List.mem_cons_of_mem x hb)
      rw [List.intercalate_cons_cons, List.length_append, List.length_append, hx,
        List.length_singleton, List.length_cons, Nat.succ_mul, ← hrest]
      omega

theorem mem_intercalate {α : Type} {sep x : α} {blocks : List (List α)}
    (h : x ∈ List.intercalate [sep] blocks) : x = sep ∨ ∃ block ∈ blocks, x ∈ block := by
  induction blocks with
  | nil => cases h
  | cons y blocks ih =>
    cases blocks with
    | nil =>
      rw [List.intercalate_singleton] at h
      exact .inr ⟨y, List.mem_cons_self, h⟩
    | cons z blocks =>
      rw [List.intercalate_cons_cons, List.mem_append, List.mem_append, List.mem_singleton] at h
      obtain (h | h) | h := h
      · exact .inr ⟨y, List.mem_cons_self, h⟩
      · exact .inl h
      · obtain h | ⟨block, hb, hx⟩ := ih h
        · exact .inl h
        · exact .inr ⟨block, List.mem_cons_of_mem y hb, hx⟩

/-- Separators stand behind the items with another one after them. -/
theorem listed_map_eq_mapIdx {α : Type} (sep : Text) (f : α → Text) (xs : List α) :
    listed sep (xs.map f) = xs.mapIdx fun i x => f x ++ if i + 1 < xs.length then sep else [] := by
  induction xs with
  | nil => rfl
  | cons x xs ih =>
    cases xs with
    | nil => simp [listed]
    | cons y xs =>
      rw [List.map_cons] at ih
      rw [List.map_cons, List.map_cons, listed, ih, List.mapIdx_cons]
      simp

theorem intercalate_map_eq_flatten {α β : Type} (sep : List β) (block : α → List β) (xs : List α) :
    sep.intercalate (xs.map block) =
      (xs.mapIdx fun i x => block x ++ if i + 1 < xs.length then sep else []).flatten := by
  induction xs with
  | nil => rfl
  | cons x xs ih =>
    cases xs with
    | nil => simp
    | cons y xs =>
      rw [List.map_cons] at ih
      rw [List.map_cons, List.map_cons, List.intercalate_cons_cons, ih, List.mapIdx_cons]
      simp

def IsLine (t : Text) : Prop := ∀ c ∈ t, c ≠ '\n' ∧ c ≠ '\r'

instance (t : Text) : Decidable (IsLine t) :=
  List.decidableBAll (fun c => c ≠ '\n' ∧ c ≠ '\r') t

theorem isLine_nil : IsLine [] := by simp [IsLine]

@[simp] theorem isLine_append {x y : Text} : IsLine (x ++ y) ↔ IsLine x ∧ IsLine y :=
  List.forall_mem_append

theorem isLine_of_forall (p : Char → Bool) (hn : p '\n' = true) (hr : p '\r' = true)
    (h : ∀ c ∈ t, p c = false) : IsLine t := by
  intro c hc
  constructor
  · rintro rfl
    exact absurd (h _ hc) (by simp [hn])
  · rintro rfl
    exact absurd (h _ hc) (by simp [hr])

theorem IsLine.subset {x y : Text} (h : IsLine y) (hs : x ⊆ y) : IsLine x := fun c hc => h c (hs hc)

end Text

namespace Field

def definitionLine (s : Style) (f : Field) : Text := s.indent ++ f.definition s

def entryLine (s : Style) (f : Field) : Text := s.indent ++ (s.indent ++ (s.indent ++ f.localEntry))

def setterLine (s : Style) (f : Field) : Text :=
  s.indent ++ ("public with".toList ++ f.setter ++ "(value: ".toList ++ f.typeExpression ++
    ") \x7b".toList)

def setterLines (s : Style) (f : Field) : List Text := [
  f.setterLine s,
  s.indent ++ (s.indent ++ ("this.".toList ++ f.property ++ " = value".toList ++ s.terminator)),
  s.indent ++ (s.indent ++ ("return this".toList ++ s.terminator)),
  s.indent ++ "\x7d".toList]

theorem setterMethod_eq_unlines (s : Style) (f : Field) :
    s.indent ++ f.setterMethod s ++ s.lineBreak = unlines s.lineBreak (f.setterLines s) := by
  unfold setterMethod setterLines setterLine
  simp only [unlines_cons, unlines_nil, List.append_assoc, List.append_nil]

variable {f : Field} {s : Style}

theorem isLine_property (h : IsLine f.name) : IsLine f.property :=
  h.subset (List.filter_subset_self _)

theorem isLine_setter (h : IsLine f.name) : IsLine f.setter := by
  have hcapital : IsLine (capitalize f.name) := by
    cases hname : f.name with
    | nil => exact isLine_nil
    | cons c name =>
      rw [hname] at h
      refine isLine_append.2 ⟨?_, h.subset (List.subset_cons_self c name)⟩
      intro d hd
      obtain rfl | hcode := mem_uppercase hd
      · exact h d List.mem_cons_self
      · constructor
        · rintro rfl
          exact absurd hcode (by decide)
        · rintro rfl
          exact absurd hcode (by decide)
  exact hcapital.subset (List.filter_subset_self _)

theorem isLine_default (f : Field) : IsLine f.default := by
  unfold default defaultFor
  repeat' split
  all_goals decide

section
variable (hindent : IsLine s.indent) (hend : IsLine s.terminator) (hname : IsLine f.name)
  (htype : IsLine f.typeExpression)
include hindent hname

theorem isLine_entryLine : IsLine (f.entryLine s) := by
  unfold entryLine localEntry
  simp only [isLine_append, hindent, isLine_property hname, and_true, true_and]
  decide

include htype hend

theorem isLine_definitionLine : IsLine (f.definitionLine s) := by
  unfold definitionLine definition
  simp only [isLine_append, hindent, isLine_property hname, htype, isLine_default, hend, and_true,
    true_and]
  decide

theorem isLine_of_mem_setterLines : ∀ l ∈ f.setterLines s, IsLine l := by
  unfold setterLines setterLine
  simp only [List.forall_mem_cons, isLine_append, hindent, isLine_property hname,
    isLine_setter hname, htype, hend, and_true, true_and]
  decide

end

end Field

variable {base declared : Text} {fields : List Field} {s : Style}

def classLines (base declared : Text) (fields : List Field) (s : Style) : List Text :=
  let t := s.indent
  ["export class ".toList ++ base ++ "Builder \x7b".toList] ++
  fields.map (·.definitionLine s) ++
  [[], t ++ ("public build(): ".toList ++ declared ++ " \x7b".toList),
    t ++ (t ++ "return \x7b".toList)] ++
  listed [','] (fields.map (·.entryLine s)) ++
  [t ++ (t ++ ("\x7d".toList ++ s.terminator)), t ++ "\x7d".toList, []] ++
  List.intercalate [[]] (fields.map (·.setterLines s)) ++
  ["\x7d".toList]

section
variable (h : fields ≠ []) (s : Style)
include h

theorem definitions_eq_unlines :
    s.indent ++ (s.lineBreak ++ s.indent).intercalate (fields.map (·.definition s)) ++ s.lineBreak =
      unlines s.lineBreak (fields.map (·.definitionLine s)) := by
  have hne : (fields.map (·.definition s)).map (s.indent ++ ·) ≠ [] := by simpa using h
  have hlines := intercalate_eq_unlines hne s.lineBreak []
  rw [listed_nil, List.nil_append, List.map_map] at hlines
  rw [append_intercalate (by simpa using h), List.map_map, hlines]
  rfl

theorem entries_eq_unlines :
    s.indent ++ s.indent ++ s.indent ++
        (',' :: s.lineBreak ++ s.indent ++ s.indent ++ s.indent).intercalate
          (fields.map Field.localEntry) ++ s.lineBreak =
      unlines s.lineBreak (listed [','] (fields.map (·.entryLine s))) := by
  have hsep : ',' :: s.lineBreak ++ s.indent ++ s.indent ++ s.indent =
      ([','] ++ s.lineBreak) ++ (s.indent ++ s.indent ++ s.indent) := by simp
  rw [hsep, append_intercalate (by simpa using h), intercalate_eq_unlines (by simpa using h),
    List.map_map]
  simp only [Function.comp_def, Field.entryLine, List.append_assoc]

theorem setters_eq_unlines :
    s.indent ++ (s.lineBreak ++ s.lineBreak ++ s.indent).intercalate
        (fields.map (·.setterMethod s)) ++ s.lineBreak =
      unlines s.lineBreak (List.intercalate [[]] (fields.map (·.setterLines s))) := by
  rw [append_intercalate (by simpa using h), List.map_map]
  exact unlines_intercalate (Field.setterMethod_eq_unlines s) h

theorem length_classLines (base declared : Text) :
    (classLines base declared fields s).length = 7 * fields.length + 7 := by
  have hne : fields.map (·.setterLines s) ≠ [] := by simpa using h
  have hsetters := length_intercalate (k := 4) hne (by simp [Field.setterLines])
  rw [List.length_map] at hsetters
  simp only [classLines, List.length_append, List.length_cons, List.length_nil, List.length_map,
    length_listed]
  omega

theorem assemble_eq_unlines (base declared : Text) :
    assemble base declared fields s = unlines s.lineBreak (classLines base declared fields s) := by
  unfold assemble classText classLines Members.ofFields
  simp only [unlines_append, unlines_cons, unlines_nil, ← definitions_eq_unlines h s,
    ← entries_eq_unlines h s, ← setters_eq_unlines h s]
  simp only [List.append_assoc, List.append_nil, List.nil_append, List.cons_append]

end

theorem isLine_of_mem_classLines (hbase : IsLine base) (hdeclared : IsLine declared)
    (hindent : IsLine s.indent) (hend : IsLine s.terminator)
    (hfields : ∀ f ∈ fields, IsLine f.name ∧ IsLine f.typeExpression) :
    ∀ l ∈ classLines base declared fields s, IsLine l := by
  have hdefinition : ∀ f ∈ fields, IsLine (f.definitionLine s) := fun f hf =>
    Field.isLine_definitionLine hindent hend (hfields f hf).1 (hfields f hf).2
  have hentries : ∀ l ∈ listed [','] (fields.map (·.entryLine s)), IsLine l := by
    intro l hl
    obtain ⟨x, hx, hl⟩ := mem_listed hl
    obtain ⟨f, hf, rfl⟩ := List.mem_map.1 hx
    have hline : IsLine (f.entryLine s) := Field.isLine_entryLine hindent (hfields f hf).1
    obtain rfl | rfl := hl
    · exact hline
    · exact isLine_append.2 ⟨hline, by decide⟩
  have hsetters : ∀ l ∈ List.intercalate [[]] (fields.map (·.setterLines s)), IsLine l := by
    intro l hl
    obtain rfl | ⟨block, hblock, hl⟩ := mem_intercalate hl
    · exact isLine_nil
    · obtain ⟨f, hf, rfl⟩ := List.mem_map.1 hblock
      exact Field.isLine_of_mem_setterLines hindent hend (hfields f hf).1 (hfields f hf).2 l hl
  unfold classLines
  simp only [List.forall_mem_append, List.forall_mem_cons, List.forall_mem_map, isLine_append,
    hbase, hdeclared, hindent, hend, isLine_nil, and_true, true_and]
  exact ⟨⟨⟨⟨⟨⟨by decide, hdefinition⟩, by decide⟩, hentries⟩, by decide⟩, hsetters⟩, by decide⟩

/-- The lines of a builder class written out, with what depends on the place of a field among the
others. Without fields, the indentation of their lines is left. -/
def writtenLines (base declared : Text) (fields : List Field) (s : Style) : List Text :=
  let t := s.indent
  ["export class ".toList ++ base ++ "Builder \x7b".toList] ++
  (if fields = [] then [t] else fields.map fun f =>
    t ++ "private ".toList ++ stripMarker f.name ++ ": ".toList ++ f.typeExpression ++
      " = ".toList ++ defaultFor f.typeExpression ++ s.terminator) ++
  [[],
    t ++ "public build(): ".toList ++ declared ++ " \x7b".toList,
    t ++ t ++ "return \x7b".toList] ++
  (if fields = [] then [t ++ t ++ t] else fields.mapIdx fun i f =>
    t ++ t ++ t ++ stripMarker f.name ++ ": this.".toList ++ stripMarker f.name ++
      if i + 1 < fields.length then [','] else []) ++
  [t ++ t ++ "\x7d".toList ++ s.terminator,
    t ++ "\x7d".toList,
    []] ++
  (if fields = [] then [t] else List.flatten <| fields.mapIdx fun i f => [
      t ++ "public with".toList ++ stripMarker (capitalize f.name) ++ "(value: ".toList ++
        f.typeExpression ++ ") \x7b".toList,
      t ++ t ++ "this.".toList ++ stripMarker f.name ++ " = value".toList ++ s.terminator,
      t ++ t ++ "return this".toList ++ s.terminator,
      t ++ "\x7d".toList] ++ if i + 1 < fields.length then [[]] else []) ++
  ["\x7d".toList]

theorem writtenLines_of_ne_nil (h : fields ≠ []) :
    writtenLines base declared fields s = classLines base declared fields s := by
  unfold writtenLines classLines
  simp only [if_neg h]
  rw [listed_map_eq_mapIdx, intercalate_map_eq_flatten]
  unfold Field.definitionLine Field.definition Field.entryLine Field.localEntry Field.setterLines
    Field.setterLine Field.property Field.setter Field.default
  simp only [List.append_assoc]

theorem assemble_nil : assemble base declared [] s =
    unlines s.lineBreak (writtenLines base declared [] s) := by
  unfold assemble classText writtenLines Members.ofFields
  simp only [unlines_append, unlines_cons, unlines_nil, if_true, List.map_nil, List.intercalate_nil]
  simp only [List.append_assoc, List.append_nil, List.nil_append]

theorem assemble_eq_unlines_written (base declared : Text) (fields : List Field) (s : Style) :
    assemble base declared fields s =
      unlines s.lineBreak (writtenLines base declared fields s) := by
  by_cases h : fields = []
  · rw [h]
    exact assemble_nil
  · rw [writtenLines_of_ne_nil h]
    exact assemble_eq_unlines h s base declared

/-- A class is made of these lines, whatever its names, types and style strings hold. -/
theorem assemble_eq_written (base declared : Text) (fields : List Field) (s : Style) :
    assemble base declared fields s =
        unlines s.lineBreak (writtenLines base declared fields s) ∧
      (writtenLines base declared fields s).length =
        if fields = [] then 11 else 7 * fields.length + 7 := by
  refine ⟨assemble_eq_unlines_written base declared fields s, ?_⟩
  by_cases h : fields = []
  · rw [h, if_pos rfl]
    rfl
  · rw [if_neg h, writtenLines_of_ne_nil h]
    exact length_classLines h s base declared

end FluentBuilder
