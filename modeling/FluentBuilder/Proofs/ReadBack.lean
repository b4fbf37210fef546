import FluentBuilder.Proofs.Relayout
import Mathlib.Data.List.DropRight

/-! A builder class read back. Its text tells the names and the types that it was made of, and the
names of the fields but for their optional markers. -/
namespace FluentBuilder
open Text Interface
variable {base declared base₁ base₂ declared₁ declared₂ : Text} {fields fields₁ fields₂ : List Field}
  {s : Style} {f : Field}

namespace Text
variable {x y t : Text} {c : Char}

def between (x y t : Text) : Text := (t.drop x.length).rdrop y.length

theorem between_append (x y t : Text) : between x y (x ++ (t ++ y)) = t := by
  rw [between, List.drop_left, List.rdrop_append_length]

theorem cut_first (hx : c ∉ x) (y : Text) :
    (x ++ c :: y).takeWhile (· ≠ c) = x ∧ ((x ++ c :: y).dropWhile (· ≠ c)).tail = y := by
  have hall : ∀ d ∈ x, decide (d ≠ c) = true := by
    intro d hd
    apply decide_eq_true
    rintro rfl
    exact hx hd
  rw [List.takeWhile_append_of_pos hall, List.dropWhile_append_of_pos hall]
  simp

theorem cut_last (hy : c ∉ y) (x : Text) : (x ++ c :: y).rdropWhile (· ≠ c) = x ++ [c] := by
  induction y using List.reverseRecOn with
  | nil => simp
  | append_singleton y d ih =>
    rw [List.mem_append, not_or, List.mem_singleton] at hy
    have hd : d ≠ c := fun he => hy.2 he.symm
    have hshape : x ++ c :: (y ++ [d]) = (x ++ c :: y) ++ [d] := by simp
    rw [hshape, List.rdropWhile_concat_pos _ _ _ (by simpa using hd), ih hy.1]

end Text

/-- The property and the type in a line such as `private foo: string = undefined`. The property goes
up to the first space, as it has none, and the initial value begins behind the last one. -/
def readDefinition (s : Style) (line : Text) : Text × Text :=
  let body := between (s.indent ++ "private ".toList) s.terminator line
  let typed := (body.dropWhile (· ≠ ' ')).tail
  ((body.takeWhile (· ≠ ' ')).dropLast, (typed.rdropWhile (· ≠ ' ')).rdrop " = ".length)

/-- The names of a class and of its interface, with the properties and types of the fields. How many
lines a class has tells how many fields: `7 * n + 7` lines with `n` of them, and 11 with none. -/
def readClass (s : Style) (t : Text) : Text × Text × List (Text × Text) :=
  let lines := parts s.lineBreak t
  let count := (lines.length - 8) / 7
  (between "export class ".toList "Builder \x7b".toList (lines.getD 0 []),
    between (s.indent ++ "public build(): ".toList) " \x7b".toList (lines.getD (max count 1 + 2) []),
    ((lines.drop 1).take count).map (readDefinition s))

theorem Field.blank_not_mem_default (f : Field) : ' ' ∉ f.default := by
  unfold default defaultFor
  repeat' split
  all_goals decide

theorem readDefinition_definitionLine (hblank : ' ' ∉ f.property) (s : Style) :
    readDefinition s (f.definitionLine s) = (f.property, f.typeExpression) := by
  have hline : f.definitionLine s = (s.indent ++ "private ".toList) ++
      (((f.property ++ [':']) ++ ' ' :: ((f.typeExpression ++ " =".toList) ++ ' ' :: f.default)) ++
        s.terminator) := by
    unfold Field.definitionLine Field.definition
    simp only [List.append_assoc, List.cons_append, List.nil_append]
    rfl
  have hproperty : ' ' ∉ f.property ++ [':'] := by simp [hblank]
  obtain ⟨hname, htyped⟩ :=
    cut_first hproperty ((f.typeExpression ++ " =".toList) ++ ' ' :: f.default)
  have htype := cut_last f.blank_not_mem_default (f.typeExpression ++ " =".toList)
  have hcount : " =".toList ++ [' '] = " = ".toList := rfl
  rw [List.append_assoc f.typeExpression " =".toList [' '], hcount] at htype
  rw [hline]
  simp only [readDefinition, between_append, hname, htyped, htype, List.dropLast_concat]
  exact congrArg _ List.rdrop_append_length

theorem writtenLines_eq (base declared : Text) (fields : List Field) (s : Style) :
    ∃ definitions rest, writtenLines base declared fields s =
      ("export class ".toList ++ (base ++ "Builder \x7b".toList)) :: (definitions ++
        [] :: ((s.indent ++ "public build(): ".toList) ++ (declared ++ " \x7b".toList)) :: rest) ∧
      definitions.length = max fields.length 1 ∧
      definitions.take fields.length = fields.map (·.definitionLine s) := by
  by_cases h : fields = []
  · subst h
    refine ⟨[s.indent], ?rest, ?lines, rfl, rfl⟩
    case lines =>
      simp only [writtenLines, if_true, List.append_assoc, List.cons_append, List.nil_append]
      rfl
  · have hlen : max fields.length 1 = fields.length := Nat.max_eq_left (List.length_pos_iff.2 h)
    refine ⟨fields.map (·.definitionLine s), ?others, ?written, by rw [hlen, List.length_map], ?_⟩
    case written =>
      rw [writtenLines_of_ne_nil h]
      simp only [classLines, List.append_assoc, List.cons_append, List.nil_append]
      rfl
    rw [List.take_of_length_le (by rw [List.length_map])]

theorem count_writtenLines (base declared : Text) (fields : List Field) (s : Style) :
    ((writtenLines base declared fields s).length - 7) / 7 = fields.length := by
  by_cases h : fields = []
  · subst h
    have hlen : (writtenLines base declared [] s).length = 11 := rfl
    rw [hlen]
    rfl
  · rw [writtenLines_of_ne_nil h, length_classLines h]
    omega

namespace IsPlain

theorem isLine_of_mem_writtenLines (h : IsPlain base declared fields) (hs : s.IsPlain) :
    ∀ l ∈ writtenLines base declared fields s, IsLine l := by
  by_cases hnil : fields = []
  · subst hnil
    simp only [writtenLines, if_true, List.forall_mem_append, List.forall_mem_singleton,
      List.forall_mem_cons, isLine_append, isLine_of_isWord h.base, isLine_of_isWord h.declared,
      hs.isLine_indent, hs.isLine_terminator, isLine_nil, and_true, true_and]
    decide
  · rw [writtenLines_of_ne_nil hnil]
    exact h.isLine_of_mem_classLines hs

theorem parts_assemble (h : IsPlain base declared fields) (hs : s.IsPlain) :
    parts s.lineBreak (assemble base declared fields s) =
      writtenLines base declared fields s ++ [[]] := by
  have hline := h.isLine_of_mem_writtenLines hs
  rw [assemble_eq_unlines_written]
  obtain hbreak | hbreak := hs.lineBreak
  · rw [hbreak]
    exact parts_unlines fun l hl hm => (hline l hl _ hm).1 rfl
  · rw [hbreak]
    exact parts_unlines fun l hl hm => (hline l hl _ hm).2 rfl

theorem readClass_assemble (h : IsPlain base declared fields) (hs : s.IsPlain) :
    readClass s (assemble base declared fields s) =
      (base, declared, fields.map fun f => (f.property, f.typeExpression)) := by
  have hblank : ∀ f ∈ fields, ' ' ∉ f.property := by
    intro f hf hm
    exact absurd (h.name f hf ' ' (List.mem_of_mem_filter hm)) (by decide)
  obtain ⟨definitions, rest, hlines, hlen, hdefinitions⟩ := writtenLines_eq base declared fields s
  have hcount : ((writtenLines base declared fields s ++ [[]]).length - 8) / 7 = fields.length := by
    rw [List.length_append, List.length_singleton, Nat.add_sub_add_right]
    exact count_writtenLines base declared fields s
  have hrows : fields.map (fun f => readDefinition s (f.definitionLine s)) =
      fields.map fun f => (f.property, f.typeExpression) :=
    List.map_congr_left fun f hf => readDefinition_definitionLine (hblank f hf) s
  have hsignature : max fields.length 1 + 2 = definitions.length + 1 + 1 := by rw [hlen]
  have htake : fields.length ≤ definitions.length := by
    rw [hlen]
    exact Nat.le_max_left _ _
  simp only [readClass, h.parts_assemble hs, hcount]
  rw [hlines, hsignature, List.cons_append, List.append_assoc, List.getD_cons_zero,
    List.getD_cons_succ, List.getD_eq_getElem?_getD, getElem?_behind, List.drop_succ_cons,
    List.drop_zero, List.take_append_of_le_length htake, hdefinitions, List.map_map,
    between_append]
  simp only [List.cons_append, List.getElem?_cons_succ, List.getElem?_cons_zero, Option.getD_some,
    between_append, Function.comp_def, hrows]

end IsPlain

/-- With one layout, classes with the same text have the same names and the same fields, but for the
optional markers of the fields. -/
theorem assemble_determines (hs : s.IsPlain) (h₁ : IsPlain base₁ declared₁ fields₁)
    (h₂ : IsPlain base₂ declared₂ fields₂)
    (h : assemble base₁ declared₁ fields₁ s = assemble base₂ declared₂ fields₂ s) :
    base₁ = base₂ ∧ declared₁ = declared₂ ∧ fields₁.length = fields₂.length ∧
      List.Forall₂ (fun f g => f.typeExpression = g.typeExpression ∧
        stripMarker f.name = stripMarker g.name) fields₁ fields₂ := by
  have hread : readClass s _ = readClass s _ := congrArg (readClass s) h
  rw [h₁.readClass_assemble hs, h₂.readClass_assemble hs, Prod.mk.injEq, Prod.mk.injEq] at hread
  obtain ⟨hbase, hdeclared, hfields⟩ := hread
  refine ⟨hbase, hdeclared, by simpa using congrArg List.length hfields, ?_⟩
  rw [← List.forall₂_eq_eq_eq, List.forall₂_map_left_iff, List.forall₂_map_right_iff] at hfields
  exact hfields.imp fun f g hfg => ⟨congrArg Prod.snd hfg, congrArg Prod.fst hfg⟩

def bareNotes : Text := "export interface INote \x7b text: string\n done: boolean\n\x7d".toList

def bareNotesDeclaration : Declaration :=
  { notesDeclaration with
    fields := [⟨"text".toList, "string".toList⟩, ⟨"done".toList, "boolean".toList⟩] }

theorem analyze_bareNotes :
    (analyze bareNotes { lineBreak := .lf } byPattern).result = .ok bareNotesDeclaration := by rfl

theorem assemble_determines_notes :
    let d := notesDeclaration
    let e := bareNotesDeclaration
    (d.style.IsPlain ∧ IsPlain d.baseName d.name d.fields ∧ IsPlain e.baseName e.name e.fields ∧
      assemble d.baseName d.name d.fields d.style = assemble e.baseName e.name e.fields d.style) ∧
    d.fields ≠ e.fields ∧ d.fields.length = e.fields.length ∧
      List.Forall₂ (fun f g => f.typeExpression = g.typeExpression ∧
        stripMarker f.name = stripMarker g.name) d.fields e.fields := by
  intro d e
  have hstyle : d.style.IsPlain := Declaration.plain_style analyze_notes
  have hd : IsPlain d.baseName d.name d.fields := Declaration.plain analyze_notes
  have he : IsPlain e.baseName e.name e.fields := Declaration.plain analyze_bareNotes
  have htext : assemble d.baseName d.name d.fields d.style =
      assemble e.baseName e.name e.fields d.style := by decide +kernel
  exact ⟨⟨hstyle, hd, he, htext⟩, by decide, (assemble_determines hstyle hd he htext).2.2⟩

end FluentBuilder
