import FluentBuilder.Proofs.LineBreaks

/-! How often a character stands in a builder class that the class is not written with of itself. It
comes in with the names, the types and the style only, each of them a fixed number of times. Of the
semicolons that leaves the statement terminators, and what names had at their end. -/
namespace FluentBuilder
open Text Interface
variable {t : Text} {fields : List Field} {f : Field} {s : Style} {config : Config}
  {d : Declaration} {c : Char}

namespace Text

theorem count_intercalate {sep : Text} (h : sep.count c = 0) (xs : List Text) :
    (sep.intercalate xs).count c = xs.flatten.count c := by
  induction xs with
  | nil => rfl
  | cons x xs ih =>
    cases xs with
    | nil => simp
    | cons y xs =>
      rw [List.intercalate_cons_cons, List.flatten_cons, List.count_append, List.count_append,
        List.count_append, h, ih, Nat.add_zero]

theorem toUpper_ofNat_of_lt : ∀ n < 65, (Char.ofNat n).toUpper = Char.ofNat n := by decide

/-- Punctuation and digits are their own uppercase forms, and those of no other character. -/
theorem count_uppercase (hc : c.toNat < 65) (d : Char) : (uppercase d).count c = [d].count c := by
  by_cases hd : d = c
  · have hself := toUpper_ofNat_of_lt c.toNat hc
    rw [Char.ofNat_toNat] at hself
    rw [hd, uppercase, if_pos (Nat.lt_trans hc (by decide)), hself]
  · have hnot : c ∉ uppercase d := by
      intro hm
      obtain he | hle := mem_uppercase hm
      · exact hd he.symm
      · omega
    rw [List.count_eq_zero.2 hnot, List.count_eq_zero.2 (by simpa using Ne.symm hd)]

theorem count_capitalize (hc : c.toNat < 65) (x : Text) : (capitalize x).count c = x.count c := by
  cases x with
  | nil => rfl
  | cons d x =>
    rw [capitalize, List.count_append, count_uppercase hc, ← List.count_append,
      List.singleton_append]

end Text

/-- A class has no such character of its own: terminators are the style's, markers the names'. -/
def IsForeign (c : Char) : Prop := c = ';' ∨ c = '?'

namespace Field

def copies (f : Field) : Text :=
  f.property ++ f.typeExpression ++ (f.property ++ f.property) ++
    (f.setter ++ f.typeExpression ++ f.property)

theorem count_default (hc : IsForeign c) (f : Field) : f.default.count c = 0 := by
  unfold default defaultFor
  obtain rfl | rfl := hc
  all_goals
    repeat' split
    all_goals simp

theorem count_definition (hc : IsForeign c) (s : Style) (f : Field) : (f.definition s).count c =
    f.property.count c + f.typeExpression.count c + s.terminator.count c := by
  have hwords : "private ".toList.count c = 0 ∧ ": ".toList.count c = 0 ∧
      " = ".toList.count c = 0 := by
    obtain rfl | rfl := hc <;> simp
  unfold definition
  simp only [List.count_append, hwords, count_default hc]
  omega

theorem count_localEntry (hc : IsForeign c) (f : Field) :
    f.localEntry.count c = 2 * f.property.count c := by
  have hword : ": this.".toList.count c = 0 := by
    obtain rfl | rfl := hc <;> simp
  unfold localEntry
  simp only [List.count_append, hword]
  omega

theorem count_setterMethod (hc : IsForeign c) (hbreak : s.lineBreak.count c = 0)
    (hindent : s.indent.count c = 0) (f : Field) : (f.setterMethod s).count c =
      f.setter.count c + f.typeExpression.count c + f.property.count c +
        2 * s.terminator.count c := by
  have hwords : "public with".toList.count c = 0 ∧ "(value: ".toList.count c = 0 ∧
      ") \x7b".toList.count c = 0 ∧ "this.".toList.count c = 0 ∧ " = value".toList.count c = 0 ∧
      "return this".toList.count c = 0 ∧ "\x7d".toList.count c = 0 := by
    obtain rfl | rfl := hc <;> simp
  unfold setterMethod
  simp only [List.count_append, hwords, hbreak, hindent]
  omega

end Field

theorem count_members (hc : IsForeign c) (hbreak : s.lineBreak.count c = 0)
    (hindent : s.indent.count c = 0) (fields : List Field) :
    (fields.flatMap (·.definition s)).count c + (fields.flatMap Field.localEntry).count c +
      (fields.flatMap (·.setterMethod s)).count c =
        (fields.flatMap Field.copies).count c + 3 * fields.length * s.terminator.count c := by
  induction fields with
  | nil => simp
  | cons f fields ih =>
    have hdefinition := f.count_definition hc s
    have hentry := f.count_localEntry hc
    have hsetter := f.count_setterMethod hc hbreak hindent
    simp only [List.flatMap_cons, List.count_append, List.length_cons, Field.copies, Nat.mul_succ,
      Nat.add_mul] at ih ⊢
    omega

/-- A foreign character stands in a class only where its names, its types and its terminators do. -/
theorem count_assemble (hc : IsForeign c) (hbreak : s.lineBreak.count c = 0)
    (hindent : s.indent.count c = 0) (base declared : Text) (fields : List Field) :
    (assemble base declared fields s).count c = base.count c + declared.count c +
      (fields.flatMap Field.copies).count c +
      (3 * fields.length + 1) * s.terminator.count c := by
  have hmembers := count_members hc hbreak hindent fields
  have hwords : "export class ".toList.count c = 0 ∧ "Builder \x7b".toList.count c = 0 ∧
      "public build(): ".toList.count c = 0 ∧ " \x7b".toList.count c = 0 ∧
      "return \x7b".toList.count c = 0 ∧ "\x7d".toList.count c = 0 := by
    obtain rfl | rfl := hc <;> simp
  have hcomma : [','].count c = 0 := by
    obtain rfl | rfl := hc <;> decide
  have hjoin : (',' :: s.lineBreak ++ s.indent ++ s.indent ++ s.indent).count c = 0 := by
    rw [← List.singleton_append]
    simp only [List.count_append, hcomma, hbreak, hindent]
  have hline : (s.lineBreak ++ s.indent).count c = 0 := by
    simp only [List.count_append, hbreak, hindent]
  have hblank : (s.lineBreak ++ s.lineBreak ++ s.indent).count c = 0 := by
    simp only [List.count_append, hbreak, hindent]
  unfold assemble classText Members.ofFields
  simp only [List.count_append, count_intercalate hjoin, count_intercalate hline,
    count_intercalate hblank, ← List.flatMap_def, hwords, hbreak, hindent]
  simp only [Nat.add_mul] at hmembers ⊢
  omega

namespace Field

theorem count_semicolon_copies (f : Field) :
    f.copies.count ';' = 5 * f.name.count ';' + 2 * f.typeExpression.count ';' := by
  have hkept : ∀ t : Text, (stripMarker t).count ';' = t.count ';' := fun t =>
    List.count_filter (by decide)
  have hupper : (capitalize f.name).count ';' = f.name.count ';' :=
    count_capitalize (by decide) f.name
  simp only [copies, property, setter, List.count_append, hkept, hupper]
  omega

end Field

namespace Interface

theorem IsScanned.count_copies (h : IsScanned f) :
    f.copies.count ';' = if f.name.getLast? = some ';' then 5 else 0 := by
  obtain ⟨⟨run, c, hname, hrun, _⟩, htype⟩ := h
  have hword : ';' ∉ run := fun hm => absurd (hrun _ hm) (by decide)
  have hends : ';' ∉ f.typeExpression := fun hm => absurd (htype _ hm) (by decide)
  rw [f.count_semicolon_copies, List.count_eq_zero.2 hends, hname, List.count_append,
    List.count_eq_zero.2 hword, List.getLast?_concat]
  by_cases hc : c = ';' <;> simp [hc]

theorem count_copies (h : ∀ f ∈ fields, IsScanned f) :
    (fields.flatMap Field.copies).count ';' =
      5 * fields.countP (fun f => f.name.getLast? = some ';') := by
  induction fields with
  | nil => rfl
  | cons f fields ih =>
    have hrest := ih fun g hg => h g (List.mem_cons_of_mem f hg)
    rw [List.flatMap_cons, List.count_append, List.countP_cons, hrest,
      (h f List.mem_cons_self).count_copies]
    by_cases hf : f.name.getLast? = some ';' <;> simp [hf]
    omega

end Interface

theorem countP_semicolon_of_not_mem (h : (byPattern t).result = .ok fields) (ht : ';' ∉ t) :
    fields.countP (fun f => f.name.getLast? = some ';') = 0 := by
  rw [List.countP_eq_zero]
  intro f hf hlast
  have hmem : ';' ∈ f.name := List.mem_of_getLast? (by simpa using hlast)
  exact ht ((infix_of_mem_propertyNames (mem_of_byPattern h f hf).1).subset hmem)

namespace IsForeign

theorem isWord_eq_false (hc : IsForeign c) : isWord c = false := by
  obtain rfl | rfl := hc <;> decide

theorem count_word (hc : IsForeign c) (ht : ∀ x ∈ t, isWord x = true) : t.count c = 0 := by
  rw [List.count_eq_zero]
  intro hm
  exact absurd (ht c hm) (by simp [hc.isWord_eq_false])

theorem count_lineBreak (hc : IsForeign c) (hs : s.IsPlain) : s.lineBreak.count c = 0 := by
  obtain h | h := hs.lineBreak
  · rw [h]
    obtain rfl | rfl := hc <;> decide
  · rw [h]
    obtain rfl | rfl := hc <;> decide

theorem count_indent (hc : IsForeign c) (hs : s.IsPlain) : s.indent.count c = 0 := by
  rw [List.count_eq_zero]
  intro hm
  have hblank := hs.indent c hm
  obtain rfl | rfl := hc <;> exact absurd hblank (by decide)

theorem count_content (hc : IsForeign c) (h : (analyze t config byPattern).result = .ok d) :
    d.content.count c = (d.fields.flatMap Field.copies).count c +
      (3 * d.fields.length + 1) * d.style.terminator.count c := by
  have hstyle := Declaration.plain_style h
  have hplain := Declaration.plain h
  rw [Declaration.content, count_assemble hc (hc.count_lineBreak hstyle) (hc.count_indent hstyle),
    hc.count_word hplain.base, hc.count_word hplain.declared]
  omega

end IsForeign

theorem Config.count_terminator (config : Config) (t : Text) :
    (config.style t).terminator.count ';' = if ';' ∈ t then 1 else 0 := by
  rw [style, Style.terminator_sniff]
  split <;> rfl

theorem Declaration.count_semicolon_content (h : (analyze t config byPattern).result = .ok d) :
    d.content.count ';' = (if ';' ∈ t then 3 * d.fields.length + 1 else 0) +
      5 * d.fields.countP (fun f => f.name.getLast? = some ';') := by
  rw [IsForeign.count_content (.inl rfl) h, count_copies (scanned_of_byPattern (fields_of_analyze h)),
    style_of_analyze h, config.count_terminator]
  split <;> omega

/-- A builder file has a terminator behind every statement or behind none, as its document has a
semicolon or not. Beyond these it has the semicolons of names, five for each that ends in one. -/
theorem generate_semicolons (document : Document) (config : Config) (file : File)
    (h : (generate document config byPattern).result = .ok file) :
    ∃ d, (analyze document.text config byPattern).result = .ok d ∧
      let named := d.fields.countP fun f => f.name.getLast? = some ';'
      file.content.count ';' =
          (if ';' ∈ document.text then 3 * d.fields.length + 1 else 0) + 5 * named ∧
        (';' ∉ document.text → named = 0) := by
  obtain ⟨d, hd, rfl⟩ := generate_eq_ok_iff.1 h
  refine ⟨d, hd, Declaration.count_semicolon_content hd, ?_⟩
  intro hnone
  obtain ⟨_, _, _, fields, _, hfields, rfl⟩ := analyze_eq_ok_iff.1 hd
  exact countP_semicolon_of_not_mem hfields hnone

/-- The semicolon of its first member stands before the colon, and so within a name. -/
def misplaced : Document where
  path := "misplaced.ts".toList
  text := "export interface IRow \x7b\n  key;: string\n  size: number\n\x7d".toList

def misplacedDeclaration : Declaration where
  name := "IRow".toList
  baseName := "Row".toList
  style := ⟨['\n'], [';'], [' ', ' ']⟩
  fields := [⟨"key;".toList, "string".toList⟩, ⟨"size".toList, "number".toList⟩]

theorem analyze_misplaced :
    (analyze misplaced.text { lineBreak := .lf } byPattern).result = .ok misplacedDeclaration := by
  rfl

theorem generate_semicolons_misplaced :
    let file := misplacedDeclaration.file misplaced.path
    (generate misplaced { lineBreak := .lf } byPattern).result = .ok file ∧
      file.content.count ';' = 12 := by
  have h : (generate misplaced { lineBreak := .lf } byPattern).result =
      .ok (misplacedDeclaration.file misplaced.path) :=
    generate_eq_ok_iff.2 ⟨misplacedDeclaration, analyze_misplaced, rfl⟩
  obtain ⟨d, hd, hcount, _⟩ := generate_semicolons misplaced { lineBreak := .lf } _ h
  cases hd.symm.trans analyze_misplaced
  exact ⟨h, hcount⟩

end FluentBuilder
