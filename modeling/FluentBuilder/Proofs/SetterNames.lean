import FluentBuilder.Proofs.OptionalMarker
import FluentBuilder.Proofs.ReadBack

/-! When two setters of a class have the same name. The capital hides the case of a first letter of
ASCII and nothing else. -/
namespace FluentBuilder
open Text Interface
variable {t : Text} {config : Config} {d : Declaration} {f : Field} {s : Style}

namespace Text
variable {x y : Text} {c d : Char}

theorem toNat_toUpper (c : Char) : c.toUpper.toNat =
    if 97 ≤ c.toNat ∧ c.toNat ≤ 122 then c.toNat - 32 else c.toNat := by
  unfold Char.toUpper
  split
  case isTrue h =>
    change 97 ≤ c.toNat ∧ c.toNat ≤ 122 at h
    have hsum : (c.val + ('A'.val - 'a'.val)).toNat = (c.toNat + 4294967264) % 4294967296 :=
      UInt32.toNat_add _ _
    rw [if_pos h]
    change (c.val + ('A'.val - 'a'.val)).toNat = c.toNat - 32
    omega
  case isFalse h =>
    change ¬ (97 ≤ c.toNat ∧ c.toNat ≤ 122) at h
    rw [if_neg h]

theorem toNat_toLower (c : Char) : c.toLower.toNat =
    if 65 ≤ c.toNat ∧ c.toNat ≤ 90 then c.toNat + 32 else c.toNat := by
  unfold Char.toLower
  split
  case isTrue h =>
    change 65 ≤ c.toNat ∧ c.toNat ≤ 90 at h
    have hsum : (c.val + ('a'.val - 'A'.val)).toNat = (c.toNat + 32) % 4294967296 :=
      UInt32.toNat_add _ _
    rw [if_pos h]
    change (c.val + ('a'.val - 'A'.val)).toNat = c.toNat + 32
    omega
  case isFalse h =>
    change ¬ (65 ≤ c.toNat ∧ c.toNat ≤ 90) at h
    rw [if_neg h]

theorem isUpper_iff : c.isUpper = true ↔ 65 ≤ c.toNat ∧ c.toNat ≤ 90 := by
  unfold Char.isUpper
  rw [decide_eq_true_iff]
  rfl

def DifferInCase (c d : Char) : Prop :=
  (c.isUpper = true ∧ d = c.toLower) ∨ (d.isUpper = true ∧ c = d.toLower)

theorem toUpper_eq_iff : c.toUpper = d.toUpper ↔ c = d ∨ DifferInCase c d := by
  simp only [DifferInCase, ← Char.toNat_inj, toNat_toUpper, toNat_toLower, isUpper_iff]
  grind

/-- Equal, or different in the case of the first letter only. -/
def SameButCase (x y : Text) : Prop :=
  x = y ∨ ∃ c d r, x = c :: r ∧ y = d :: r ∧ DifferInCase c d

def BeginsAscii (t : Text) : Prop := ∀ c ∈ t.head?, c.toNat < 128

theorem capitalize_cons (h : BeginsAscii (c :: t)) : capitalize (c :: t) = c.toUpper :: t := by
  have hc : c.toNat < 128 := h c rfl
  rw [capitalize, uppercase, if_pos hc, List.singleton_append]

theorem capitalize_eq_iff (hx : BeginsAscii x) (hy : BeginsAscii y) :
    capitalize x = capitalize y ↔ SameButCase x y := by
  unfold SameButCase
  cases x with
  | nil =>
    cases y with
    | nil => simp
    | cons d y =>
      rw [capitalize_cons hy, capitalize]
      simp
  | cons c x =>
    cases y with
    | nil =>
      rw [capitalize_cons hx, capitalize]
      simp
    | cons d y =>
      rw [capitalize_cons hx, capitalize_cons hy, List.cons.injEq, List.cons.injEq, toUpper_eq_iff]
      constructor
      · rintro ⟨rfl | h, rfl⟩
        · exact .inl ⟨rfl, rfl⟩
        · exact .inr ⟨c, d, x, rfl, rfl, h⟩
      · rintro (⟨rfl, rfl⟩ | ⟨_, _, r, ⟨⟩, ⟨⟩, h⟩)
        · exact ⟨.inl rfl, rfl⟩
        · exact ⟨.inr h, rfl⟩

end Text

namespace Field

theorem beginsAscii_property (h : IsName f.name) (hf : BeginsAscii f.name) :
    BeginsAscii f.property := by
  have hname := name_eq_property_append h
  cases hproperty : f.property with
  | nil => simp [BeginsAscii]
  | cons c r =>
    rw [hname, hproperty] at hf
    exact hf

theorem setter_eq_iff {g : Field} (hf : IsName f.name) (hg : IsName g.name)
    (hfa : BeginsAscii f.name) (hga : BeginsAscii g.name) :
    f.setter = g.setter ↔ SameButCase f.property g.property := by
  rw [setter_eq_capitalize hf, setter_eq_capitalize hg,
    capitalize_eq_iff (beginsAscii_property hf hfa) (beginsAscii_property hg hga)]

theorem blank_not_mem_setter (h : IsName f.name) : ' ' ∉ f.setter := by
  rw [setter_eq_capitalize h, ← List.count_eq_zero, count_capitalize (by decide),
    List.count_eq_zero]
  exact blank_not_mem_property h

end Field

/-- The name of a setter in its first line, such as `Foo` in `public withFoo(value: string)`. -/
def setterNameOf (line : Text) : Text :=
  let words := (line.dropWhile (· = ' ')).drop "public ".length
  between "with".toList "(value:".toList (words.takeWhile (· ≠ ' '))

theorem setterNameOf_setterLine (h : IsName f.name) (hindent : ∀ c ∈ s.indent, c = ' ') :
    setterNameOf (f.setterLine s) = f.setter := by
  have hall : ∀ c ∈ s.indent, decide (c = ' ') = true := fun c hc => decide_eq_true (hindent c hc)
  have hword : ' ' ∉ "with".toList ++ (f.setter ++ "(value:".toList) := by
    simp [Field.blank_not_mem_setter h]
  have hshape : f.setterLine s = s.indent ++ ("public ".toList ++
      (("with".toList ++ (f.setter ++ "(value:".toList)) ++
        ' ' :: (f.typeExpression ++ ") \x7b".toList))) := by
    simp [Field.setterLine]
  have hbare : (f.setterLine s).dropWhile (· = ' ') = "public ".toList ++
      (("with".toList ++ (f.setter ++ "(value:".toList)) ++
        ' ' :: (f.typeExpression ++ ") \x7b".toList)) := by
    rw [hshape, List.dropWhile_append_of_pos hall]
    rfl
  unfold setterNameOf
  rw [hbare]
  simp only [← String.length_toList, List.drop_left, (cut_first hword _).1, between_append]

theorem Declaration.setterNames (h : (analyze t config byPattern).result = .ok d) :
    (LineKind.setter.select d.lines).map setterNameOf = d.fields.map Field.setter := by
  have hscan := scanned_of_byPattern (fields_of_analyze h)
  have hstyle := plain_style h
  rw [(describes hstyle.indent hstyle.terminator hscan).setters, map_rows, List.map_map]
  apply List.map_congr_left
  intro f hf
  rw [Function.comp, Field.row_setterLine (hscan f hf).name,
    setterNameOf_setterLine (hscan f hf).name hstyle.indent]

/-- Of the names found in a text, two that begin in ASCII give setters of one name exactly if they
are one property but for the case of its first letter. The setters of a class are those of its
fields, so it has one twice for such fields only. -/
theorem setters_collide (t : Text) :
    (∀ names, extractPropertyNames t = .ok names →
      ∀ n ∈ names, ∀ m ∈ names, BeginsAscii n → BeginsAscii m →
        (stripMarker (capitalize n) = stripMarker (capitalize m) ↔
          SameButCase (stripMarker n) (stripMarker m))) ∧
    ∀ path config file, (generate ⟨path, t⟩ config byPattern).result = .ok file →
      ∃ fields lines setters, (byPattern t).result = .ok fields ∧
        file.content = unlines config.lineBreak.text lines ∧ (∀ l ∈ lines, IsLine l) ∧
        (LineKind.setter.select lines).map setterNameOf = setters ∧
        setters.length = fields.length ∧
        ∀ i j (hi : i < fields.length) (hj : j < fields.length),
          BeginsAscii fields[i].name → BeginsAscii fields[j].name →
          (setters[i]? = setters[j]? ↔ SameButCase fields[i].property fields[j].property) := by
  refine ⟨?names, ?setters⟩
  case names =>
    intro names hnames n hn m hm hna hma
    obtain ⟨_, rfl⟩ := extractPropertyNames_eq_ok_iff.1 hnames
    exact Field.setter_eq_iff (f := ⟨n, []⟩) (g := ⟨m, []⟩) (isName_of_mem_propertyNames hn)
      (isName_of_mem_propertyNames hm) hna hma
  case setters =>
    intro path config file hfile
    obtain ⟨d, hd, rfl⟩ := generate_eq_ok_iff.1 hfile
    have hfields := fields_of_analyze hd
    have hscan := scanned_of_byPattern hfields
    refine ⟨d.fields, d.lines, _, hfields, Declaration.content_eq_unlines hd,
      Declaration.isLine_of_mem_lines hd, Declaration.setterNames hd, List.length_map .., ?_⟩
    intro i j hi hj hfa hga
    rw [List.getElem?_map, List.getElem?_map, List.getElem?_eq_getElem hi,
      List.getElem?_eq_getElem hj, Option.map_some, Option.map_some, Option.some_inj]
    exact Field.setter_eq_iff (hscan _ (List.getElem_mem hi)).name
      (hscan _ (List.getElem_mem hj)).name hfa hga

/-- Beyond ASCII a capital may be that of another property, even one of more characters. -/
example : (⟨"ß".toList, []⟩ : Field).setter = (⟨"SS".toList, []⟩ : Field).setter := by decide

def pen : Document where
  path := "pen.ts".toList
  text := "export interface IPen \x7b\n  Ink: string\n  ink?: Ink\n\x7d".toList

def penDeclaration : Declaration where
  name := "IPen".toList
  baseName := "Pen".toList
  style := ⟨['\n'], [], [' ', ' ']⟩
  fields := [⟨"Ink".toList, "string".toList⟩, ⟨"ink?".toList, "Ink".toList⟩]

theorem analyze_pen :
    (analyze pen.text { lineBreak := .lf } byPattern).result = .ok penDeclaration := by rfl

theorem setters_collide_pen :
    ∃ file lines, (generate pen { lineBreak := .lf } byPattern).result = .ok file ∧
      file.content = unlines ['\n'] lines ∧
      let setters := (LineKind.setter.select lines).map setterNameOf
      setters.length = 2 ∧ setters[0]? = setters[1]? := by
  have hfile : (generate pen { lineBreak := .lf } byPattern).result =
      .ok (penDeclaration.file pen.path) := generate_eq_ok_iff.2 ⟨penDeclaration, analyze_pen, rfl⟩
  obtain ⟨fields, lines, _, hfields, hcontent, _, rfl, hlength, hcollide⟩ :=
    (setters_collide pen.text).2 _ _ _ hfile
  cases hfields.symm.trans (fields_of_analyze analyze_pen)
  refine ⟨_, lines, hfile, hcontent, hlength, (hcollide 0 1 (by decide) (by decide) ?_ ?_).2 ?_⟩
  · simp [BeginsAscii, penDeclaration]
  · simp [BeginsAscii, penDeclaration]
  · exact .inr ⟨'I', 'i', "nk".toList, rfl, rfl, .inl ⟨rfl, rfl⟩⟩

end FluentBuilder
