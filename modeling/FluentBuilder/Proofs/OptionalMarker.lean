import FluentBuilder.Proofs.Agreement
import FluentBuilder.Proofs.Terminators
import Mathlib.Data.List.Forall2

/-! The marker of optional properties. A scan leaves it at the end of a name only, an inspection tells
it apart from the property, and no builder class has one that stems from a name. -/
namespace FluentBuilder
open Text Interface
variable {t : Text} {config : Config} {d : Declaration} {f : Field} {fields : List Field} {s : Style}

/-! ### What a row tells of its field -/

namespace Field

theorem marker_not_mem_property (f : Field) : '?' ∉ f.property := by simp [property, stripMarker]

theorem marker_not_mem_setter (f : Field) : '?' ∉ f.setter := by simp [setter, stripMarker]

/-- A word has no marker, so the last character of a name is the only one that can be it. -/
theorem name_eq_property_append (h : IsName f.name) :
    f.name = f.property ++ if f.isOptional then ['?'] else [] := by
  obtain ⟨run, c, hname, hrun, _⟩ := h
  have hkept : stripMarker run = run := by
    rw [stripMarker, List.filter_eq_self]
    intro x hx
    apply decide_eq_true
    rintro rfl
    exact absurd (hrun '?' hx) (by decide)
  unfold property isOptional
  rw [hname, stripMarker_append, hkept, List.getLast?_concat]
  by_cases hc : c = '?' <;> simp [hc, stripMarker]

end Field

/-- A row has all of its field: the name, which may have a marker at its end and none before, the
property that the setter is named after, and the type. -/
structure Row.Tells (row : Row) (f : Field) : Prop where
  once : f.name.count '?' ≤ 1
  last : '?' ∉ f.name.dropLast
  name : f.name = row.property ++ if row.optional then ['?'] else []
  setter : f.setter = capitalize row.property
  type : f.typeExpression = row.typeExpression

theorem Field.row_tells (h : IsName f.name) : f.row.Tells f := by
  have hname : f.name = f.row.property ++ if f.row.optional then ['?'] else [] :=
    name_eq_property_append h
  have hfree : '?' ∉ f.row.property := f.marker_not_mem_property
  refine ⟨?_, ?_, hname, setter_eq_capitalize h, rfl⟩
  · rw [hname, List.count_append, List.count_eq_zero.2 hfree]
    split <;> simp
  · rw [hname]
    split
    · rwa [List.dropLast_concat]
    · rw [List.append_nil]
      exact fun hm => hfree (List.dropLast_subset _ hm)

theorem Declaration.rows_tell (h : ∀ f ∈ d.fields, IsScanned f) :
    List.Forall₂ Row.Tells d.inspection.rows d.fields := by
  rw [inspection, List.forall₂_map_left_iff, List.forall₂_same]
  exact fun f hf => Field.row_tells (h f hf).name

/-! ### The markers of a class -/

theorem Field.count_marker_copies (f : Field) :
    f.copies.count '?' = 2 * f.typeExpression.count '?' := by
  have hproperty := List.count_eq_zero.2 f.marker_not_mem_property
  have hsetter := List.count_eq_zero.2 f.marker_not_mem_setter
  simp only [copies, List.count_append, hproperty, hsetter]
  omega

theorem count_marker_copies (fields : List Field) : (fields.flatMap Field.copies).count '?' =
    2 * (fields.flatMap Field.typeExpression).count '?' := by
  induction fields with
  | nil => rfl
  | cons f fields ih =>
    rw [List.flatMap_cons, List.count_append, ih, f.count_marker_copies, List.flatMap_cons,
      List.count_append, Nat.mul_add]

theorem Declaration.count_marker_content (h : (analyze t config byPattern).result = .ok d) :
    d.content.count '?' = 2 * (d.fields.flatMap Field.typeExpression).count '?' := by
  have hend : d.style.terminator.count '?' = 0 := by
    obtain hend | hend := (plain_style h).terminator
    · rw [hend]
      rfl
    · rw [hend]
      rfl
  rw [IsForeign.count_content (.inr rfl) h, count_marker_copies, hend, Nat.mul_zero, Nat.add_zero]

/-- Where an inspection succeeds, its rows tell the names found in the text with their markers, the
builder file has the setters of the rows, and its markers are those of the types, each twice. -/
theorem inspect_optional (document : Document) (config : Config) (i : Inspection)
    (h : (inspect document.text config).result = .ok i) :
    ∃ fields file lines, (byPattern document.text).result = .ok fields ∧
      extractPropertyNames document.text = .ok (fields.map Field.name) ∧
      List.Forall₂ Row.Tells i.rows fields ∧
      (generate document config byPattern).result = .ok file ∧
      file.content = unlines config.lineBreak.text lines ∧ (∀ l ∈ lines, IsLine l) ∧
      LineKind.setter.select lines =
        i.rows.map (·.setterLine (List.replicate config.indent ' ')) ∧
      file.content.count '?' = 2 * (i.rows.flatMap Row.typeExpression).count '?' := by
  obtain ⟨d, hd, rfl⟩ := inspect_eq_ok_iff.1 h
  have hfields := fields_of_analyze hd
  have hscan := scanned_of_byPattern hfields
  have hstyle := Declaration.plain_style hd
  have hdescribes := Declaration.describes hstyle.indent hstyle.terminator hscan
  refine ⟨d.fields, d.file document.path, d.lines, hfields, ?names, Declaration.rows_tell hscan,
    ?file, Declaration.content_eq_unlines hd, Declaration.isLine_of_mem_lines hd, ?setters, ?count⟩
  case names =>
    rw [map_name_of_byPattern hfields, extractPropertyNames_of_has (byPattern_eq_ok_iff.1 hfields).1]
  case file => rw [generate_of_ok hd]
  case setters =>
    have hunit : d.style.indent = List.replicate config.indent ' ' := by
      rw [style_of_analyze hd]
      rfl
    rw [hdescribes.setters, hunit]
  case count =>
    have htypes : d.inspection.rows.flatMap Row.typeExpression =
        d.fields.flatMap Field.typeExpression := by
      rw [List.flatMap_def, Declaration.map_rows, List.flatMap_def]
      rfl
    rw [htypes]
    exact Declaration.count_marker_content hd

def box : Document where
  path := "box.ts".toList
  text := "export interface IBox \x7b\n  key?: K extends string ? A : B\n  tag: string\n\x7d".toList

def boxDeclaration : Declaration where
  name := "IBox".toList
  baseName := "Box".toList
  style := ⟨['\n'], [], [' ', ' ']⟩
  fields := [⟨"key?".toList, "K extends string ? A : B".toList⟩, ⟨"tag".toList, "string".toList⟩]

theorem analyze_box :
    (analyze box.text { lineBreak := .lf } byPattern).result = .ok boxDeclaration := by rfl

theorem inspect_optional_box :
    (inspect box.text { lineBreak := .lf }).result = .ok boxDeclaration.inspection ∧
      ∃ file lines, (generate box { lineBreak := .lf } byPattern).result = .ok file ∧
        file.content = unlines ['\n'] lines ∧
        (LineKind.setter.select lines)[0]? =
          some "  public withKey(value: K extends string ? A : B) \x7b".toList ∧
        file.content.count '?' = 2 := by
  have h : (inspect box.text { lineBreak := .lf }).result = .ok boxDeclaration.inspection :=
    inspect_eq_ok_iff.2 ⟨boxDeclaration, analyze_box, rfl⟩
  obtain ⟨_, file, lines, _, _, _, hfile, hcontent, _, hsetters, hcount⟩ :=
    inspect_optional box { lineBreak := .lf } _ h
  refine ⟨h, file, lines, hfile, hcontent, ?_, hcount⟩
  rw [hsetters]
  decide

/-! ### Assembly without markers -/

namespace Field

def bare (f : Field) : Field := { f with name := stripMarker f.name }

theorem property_bare (f : Field) : f.bare.property = f.property := stripMarker_idem f.name

theorem typeExpression_bare (f : Field) : f.bare.typeExpression = f.typeExpression := rfl

theorem default_bare (f : Field) : f.bare.default = f.default := rfl

/-- A capital may be several characters, but it has a marker only if it was one. -/
theorem setter_bare (h : f.name.head? ≠ some '?') : f.bare.setter = f.setter := by
  have hfree : f.property.head? ≠ some '?' := fun he =>
    f.marker_not_mem_property (List.mem_of_mem_head? he)
  calc
    f.bare.setter = capitalize (stripMarker f.property) := stripMarker_capitalize hfree
    _ = capitalize f.property := by rw [property, stripMarker_idem]
    _ = f.setter := (stripMarker_capitalize h).symm

theorem definition_bare (s : Style) (f : Field) : f.bare.definition s = f.definition s := by
  unfold definition
  rw [property_bare, typeExpression_bare, default_bare]

theorem localEntry_bare (f : Field) : f.bare.localEntry = f.localEntry := by
  unfold localEntry
  rw [property_bare]

theorem setterMethod_bare (h : f.name.head? ≠ some '?') (s : Style) :
    f.bare.setterMethod s = f.setterMethod s := by
  unfold setterMethod
  rw [property_bare, typeExpression_bare, setter_bare h]

end Field

/-- A class is the same with and without the markers of its fields, wherever in a name they stand
and however many there are, as long as none stands first. -/
theorem assemble_bare (base declared : Text) (fields : List Field) (s : Style)
    (h : ∀ f ∈ fields, f.name.head? ≠ some '?') :
    assemble base declared fields s = assemble base declared (fields.map Field.bare) s := by
  have hdefinitions : ∀ f ∈ fields, f.bare.definition s = f.definition s := fun f _ =>
    f.definition_bare s
  have hentries : ∀ f ∈ fields, f.bare.localEntry = f.localEntry := fun f _ => f.localEntry_bare
  have hsetters : ∀ f ∈ fields, f.bare.setterMethod s = f.setterMethod s := fun f hf =>
    Field.setterMethod_bare (h f hf) s
  have hmembers : Members.ofFields s (fields.map Field.bare) = Members.ofFields s fields := by
    simp only [Members.ofFields, List.map_map, Function.comp_def, List.map_congr_left hdefinitions,
      List.map_congr_left hentries, List.map_congr_left hsetters]
  rw [assemble, assemble, hmembers]

theorem assemble_bare_inner :
    let fields : List Field := [⟨"ße?s?".toList, "A".toList⟩, ⟨"n??".toList, "B".toList⟩]
    (∀ f ∈ fields, f.name.head? ≠ some '?') ∧ ∀ s,
      assemble "X".toList "IX".toList fields s = assemble "X".toList "IX".toList
        [⟨"ßes".toList, "A".toList⟩, ⟨"n".toList, "B".toList⟩] s := by
  intro fields
  have h : ∀ f ∈ fields, f.name.head? ≠ some '?' := by decide
  exact ⟨h, fun s => assemble_bare "X".toList "IX".toList fields s h⟩

/-- A marker that stands first takes the place of the capital. -/
example : (⟨"?a".toList, "A".toList⟩ : Field).setter = "a".toList ∧
    (⟨"?a".toList, "A".toList⟩ : Field).bare.setter = "A".toList := by decide

end FluentBuilder
