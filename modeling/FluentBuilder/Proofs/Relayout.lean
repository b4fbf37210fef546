import FluentBuilder.Proofs.Agreement
import Mathlib.Data.List.Forall2

/-! What the configured layout decides: line breaks and leading spaces, and nothing behind them. -/
namespace FluentBuilder
open Text Interface
variable {t : Text} {config c₁ c₂ : Config} {d : Declaration}

namespace Text
variable {sep x y : Text} {lines : List Text} {c : Char}

/-- The parts of a text between the places where `sep` stands, found from the left; `skip` characters
belong to a place already found. -/
def partsFrom (sep : Text) : (skip : Nat) → Text → List Text
  | _, [] => [[]]
  | skip + 1, _ :: t => partsFrom sep skip t
  | 0, c :: t =>
    if sep.isPrefixOf (c :: t) then [] :: partsFrom sep (sep.length - 1) t
    else
      match partsFrom sep 0 t with
      | [] => [[c]]
      | part :: parts => (c :: part) :: parts

def parts (sep t : Text) : List Text := partsFrom sep 0 t

theorem partsFrom_append (x : Text) : partsFrom sep x.length (x ++ y) = parts sep y := by
  induction x with
  | nil => rfl
  | cons c x ih => exact ih

theorem parts_append_sep (h : sep ≠ []) (y : Text) : parts sep (sep ++ y) = [] :: parts sep y := by
  obtain ⟨c, rest, rfl⟩ := List.exists_cons_of_ne_nil h
  have hstart : (c :: rest).isPrefixOf (c :: (rest ++ y)) = true :=
    List.isPrefixOf_iff_prefix.2 ⟨y, rfl⟩
  rw [List.cons_append, parts, partsFrom, if_pos hstart]
  exact congrArg _ (partsFrom_append rest)

theorem parts_line (hx : c ∉ x) (y : Text) :
    parts (c :: sep) (x ++ (c :: sep ++ y)) = x :: parts (c :: sep) y := by
  induction x with
  | nil => exact parts_append_sep (by simp) y
  | cons a x ih =>
    rw [List.mem_cons, not_or] at hx
    obtain ⟨ha, hx⟩ := hx
    have hstart : ¬ (c :: sep).isPrefixOf (a :: (x ++ (c :: sep ++ y))) = true := by
      rw [List.isPrefixOf_iff_prefix, List.cons_prefix_cons]
      exact fun h => ha h.1
    have hrest : partsFrom (c :: sep) 0 (x ++ (c :: sep ++ y)) = _ := ih hx
    rw [List.cons_append, parts, partsFrom, if_neg hstart, hrest]

theorem parts_of_not_mem (hx : c ∉ x) : parts (c :: sep) x = [x] := by
  induction x with
  | nil => rfl
  | cons a x ih =>
    rw [List.mem_cons, not_or] at hx
    obtain ⟨ha, hx⟩ := hx
    have hstart : ¬ (c :: sep).isPrefixOf (a :: x) = true := by
      rw [List.isPrefixOf_iff_prefix, List.cons_prefix_cons]
      exact fun h => ha h.1
    have hrest : partsFrom (c :: sep) 0 x = [x] := ih hx
    rw [parts, partsFrom, if_neg hstart, hrest]

theorem parts_unlines (h : ∀ l ∈ lines, c ∉ l) :
    parts (c :: sep) (unlines (c :: sep) lines) = lines ++ [[]] := by
  induction lines with
  | nil => rfl
  | cons l lines ih =>
    have hrest := ih fun l' hl' => h l' (List.mem_cons_of_mem l hl')
    rw [unlines_cons, parts_line (h l List.mem_cons_self), hrest, List.cons_append]

theorem listed_map {g : Text → Text} (hg : ∀ x, g (x ++ sep) = g x ++ sep) (xs : List Text) :
    listed sep (xs.map g) = (listed sep xs).map g := by
  induction xs using listed.induct with
  | case1 => rfl
  | case2 => rfl
  | case3 x y xs ih =>
    rw [List.map_cons] at ih
    rw [List.map_cons, List.map_cons, listed, ih, listed, List.map_cons, hg]

theorem map_intercalate {α β : Type} (g : α → β) (sep : List α) (blocks : List (List α)) :
    (sep.intercalate blocks).map g = (sep.map g).intercalate (blocks.map (·.map g)) := by
  induction blocks with
  | nil => rfl
  | cons x blocks ih =>
    cases blocks with
    | nil => simp
    | cons y blocks =>
      rw [List.map_cons] at ih
      rw [List.intercalate_cons_cons, List.map_append, List.map_append, ih, List.map_cons,
        List.map_cons, List.intercalate_cons_cons]

end Text

structure Nested where
  depth : Nat
  text : Text

def indentBy (unit : Text) : (depth : Nat) → Text → Text
  | 0, t => t
  | depth + 1, t => unit ++ indentBy unit depth t

theorem indentBy_spaces (k depth : Nat) (t : Text) :
    indentBy (List.replicate k ' ') depth t = List.replicate (depth * k) ' ' ++ t := by
  induction depth with
  | zero => simp [indentBy]
  | succ depth ih =>
    rw [indentBy, ih, Nat.succ_mul, Nat.add_comm, List.replicate_add, List.append_assoc]

theorem indentBy_append (unit : Text) (depth : Nat) (x y : Text) :
    indentBy unit depth (x ++ y) = indentBy unit depth x ++ y := by
  induction depth with
  | zero => rfl
  | succ depth ih => rw [indentBy, ih, indentBy, List.append_assoc]

def Nested.line (unit : Text) (l : Nested) : Text := indentBy unit l.depth l.text

def Field.nestedDefinition (terminator : Text) (f : Field) : Nested where
  depth := 1
  text := "private ".toList ++ f.property ++ ": ".toList ++ f.typeExpression ++ " = ".toList ++
    f.default ++ terminator

def Field.nestedSetter (terminator : Text) (f : Field) : List Nested := [
  ⟨1, "public with".toList ++ f.setter ++ "(value: ".toList ++ f.typeExpression ++ ") \x7b".toList⟩,
  ⟨2, "this.".toList ++ f.property ++ " = value".toList ++ terminator⟩,
  ⟨2, "return this".toList ++ terminator⟩,
  ⟨1, "\x7d".toList⟩]

def nestedLines (base declared : Text) (fields : List Field) (terminator : Text) : List Nested :=
  [⟨0, "export class ".toList ++ base ++ "Builder \x7b".toList⟩] ++
  fields.map (·.nestedDefinition terminator) ++
  [⟨0, []⟩, ⟨1, "public build(): ".toList ++ declared ++ " \x7b".toList⟩,
    ⟨2, "return \x7b".toList⟩] ++
  (listed [','] (fields.map Field.localEntry)).map (fun entry => ⟨3, entry⟩) ++
  [⟨2, "\x7d".toList ++ terminator⟩, ⟨1, "\x7d".toList⟩, ⟨0, []⟩] ++
  List.intercalate [⟨0, []⟩] (fields.map (·.nestedSetter terminator)) ++
  [⟨0, "\x7d".toList⟩]

theorem classLines_eq_map (base declared : Text) (fields : List Field) (s : Style) :
    classLines base declared fields s =
      (nestedLines base declared fields s.terminator).map (Nested.line s.indent) := by
  have hdefinitions : fields.map (·.definitionLine s) =
      (fields.map (·.nestedDefinition s.terminator)).map (Nested.line s.indent) := by
    rw [List.map_map]
    rfl
  have hentries : listed [','] (fields.map (·.entryLine s)) =
      ((listed [','] (fields.map Field.localEntry)).map fun entry => (⟨3, entry⟩ : Nested)).map
        (Nested.line s.indent) := by
    have hmap : fields.map (·.entryLine s) =
        (fields.map Field.localEntry).map (indentBy s.indent 3) := by
      rw [List.map_map]
      rfl
    -- The comma stands behind what is indented, so that it may be put there first.
    rw [hmap, listed_map fun x => indentBy_append s.indent 3 x [','], List.map_map]
    rfl
  have hsetters : List.intercalate [[]] (fields.map (·.setterLines s)) =
      (List.intercalate [⟨0, []⟩] (fields.map (·.nestedSetter s.terminator))).map
        (Nested.line s.indent) := by
    rw [map_intercalate, List.map_map]
    rfl
  unfold classLines nestedLines
  rw [hdefinitions, hentries, hsetters]
  simp only [List.map_append]
  rfl

namespace Nested

/-- Its depth is one that a class has, and its text brings no indentation of its own. -/
structure IsFlush (l : Nested) : Prop where
  depth : l.depth ≤ 3
  text : l.text.head? ≠ some ' '

end Nested

theorem Field.flush_localEntry {f : Field} (hblank : ' ' ∉ f.property) (rest : Text) :
    (⟨3, f.localEntry ++ rest⟩ : Nested).IsFlush := by
  refine ⟨Nat.le_refl 3, ?_⟩
  have hshape : f.localEntry ++ rest = f.property ++ (": this.".toList ++ f.property ++ rest) := by
    simp only [localEntry, List.append_assoc]
  rw [hshape]
  cases h : f.property with
  | nil => simp
  | cons c property =>
    rw [h, List.mem_cons, not_or] at hblank
    simpa using Ne.symm hblank.1

theorem Field.flush_nestedSetter (f : Field) (terminator : Text) :
    ∀ l ∈ f.nestedSetter terminator, l.IsFlush := by
  unfold nestedSetter
  rw [List.forall_mem_cons, List.forall_mem_cons, List.forall_mem_cons, List.forall_mem_singleton]
  exact ⟨⟨by simp, by simp⟩, ⟨by simp, by simp⟩, ⟨by simp, by simp⟩, ⟨by simp, by simp⟩⟩

theorem flush_nil : (⟨0, []⟩ : Nested).IsFlush := ⟨by decide, by decide⟩

section
variable {base declared terminator : Text} {fields : List Field}

theorem flush_of_mem_setters :
    ∀ l ∈ List.intercalate [⟨0, []⟩] (fields.map (·.nestedSetter terminator)), l.IsFlush := by
  intro l hl
  obtain rfl | ⟨block, hblock, hl⟩ := mem_intercalate hl
  · exact flush_nil
  · obtain ⟨f, _, rfl⟩ := List.mem_map.1 hblock
    exact f.flush_nestedSetter terminator l hl

variable (hfields : ∀ f ∈ fields, ' ' ∉ f.property)
include hfields

theorem flush_of_mem_entries : ∀ entry ∈ listed [','] (fields.map Field.localEntry),
    (⟨3, entry⟩ : Nested).IsFlush := by
  intro entry hentry
  obtain ⟨x, hx, hentry⟩ := mem_listed hentry
  obtain ⟨f, hf, rfl⟩ := List.mem_map.1 hx
  obtain rfl | rfl := hentry
  · simpa using f.flush_localEntry (hfields f hf) []
  · exact f.flush_localEntry (hfields f hf) [',']

theorem flush_of_mem_nestedLines :
    ∀ l ∈ nestedLines base declared fields terminator, l.IsFlush := by
  have hdefinition (f : Field) : (f.nestedDefinition terminator).IsFlush := by
    unfold Field.nestedDefinition
    exact ⟨by simp, by simp⟩
  have hheader : (⟨0, "export class ".toList ++ base ++ "Builder \x7b".toList⟩ : Nested).IsFlush :=
    ⟨by simp, by simp⟩
  have hsignature :
      (⟨1, "public build(): ".toList ++ declared ++ " \x7b".toList⟩ : Nested).IsFlush :=
    ⟨by simp, by simp⟩
  have hreturn : (⟨2, "return \x7b".toList⟩ : Nested).IsFlush := ⟨by simp, by simp⟩
  have hclose : (⟨2, "\x7d".toList ++ terminator⟩ : Nested).IsFlush := ⟨by simp, by simp⟩
  have hbrace (depth : Nat) (h : depth ≤ 3) : (⟨depth, "\x7d".toList⟩ : Nested).IsFlush :=
    ⟨h, by simp⟩
  unfold nestedLines
  simp only [List.forall_mem_append, List.forall_mem_cons, List.forall_mem_map, List.not_mem_nil,
    false_implies, implies_true, hheader, hsignature, hreturn, hclose, hbrace 0 (by decide),
    hbrace 1 (by decide), flush_nil, true_and, and_true]
  exact ⟨⟨fun f _ => hdefinition f, flush_of_mem_entries hfields⟩, flush_of_mem_setters⟩

end

/-- With the same rule for names, an analysis depends on the configuration in its style alone. -/
theorem result_analyze_of_same_prefix (t : Text) (extractor : Extractor)
    (hstrip : c₁.stripInterfacePrefix = c₂.stripInterfacePrefix)
    (h₁ : c₁.indent < Style.maxIndent) (h₂ : c₂.indent < Style.maxIndent) :
    (analyze t c₂ extractor).result =
      (analyze t c₁ extractor).result.map fun d => { d with style := c₂.style t } := by
  have hend := analyzed t c₁ extractor
  generalize analyze t c₁ extractor = r at hend
  cases hend with
  | noText ht =>
    rw [eq_of_analyzed (.noText ht)]
    rfl
  | callable ht hc =>
    rw [eq_of_analyzed (.callable ht hc)]
    rfl
  | unmarked ht hc hm =>
    rw [eq_of_analyzed (.unmarked ht hc hm)]
    rfl
  | wide _ hw => omega
  | unnamed ht _ hn =>
    rw [eq_of_analyzed (.unnamed ht h₂ hn)]
    rfl
  | refused ht _ hn hx =>
    rw [eq_of_analyzed (.refused ht h₂ hn hx)]
    rfl
  | declared ht _ hn hx =>
    rw [eq_of_analyzed (.declared ht h₂ hn hx)]
    simp [Except.map, Config.declaration, Config.baseName, hstrip]

namespace Declaration

theorem parts_content (h : (analyze t config byPattern).result = .ok d) :
    parts config.lineBreak.text d.content = d.lines ++ [[]] := by
  have hline := isLine_of_mem_lines h
  rw [content_eq_unlines h]
  -- Only the first character of the line break matters: no line has it.
  cases config.lineBreak with
  | crlf => exact parts_unlines fun l hl hm => (hline l hl _ hm).2 rfl
  | lf => exact parts_unlines fun l hl hm => (hline l hl _ hm).1 rfl

end Declaration

/-- At one depth both lines have the same text, each behind its own indentation. -/
def SameAtDepth (k₁ k₂ : Nat) (l₁ l₂ : Text) : Prop :=
  ∃ depth ≤ 3, ∃ rest : Text, rest.head? ≠ some ' ' ∧
    l₁ = List.replicate (depth * k₁) ' ' ++ rest ∧ l₂ = List.replicate (depth * k₂) ' ' ++ rest

theorem sameAtDepth_line {l : Nested} (h : l.IsFlush) (k₁ k₂ : Nat) :
    SameAtDepth k₁ k₂ (l.line (List.replicate k₁ ' ')) (l.line (List.replicate k₂ ' ')) :=
  ⟨l.depth, h.depth, l.text, h.text, indentBy_spaces k₁ l.depth l.text,
    indentBy_spaces k₂ l.depth l.text⟩

theorem forall₂_classLines {base declared : Text} {fields : List Field} {s₁ s₂ : Style}
    {k₁ k₂ : Nat} (hend : s₁.terminator = s₂.terminator) (h₁ : s₁.indent = List.replicate k₁ ' ')
    (h₂ : s₂.indent = List.replicate k₂ ' ') (hfields : ∀ f ∈ fields, ' ' ∉ f.property) :
    List.Forall₂ (SameAtDepth k₁ k₂) (classLines base declared fields s₁)
      (classLines base declared fields s₂) := by
  rw [classLines_eq_map, classLines_eq_map, hend, h₁, h₂, List.forall₂_map_left_iff,
    List.forall₂_map_right_iff, List.forall₂_same]
  intro l hl
  exact sameAtDepth_line (flush_of_mem_nestedLines hfields l hl) k₁ k₂

/-- The configured layout decides the line breaks and the indentation of a file, and nothing else. -/
theorem generate_relayout (document : Document) (c₁ c₂ : Config)
    (hstrip : c₁.stripInterfacePrefix = c₂.stripInterfacePrefix)
    (h₁ : c₁.indent < Style.maxIndent) (h₂ : c₂.indent < Style.maxIndent) :
    (∃ e, (generate document c₁ byPattern).result = .error (.failed e) ∧
      (generate document c₂ byPattern).result = .error (.failed e)) ∨
    ∃ f₁ f₂, (generate document c₁ byPattern).result = .ok f₁ ∧
      (generate document c₂ byPattern).result = .ok f₂ ∧ f₁.path = f₂.path ∧
      List.Forall₂ (SameAtDepth c₁.indent c₂.indent)
        (parts c₁.lineBreak.text f₁.content) (parts c₂.lineBreak.text f₂.content) := by
  have hresult := result_analyze_of_same_prefix document.text byPattern hstrip h₁ h₂
  match ha : (analyze document.text c₁ byPattern).result with
  | .error .indentTooWide => exact absurd ha (analyze_ne_wide h₁)
  | .error (.failed e) =>
    rw [ha] at hresult
    rw [generate_of_error ha, generate_of_error hresult]
    exact .inl ⟨e, rfl, rfl⟩
  | .ok d =>
    rw [ha] at hresult
    rw [generate_of_ok ha, generate_of_ok hresult]
    refine .inr ⟨_, _, rfl, rfl, rfl, ?_⟩
    have hlast : SameAtDepth c₁.indent c₂.indent [] [] := ⟨0, by simp, [], by simp, by simp, by simp⟩
    simp only [Declaration.file, Declaration.parts_content ha, Declaration.parts_content hresult]
    obtain ⟨_, _, name, fields, _, hfields, rfl⟩ := analyze_eq_ok_iff.1 ha
    have hblank : ∀ f ∈ fields, ' ' ∉ f.property := fun f hf =>
      Field.blank_not_mem_property (scanned_of_byPattern hfields f hf).name
    have hend : (c₁.style document.text).terminator = (c₂.style document.text).terminator := rfl
    exact List.rel_append (forall₂_classLines hend rfl rfl hblank) (.cons hlast .nil)

theorem generate_notes_wide :
    let narrow : Config := { lineBreak := .lf }
    let wide : Config := { lineBreak := .crlf, indent := 4 }
    (narrow.stripInterfacePrefix = wide.stripInterfacePrefix ∧ narrow.indent < Style.maxIndent ∧
      wide.indent < Style.maxIndent) ∧
    ∃ file, (generate notes wide byPattern).result = .ok file ∧
      List.Forall₂ (SameAtDepth 2 4) (parts ['\n'] notesDeclaration.content)
        (parts ['\r', '\n'] file.content) := by
  intro narrow wide
  have h : narrow.stripInterfacePrefix = wide.stripInterfacePrefix ∧
      narrow.indent < Style.maxIndent ∧ wide.indent < Style.maxIndent := by decide
  refine ⟨h, ?_⟩
  have hnotes : (generate notes narrow byPattern).result =
      .ok (notesDeclaration.file notes.path) :=
    generate_eq_ok_iff.2 ⟨notesDeclaration, analyze_notes, rfl⟩
  obtain ⟨e, he, _⟩ | ⟨f₁, f₂, hf₁, hf₂, _, hlines⟩ :=
    generate_relayout notes narrow wide h.1 h.2.1 h.2.2
  · cases hnotes.symm.trans he
  · cases hf₁.symm.trans hnotes
    exact ⟨f₂, hf₂, hlines⟩

end FluentBuilder
