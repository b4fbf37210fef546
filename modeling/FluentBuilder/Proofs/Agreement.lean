import FluentBuilder.Inspection
import FluentBuilder.Proofs.Effects
import FluentBuilder.Proofs.LineBreaks

/-! An inspection tells what the builder file has, line by line, and it fails where no file is
made. -/
namespace FluentBuilder
open Text Interface
variable {t x w : Text} {config : Config} {d : Declaration} {f : Field} {s : Style}

/-- What a line of a builder class is for. -/
inductive LineKind where
  | definition
  | signature
  | entry
  | setter
  | other
deriving DecidableEq

namespace LineKind
variable {k : LineKind} {lines : List Text}

def ofWord (word rest : Text) : LineKind :=
  if word = "private".toList then definition
  else if word = "public".toList ∧ " build(): ".toList <+: rest then signature
  else if word = "public".toList ∧ " with".toList <+: rest then setter
  else if word.getLast? = some ':' ∧ " this.".toList <+: rest then entry
  else other

def ofLine (line : Text) : LineKind :=
  let bare := line.dropWhile (· = ' ')
  ofWord (bare.takeWhile (· ≠ ' ')) (bare.dropWhile (· ≠ ' '))

theorem ofLine_indent (h : ∀ c ∈ t, c = ' ') (x : Text) : ofLine (t ++ x) = ofLine x := by
  have hall : ∀ c ∈ t, decide (c = ' ') = true := fun c hc => decide_eq_true (h c hc)
  unfold ofLine
  rw [List.dropWhile_append_of_pos hall]

theorem ofLine_word (hne : w ≠ []) (hw : ' ' ∉ w) (rest : Text) :
    ofLine (w ++ ' ' :: rest) = ofWord w (' ' :: rest) := by
  have hall : ∀ c ∈ w, decide (c ≠ ' ') = true := by
    intro c hc
    apply decide_eq_true
    rintro rfl
    exact hw hc
  have hbare : (w ++ ' ' :: rest).dropWhile (· = ' ') = w ++ ' ' :: rest := by
    obtain ⟨c, w, rfl⟩ := List.exists_cons_of_ne_nil hne
    have hc : c ≠ ' ' := by simpa using hall c List.mem_cons_self
    simp [hc]
  simp only [ofLine, hbare, List.takeWhile_append_of_pos hall, List.dropWhile_append_of_pos hall]
  simp

def select (k : LineKind) (lines : List Text) : List Text := lines.filter (ofLine · = k)

theorem select_nil : k.select [] = [] := rfl

theorem select_cons (l : Text) :
    k.select (l :: lines) = if ofLine l = k then l :: k.select lines else k.select lines := by
  simp [select, List.filter_cons]

theorem select_append (ls : List Text) : k.select (lines ++ ls) = k.select lines ++ k.select ls :=
  List.filter_append lines ls

theorem select_of_forall {j : LineKind} (h : ∀ l ∈ lines, ofLine l = j) :
    k.select lines = if j = k then lines else [] := by
  by_cases hj : j = k
  · rw [if_pos hj, select, List.filter_eq_self]
    intro l hl
    rw [h l hl]
    exact decide_eq_true hj
  · rw [if_neg hj, select, List.filter_eq_nil_iff]
    intro l hl
    rw [h l hl]
    simpa using hj

theorem select_intercalate (hk : k ≠ other) (blocks : List (List Text)) :
    k.select (List.intercalate [[]] blocks) = blocks.flatMap k.select := by
  have hempty : k.select [[]] = [] := by
    rw [select_of_forall (j := other) (by decide), if_neg hk.symm]
  induction blocks with
  | nil => rfl
  | cons x blocks ih =>
    cases blocks with
    | nil => simp
    | cons y blocks =>
      rw [List.intercalate_cons_cons, select_append, select_append, hempty, ih]
      simp

end LineKind

namespace Field
open LineKind

theorem ofLine_assignment (hblank : ' ' ∉ f.property) (x : Text) :
    ofLine ("this.".toList ++ f.property ++ " = value".toList ++ x) = .other := by
  have hword : ' ' ∉ "this.".toList ++ f.property := by simp [hblank]
  have hshape : "this.".toList ++ f.property ++ " = value".toList ++ x =
      ("this.".toList ++ f.property) ++ ' ' :: ("= value".toList ++ x) := by simp
  rw [hshape, ofLine_word (by simp) hword]
  simp [ofWord]

section
variable (hindent : ∀ c ∈ s.indent, c = ' ')
include hindent

theorem ofLine_definitionLine : ofLine (f.definitionLine s) = .definition := by
  rw [definitionLine, ofLine_indent hindent]
  rfl

theorem ofLine_setterLine : ofLine (f.setterLine s) = .setter := by
  rw [setterLine, ofLine_indent hindent]
  rfl

variable (hblank : ' ' ∉ f.property)
include hblank

theorem ofLine_entryLine (sep : Text) : ofLine (f.entryLine s ++ sep) = .entry := by
  have hword : ' ' ∉ f.property ++ [':'] := by simp [hblank]
  have hshape : f.entryLine s ++ sep = s.indent ++ (s.indent ++ (s.indent ++
      ((f.property ++ [':']) ++ ' ' :: ("this.".toList ++ (f.property ++ sep))))) := by
    simp [entryLine, localEntry]
  have hlast : (f.property ++ [':']).getLast? = some ':' := by simp
  -- with a colon at its end, the first word is none of the others
  have hne : f.property ++ [':'] ≠ "private".toList ∧ f.property ++ [':'] ≠ "public".toList := by
    constructor
    · intro he
      rw [he] at hlast
      exact absurd hlast (by decide)
    · intro he
      rw [he] at hlast
      exact absurd hlast (by decide)
  have hthis : " this.".toList <+: ' ' :: ("this.".toList ++ (f.property ++ sep)) :=
    ⟨f.property ++ sep, rfl⟩
  rw [hshape, ofLine_indent hindent, ofLine_indent hindent, ofLine_indent hindent,
    ofLine_word (by simp) hword]
  simp only [ofWord, hne, hlast, hthis, false_and, and_self, if_false, if_true]

theorem select_setterLines {k : LineKind} (hk : k ≠ .other) :
    k.select (f.setterLines s) = if .setter = k then [f.setterLine s] else [] := by
  have hassignment := f.ofLine_assignment hblank s.terminator
  have hreturn : ofLine ("return this".toList ++ s.terminator) = .other := rfl
  have hbrace : ofLine "\x7d".toList = .other := by decide
  simp only [setterLines, select_cons, select_nil, ofLine_setterLine hindent,
    ofLine_indent hindent, hassignment, hreturn, hbrace, hk.symm, if_false]

end

end Field

section
variable {base declared : Text} {fields : List Field} {k : LineKind}
  (hindent : ∀ c ∈ s.indent, c = ' ') (hend : s.terminator = [] ∨ s.terminator = [';'])
  (hblank : ∀ f ∈ fields, ' ' ∉ f.property)
include hindent hend hblank
open LineKind

theorem select_classLines (hk : k ≠ .other) :
    k.select (classLines base declared fields s) =
      (if .definition = k then fields.map (·.definitionLine s) else []) ++
      (if .signature = k then
        [s.indent ++ ("public build(): ".toList ++ declared ++ " \x7b".toList)] else []) ++
      (if .entry = k then listed [','] (fields.map (·.entryLine s)) else []) ++
      (if .setter = k then fields.map (·.setterLine s) else []) := by
  have hheader : ofLine ("export class ".toList ++ base ++ "Builder \x7b".toList) = .other := rfl
  have hsignature :
      ofLine ("public build(): ".toList ++ declared ++ " \x7b".toList) = .signature := rfl
  have hreturn : ofLine "return \x7b".toList = .other := by decide
  have hbrace : ofLine "\x7d".toList = .other := by decide
  have hempty : ofLine [] = .other := by decide
  -- here the terminator is part of the first word, where any text could end it with a colon
  have hclose : ofLine ("\x7d".toList ++ s.terminator) = .other := by
    obtain hend | hend := hend
    · rw [hend]
      decide
    · rw [hend]
      decide
  have hdefinitions : ∀ l ∈ fields.map (·.definitionLine s), ofLine l = .definition := by
    intro l hl
    obtain ⟨f, _, rfl⟩ := List.mem_map.1 hl
    exact f.ofLine_definitionLine hindent
  have hentries : ∀ l ∈ listed [','] (fields.map (·.entryLine s)), ofLine l = .entry := by
    intro l hl
    obtain ⟨x, hx, hl⟩ := mem_listed hl
    obtain ⟨f, hf, rfl⟩ := List.mem_map.1 hx
    obtain rfl | rfl := hl
    · have hbare := f.ofLine_entryLine hindent (hblank f hf) []
      rwa [List.append_nil] at hbare
    · exact f.ofLine_entryLine hindent (hblank f hf) [',']
  have hsetters : k.select (List.intercalate [[]] (fields.map (·.setterLines s))) =
      if .setter = k then fields.map (·.setterLine s) else [] := by
    have hblock : ∀ f ∈ fields, k.select (f.setterLines s) =
        if .setter = k then [f.setterLine s] else [] :=
      fun f hf => f.select_setterLines hindent (hblank f hf) hk
    rw [select_intercalate hk, List.flatMap_map, List.flatMap_congr hblock]
    split
    · rw [List.map_eq_flatMap]
    · simp
  simp only [classLines, select_append, select_of_forall hdefinitions, select_of_forall hentries,
    hsetters, select_cons, select_nil, ofLine_indent hindent, hheader, hsignature, hreturn, hbrace,
    hempty, hclose, hk.symm, if_false, List.nil_append, List.append_nil]

end

/-! ### Inspections -/

namespace Row

def definitionLine (unit terminator : Text) (row : Row) : Text :=
  unit ++ "private ".toList ++ row.property ++ ": ".toList ++ row.typeExpression ++ " = ".toList ++
    row.default ++ terminator

def entryLine (unit : Text) (row : Row) : Text :=
  unit ++ unit ++ unit ++ row.property ++ ": this.".toList ++ row.property

def setterLine (unit : Text) (row : Row) : Text :=
  unit ++ "public with".toList ++ capitalize row.property ++ "(value: ".toList ++
    row.typeExpression ++ ") \x7b".toList

end Row

namespace Inspection

/-- The lines of a file have what is inspected: every row with its definition in its place, its
entry in what `build()` returns and its setter, and none of these beyond the rows. -/
structure Describes (i : Inspection) (unit : Text) (lines : List Text) : Prop where
  header : lines.head? = some ("export class ".toList ++ i.builder ++ " \x7b".toList)
  definition : ∀ k row, i.rows[k]? = some row →
    lines[k + 1]? = some (row.definitionLine unit i.terminator)
  definitions : LineKind.definition.select lines = i.rows.map (·.definitionLine unit i.terminator)
  entries : LineKind.entry.select lines = listed [','] (i.rows.map (·.entryLine unit))
  setters : LineKind.setter.select lines = i.rows.map (·.setterLine unit)
  signature : LineKind.signature.select lines =
    [unit ++ "public build(): ".toList ++ i.declared ++ " \x7b".toList]

end Inspection

namespace Field

theorem row_definitionLine (f : Field) (s : Style) :
    f.row.definitionLine s.indent s.terminator = f.definitionLine s := by
  unfold Row.definitionLine Field.definitionLine definition row
  simp only [List.append_assoc]

theorem row_entryLine (f : Field) (s : Style) : f.row.entryLine s.indent = f.entryLine s := by
  unfold Row.entryLine Field.entryLine localEntry row
  simp only [List.append_assoc]

theorem stripMarker_uppercase {c : Char} (hc : c ≠ '?') :
    stripMarker (uppercase c) = uppercase c := by
  rw [stripMarker, List.filter_eq_self]
  intro e he
  apply decide_eq_true
  rintro rfl
  cases mem_uppercase he with
  | inl he => exact hc he.symm
  | inr he => exact absurd he (by decide)

theorem stripMarker_capitalize (ht : t.head? ≠ some '?') :
    stripMarker (capitalize t) = capitalize (stripMarker t) := by
  cases t with
  | nil => rfl
  | cons c t =>
    have hc : c ≠ '?' := by simpa using ht
    have hkept : stripMarker (c :: t) = c :: stripMarker t := by simp [stripMarker, hc]
    rw [hkept, capitalize, capitalize, stripMarker_append, stripMarker_uppercase hc]

/-- The marker stands last in a name, so it cannot take the place of the capital. -/
theorem setter_eq_capitalize (h : IsName f.name) : f.setter = capitalize f.property := by
  obtain ⟨run, c, hname, hrun, _⟩ := h
  unfold setter property
  rw [hname]
  cases run with
  | nil =>
    by_cases hc : c = '?'
    · rw [hc]
      rfl
    · exact stripMarker_capitalize (by simpa using hc)
  | cons e run =>
    apply stripMarker_capitalize
    rintro ⟨⟩
    exact absurd (hrun '?' List.mem_cons_self) (by decide)

theorem row_setterLine (h : IsName f.name) (s : Style) :
    f.row.setterLine s.indent = f.setterLine s := by
  unfold Row.setterLine Field.setterLine row
  simp only [setter_eq_capitalize h, List.append_assoc]

theorem blank_not_mem_property (h : IsName f.name) : ' ' ∉ f.property := by
  intro hm
  have hblank := isBlank_of_mem_name h (List.mem_of_mem_filter hm)
  exact absurd hblank (by decide)

end Field

namespace Declaration

theorem getElem?_lines {k : Nat} (h : d.fields[k]? = some f) :
    d.lines[k + 1]? = some (f.definitionLine d.style) := by
  have hlines : ∃ header rest,
      d.lines = header :: (d.fields.map (·.definitionLine d.style) ++ rest) := by
    rw [lines, classLines]
    simp only [List.append_assoc, List.cons_append, List.nil_append]
    exact ⟨_, _, rfl⟩
  obtain ⟨header, rest, hlines⟩ := hlines
  have hlt : k < d.fields.length := (List.getElem?_eq_some_iff.1 h).1
  rw [hlines, List.getElem?_cons_succ, List.getElem?_append_left (by rwa [List.length_map]),
    List.getElem?_map, h]
  rfl

theorem map_rows {α : Type} (g : Row → α) :
    d.inspection.rows.map g = d.fields.map fun f => g f.row := by
  rw [inspection, List.map_map]
  rfl

theorem describes (hindent : ∀ c ∈ d.style.indent, c = ' ')
    (hend : d.style.terminator = [] ∨ d.style.terminator = [';'])
    (hfields : ∀ f ∈ d.fields, IsScanned f) :
    d.inspection.Describes d.style.indent d.lines := by
  have hblank : ∀ f ∈ d.fields, ' ' ∉ f.property := fun f hf =>
    Field.blank_not_mem_property (hfields f hf).name
  have hselect : ∀ k : LineKind, k ≠ .other → k.select d.lines = _ := fun k hk =>
    select_classLines hindent hend hblank hk
  refine ⟨?header, ?definition, ?definitions, ?entries, ?setters, ?signature⟩
  case header => simp [lines, classLines, inspection]
  case definition =>
    intro k row hrow
    rw [inspection, List.getElem?_map, Option.map_eq_some_iff] at hrow
    obtain ⟨f, hf, rfl⟩ := hrow
    rw [getElem?_lines hf, ← f.row_definitionLine]
    rfl
  case definitions =>
    rw [hselect .definition (by decide), map_rows]
    simp [inspection, Field.row_definitionLine]
  case entries =>
    rw [hselect .entry (by decide), map_rows]
    simp [Field.row_entryLine]
  case setters =>
    have hsetters : d.fields.map (fun f => f.row.setterLine d.style.indent) =
        d.fields.map (·.setterLine d.style) :=
      List.map_congr_left fun f hf => Field.row_setterLine (hfields f hf).name d.style
    rw [hselect .setter (by decide), map_rows, hsetters]
    simp
  case signature =>
    rw [hselect .signature (by decide)]
    simp [inspection]

end Declaration

theorem result_inspect (t : Text) (config : Config) : (inspect t config).result =
    (analyze t config byPattern).result.map Declaration.inspection := by
  have hmap : inspect t config =
      analyze t config byPattern >>= fun d => pure d.inspection := rfl
  rw [hmap, Traced.bind_result]
  rfl

theorem inspect_eq_ok_iff {i : Inspection} : (inspect t config).result = .ok i ↔
    ∃ d, (analyze t config byPattern).result = .ok d ∧ d.inspection = i := by
  rw [result_inspect, map_eq_ok_iff]

/-- An inspection and a builder file come of the same documents, and one describes the other. -/
theorem inspect_generate (document : Document) (config : Config)
    (h : config.indent < Style.maxIndent) :
    (∃ e, (inspect document.text config).result = .error (.failed e) ∧
      (generate document config byPattern).result = .error (.failed e)) ∨
    ∃ i file lines, (inspect document.text config).result = .ok i ∧
      (generate document config byPattern).result = .ok file ∧
      file.content = unlines config.lineBreak.text lines ∧ (∀ l ∈ lines, IsLine l) ∧
      i.Describes (List.replicate config.indent ' ') lines ∧
      ∀ k ∈ [LineKind.definition, .entry, .setter], (k.select lines).length = i.rows.length := by
  rw [result_inspect]
  match hresult : (analyze document.text config byPattern).result with
  | .error (.failed e) =>
    rw [generate_of_error hresult]
    exact .inl ⟨e, rfl, rfl⟩
  | .error .indentTooWide => exact absurd hresult (analyze_ne_wide h)
  | .ok d =>
    have hdescribes : d.inspection.Describes (List.replicate config.indent ' ') d.lines := by
      obtain ⟨_, _, name, fields, _, hfields, rfl⟩ := analyze_eq_ok_iff.1 hresult
      apply Declaration.describes
      · exact fun c hc => List.eq_of_mem_replicate hc
      · exact Config.terminator_style _ _
      · exact scanned_of_byPattern hfields
    rw [generate_of_ok hresult]
    refine .inr ⟨d.inspection, d.file document.path, d.lines, rfl, rfl,
      Declaration.content_eq_unlines hresult, Declaration.isLine_of_mem_lines hresult,
      hdescribes, ?_⟩
    simp [hdescribes.definitions, hdescribes.entries, hdescribes.setters]

theorem inspect_notes : ({ lineBreak := .lf } : Config).indent < Style.maxIndent ∧
    ∃ file lines, (generate notes { lineBreak := .lf } byPattern).result = .ok file ∧
      file.content = unlines ['\n'] lines ∧
      lines[0]? = some "export class NoteBuilder \x7b".toList ∧
      lines[2]? = some "  private done: boolean = false".toList ∧
      (LineKind.setter.select lines).length = 2 := by
  have hindent : ({ lineBreak := .lf } : Config).indent < Style.maxIndent := by decide
  have hnotes : (inspect notes.text { lineBreak := .lf }).result =
      .ok notesDeclaration.inspection := by
    rw [result_inspect, analyze_notes]
    rfl
  obtain ⟨e, he, _⟩ | ⟨i, file, lines, hi, hfile, hcontent, _, hdescribes, hcount⟩ :=
    inspect_generate notes { lineBreak := .lf } hindent
  · cases hnotes.symm.trans he
  · cases hi.symm.trans hnotes
    refine ⟨hindent, file, lines, hfile, hcontent, ?_, ?_, hcount .setter (by simp)⟩
    · rw [← List.head?_eq_getElem?, hdescribes.header]
      decide
    · rw [hdescribes.definition 1 _ rfl]
      decide

end FluentBuilder
