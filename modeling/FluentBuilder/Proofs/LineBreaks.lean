import FluentBuilder.Proofs.Course
import FluentBuilder.Proofs.Declaration
import FluentBuilder.Proofs.Extraction
import FluentBuilder.Proofs.Layout

/-! The line breaks of a builder file: the configured one behind every line and no other anywhere,
whatever stood in the document. -/
namespace FluentBuilder
open Text Interface
variable {t : Text} {config : Config} {d : Declaration}

namespace Text
variable {lines : List Text} {x y : Text}

theorem newline_of_unlines_crlf (h : ∀ l ∈ lines, '\r' ∉ l)
    (hxy : unlines ['\r', '\n'] lines = x ++ '\r' :: y) : y.head? = some '\n' := by
  induction lines generalizing x with
  | nil => simp at hxy
  | cons l lines ih =>
    have hl := h l List.mem_cons_self
    rw [unlines_cons, List.append_eq_append_iff] at hxy
    -- the text is cut behind the first line or within it, and the line has no such character
    obtain ⟨z, hx, hz⟩ | ⟨z, hl', hz⟩ := hxy
    · match z with
      | [] =>
        obtain ⟨_, rfl⟩ := List.cons.inj hz
        rfl
      | [_] => simp at hz
      | _ :: _ :: z =>
        obtain ⟨_, hz⟩ := List.cons.inj hz
        obtain ⟨_, hz⟩ := List.cons.inj hz
        exact ih (fun l' hm => h l' (List.mem_cons_of_mem l hm)) hz
    · match z with
      | [] =>
        obtain ⟨_, rfl⟩ := List.cons.inj hz
        rfl
      | c :: z =>
        obtain ⟨rfl, _⟩ := List.cons.inj hz
        rw [hl'] at hl
        exact absurd (by simp) hl

end Text

theorem Config.baseName_subset (config : Config) (name : Text) : config.baseName name ⊆ name := by
  unfold baseName
  split
  · rw [baseName_eq]
    split
    · exact (List.tail_sublist name).subset
    · exact List.Subset.refl name
  · exact List.Subset.refl name

structure Style.IsPlain (s : Style) : Prop where
  lineBreak : s.lineBreak = ['\n'] ∨ s.lineBreak = ['\r', '\n']
  terminator : s.terminator = [] ∨ s.terminator = [';']
  indent : ∀ c ∈ s.indent, c = ' '

namespace Style.IsPlain
variable {s : Style}

theorem isLine_indent (h : s.IsPlain) : IsLine s.indent := by
  intro c hc
  rw [h.indent c hc]
  decide

theorem isLine_terminator (h : s.IsPlain) : IsLine s.terminator := by
  obtain h | h := h.terminator
  · rw [h]
    decide
  · rw [h]
    decide

end Style.IsPlain

/-- Names are made of word characters, and fields have no blank in their names and no line break in
their types. -/
structure IsPlain (base declared : Text) (fields : List Field) : Prop where
  base : ∀ c ∈ base, isWord c = true
  declared : ∀ c ∈ declared, isWord c = true
  name : ∀ f ∈ fields, ∀ c ∈ f.name, isBlank c = false
  type : ∀ f ∈ fields, IsLine f.typeExpression

theorem isLine_of_isWord (h : ∀ c ∈ t, isWord c = true) : IsLine t :=
  isLine_of_forall isBlank (by decide) (by decide) fun c hc => isBlank_eq_false_of_isWord (h c hc)

theorem IsPlain.isLine_of_mem_classLines {base declared : Text} {fields : List Field} {s : Style}
    (h : IsPlain base declared fields) (hs : s.IsPlain) :
    ∀ l ∈ classLines base declared fields s, IsLine l := by
  refine FluentBuilder.isLine_of_mem_classLines (isLine_of_isWord h.base)
    (isLine_of_isWord h.declared) hs.isLine_indent hs.isLine_terminator fun f hf => ?_
  exact ⟨isLine_of_forall isBlank (by decide) (by decide) (h.name f hf), h.type f hf⟩

namespace Declaration

def lines (d : Declaration) : List Text := classLines d.baseName d.name d.fields d.style

theorem plain_style (h : (analyze t config byPattern).result = .ok d) : d.style.IsPlain := by
  rw [style_of_analyze h]
  refine ⟨?_, config.terminator_style t, fun c hc => List.eq_of_mem_replicate hc⟩
  change config.lineBreak.text = _ ∨ config.lineBreak.text = _
  cases config.lineBreak with
  | crlf => exact .inr rfl
  | lf => exact .inl rfl

theorem plain (h : (analyze t config byPattern).result = .ok d) :
    IsPlain d.baseName d.name d.fields := by
  obtain ⟨_, _, name, fields, hname, hfields, rfl⟩ := analyze_eq_ok_iff.1 h
  have hword := isWord_of_mem_name? hname
  have hscan := scanned_of_byPattern hfields
  exact ⟨fun c hc => hword c (config.baseName_subset name hc), hword,
    fun f hf c => isBlank_of_mem_name (hscan f hf).name,
    fun f hf => isLine_of_forall endsType (by decide) (by decide) (hscan f hf).type⟩

/-- The analysis lets no line break of the document into a declaration. -/
theorem isLine_of_mem_lines (h : (analyze t config byPattern).result = .ok d) :
    ∀ l ∈ d.lines, IsLine l :=
  (plain h).isLine_of_mem_classLines (plain_style h)

theorem fields_ne_nil (h : (analyze t config byPattern).result = .ok d) : d.fields ≠ [] :=
  ne_nil_of_byPattern (fields_of_analyze h)

theorem content_eq_unlines (h : (analyze t config byPattern).result = .ok d) :
    d.content = unlines config.lineBreak.text d.lines := by
  have hbreak : d.style.lineBreak = config.lineBreak.text := by
    rw [style_of_analyze h]
    rfl
  rw [← hbreak]
  exact assemble_eq_unlines (fields_ne_nil h) d.style d.baseName d.name

theorem count_content (h : (analyze t config byPattern).result = .ok d) {c : Char}
    (hc : c = '\n' ∨ c = '\r') :
    d.content.count c = (7 * d.fields.length + 7) * config.lineBreak.text.count c := by
  have hfree : ∀ l ∈ d.lines, c ∉ l := by
    intro l hl hm
    obtain ⟨hn, hr⟩ := isLine_of_mem_lines h l hl c hm
    cases hc with
    | inl hc => exact hn hc
    | inr hc => exact hr hc
  rw [content_eq_unlines h, count_unlines hfree, lines, length_classLines (fields_ne_nil h)]

theorem brace_suffix_content (h : (analyze t config byPattern).result = .ok d) :
    "\x7d".toList ++ config.lineBreak.text <:+ d.content := by
  have hlast : unlines config.lineBreak.text ["\x7d".toList] =
      "\x7d".toList ++ config.lineBreak.text := by simp
  rw [content_eq_unlines h, lines, classLines, unlines_append, hlast]
  exact List.suffix_append _ _

end Declaration

/-- The line breaks of a builder file are all of the configured kind, and how many there are depends
on the number of fields alone. -/
theorem generate_line_breaks (document : Document) (config : Config) (file : File)
    (h : (generate document config byPattern).result = .ok file) :
    ∃ d, (analyze document.text config byPattern).result = .ok d ∧ 1 ≤ d.fields.length ∧
      (config.lineBreak = .lf → '\r' ∉ file.content ∧
        file.content.count '\n' = 7 * d.fields.length + 7) ∧
      (config.lineBreak = .crlf →
        file.content.count '\r' = 7 * d.fields.length + 7 ∧
        file.content.count '\n' = 7 * d.fields.length + 7 ∧
        ∀ x y, file.content = x ++ '\r' :: y → y.head? = some '\n') ∧
      "\x7d".toList ++ config.lineBreak.text <:+ file.content := by
  obtain ⟨d, hd, rfl⟩ := generate_eq_ok_iff.1 h
  have hn := Declaration.count_content hd (.inl rfl)
  have hr := Declaration.count_content hd (.inr rfl)
  refine ⟨d, hd, List.length_pos_iff.2 (Declaration.fields_ne_nil hd), ?_, ?_,
    Declaration.brace_suffix_content hd⟩
  · intro hlf
    rw [hlf] at hn hr
    exact ⟨List.count_eq_zero.1 (hr.trans (Nat.mul_zero _)), hn.trans (Nat.mul_one _)⟩
  · intro hcrlf
    have hcontent := Declaration.content_eq_unlines hd
    rw [hcrlf] at hn hr hcontent
    refine ⟨hr.trans (Nat.mul_one _), hn.trans (Nat.mul_one _), ?_⟩
    intro x y hxy
    have hfree : ∀ l ∈ d.lines, '\r' ∉ l := fun l hl hm =>
      (Declaration.isLine_of_mem_lines hd l hl '\r' hm).2 rfl
    exact newline_of_unlines_crlf hfree (hcontent.symm.trans hxy)

/-- Each of its lines ends in a way of its own. -/
def notes : Document where
  path := "notes.ts".toList
  text := "export interface INote \x7b\r\n  text: string\r  done?: boolean\n\x7d".toList

def notesDeclaration : Declaration where
  name := "INote".toList
  baseName := "Note".toList
  style := ⟨['\n'], [], [' ', ' ']⟩
  fields := [⟨"text".toList, "string".toList⟩, ⟨"done?".toList, "boolean".toList⟩]

theorem analyze_notes :
    (analyze notes.text { lineBreak := .lf } byPattern).result = .ok notesDeclaration := by rfl

theorem generate_notes :
    let file := notesDeclaration.file notes.path
    (generate notes { lineBreak := .lf } byPattern).result = .ok file ∧
      '\r' ∉ file.content ∧ file.content.count '\n' = 21 := by
  have h : (generate notes { lineBreak := .lf } byPattern).result =
      .ok (notesDeclaration.file notes.path) :=
    generate_eq_ok_iff.2 ⟨notesDeclaration, analyze_notes, rfl⟩
  obtain ⟨d, hd, _, hlf, _⟩ := generate_line_breaks notes { lineBreak := .lf } _ h
  cases hd.symm.trans analyze_notes
  exact ⟨h, hlf rfl⟩

end FluentBuilder
