import FluentBuilder.Proofs.Course
import FluentBuilder.Proofs.Declaration
import FluentBuilder.Proofs.Extraction

/-! The conventional way to print an interface, one property a line, and the analysis that undoes it. -/
namespace FluentBuilder.Printing
open Text Interface

abbrev Word := { w : Text // w ≠ [] ∧ ∀ c ∈ w, isWord c = true }

abbrev Indentation := { w : Text // ∀ c ∈ w, c = ' ' ∨ c = '\t' }

/-- A type that stays on its line and within its statement, and calls nothing. -/
structure PlainType where
  text : Text
  ne_nil : text ≠ []
  plain : ∀ c ∈ text, c ≠ ':' ∧ c ≠ ';' ∧ c ≠ '\n' ∧ c ≠ '\r'
  no_call : ¬ HasCall text

structure Line where
  indent : Indentation
  word : Word
  isOptional : Bool
  type : PlainType

namespace Line

def name (l : Line) : Text := l.word.1 ++ if l.isOptional then ['?'] else []

def field (l : Line) : Field := ⟨l.name, l.type.text⟩

def body (l : Line) : Text := l.indent.1 ++ l.name ++ ": ".toList ++ l.type.text

end Line

structure Printed where
  name : Word
  lines : List Line
  lines_ne_nil : lines ≠ []
  lineBreak : LineBreak
  terminated : Bool

namespace Printed

def terminator (i : Printed) : Text := if i.terminated then [';'] else []

def lineEnd (i : Printed) : Text := i.terminator ++ i.lineBreak.text

def line (i : Printed) (l : Line) : Text := l.body ++ i.lineEnd

def header (i : Printed) : Text :=
  "export interface ".toList ++ i.name.1 ++ " \x7b".toList ++ i.lineBreak.text

def footer (i : Printed) : Text := "\x7d".toList ++ i.lineBreak.text

def text (i : Printed) : Text := i.header ++ i.lines.flatMap i.line ++ i.footer

end Printed

variable {c : Char} {rest : Text}

/-- A character with which no member begins or ends. -/
def IsQuiet (c : Char) : Prop := c ≠ ':' ∧ c ≠ ';' ∧ c ≠ '('

instance (c : Char) : Decidable (IsQuiet c) := inferInstanceAs (Decidable (_ ∧ _ ∧ _))

theorem isQuiet_of_isWord (hc : isWord c = true) : IsQuiet c :=
  ⟨ne_of_isWord hc (by decide), ne_of_isWord hc (by decide), ne_of_isWord hc (by decide)⟩

theorem forall_mem_lineBreak {P : Char → Prop} (hr : P '\r') (hn : P '\n') (b : LineBreak) :
    ∀ c ∈ b.text, P c := by
  intro c hc
  cases b with
  | lf =>
    rw [List.mem_singleton.1 hc]
    exact hn
  | crlf =>
    obtain rfl | hc := List.mem_cons.1 hc
    · exact hr
    · rw [List.mem_singleton.1 hc]
      exact hn

theorem lineBreak_ne_nil (b : LineBreak) : b.text ≠ [] := by cases b <;> simp [LineBreak.text]

theorem isQuiet_of_mem_lineBreak {b : LineBreak} : ∀ c ∈ b.text, IsQuiet c :=
  forall_mem_lineBreak (by decide) (by decide) b

theorem captures_propertyName_of_line {x : Text} (hx : ':' ∉ x) (b : LineBreak) :
    captures propertyName (x ++ b.text ++ rest) = captures propertyName rest := by
  have hb : isBlank '\n' = true := by decide
  cases b with
  | lf => simpa [LineBreak.text] using captures_propertyName_of_blank hx hb
  | crlf =>
    have hcr : ':' ∉ x ++ ['\r'] := by simp [hx]
    simpa [LineBreak.text] using captures_propertyName_of_blank hcr hb

namespace Line
variable (l : Line)

theorem forall_mem_indent {P : Char → Prop} (hs : P ' ') (ht : P '\t') : ∀ c ∈ l.indent.1, P c := by
  intro c hc
  cases l.indent.2 c hc with
  | inl h => rwa [h]
  | inr h => rwa [h]

theorem mem_name (hc : c ∈ l.name) : isWord c = true ∨ c = '?' := by
  rw [name, List.mem_append] at hc
  cases hc with
  | inl hc => exact .inl (l.word.2.2 c hc)
  | inr hc =>
    cases ho : l.isOptional with
    | false => simp [ho] at hc
    | true => exact .inr (by simpa [ho] using hc)

theorem isQuiet_of_mem_lead (hc : c ∈ l.indent.1 ++ l.name) : IsQuiet c := by
  cases List.mem_append.1 hc with
  | inl hc => exact l.forall_mem_indent (by decide) (by decide) c hc
  | inr hc =>
    cases l.mem_name hc with
    | inl h => exact isQuiet_of_isWord h
    | inr h =>
      rw [h]
      decide

theorem name_eq_concat :
    ∃ run c, l.name = run ++ [c] ∧ (∀ x ∈ run, isWord x = true) ∧ isBlank c = false := by
  cases ho : l.isOptional with
  | true => exact ⟨l.word.1, '?', by simp [name, ho], l.word.2.2, by decide⟩
  | false =>
    obtain ⟨run, c, hw⟩ := (List.eq_nil_or_concat l.word.1).resolve_left l.word.2.1
    rw [List.concat_eq_append] at hw
    have hall : ∀ x ∈ run ++ [c], isWord x = true := by
      rw [← hw]
      exact l.word.2.2
    have hc : isWord c = true := hall c (by simp)
    exact ⟨run, c, by simp [name, ho, hw], fun x hx => hall x (by simp [hx]),
      isBlank_eq_false_of_isWord hc⟩

theorem propertyName_name (hrest : rest.head? ≠ some ':') :
    propertyName (l.name ++ ':' :: rest) = some (l.name, l.name.length + 1) := by
  obtain ⟨run, c, hname, hrun, hc⟩ := l.name_eq_concat
  rw [hname, List.append_assoc]
  simpa using propertyName_of_run hrun hc hrest

end Line

namespace Printed
variable (i : Printed) (l : Line)

theorem forall_mem_lineEnd {P : Char → Prop} (hs : P ';') (hr : P '\r') (hn : P '\n') :
    ∀ c ∈ i.lineEnd, P c := by
  intro c hc
  cases List.mem_append.1 hc with
  | inl hc =>
    cases ht : i.terminated with
    | false => simp [terminator, ht] at hc
    | true =>
      have he : c = ';' := by simpa [terminator, ht] using hc
      rwa [he]
  | inr hc => exact forall_mem_lineBreak hr hn i.lineBreak c hc

theorem lineEnd_ne_nil : i.lineEnd ≠ [] :=
  fun he => lineBreak_ne_nil i.lineBreak (List.append_eq_nil_iff.1 he).2

theorem colon_not_mem_lineEnd : ':' ∉ i.lineEnd := by
  intro hc
  have hne := i.forall_mem_lineEnd (P := (· ≠ ':')) (by decide) (by decide) (by decide)
  exact hne _ hc rfl

theorem endsType_of_mem_lineEnd : ∀ c ∈ i.lineEnd, endsType c = true :=
  i.forall_mem_lineEnd (by decide) (by decide) (by decide)

theorem splitsCalls_of_mem_lineEnd : ∀ c ∈ i.lineEnd, SplitsCalls c :=
  i.forall_mem_lineEnd (by decide) (by decide) (by decide)

/-! The three scans find the name and the type of a line and no call on it. -/

theorem names_line :
    captures propertyName (i.line l ++ rest) = l.name :: captures propertyName rest := by
  have hend : ':' ∉ ' ' :: (l.type.text ++ i.terminator) := by
    intro hm
    cases List.mem_cons.1 hm with
    | inl hm => cases hm
    | inr hm =>
      cases List.mem_append.1 hm with
      | inl hm => exact (l.type.plain _ hm).1 rfl
      | inr hm => exact i.colon_not_mem_lineEnd (List.mem_append_left _ hm)
  have hname := captures_append_of_hit (p := propertyName) (a := l.name ++ [':'])
    (b := ' ' :: (l.type.text ++ i.terminator) ++ i.lineBreak.text ++ rest) (by simp)
    (by simpa using l.propertyName_name (by simp))
  calc captures propertyName (i.line l ++ rest)
    _ = captures propertyName (l.indent.1 ++ ((l.name ++ [':']) ++
          (' ' :: (l.type.text ++ i.terminator) ++ i.lineBreak.text ++ rest))) := by
        simp [line, Line.body, lineEnd]
    _ = captures propertyName ((l.name ++ [':']) ++
          (' ' :: (l.type.text ++ i.terminator) ++ i.lineBreak.text ++ rest)) :=
        captures_propertyName_of_blanks (l.forall_mem_indent (by decide) (by decide))
    _ = l.name :: captures propertyName rest := by
        rw [hname, captures_propertyName_of_line hend]

theorem types_line :
    captures typeExpression (i.line l ++ rest) = l.type.text :: captures typeExpression rest := by
  have hlead : ':' ∉ l.indent.1 ++ l.name := fun hm => (l.isQuiet_of_mem_lead hm).1 rfl
  have htype : typeExpression (':' :: ' ' :: (l.type.text ++ (i.lineEnd ++ rest))) =
      some (l.type.text, l.type.text.length + 2) := by
    apply typeExpression_of_run (by decide) l.type.ne_nil
    · intro x hx
      obtain ⟨_, hs, hn, hr⟩ := l.type.plain x hx
      simp [endsType, hs, hn, hr]
    · intro x hx
      rw [List.head?_append_of_ne_nil _ i.lineEnd_ne_nil] at hx
      exact i.endsType_of_mem_lineEnd x (List.mem_of_head? hx)
  calc captures typeExpression (i.line l ++ rest)
    _ = captures typeExpression ((l.indent.1 ++ l.name) ++
          ((':' :: ' ' :: l.type.text) ++ (i.lineEnd ++ rest))) := by
        simp [line, Line.body]
    _ = captures typeExpression ((':' :: ' ' :: l.type.text) ++ (i.lineEnd ++ rest)) :=
        captures_typeExpression_of_not_mem hlead
    _ = l.type.text :: captures typeExpression (i.lineEnd ++ rest) :=
        captures_append_of_hit (by simp) htype
    _ = l.type.text :: captures typeExpression rest := by
        rw [captures_typeExpression_of_not_mem i.colon_not_mem_lineEnd]

theorem hasCallable_line : hasCallable (i.line l ++ rest) = hasCallable rest := by
  have hspace : SplitsCalls ' ' := by decide
  have hlead : '(' ∉ l.indent.1 ++ l.name ++ [':'] := by
    intro hm
    cases List.mem_append.1 hm with
    | inl hm => exact (l.isQuiet_of_mem_lead hm).2.2 rfl
    | inr hm => exact absurd hm (by decide)
  have htype : hasCallable l.type.text = false := by
    rw [← Bool.not_eq_true, hasCallable_iff_hasCall]
    exact l.type.no_call
  have hsplit : i.line l ++ rest = (l.indent.1 ++ l.name ++ [':']) ++
      ' ' :: (l.type.text ++ (i.lineEnd ++ rest)) := by
    simp [line, Line.body]
  rw [hsplit, hasCallable_append_cons hspace, hasCallable_of_not_mem hlead,
    hasCallable_append_of_splits i.lineEnd_ne_nil i.splitsCalls_of_mem_lineEnd, htype]
  rfl

theorem names_lines (ls : List Line) : captures propertyName (ls.flatMap i.line ++ rest) =
    ls.map Line.name ++ captures propertyName rest := by
  induction ls with
  | nil => rfl
  | cons l ls ih =>
    rw [List.flatMap_cons, List.append_assoc, names_line, ih]
    rfl

theorem types_lines (ls : List Line) : captures typeExpression (ls.flatMap i.line ++ rest) =
    ls.map (·.type.text) ++ captures typeExpression rest := by
  induction ls with
  | nil => rfl
  | cons l ls ih =>
    rw [List.flatMap_cons, List.append_assoc, types_line, ih]
    rfl

theorem hasCallable_lines (ls : List Line) :
    hasCallable (ls.flatMap i.line ++ rest) = hasCallable rest := by
  induction ls with
  | nil => rfl
  | cons l ls ih => rw [List.flatMap_cons, List.append_assoc, hasCallable_line, ih]

theorem isQuiet_of_mem_header (hc : c ∈ i.header) : IsQuiet c := by
  have hmarker : ∀ c ∈ "export interface ".toList, IsQuiet c := by simp [IsQuiet]
  have hopen : ∀ c ∈ " \x7b".toList, IsQuiet c := by simp [IsQuiet]
  unfold header at hc
  rw [List.mem_append, List.mem_append, List.mem_append] at hc
  obtain ((hc | hc) | hc) | hc := hc
  · exact hmarker c hc
  · exact isQuiet_of_isWord (i.name.2.2 c hc)
  · exact hopen c hc
  · exact isQuiet_of_mem_lineBreak c hc

theorem isQuiet_of_mem_footer (hc : c ∈ i.footer) : IsQuiet c := by
  have hclose : ∀ c ∈ "\x7d".toList, IsQuiet c := by simp [IsQuiet]
  cases List.mem_append.1 hc with
  | inl hc => exact hclose c hc
  | inr hc => exact isQuiet_of_mem_lineBreak c hc

theorem propertyNames_text : propertyNames i.text = i.lines.map Line.name := by
  have hheader : ':' ∉ "export interface ".toList ++ i.name.1 ++ " \x7b".toList := by
    intro hm
    exact (i.isQuiet_of_mem_header (List.mem_append_left _ hm)).1 rfl
  have hfooter : captures propertyName ("\x7d".toList ++ i.lineBreak.text ++ []) = [] :=
    captures_propertyName_of_line (by decide) i.lineBreak
  rw [List.append_nil] at hfooter
  unfold propertyNames text footer
  rw [List.append_assoc]
  unfold header
  rw [captures_propertyName_of_line hheader, names_lines, hfooter, List.append_nil]

theorem typeExpressions_text : typeExpressions i.text = i.lines.map (·.type.text) := by
  have hheader : ':' ∉ i.header := fun hm => (i.isQuiet_of_mem_header hm).1 rfl
  have hfooter : captures typeExpression (i.footer ++ []) = [] :=
    captures_typeExpression_of_not_mem fun hm => (i.isQuiet_of_mem_footer hm).1 rfl
  rw [List.append_nil] at hfooter
  unfold typeExpressions text
  rw [List.append_assoc, captures_typeExpression_of_not_mem hheader, types_lines, hfooter,
    List.append_nil]

theorem hasCallable_text : hasCallable i.text = false := by
  have hheader : '(' ∉ "export interface ".toList ++ i.name.1 ++ " \x7b".toList := by
    intro hm
    exact (i.isQuiet_of_mem_header (List.mem_append_left _ hm)).2.2 rfl
  have hfooter : '(' ∉ i.footer := fun hm => (i.isQuiet_of_mem_footer hm).2.2 rfl
  have hbreak : ∀ c ∈ i.lineBreak.text, SplitsCalls c :=
    forall_mem_lineBreak (by decide) (by decide) i.lineBreak
  unfold text header
  rw [List.append_assoc, List.append_assoc _ i.lineBreak.text,
    hasCallable_append_of_splits (lineBreak_ne_nil _) hbreak, hasCallable_of_not_mem hheader,
    hasCallable_lines, hasCallable_of_not_mem hfooter]
  rfl

theorem text_eq_marker_append : i.text = marker ++ ([' '] ++ (i.name.1 ++
    ' ' :: '\x7b' :: (i.lineBreak.text ++ (i.lines.flatMap i.line ++ i.footer)))) := by
  have hmarker : "export interface ".toList = marker ++ [' '] := by decide
  have hopen : " \x7b".toList = [' ', '\x7b'] := by decide
  unfold text header
  rw [hmarker, hopen]
  simp only [List.append_assoc, List.cons_append, List.nil_append]

theorem hasMarker_text : hasMarker i.text = true := by
  rw [hasMarker_iff, text_eq_marker_append]
  exact (List.prefix_append _ _).isInfix

theorem admitted_text : Admitted i.text := by
  have hmarked := i.hasMarker_text
  refine ⟨?_, i.hasCallable_text, hmarked⟩
  intro he
  rw [he] at hmarked
  exact absurd hmarked (by decide)

theorem name?_text : name? i.text = some i.name.1 := by
  have hblank : isBlank ' ' = true := by decide
  refine name?_of_nameAt? (nameAt?_eq_some_iff.2
    ⟨[' '], _, i.text_eq_marker_append, by simp, by simp [hblank], i.name.2.1, i.name.2.2, ?_⟩)
  intro c hc
  rw [← Option.some.inj hc]
  decide

theorem semicolon_mem_line : ';' ∈ i.line l ↔ i.terminated = true := by
  constructor
  · intro hm
    have hlead : ';' ∉ l.indent.1 ++ l.name := fun hm => (l.isQuiet_of_mem_lead hm).2.1 rfl
    have hcolon : ';' ∉ ": ".toList := by decide
    have htype : ';' ∉ l.type.text := fun hm => (l.type.plain _ hm).2.1 rfl
    have hbreak : ';' ∉ i.lineBreak.text := fun hm => (isQuiet_of_mem_lineBreak _ hm).2.1 rfl
    have hterminator : ';' ∈ i.terminator := by
      unfold line Line.body lineEnd at hm
      simpa only [List.mem_append, hlead, hcolon, htype, hbreak, false_or, or_false] using hm
    by_contra ht
    simp [terminator, ht] at hterminator
  · intro ht
    simp [line, lineEnd, terminator, ht]

theorem semicolon_mem_text : ';' ∈ i.text ↔ i.terminated = true := by
  have hheader : ';' ∉ i.header := fun hm => (i.isQuiet_of_mem_header hm).2.1 rfl
  have hfooter : ';' ∉ i.footer := fun hm => (i.isQuiet_of_mem_footer hm).2.1 rfl
  unfold text
  rw [List.mem_append, List.mem_append, List.mem_flatMap]
  simp only [hheader, hfooter, semicolon_mem_line, false_or, or_false]
  constructor
  · intro h
    obtain ⟨_, _, ht⟩ := h
    exact ht
  · intro ht
    obtain ⟨l, hl⟩ := List.exists_mem_of_ne_nil _ i.lines_ne_nil
    exact ⟨l, hl, ht⟩

theorem terminator_text (config : Config) : (config.style i.text).terminator = i.terminator := by
  simp only [Config.style, Style.sniff, terminator]
  cases ht : i.terminated with
  | true => simp [i.semicolon_mem_text, ht]
  | false => simp [i.semicolon_mem_text, ht]

theorem byPattern_text : (byPattern i.text).result = .ok (i.lines.map Line.field) := by
  have hnames : HasPropertyName i.text := by
    by_contra hn
    rw [← propertyNames_eq_nil_iff, propertyNames_text, List.map_eq_nil_iff] at hn
    exact i.lines_ne_nil hn
  have htypes : HasTypeExpression i.text := by
    by_contra hn
    rw [← typeExpressions_eq_nil_iff, typeExpressions_text, List.map_eq_nil_iff] at hn
    exact i.lines_ne_nil hn
  have hpair := Field.pair_map (i.lines.map Line.field)
  rw [List.map_map, List.map_map] at hpair
  rw [byPattern_of_has hnames htypes, propertyNames_text, typeExpressions_text]
  exact hpair

end Printed

/-- The analysis of a printed interface gives back what was printed. -/
theorem analyze_printed (i : Printed) (config : Config) (h : config.indent < Style.maxIndent) :
    (analyze i.text config byPattern).result = .ok {
      name := i.name.1
      baseName :=
        if config.stripInterfacePrefix ∧ i.name.1.head? = some 'I' then i.name.1.tail else i.name.1
      style := ⟨config.lineBreak.text, i.terminator, List.replicate config.indent ' '⟩
      fields := i.lines.map Line.field } := by
  have hbase : config.baseName i.name.1 = if config.stripInterfacePrefix ∧ i.name.1.head? = some 'I'
      then i.name.1.tail else i.name.1 := by
    cases hs : config.stripInterfacePrefix with
    | false => simp [Config.baseName, hs]
    | true => simp [Config.baseName, hs, baseName_eq]
  have hstyle : config.style i.text =
      ⟨config.lineBreak.text, i.terminator, List.replicate config.indent ' '⟩ := by
    rw [← i.terminator_text config]
    rfl
  rw [analyze_of_declared i.admitted_text h i.name?_text i.byPattern_text, Config.declaration,
    hbase, hstyle]

def person : Printed where
  name := ⟨"IPerson".toList, by decide, by simp [isWord]⟩
  lines := [
    { indent := ⟨"  ".toList, by simp⟩
      word := ⟨"name".toList, by decide, by simp [isWord]⟩
      isOptional := false
      type := ⟨"string".toList, by decide, by simp, hasCallable_iff_hasCall.not.1 (by decide)⟩ },
    { indent := ⟨['\t'], by simp⟩
      word := ⟨"onChange".toList, by decide, by simp [isWord]⟩
      isOptional := true
      type := ⟨"() => void".toList, by decide, by simp, hasCallable_iff_hasCall.not.1 (by decide)⟩ }]
  lines_ne_nil := by decide
  lineBreak := .crlf
  terminated := true

theorem analyze_person : (2 : Nat) < Style.maxIndent ∧
    (analyze person.text {} byPattern).result = .ok {
      name := "IPerson".toList
      baseName := "Person".toList
      style := ⟨['\r', '\n'], [';'], [' ', ' ']⟩
      fields := [⟨"name".toList, "string".toList⟩, ⟨"onChange?".toList, "() => void".toList⟩] } :=
  ⟨by decide, (analyze_printed person {} (by decide)).trans (by decide)⟩

end FluentBuilder.Printing
