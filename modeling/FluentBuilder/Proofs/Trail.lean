import FluentBuilder.Proofs.Effects
import FluentBuilder.Proofs.LineBreaks

/-! What the log keeps of a run: a line for each stage that it comes to, in their order, and a last
one where it fails. How many there are tells how far the run got. -/
namespace FluentBuilder
open Interface Text

structure LogLine where
  isWarning : Bool
  text : Text
deriving DecidableEq, Repr

def Record.line (r : Record) : LogLine := ⟨r.isWarning, r.text⟩

namespace Traced

def records {α : Type} (x : Traced α) : List Record := x.events.filterMap Event.record?

def lines {α : Type} (x : Traced α) : List LogLine := x.records.map Record.line

end Traced

/-- The number of stages that a run comes to before it fails. -/
def Failure.reach : Failure → Nat
  | noWorkspace | noEditor | noText | unsupportedMember | notADeclaration => 0
  | noDeclaration | noProperties | noDataTypes => 1
  | fieldTypeMismatch .. => 2
  | writeFailed _ => 5

def reach : Except Stop File → Nat
  | .ok _ => 4
  | .error (.failed f) => f.reach
  | .error .indentTooWide => 0

def lastLine : Except Stop File → List LogLine
  | .error (.failed f) => [⟨false, "builder generation stopped: ".toList ++ f.label⟩]
  | _ => []

/-- What the lines of a run tell, each as far as the run comes to its stage. -/
structure Findings where
  terminator : Text := []
  properties : Nat := 0
  dataTypes : Nat := 0
  name : Text := []
  fields : Nat := 0
  bytes : Nat := 0
  path : Text := []
  detail : Text := []

namespace Findings

def lines (x : Findings) : List LogLine := [
  ⟨false, "style: terminator ".toList ++ x.terminator.quoted⟩,
  ⟨false, "found ".toList ++ ofNat x.properties ++ " properties and ".toList ++
    ofNat x.dataTypes ++ " data types".toList⟩,
  ⟨false, "interface ".toList ++ x.name ++ " with ".toList ++ ofNat x.fields ++ " fields".toList⟩,
  ⟨false, "writing ".toList ++ ofNat x.bytes ++ " bytes to ".toList ++ x.path⟩,
  ⟨true, "failed to write ".toList ++ x.path ++ ": ".toList ++ x.detail⟩]

def records (x : Findings) : List Record := [
  .style x.terminator, .scanned x.properties x.dataTypes, .declared x.name x.fields,
  .writing x.bytes x.path, .writeFailed x.path x.detail]

theorem lines_eq_map (x : Findings) : x.lines = x.records.map Record.line := rfl

structure Deliver (x : Findings) (d : Declaration) (file : File) : Prop where
  properties : x.properties = x.fields
  dataTypes : x.dataTypes = x.fields
  fields : x.fields = d.fields.length
  fields_pos : 1 ≤ x.fields
  name : x.name = d.name
  bytes : x.bytes = utf8Length file.content
  path : x.path = file.path

/-- What is told of a run that ends with `r`, and has written these files, is so. -/
structure Fit (x : Findings) (host : Host) (config : Config) (r : Except Stop File)
    (written : List File) : Prop where
  style : 1 ≤ reach r → ∃ d, host.document = some d ∧
    x.terminator = if ';' ∈ d.text then [';'] else []
  mismatch : ∀ p q, r = .error (.failed (.fieldTypeMismatch p q)) →
    x.properties = p ∧ x.dataTypes = q
  /-- The file is the one that is handed to the host, who takes it or gives the detail. -/
  delivered : 4 ≤ reach r → ∃ d declaration file, host.document = some d ∧
    (analyze d.text config byPattern).result = .ok declaration ∧
    (generate d config byPattern).result = .ok file ∧ x.Deliver declaration file ∧
    (host.refusal file = none ∧ r = .ok file ∧ written = [file] ∨
      host.refusal file = some x.detail ∧ r = .error (.failed (.writeFailed x.detail)) ∧
        written = [])
  undelivered : reach r < 4 → written = []

end Findings

/-- The ends of an analysis, each with its records. -/
inductive Noted (terminator : Text) : Except Stop Declaration → List Record → Prop
  | unstyled {f : Failure} (h : f.reach = 0) : Noted terminator (.error (.failed f)) []
  | unscanned {f : Failure} (h : f.reach = 1) :
      Noted terminator (.error (.failed f)) [.style terminator]
  | unpaired {p q : Nat} : Noted terminator (.error (.failed (.fieldTypeMismatch p q)))
      [.style terminator, .scanned p q]
  | declared {d : Declaration} (h : d.fields ≠ []) : Noted terminator (.ok d)
      [.style terminator, .scanned d.fields.length d.fields.length,
        .declared d.name d.fields.length]

section
variable {t : Text} {config : Config} {host : Host}

def countsOf : Except Failure (List Field) → List Record
  | .ok fields => [.scanned fields.length fields.length]
  | .error (.fieldTypeMismatch p q) => [.scanned p q]
  | .error _ => []

theorem records_byPattern (t : Text) : (byPattern t).records = countsOf (byPattern t).result := by
  have h := extracted t
  generalize hr : (byPattern t).result = r at h
  cases h with
  | noProperties h => rw [byPattern, extractPropertyNames, propertyNames_eq_nil_iff.2 h]; rfl
  | noDataTypes h ht =>
    rw [byPattern, extractPropertyNames_of_has h, extractTypeExpressions,
      typeExpressions_eq_nil_iff.2 ht]
    rfl
  | mismatch h ht hne =>
    rw [byPattern, extractPropertyNames_of_has h, extractTypeExpressions_of_has ht]
    rfl
  | paired h ht he =>
    rw [byPattern, extractPropertyNames_of_has h, extractTypeExpressions_of_has ht]
    simp [countsOf, he]

theorem records_asked (t : Text) (extractor : Extractor) :
    (asked t extractor).filterMap Event.record? = (extractor t).records := by
  simp [asked, List.filterMap_cons, Event.record?, List.filterMap_map, Function.comp_def]

theorem noted (hw : config.indent < Style.maxIndent) :
    Noted (config.style t).terminator (analyze t config byPattern).result
      (analyze t config byPattern).records := by
  have h := analyzed t config byPattern
  generalize analyze t config byPattern = x at h
  cases h with
  | noText => exact .unstyled rfl
  | callable => exact .unstyled rfl
  | unmarked => exact .unstyled rfl
  | wide _ hle => exact absurd hw (Nat.not_lt.2 hle)
  | unnamed => exact .unscanned rfl
  | refused _ _ _ hx =>
    have hrecords := records_asked t byPattern
    rw [records_byPattern, hx] at hrecords
    simp only [Traced.records, styled, List.filterMap_cons, Event.record?, hrecords]
    cases extracted_iff.1 hx with
    | noProperties => exact .unscanned rfl
    | noDataTypes => exact .unscanned rfl
    | mismatch => exact .unpaired
  | @declared name fields _ _ _ hx =>
    have hrecords := records_asked t byPattern
    rw [records_byPattern, hx] at hrecords
    simp only [Traced.records, styled, List.cons_append, List.filterMap_cons, List.filterMap_append,
      Event.record?, hrecords]
    exact .declared (d := config.declaration t name fields) (ne_nil_of_byPattern hx)

theorem lines_execute (host : Host) (config : Config) (extractor : Extractor) :
    (execute host config extractor).lines =
      (run host config extractor).lines ++ lastLine (run host config extractor).result := by
  have hclosing : ∀ r, ((closing r).filterMap Event.record?).map Record.line = lastLine r := by
    intro r
    match r with
    | .ok _ => rfl
    | .error (.failed _) => rfl
    | .error .indentTooWide => rfl
  simp only [execute, Traced.lines, Traced.records, List.filterMap_append, List.map_append, hclosing]

theorem records_of_analyze {declaration : Declaration} (hw : config.indent < Style.maxIndent)
    (h : (analyze t config byPattern).result = .ok declaration) :
    declaration.fields ≠ [] ∧ (analyze t config byPattern).records = [
      .style (config.style t).terminator,
      .scanned declaration.fields.length declaration.fields.length,
      .declared declaration.name declaration.fields.length] := by
  have hnoted := noted (t := t) hw
  generalize (analyze t config byPattern).records = rs at hnoted ⊢
  rw [h] at hnoted
  cases hnoted with
  | declared hne => exact ⟨hne, rfl⟩

theorem fit_of_reach_lt {x : Findings} {r : Except Stop File} (h : reach r < 4)
    (hstyle : 1 ≤ reach r → ∃ d, host.document = some d ∧
      x.terminator = if ';' ∈ d.text then [';'] else [])
    (hmismatch : ∀ p q, r = .error (.failed (.fieldTypeMismatch p q)) →
      x.properties = p ∧ x.dataTypes = q) : x.Fit host config r (filesOf r) := by
  refine ⟨hstyle, hmismatch, fun hr => absurd h (Nat.not_lt.2 hr), fun _ => ?_⟩
  cases r with
  | ok file => exact absurd h (Nat.lt_irrefl 4)
  | error s => rfl

theorem fit_of_reach_eq_zero {r : Except Stop File} (h : reach r = 0) :
    ({} : Findings).Fit host config r (filesOf r) := by
  apply fit_of_reach_lt
  · omega
  · omega
  · intro p q hr
    rw [hr] at h
    cases h

theorem exists_fit_of_error {d : Document} {s : Stop} (hw : config.indent < Style.maxIndent)
    (hd : host.document = some d) (h : (analyze d.text config byPattern).result = .error s) :
    ∃ x : Findings, x.Fit host config (.error s) [] ∧
      (analyze d.text config byPattern).records = x.records.take (reach (.error s)) := by
  have hstyle : ∃ d', host.document = some d' ∧
      (config.style d.text).terminator = if ';' ∈ d'.text then [';'] else [] :=
    ⟨d, hd, Style.terminator_sniff d.text⟩
  have hnoted := noted (t := d.text) hw
  generalize (analyze d.text config byPattern).records = rs at hnoted ⊢
  rw [h] at hnoted
  cases hnoted with
  | @unstyled f hf =>
    have hreach : reach (.error (.failed f)) = 0 := hf
    refine ⟨{}, fit_of_reach_eq_zero hreach, ?_⟩
    rw [hreach, List.take_zero]
  | @unscanned f hf =>
    have hreach : reach (.error (.failed f)) = 1 := hf
    refine ⟨{ terminator := (config.style d.text).terminator }, fit_of_reach_lt ?_ ?_ ?_, ?_⟩
    · omega
    · exact fun _ => hstyle
    · rintro p q ⟨⟩
      cases hreach
    · rw [hreach]
      rfl
  | @unpaired p q =>
    have hreach : reach (.error (.failed (.fieldTypeMismatch p q))) = 2 := rfl
    refine ⟨{ terminator := (config.style d.text).terminator, properties := p, dataTypes := q },
      fit_of_reach_lt ?_ ?_ ?_, rfl⟩
    · omega
    · exact fun _ => hstyle
    · rintro _ _ ⟨⟩
      exact ⟨rfl, rfl⟩

def Declaration.findings (d : Declaration) (path detail : Text) : Findings where
  terminator := d.style.terminator
  properties := d.fields.length
  dataTypes := d.fields.length
  name := d.name
  fields := d.fields.length
  bytes := utf8Length d.content
  path := outputPath path
  detail := detail

theorem fit_of_ok {d : Document} {declaration : Declaration} {r : Except Stop File} (detail : Text)
    (hw : config.indent < Style.maxIndent) (hd : host.document = some d)
    (h : (analyze d.text config byPattern).result = .ok declaration)
    (hr : host.refusal (declaration.file d.path) = none ∧ r = .ok (declaration.file d.path) ∨
      host.refusal (declaration.file d.path) = some detail ∧
        r = .error (.failed (.writeFailed detail))) :
    (declaration.findings d.path detail).Fit host config r (filesOf r) ∧
      (analyze d.text config byPattern).records =
        (declaration.findings d.path detail).records.take 3 := by
  obtain ⟨hne, hrecords⟩ := records_of_analyze hw h
  have hstyle := style_of_analyze h
  have hdeliver : (declaration.findings d.path detail).Deliver declaration
      (declaration.file d.path) := by
    refine ⟨rfl, rfl, rfl, List.length_pos_iff.2 hne, rfl, ?_, rfl⟩
    simp only [Declaration.findings, Declaration.file]
  refine ⟨⟨fun _ => ⟨d, hd, ?style⟩, ?mismatch, fun _ => ?delivered, ?undelivered⟩, ?records⟩
  case style =>
    rw [Declaration.findings, hstyle]
    exact Style.terminator_sniff d.text
  case mismatch =>
    rintro p q rfl
    simp at hr
  case delivered =>
    refine ⟨d, declaration, _, hd, h, generate_eq_ok_iff.2 ⟨declaration, h, rfl⟩, hdeliver, ?_⟩
    obtain ⟨hrefusal, rfl⟩ | ⟨hrefusal, rfl⟩ := hr
    · exact .inl ⟨hrefusal, rfl, rfl⟩
    · exact .inr ⟨hrefusal, rfl, rfl⟩
  case undelivered =>
    intro hlt
    obtain ⟨_, rfl⟩ | ⟨_, rfl⟩ := hr
    · exact absurd hlt (Nat.lt_irrefl 4)
    · rfl
  case records =>
    rw [hrecords, ← hstyle]
    rfl

theorem records_run (host : Host) (hw : config.indent < Style.maxIndent) :
    ∃ x : Findings, x.Fit host config (run host config byPattern).result
        (filesOf (run host config byPattern).result) ∧
      (run host config byPattern).records =
        x.records.take (reach (run host config byPattern).result) := by
  have h := ran config byPattern host
  generalize run host config byPattern = y at h ⊢
  cases h with
  | noWorkspace => exact ⟨{}, fit_of_reach_eq_zero rfl, rfl⟩
  | noEditor => exact ⟨{}, fit_of_reach_eq_zero rfl, rfl⟩
  | stopped _ hd ha => exact exists_fit_of_error hw hd ha
  | @refused d declaration detail _ hd ha hrefusal =>
    obtain ⟨hfit, hrecords⟩ := fit_of_ok detail hw hd ha (.inr ⟨hrefusal, rfl⟩)
    refine ⟨_, hfit, ?_⟩
    rw [Traced.records] at hrecords
    simp [Traced.records, hrecords, Event.record?, Findings.records, Declaration.findings, reach,
      Failure.reach]
  | @saved d declaration _ hd ha hrefusal =>
    obtain ⟨hfit, hrecords⟩ := fit_of_ok [] hw hd ha (.inl ⟨hrefusal, rfl⟩)
    refine ⟨_, hfit, ?_⟩
    rw [Traced.records] at hrecords
    simp [Traced.records, hrecords, List.filterMap_cons, Event.record?, Findings.records,
      Declaration.findings, reach]

end

/-- The log of a run is the lines of the stages it came to, in their order, and a last one if it
failed; the result tells how many there are, and they tell of the result. -/
theorem execution_trail (host : Host) (config : Config) (hw : config.indent < Style.maxIndent) :
    let x := execute host config byPattern
    ((∃ file, x.result = .ok file) ∨ ∃ f, x.result = .error (.failed f)) ∧
      ∃ findings : Findings,
        findings.Fit host config x.result (x.events.filterMap Event.file?) ∧
        x.lines = findings.lines.take (reach x.result) ++ lastLine x.result := by
  intro x
  constructor
  · obtain ⟨file, hr, _⟩ | ⟨f, hr, _⟩ := execute_tells host byPattern hw
    · exact .inl ⟨file, hr⟩
    · exact .inr ⟨f, hr⟩
  · obtain ⟨findings, hfit, hrecords⟩ := records_run host hw
    refine ⟨findings, ?_, ?_⟩
    · rw [files_execute]
      exact hfit
    rw [lines_execute, Traced.lines, hrecords, findings.lines_eq_map, List.map_take]
    rfl

def fullDisk : Host where
  root := "/work".toList
  document := some notes
  refusal := fun _ => some "disk full".toList

theorem execution_trail_full_disk :
    let x := execute fullDisk { lineBreak := .lf } byPattern
    ({ lineBreak := .lf } : Config).indent < Style.maxIndent ∧
      x.result = .error (.failed (.writeFailed "disk full".toList)) ∧
      ∃ findings : Findings, findings.terminator = [] ∧ findings.name = "INote".toList ∧
        findings.fields = 2 ∧ findings.path = "notesBuilder.ts".toList ∧
        findings.detail = "disk full".toList ∧
        x.lines = findings.lines ++ lastLine x.result := by
  intro x
  have hw : ({ lineBreak := .lf } : Config).indent < Style.maxIndent := by decide
  have hresult : x.result = .error (.failed (.writeFailed "disk full".toList)) := by decide +kernel
  have hreach : reach x.result = 5 := by rw [hresult]; rfl
  obtain ⟨_, findings, ⟨hstyle, _, hdelivered, _⟩, hlines⟩ :=
    execution_trail fullDisk { lineBreak := .lf } hw
  change x.lines = findings.lines.take (reach x.result) ++ lastLine x.result at hlines
  obtain ⟨d, ⟨⟩, hterminator⟩ := hstyle (by change 1 ≤ reach x.result; omega)
  obtain ⟨d, declaration, file, ⟨⟩, ha, hfile, hdeliver, hend⟩ :=
    hdelivered (by change 4 ≤ reach x.result; omega)
  cases ha.symm.trans analyze_notes
  cases hfile.symm.trans (generate_eq_ok_iff.2 ⟨notesDeclaration, analyze_notes, rfl⟩)
  refine ⟨hw, hresult, findings, ?terminator, hdeliver.name, hdeliver.fields, ?path, ?detail,
    ?lines⟩
  case terminator => exact hterminator.trans (by decide)
  case path => exact hdeliver.path.trans (by decide)
  case detail =>
    obtain ⟨h, -⟩ | ⟨h, -⟩ := hend
    · cases h
    · exact (Option.some_inj.1 h).symm
  case lines =>
    rw [hlines, hreach]
    rfl

end FluentBuilder
