import FluentBuilder.Generation

/-! The courses a run can take: at which check it ends, with which events and with what result. -/
namespace FluentBuilder
open Traced Interface

namespace Traced
variable {α β : Type} {x : Traced α} {f : α → Traced β}

@[simp] theorem events_pure (a : α) : (pure a : Traced α).events = [] := rfl

@[simp] theorem result_pure (a : α) : (pure a : Traced α).result = .ok a := rfl

@[simp] theorem events_stop (e : Stop) : (stop e : Traced α).events = [] := rfl

@[simp] theorem events_fail (e : Failure) : (fail e : Traced α).events = [] := rfl

@[simp] theorem result_fail (e : Failure) : (fail e : Traced α).result = .error (.failed e) := rfl

theorem bind_of_ok {a : α} (h : x.result = .ok a) :
    x >>= f = ⟨x.events ++ (f a).events, (f a).result⟩ := by
  apply Traced.ext
  · rw [bind_events, h]
  · rw [bind_result, h]
    rfl

theorem bind_of_error {e : Stop} (h : x.result = .error e) : x >>= f = ⟨x.events, .error e⟩ := by
  apply Traced.ext
  · rw [bind_events, h]
  · rw [bind_result, h]
    rfl

end Traced

section
variable {ε ε' α β : Type} {x : Except ε α}

theorem bind_eq_ok_iff {f : α → Except ε β} {b : β} :
    (x >>= f) = .ok b ↔ ∃ a, x = .ok a ∧ f a = .ok b := by
  cases x <;> simp [Bind.bind, Except.bind]

theorem mapError_eq_ok_iff {g : ε → ε'} {a : α} : x.mapError g = .ok a ↔ x = .ok a := by
  cases x with
  | error e => exact iff_of_false nofun nofun
  | ok a' =>
    change (Except.ok a' : Except ε' α) = .ok a ↔ _
    simp only [Except.ok.injEq]

theorem map_eq_ok_iff {g : α → β} {b : β} : x.map g = .ok b ↔ ∃ a, x = .ok a ∧ g a = b := by
  cases x <;> simp [Except.map]

end

/-- A text that passes the checks made on it before its style is fixed. -/
structure Admitted (t : Text) : Prop where
  ne_nil : t ≠ []
  no_call : hasCallable t = false
  marked : hasMarker t = true

theorem Style.terminator_sniff (t : Text) :
    (Style.sniff t).terminator = if ';' ∈ t then [';'] else [] := by
  simp [Style.sniff]

namespace Config

def style (config : Config) (t : Text) : Style where
  lineBreak := config.lineBreak.text
  terminator := (Style.sniff t).terminator
  indent := List.replicate config.indent ' '

theorem terminator_style (config : Config) (t : Text) :
    (config.style t).terminator = [] ∨ (config.style t).terminator = [';'] := by
  rw [style, Style.terminator_sniff]
  by_cases h : ';' ∈ t
  · exact .inr (if_pos h)
  · exact .inl (if_neg h)

def baseName (config : Config) (name : Text) : Text :=
  if config.stripInterfacePrefix then Interface.baseName name else name

def declaration (config : Config) (t name : Text) (fields : List Field) : Declaration where
  name := name
  baseName := config.baseName name
  style := config.style t
  fields := fields

theorem restyle_of_lt {config : Config} (h : config.indent < Style.maxIndent) (t : Text) :
    config.restyle (Style.sniff t) = some (config.style t) := by
  simp only [restyle, Style.withIndent?, Style.withLineBreak, h, if_true, style]

theorem restyle_of_le {config : Config} (h : Style.maxIndent ≤ config.indent) (s : Style) :
    config.restyle s = none := by
  simp only [restyle, Style.withIndent?, Nat.not_lt.2 h, if_false]

end Config

def Declaration.file (d : Declaration) (path : Text) : File := ⟨outputPath path, d.content⟩

section
variable (t : Text) (config : Config) (extractor : Extractor)

def styled : Event := .logged (.style (config.style t).terminator)

def asked : List Event := .consulted :: (extractor t).records.map .logged

/-- The courses of the checks and the extraction on a text. -/
inductive Analyzed : Traced Declaration → Prop
  | noText (h : t = []) : Analyzed (fail .noText)
  | callable (h : t ≠ []) (hc : hasCallable t = true) : Analyzed (fail .unsupportedMember)
  | unmarked (h : t ≠ []) (hc : hasCallable t = false) (hm : hasMarker t = false) :
      Analyzed (fail .notADeclaration)
  | wide (h : Admitted t) (hw : Style.maxIndent ≤ config.indent) : Analyzed (stop .indentTooWide)
  | unnamed (h : Admitted t) (hw : config.indent < Style.maxIndent) (hn : name? t = none) :
      Analyzed ⟨[styled t config], .error (.failed .noDeclaration)⟩
  | refused {name : Text} {e : Failure} (h : Admitted t) (hw : config.indent < Style.maxIndent)
      (hn : name? t = some name) (hx : (extractor t).result = .error e) :
      Analyzed ⟨styled t config :: asked t extractor, .error (.failed e)⟩
  | declared {name : Text} {fields : List Field} (h : Admitted t)
      (hw : config.indent < Style.maxIndent) (hn : name? t = some name)
      (hx : (extractor t).result = .ok fields) :
      Analyzed ⟨styled t config :: asked t extractor ++ [.logged (.declared name fields.length)],
        .ok (config.declaration t name fields)⟩

theorem analyze_of_admitted (h : Admitted t) (hw : config.indent < Style.maxIndent) :
    analyze t config extractor =
      (log (.style (config.style t).terminator) >>= fun _ =>
        Traced.ofExcept (extractName t) >>= fun name =>
        consult extractor t >>= fun fields =>
        log (.declared name fields.length) >>= fun _ =>
        pure (config.declaration t name fields)) := by
  simp [analyze, h.ne_nil, h.no_call, requireMarker, h.marked, Traced.ofExcept, configuredStyle,
    Config.restyle_of_lt hw, Config.declaration, Config.baseName]

section
variable {t config extractor} {name : Text}

theorem analyze_of_refused {e : Failure} (h : Admitted t) (hw : config.indent < Style.maxIndent)
    (hn : name? t = some name) (hx : (extractor t).result = .error e) :
    analyze t config extractor = ⟨styled t config :: asked t extractor, .error (.failed e)⟩ := by
  have hc : (consult extractor t).result = .error (.failed e) := by
    change (extractor t).result.mapError Stop.failed = _
    rw [hx]
    rfl
  rw [analyze_of_admitted t config extractor h hw]
  simp only [extractName, hn, Traced.ofExcept, Traced.pure_bind, bind_of_error hc]
  rfl

theorem analyze_of_declared {fields : List Field} (h : Admitted t)
    (hw : config.indent < Style.maxIndent) (hn : name? t = some name)
    (hx : (extractor t).result = .ok fields) :
    analyze t config extractor =
      ⟨styled t config :: asked t extractor ++ [.logged (.declared name fields.length)],
        .ok (config.declaration t name fields)⟩ := by
  have hc : (consult extractor t).result = .ok fields := by
    change (extractor t).result.mapError Stop.failed = _
    rw [hx]
    rfl
  rw [analyze_of_admitted t config extractor h hw]
  simp only [extractName, hn, Traced.ofExcept, Traced.pure_bind, bind_of_ok hc]
  rfl

end

section
variable {t config extractor}

theorem eq_of_analyzed {r : Traced Declaration} (h : Analyzed t config extractor r) :
    analyze t config extractor = r := by
  cases h with
  | noText ht => simp [analyze, ht]
  | callable ht hc => simp [analyze, ht, hc]
  | unmarked ht hc hm => simp [analyze, ht, hc, requireMarker, hm, Traced.ofExcept]
  | wide ht hw =>
    simp [analyze, ht.ne_nil, ht.no_call, requireMarker, ht.marked, Traced.ofExcept,
      configuredStyle, Config.restyle_of_le hw]
  | unnamed ht hw hn =>
    rw [analyze_of_admitted t config extractor ht hw]
    simp only [extractName, hn, Traced.ofExcept, fail_bind]
    rfl
  | refused ht hw hn hx => exact analyze_of_refused ht hw hn hx
  | declared ht hw hn hx => exact analyze_of_declared ht hw hn hx

end

theorem analyzed : Analyzed t config extractor (analyze t config extractor) := by
  suffices h : ∃ r, Analyzed t config extractor r by
    obtain ⟨r, hr⟩ := h
    rwa [eq_of_analyzed hr]
  by_cases ht : t = []
  · exact ⟨_, .noText ht⟩
  cases hc : hasCallable t with
  | true => exact ⟨_, .callable ht hc⟩
  | false =>
    cases hm : hasMarker t with
    | false => exact ⟨_, .unmarked ht hc hm⟩
    | true =>
      have ha : Admitted t := ⟨ht, hc, hm⟩
      cases Nat.lt_or_ge config.indent Style.maxIndent with
      | inr hw => exact ⟨_, .wide ha hw⟩
      | inl hw =>
        cases hn : name? t with
        | none => exact ⟨_, .unnamed ha hw hn⟩
        | some name =>
          cases hx : (extractor t).result with
          | error e => exact ⟨_, .refused ha hw hn hx⟩
          | ok fields => exact ⟨_, .declared ha hw hn hx⟩

theorem analyze_eq_ok_iff {t : Text} {config : Config} {extractor : Extractor} {d : Declaration} :
    (analyze t config extractor).result = .ok d ↔
      Admitted t ∧ config.indent < Style.maxIndent ∧ ∃ name fields, name? t = some name ∧
        (extractor t).result = .ok fields ∧ d = config.declaration t name fields := by
  constructor
  · intro h
    have hend := analyzed t config extractor
    generalize analyze t config extractor = r at h hend
    cases hend with
    | declared ht hw hn hx =>
      cases h
      exact ⟨ht, hw, _, _, hn, hx, rfl⟩
    | _ => cases h
  · intro h
    obtain ⟨ht, hw, name, fields, hn, hx, rfl⟩ := h
    rw [analyze_of_declared ht hw hn hx]

section
variable {t : Text} {config : Config} {extractor : Extractor} {d : Declaration}

theorem fields_of_analyze (h : (analyze t config extractor).result = .ok d) :
    (extractor t).result = .ok d.fields := by
  obtain ⟨_, _, _, _, _, hfields, rfl⟩ := analyze_eq_ok_iff.1 h
  exact hfields

theorem style_of_analyze (h : (analyze t config extractor).result = .ok d) :
    d.style = config.style t := by
  obtain ⟨_, _, _, _, _, _, rfl⟩ := analyze_eq_ok_iff.1 h
  rfl

end

section
variable {config extractor} {d : Document}

theorem generate_of_ok {declaration : Declaration}
    (h : (analyze d.text config extractor).result = .ok declaration) :
    generate d config extractor =
      ⟨(analyze d.text config extractor).events, .ok (declaration.file d.path)⟩ := by
  rw [generate, bind_of_ok h]
  simp [Declaration.file]

theorem generate_of_error {s : Stop} (h : (analyze d.text config extractor).result = .error s) :
    generate d config extractor = ⟨(analyze d.text config extractor).events, .error s⟩ := by
  rw [generate, bind_of_error h]

theorem generate_eq_ok_iff {file : File} : (generate d config extractor).result = .ok file ↔
    ∃ declaration, (analyze d.text config extractor).result = .ok declaration ∧
      file = declaration.file d.path := by
  cases h : (analyze d.text config extractor).result with
  | error s => simp [generate_of_error h]
  | ok declaration => simp [generate_of_ok h, eq_comm]

end

/-- The courses of a run against a host. -/
inductive Ran (host : Host) : Traced File → Prop
  | noWorkspace (h : host.root = []) : Ran host (fail .noWorkspace)
  | noEditor (h : host.root ≠ []) (hd : host.document = none) : Ran host (fail .noEditor)
  | stopped {d : Document} {s : Stop} (h : host.root ≠ []) (hd : host.document = some d)
      (ha : (analyze d.text config extractor).result = .error s) :
      Ran host ⟨(analyze d.text config extractor).events, .error s⟩
  | refused {d : Document} {declaration : Declaration} {detail : Text} (h : host.root ≠ [])
      (hd : host.document = some d)
      (ha : (analyze d.text config extractor).result = .ok declaration)
      (hw : host.refusal (declaration.file d.path) = some detail) :
      Ran host ⟨(analyze d.text config extractor).events ++
        [.logged (.writing (Text.utf8Length declaration.content) (outputPath d.path)),
          .logged (.writeFailed (outputPath d.path) detail)],
        .error (.failed (.writeFailed detail))⟩
  | saved {d : Document} {declaration : Declaration} (h : host.root ≠ [])
      (hd : host.document = some d)
      (ha : (analyze d.text config extractor).result = .ok declaration)
      (hw : host.refusal (declaration.file d.path) = none) :
      Ran host ⟨(analyze d.text config extractor).events ++
        [.logged (.writing (Text.utf8Length declaration.content) (outputPath d.path)),
          .wrote (declaration.file d.path)],
        .ok (declaration.file d.path)⟩

theorem run_of_document {host : Host} {d : Document} (hr : host.root ≠ [])
    (hd : host.document = some d) :
    run host config extractor =
      (generate d config extractor >>= fun file => save host.refusal file >>= fun _ => pure file) := by
  simp [run, hr, hd]

theorem save_of_none {refusal : File → Option Text} {file : File} (h : refusal file = none) :
    save refusal file =
      ⟨[.logged (.writing (Text.utf8Length file.content) file.path), .wrote file], .ok ()⟩ := by
  simp only [save, h, log, emit_bind]
  rfl

theorem save_of_some {refusal : File → Option Text} {file : File} {detail : Text}
    (h : refusal file = some detail) :
    save refusal file =
      ⟨[.logged (.writing (Text.utf8Length file.content) file.path),
        .logged (.writeFailed file.path detail)], .error (.failed (.writeFailed detail))⟩ := by
  simp only [save, h, log, emit_bind]
  rfl

theorem ran (host : Host) : Ran config extractor host (run host config extractor) := by
  by_cases hr : host.root = []
  · have he : run host config extractor = fail .noWorkspace := by simp [run, hr]
    rw [he]
    exact .noWorkspace hr
  cases hd : host.document with
  | none =>
    have he : run host config extractor = fail .noEditor := by simp [run, hr, hd]
    rw [he]
    exact .noEditor hr hd
  | some d =>
    rw [run_of_document config extractor hr hd]
    cases ha : (analyze d.text config extractor).result with
    | error s =>
      rw [generate_of_error ha, bind_of_error rfl]
      exact .stopped hr hd ha
    | ok declaration =>
      rw [generate_of_ok ha, bind_of_ok rfl]
      cases hw : host.refusal (declaration.file d.path) with
      | some detail =>
        rw [save_of_some hw, bind_of_error rfl]
        exact .refused hr hd ha hw
      | none =>
        rw [save_of_none hw, bind_of_ok rfl]
        exact .saved hr hd ha hw

end
end FluentBuilder
