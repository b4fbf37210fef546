import FluentBuilder.Proofs.SettingLines

/-! A configuration file of lines such as `indent: 4`. Neither the order of the lines nor unknown keys
between them matter, and the first line that gives a known key again is the fault. -/
namespace FluentBuilder.Config
open Setting

namespace Setting

def NoneTwice (ss : List Setting) : Prop :=
  ss.Pairwise fun s s' => s'.isKnown = true → s.key ≠ s'.key

instance (ss : List Setting) : Decidable (NoneTwice ss) :=
  inferInstanceAs (Decidable (ss.Pairwise _))

/-- The line of `s` is the first that gives a known key again. -/
def IsFirstRepeat (ss : List Setting) (s : Setting) : Prop :=
  ∃ before after, ss = before ++ s :: after ∧ NoneTwice before ∧ s.isKnown = true ∧
    s.key ∈ before.map key

end Setting

namespace Draft

/-- What the known keys of some lines set, and no more. -/
structure Records (d : Draft) (ss : List Setting) : Prop where
  lineBreak : ∀ b, d.lineBreak = some b ↔ .lineBreak b ∈ ss
  indent : ∀ spaces, d.indent = some spaces ↔ ∃ below, .indent spaces below ∈ ss
  strip : ∀ b, d.stripInterfacePrefix = some b ↔ .strip b ∈ ss

end Draft

/-- A field has the value of its line, and without a line its default. -/
structure IsSetBy (c : Config) (ss : List Setting) : Prop where
  lineBreak : ∀ b, .lineBreak b ∈ ss → c.lineBreak = b
  indent : ∀ spaces below, .indent spaces below ∈ ss → c.indent = spaces
  strip : ∀ b, .strip b ∈ ss → c.stripInterfacePrefix = b
  lineBreak_default : (∀ b, .lineBreak b ∉ ss) → c.lineBreak = ({} : Config).lineBreak
  indent_default : (∀ spaces below, .indent spaces below ∉ ss) →
    c.indent = ({} : Config).indent
  strip_default : (∀ b, .strip b ∉ ss) →
    c.stripInterfacePrefix = ({} : Config).stripInterfacePrefix

namespace Setting

variable {s : Setting}

theorem keys_ne : lineBreakKey ≠ indentKey ∧ lineBreakKey ≠ stripKey ∧ indentKey ≠ stripKey := by
  decide

theorem key_eq_lineBreakKey_iff : s.key = lineBreakKey ↔ ∃ b, s = .lineBreak b := by
  obtain ⟨hindent, hstrip, -⟩ := keys_ne
  cases s with
  | unknown u => simp [key, u.ne_lineBreakKey]
  | _ => simp [key, hindent.symm, hstrip.symm]

theorem key_eq_indentKey_iff : s.key = indentKey ↔ ∃ spaces below, s = .indent spaces below := by
  obtain ⟨hlineBreak, -, hstrip⟩ := keys_ne
  cases s with
  | indent spaces below => exact ⟨fun _ => ⟨spaces, below, rfl⟩, fun _ => rfl⟩
  | unknown u => simp [key, u.ne_indentKey]
  | _ => simp [key, hlineBreak, hstrip.symm]

theorem key_eq_stripKey_iff : s.key = stripKey ↔ ∃ b, s = .strip b := by
  obtain ⟨-, hlineBreak, hindent⟩ := keys_ne
  cases s with
  | unknown u => simp [key, u.ne_stripKey]
  | _ => simp [key, hlineBreak, hindent]

theorem has_key (d : Draft) (s : Setting) : d.has s.key =
    match s with
    | lineBreak _ => d.lineBreak.isSome
    | indent .. => d.indent.isSome
    | strip _ => d.stripInterfacePrefix.isSome
    | unknown _ => false := by
  obtain ⟨h₁, h₂, h₃⟩ := keys_ne
  cases s with
  | unknown u => simp [Draft.has, key, u.ne_lineBreakKey, u.ne_indentKey, u.ne_stripKey]
  | _ => simp [Draft.has, key, h₁, h₂, h₃, h₁.symm, h₂.symm, h₃.symm]

end Setting

section
open Setting
variable {d d' : Draft} {s : Setting} {ss ss' : List Setting}

theorem records_nil : ({} : Draft).Records [] := by constructor <;> simp

theorem Draft.Records.has_iff (h : d.Records ss) :
    d.has s.key = true ↔ s.isKnown = true ∧ s.key ∈ ss.map Setting.key := by
  rw [has_key, List.mem_map]
  cases s with
  | lineBreak b =>
    change _ ↔ _ ∧ ∃ s' ∈ ss, s'.key = lineBreakKey
    simp only [key_eq_lineBreakKey_iff, Option.isSome_iff_exists, h.lineBreak]
    grind [isKnown]
  | indent spaces below =>
    change _ ↔ _ ∧ ∃ s' ∈ ss, s'.key = indentKey
    simp only [key_eq_indentKey_iff, Option.isSome_iff_exists, h.indent]
    grind [isKnown]
  | strip b =>
    change _ ↔ _ ∧ ∃ s' ∈ ss, s'.key = stripKey
    simp only [key_eq_stripKey_iff, Option.isSome_iff_exists, h.strip]
    grind [isKnown]
  | unknown u => simp [isKnown]

theorem Draft.Records.addTo (h : d.Records ss) (hs : d.has s.key = false) :
    (s.addTo d).Records (ss ++ [s]) := by
  obtain ⟨hlineBreak, hindent, hstrip⟩ := h
  rw [has_key] at hs
  cases s with
  | lineBreak b =>
    have hnone : ∀ b', .lineBreak b' ∉ ss := by
      intro b' hb'
      rw [← hlineBreak] at hb'
      simp [hb'] at hs
    constructor <;> simp [Setting.addTo, hnone, hindent, hstrip, eq_comm]
  | indent spaces below =>
    have hnone : ∀ n hn, .indent n hn ∉ ss := by
      intro n hn hmem
      rw [(hindent n).2 ⟨hn, hmem⟩] at hs
      cases hs
    have hspaces : ∀ n, spaces = n ↔ n < Nat.pow 2 64 ∧ n = spaces := by
      intro n
      constructor
      · rintro rfl
        exact ⟨below, rfl⟩
      · exact fun h => h.2.symm
    constructor <;> simp [Setting.addTo, hlineBreak, hnone, hstrip, -Nat.reducePow, hspaces]
  | strip b =>
    have hnone : ∀ b', .strip b' ∉ ss := by
      intro b' hb'
      rw [← hstrip] at hb'
      simp [hb'] at hs
    constructor <;> simp [Setting.addTo, hlineBreak, hindent, hnone, eq_comm]
  | unknown u => constructor <;> simp [Setting.addTo, hlineBreak, hindent, hstrip]

theorem getD_of_forall_iff {α : Type} {o : Option α} {p : α → Prop} (h : ∀ a, o = some a ↔ p a)
    (standard : α) :
    (∀ a, p a → o.getD standard = a) ∧ ((∀ a, ¬ p a) → o.getD standard = standard) := by
  cases o with
  | none => exact ⟨fun a ha => by simpa using (h a).2 ha, fun _ => rfl⟩
  | some a₀ =>
    refine ⟨fun a ha => ?_, fun hnone => absurd ((h a₀).1 rfl) (hnone a₀)⟩
    simpa using (h a).2 ha

theorem Draft.Records.isSetBy (h : d.Records ss) : d.toConfig.IsSetBy ss := by
  obtain ⟨hlineBreak, hlineBreak'⟩ := getD_of_forall_iff h.lineBreak ({} : Config).lineBreak
  obtain ⟨hindent, hindent'⟩ := getD_of_forall_iff h.indent ({} : Config).indent
  obtain ⟨hstrip, hstrip'⟩ := getD_of_forall_iff h.strip ({} : Config).stripInterfacePrefix
  constructor
  case lineBreak => exact hlineBreak
  case indent => exact fun spaces below hs => hindent spaces ⟨below, hs⟩
  case strip => exact hstrip
  case lineBreak_default => exact hlineBreak'
  case indent_default => exact fun hnone => hindent' fun spaces ⟨below, hs⟩ => hnone spaces below hs
  case strip_default => exact hstrip'

/-- The known keys alone determine a draft, in whatever order they come. -/
theorem Draft.Records.unique (h : d.Records ss) (h' : d'.Records ss')
    (hknown : ∀ s : Setting, s.isKnown = true → (s ∈ ss' ↔ s ∈ ss)) : d' = d := by
  have hlineBreak : d'.lineBreak = d.lineBreak := by
    apply Option.ext
    intro b
    rw [h.lineBreak, h'.lineBreak, hknown _ rfl]
  have hindent : d'.indent = d.indent := by
    apply Option.ext
    intro spaces
    rw [h.indent, h'.indent]
    exact exists_congr fun below => hknown _ rfl
  have hstrip : d'.stripInterfacePrefix = d.stripInterfacePrefix := by
    apply Option.ext
    intro b
    rw [h.strip, h'.strip, hknown _ rfl]
  cases d
  cases d'
  simp_all

end

namespace Setting

section
variable {d : Draft} {s : Setting} {ss before : List Setting}

theorem not_noneTwice_of_isFirstRepeat (h : IsFirstRepeat ss s) : ¬ NoneTwice ss := by
  intro hnone
  obtain ⟨before, after, rfl, _, hknown, hkey⟩ := h
  obtain ⟨s', hs', hkey⟩ := List.mem_map.1 hkey
  exact (List.pairwise_append.1 hnone).2.2 s' hs' s List.mem_cons_self hknown hkey

/-- Either all lines are read, or all up to the first that gives a known key again. -/
theorem foldlM_put (ss : List Setting) (hd : d.Records before) (hbefore : NoneTwice before) :
    (NoneTwice (before ++ ss) ∧ ∃ d', ss.foldlM put d = .ok d' ∧ d'.Records (before ++ ss)) ∨
      ∃ s, IsFirstRepeat (before ++ ss) s ∧ ss.foldlM put d = .error s.repeated := by
  induction ss generalizing d before with
  | nil =>
    rw [List.append_nil]
    exact .inl ⟨hbefore, d, rfl, hd⟩
  | cons s ss ih =>
    rw [List.foldlM_cons, put]
    cases h : d.has s.key with
    | true =>
      obtain ⟨hknown, hkey⟩ := hd.has_iff.1 h
      exact .inr ⟨s, ⟨before, ss, rfl, hbefore, hknown, hkey⟩, rfl⟩
    | false =>
      have hnext : NoneTwice (before ++ [s]) := by
        refine List.pairwise_append.2 ⟨hbefore, List.pairwise_singleton _ _, ?_⟩
        intro s' hs' t ht hknown hkey
        rw [List.mem_singleton.1 ht] at hknown hkey
        rw [hd.has_iff.2 ⟨hknown, List.mem_map.2 ⟨s', hs', hkey⟩⟩] at h
        cases h
      have hrest := ih (hd.addTo h) hnext
      rw [List.append_assoc] at hrest
      exact hrest

theorem load_of_noneTwice (h : NoneTwice ss) :
    ∃ d : Draft, d.Records ss ∧ load (.ok (file ss)) = .ok (some d.toConfig) := by
  obtain ⟨-, d, hd, hrecords⟩ | ⟨s, hs, -⟩ := foldlM_put ss records_nil .nil
  case inl =>
    refine ⟨d, hrecords, ?_⟩
    rw [load_file, hd]
    rfl
  case inr => exact absurd h (not_noneTwice_of_isFirstRepeat hs)

theorem load_of_twice (h : ¬ NoneTwice ss) :
    ∃ s, IsFirstRepeat ss s ∧ load (.ok (file ss)) = .error (.rejected s.repeated) := by
  obtain ⟨hnone, -⟩ | ⟨s, hs, herror⟩ := foldlM_put ss records_nil .nil
  case inl => exact absurd hnone h
  case inr =>
    refine ⟨s, hs, ?_⟩
    rw [load_file, herror]
    rfl

theorem message_repeated (s : Setting) (path : Text) : (LoadError.rejected s.repeated).message path =
    "failed to parse config ".toList ++ path ++ ": duplicate field ".toList ++ code s.key := by
  have hverb : "failed to parse config ".toList =
      "failed to ".toList ++ "parse".toList ++ " config ".toList := by decide
  have hcause : ": duplicate field ".toList = ": ".toList ++ "duplicate field ".toList := by decide
  have hdescribe : s.repeated.describe = "duplicate field ".toList ++ code s.key :=
    List.append_nil _
  unfold LoadError.message LoadError.cause
  change "failed to ".toList ++ "parse".toList ++ " config ".toList ++ path ++ ": ".toList ++
    s.repeated.describe = _
  rw [hverb, hcause, hdescribe]
  simp only [List.append_assoc]

end

end Setting

/-- Lines without a known key twice set the fields they name and leave the others alone, whatever
their order and the unknown keys between them. Else the first line to give a known key again is the
fault. -/
theorem load_settings (ss : List Setting) :
    (NoneTwice ss → ∃ c, load (.ok (file ss)) = .ok (some c) ∧ c.IsSetBy ss ∧
      ∀ ss', NoneTwice ss' → (∀ s, s.isKnown = true → (s ∈ ss' ↔ s ∈ ss)) →
        load (.ok (file ss')) = .ok (some c)) ∧
    (¬ NoneTwice ss → ∃ s, IsFirstRepeat ss s ∧
      load (.ok (file ss)) = .error (.rejected s.repeated) ∧
      ∀ path, (LoadError.rejected s.repeated).message path = "failed to parse config ".toList ++
        path ++ ": duplicate field ".toList ++ code s.key) := by
  constructor
  · intro hnone
    obtain ⟨d, hrecords, hload⟩ := load_of_noneTwice hnone
    refine ⟨d.toConfig, hload, hrecords.isSetBy, ?_⟩
    intro ss' hnone' hknown
    obtain ⟨d', hrecords', hload'⟩ := load_of_noneTwice hnone'
    rw [hload', hrecords.unique hrecords' hknown]
  · intro htwice
    obtain ⟨s, hs, hload⟩ := load_of_twice htwice
    exact ⟨s, hs, hload, message_repeated s⟩

def theme : Unknown where
  key := "theme".toList
  value := "dark".toList
  key_ne_nil := by decide
  value_ne_nil := by decide
  isLower_of_mem_key c hc :=
    .inl (List.all_eq_true.1 (by decide : "theme".toList.all Char.isLower = true) c hc)
  isLower_of_mem_value := List.all_eq_true.1 (by decide)
  length_key := by decide
  ne_lineBreakKey := by decide
  ne_indentKey := by decide
  ne_stripKey := by decide

theorem load_settings_scattered :
    load (.ok "theme: dark\nindent: 4\nline_break: lf\n".toList) = .ok (some ⟨.lf, 4, true⟩) ∧
      load (.ok "indent: 4\nline_break: lf\nline_break: lf\nindent: 4\n".toList) =
        .error (.rejected ⟨.duplicate lineBreakKey, [], .start⟩) := by
  constructor
  · have hfile : "theme: dark\nindent: 4\nline_break: lf\n".toList =
        file [.unknown theme, .indent 4 (by decide), .lineBreak .lf] := by decide
    obtain ⟨c, hload, hset, -⟩ :=
      (load_settings [.unknown theme, .indent 4 (by decide), .lineBreak .lf]).1 (by decide)
    have hlineBreak : c.lineBreak = .lf := hset.lineBreak .lf (by simp)
    have hindent : c.indent = 4 := hset.indent 4 (by decide) (by simp)
    have hstrip : c.stripInterfacePrefix = true := hset.strip_default (by simp)
    have hc : c = ⟨.lf, 4, true⟩ := by
      rw [← hlineBreak, ← hindent, ← hstrip]
    rw [hfile, hload, hc]
  · have hfile : "indent: 4\nline_break: lf\nline_break: lf\nindent: 4\n".toList = file
        [.indent 4 (by decide), .lineBreak .lf, .lineBreak .lf, .indent 4 (by decide)] := by decide
    obtain ⟨s, ⟨before, after, hlines, hbefore, -, hkey⟩, hload, -⟩ := (load_settings
      [.indent 4 (by decide), .lineBreak .lf, .lineBreak .lf, .indent 4 (by decide)]).2 (by decide)
    have hs : s.key = lineBreakKey := by
      obtain _ | ⟨_, _ | ⟨_, _ | ⟨_, before⟩⟩⟩ := before
      · cases hkey
      · cases hlines
        rfl
      · cases hlines
        rfl
      · simp only [List.cons_append, List.cons.injEq] at hlines
        obtain ⟨-, rfl, rfl, -⟩ := hlines
        simp [NoneTwice, isKnown] at hbefore
    rw [hfile, hload, repeated, hs]

end FluentBuilder.Config
