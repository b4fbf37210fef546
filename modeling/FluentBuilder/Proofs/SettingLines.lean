import FluentBuilder.Config
import FluentBuilder.Proofs.EntryOutline

/-! Lines of a configuration file such as `indent: 4`, with a known key or another one. A file of
them loads as the lines read one after the other. -/
namespace FluentBuilder
open Text Yaml

/-! ### Numerals -/

namespace Yaml.Value

section
variable {c : Char} {t : Text} {n bound : Nat}

theorem digit?_of_isDigit (h : c.isDigit = true) : digit? 10 c = some (c.toNat - '0'.toNat) := by
  have hc := Char.isDigit_iff_toNat.1 h
  have hlt : c.toNat - '0'.toNat < 10 := by
    have hzero : '0'.toNat = 48 := rfl
    have hnine : '9'.toNat = 57 := rfl
    omega
  simp only [digit?, h, if_true, if_pos hlt]

theorem foldlM_digits (h : ∀ c ∈ t, c.isDigit = true) (n : Nat) :
    t.foldlM (fun n c => (digit? 10 c).map (10 * n + ·)) n = some (Nat.ofDigitChars 10 t n) := by
  induction t generalizing n with
  | nil => rfl
  | cons c t ih =>
    rw [List.foldlM_cons, digit?_of_isDigit (h c List.mem_cons_self), Nat.ofDigitChars_cons]
    exact ih (fun d hd => h d (List.mem_cons_of_mem c hd)) _

theorem isDigit_ofNat (n : Nat) : ∀ c ∈ ofNat n, c.isDigit = true :=
  fun _ hc => Nat.isDigit_of_mem_toDigits (by decide) (by decide) hc

theorem numeral?_ofNat (n : Nat) : numeral? 10 (ofNat n) = some n := by
  have hne : ofNat n ≠ [] := Nat.toDigits_ne_nil
  have hfold := foldlM_digits (isDigit_ofNat n) 0
  rw [show Nat.ofDigitChars 10 (ofNat n) 0 = n from
    Nat.ofDigitChars_toDigits (by decide) (by decide)] at hfold
  rw [numeral?]
  · exact hfold
  · exact hne

theorem head?_ofNat_ne_zero (h : 0 < n) : (ofNat n).head? ≠ some '0' := by
  induction n using Nat.strongRecOn with
  | _ n ih =>
    rw [ofNat, Nat.toDigits_eq_if (by decide)]
    split
    case isTrue hlt =>
      have hzero : n.digitChar ≠ '0' := by
        rw [ne_eq, Nat.digitChar_eq_zero]
        omega
      simpa using hzero
    case isFalse hle =>
      -- the first digit is the one of a tenth of the number
      obtain ⟨c, r, hdigits⟩ := List.exists_cons_of_ne_nil (l := ofNat (n / 10)) Nat.toDigits_ne_nil
      have hhead := ih (n / 10) (by omega) (by omega)
      rw [hdigits] at hhead
      rw [ofNat] at hdigits
      rw [hdigits]
      exact hhead

theorem ofNat_ne_of_mem (hc : c ∈ t) (h : c.isDigit = false) : ofNat n ≠ t := by
  intro ht
  rw [isDigit_ofNat n c (ht ▸ hc)] at h
  cases h

theorem based?_ofNat (n : Nat) : based? (ofNat n) = none := by
  rw [based?]
  · exact fun t => ofNat_ne_of_mem (c := 'x') (by simp) (by decide)
  · exact fun t => ofNat_ne_of_mem (c := 'o') (by simp) (by decide)
  · exact fun t => ofNat_ne_of_mem (c := 'b') (by simp) (by decide)

theorem isZeroPadded_ofNat (n : Nat) : isZeroPadded (ofNat n) = false := by
  have hunsigned : unsigned (ofNat n) = ofNat n := by
    rw [unsigned]
    · exact fun t => ofNat_ne_of_mem (c := '+') (by simp) (by decide)
    · exact fun t => ofNat_ne_of_mem (c := '-') (by simp) (by decide)
  rw [isZeroPadded, hunsigned]
  obtain rfl | hpos := Nat.eq_zero_or_pos n
  · rfl
  · have hhead := head?_ofNat_ne_zero hpos
    split
    case h_1 heq => exact absurd (by rw [heq, List.head?_cons]) hhead
    case h_2 => rfl

theorem natural?_ofNat (h : n < bound) : natural? bound (ofNat n) = some n := by
  rw [natural?]
  · simp [based?_ofNat, isZeroPadded_ofNat, numeral?_ofNat, h]
  · exact fun t => ofNat_ne_of_mem (c := '+') (by simp) (by decide)
end

end Yaml.Value

namespace Config

/-! ### Settings and their lines -/

/-- A key that names no field, with a word as its value. -/
structure Unknown where
  key : Text
  value : Text
  key_ne_nil : key ≠ []
  value_ne_nil : value ≠ []
  isLower_of_mem_key : ∀ c ∈ key, c.isLower = true ∨ c = '_'
  isLower_of_mem_value : ∀ c ∈ value, c.isLower = true
  length_key : key.length ≤ 1000
  ne_lineBreakKey : key ≠ lineBreakKey
  ne_indentKey : key ≠ indentKey
  ne_stripKey : key ≠ stripKey

/-- What one line of a configuration file says. -/
inductive Setting where
  | lineBreak (b : LineBreak)
  | indent (spaces : Nat) (below : spaces < Nat.pow 2 64)
  | strip (b : Bool)
  | unknown (u : Unknown)

namespace Setting

def key : Setting → Text
  | lineBreak _ => lineBreakKey
  | indent .. => indentKey
  | strip _ => stripKey
  | unknown u => u.key

def value : Setting → Text
  | lineBreak b => b.name
  | indent spaces _ => ofNat spaces
  | strip b => if b then "true".toList else "false".toList
  | unknown u => u.value

def isKnown : Setting → Bool
  | unknown _ => false
  | _ => true

def line (s : Setting) : Text := s.key ++ ": ".toList ++ s.value ++ ['\n']

def file (ss : List Setting) : Text := ss.flatMap line

section
variable (s : Setting)

theorem key_cases (p : Text → Prop) (hlineBreak : p lineBreakKey) (hindent : p indentKey)
    (hstrip : p stripKey) (hunknown : ∀ u : Unknown, p u.key) : p s.key := by
  cases s with
  | lineBreak b => exact hlineBreak
  | indent spaces below => exact hindent
  | strip b => exact hstrip
  | unknown u => exact hunknown u

theorem key_ne_nil : s.key ≠ [] :=
  s.key_cases (· ≠ []) (by decide) (by decide) (by decide) fun u => u.key_ne_nil

theorem value_ne_nil : s.value ≠ [] := by
  cases s with
  | lineBreak b => cases b <;> decide
  | indent spaces below => exact Nat.toDigits_ne_nil
  | strip b => cases b <;> decide
  | unknown u => exact u.value_ne_nil

theorem isWord_of_mem_key : ∀ c ∈ s.key, isWord c = true := by
  apply s.key_cases fun k => ∀ c ∈ k, isWord c = true
  case hunknown =>
    intro u c hc
    obtain h | rfl := u.isLower_of_mem_key c hc
    · exact isWord_of_isLower h
    · decide
  all_goals exact List.all_eq_true.1 (by decide)

theorem isWord_of_mem_value : ∀ c ∈ s.value, isWord c = true := by
  cases s with
  | lineBreak b => cases b <;> exact List.all_eq_true.1 (by decide)
  | indent spaces below => exact fun c hc => isWord_of_isDigit (Value.isDigit_ofNat spaces c hc)
  | strip b => cases b <;> exact List.all_eq_true.1 (by decide)
  | unknown u => exact fun c hc => isWord_of_isLower (u.isLower_of_mem_value c hc)

theorem length_key : s.key.length ≤ 1024 :=
  s.key_cases (·.length ≤ 1024) (by decide) (by decide) (by decide)
    fun u => Nat.le_trans u.length_key (by decide)

def entry : Entry where
  key := s.key
  value := s.value
  key_ne_nil := s.key_ne_nil
  value_ne_nil := s.value_ne_nil
  isWord_of_mem_key := s.isWord_of_mem_key
  isWord_of_mem_value := s.isWord_of_mem_value
  length_key := s.length_key

theorem text_entry (ss : List Setting) : Entry.text (ss.map entry) = file ss := by
  have hline : ∀ s : Setting, s.entry.line = s.line := by
    intro s
    simp [Entry.line, entry, line]
  simp [Entry.text, file, List.flatMap_map, hline]

end

end Setting

/-! ### One line -/

namespace Setting

def addTo (d : Draft) : Setting → Draft
  | lineBreak b => { d with lineBreak := some b }
  | indent spaces _ => { d with indent := some spaces }
  | strip b => { d with stripInterfacePrefix := some b }
  | unknown _ => d

/-- The fault of a line that gives a known key again. -/
def repeated (s : Setting) : Located := ⟨.duplicate s.key, [], .start⟩

def put (d : Draft) (s : Setting) : Except Located Draft :=
  if d.has s.key then .error s.repeated else .ok (s.addTo d)

section
variable (s : Setting) (d : Draft) (o : Outline) (m m' : Mark)

theorem read_value (around : Text × Mark) :
    d.read s.key around s.key ⟨m, none, .scalar .plain s.value⟩ = .ok (s.addTo d) := by
  have hindent : indentKey ≠ lineBreakKey := by decide
  cases s with
  | lineBreak b =>
    have hname := LineBreak.ofName?_name b
    simp only [Draft.read, key, value, if_true, lineBreakOf, namedLineBreak, Option.bind_eq_bind,
      Option.bind_none, hname]
    rfl
  | indent spaces below =>
    have hnatural := Value.natural?_ofNat below
    simp only [Draft.read, key, value, hindent, if_false, if_true, indentOf, bareText?,
      Option.bind_eq_bind, Option.bind_some, hnatural]
    rfl
  | strip b => cases b <;> rfl
  | unknown u =>
    simp only [Draft.read, key, u.ne_lineBreakKey, u.ne_indentKey, u.ne_stripKey, if_false]
    rfl

theorem step_key :
    Progress.step o m ⟨d, .key⟩ (.enter (.written ⟨m', none, .scalar .plain s.entry.key⟩)) =
      if d.has s.key then .error ⟨.duplicate s.key, [], m⟩ else .ok ⟨d, .value s.key s.key⟩ := by
  simp only [Progress.step, Outline.head, keyOf, pathOf, bind, Except.bind, entry]
  split <;> rfl

theorem step_value :
    Progress.step o m ⟨d, .value s.key s.key⟩
      (.enter (.written ⟨m', none, .scalar .plain s.entry.value⟩)) = .ok ⟨s.addTo d, .key⟩ := by
  simp only [Progress.step, Outline.head, entry, read_value]
  rfl

theorem step_line : (s.entry.visits m).foldlM (Progress.step o .start) ⟨d, .key⟩ =
    (put d s).map (⟨·, .key⟩) := by
  simp only [Entry.visits, List.foldlM_cons, List.foldlM_nil, step_key, put]
  split
  case isTrue => rfl
  case isFalse =>
    simp only [bind, Except.bind, step_value]
    rfl

theorem foldlM_visits (ss : List Setting) (d : Draft) (m : Mark) :
    (Entry.visitsFrom m (ss.map entry) ++ [Visit.leave]).foldlM (Progress.step o .start) ⟨d, .key⟩ =
      (ss.foldlM put d).map (⟨·, .key⟩) := by
  induction ss generalizing d m with
  | nil => rfl
  | cons s ss ih =>
    rw [List.map_cons, Entry.visitsFrom, List.append_assoc, List.foldlM_append, step_line,
      List.foldlM_cons]
    cases put d s with
    | error l => rfl
    | ok d' => exact ih d' (s.entry.next m)

/-- A file loads as its lines read one after the other. -/
theorem load_file (ss : List Setting) : load (.ok (file ss)) =
    ((ss.foldlM put {}).map fun d => some d.toConfig).mapError .rejected := by
  have hparse : parse (file ss) =
      ((ss.foldlM put {}).map Draft.toConfig).mapError .rejected := by
    cases ss with
    | nil =>
      obtain ⟨hvisits, hend⟩ := Entry.read_nil
      rw [← List.map_nil, text_entry] at hvisits hend
      simp only [parse, ofOutline, hvisits, hend]
      rfl
    | cons s ss =>
      obtain ⟨hvisits, hend⟩ := Entry.read_cons s.entry (ss.map entry)
      rw [← List.map_cons, text_entry] at hvisits hend
      have hwalk := foldlM_visits (Outline.read (file (s :: ss))) (s :: ss) {} .start
      simp only [parse, ofOutline, hvisits, hend, Outline.head, if_true, hwalk]
      cases (s :: ss).foldlM put {} <;> rfl
  rw [load, hparse]
  cases ss.foldlM put {} <;> rfl

end

end Setting

end Config

end FluentBuilder
