/-! Text is a list of characters. Occurrence, splitting at the last separator, decimal numerals, bytes
in UTF-8, white space, and scans from the left. -/
namespace FluentBuilder

abbrev Text := List Char

namespace Text

def after? : (p text : Text) → Option Text
  | [], t => some t
  | _ :: _, [] => none
  | a :: p, c :: t => if a = c then after? p t else none

theorem after?_eq_some_iff {p t r : Text} : after? p t = some r ↔ t = p ++ r := by
  induction p generalizing t with
  | nil => simp [after?]
  | cons a p ih =>
    cases t with
    | nil => simp [after?]
    | cons c t => by_cases h : a = c <;> simp [after?, h, ih, eq_comm]

def occurs (p : Text) : Text → Bool
  | [] => p.isEmpty
  | c :: t => p.isPrefixOf (c :: t) || occurs p t

theorem occurs_iff {p t : Text} : occurs p t = true ↔ p <:+: t := by
  induction t with
  | nil => simp [occurs, List.isEmpty_iff]
  | cons c t ih => simp [occurs, ih, List.infix_cons_iff]

/-- The text before the last separator, that separator, and the text after it. -/
def splitLast? (sep : Char → Bool) : Text → Option (Text × Char × Text)
  | [] => none
  | c :: t =>
    match splitLast? sep t with
    | some (before, s, rest) => some (c :: before, s, rest)
    | none => if sep c then some ([], c, t) else none

theorem splitLast?_eq_none_iff {sep : Char → Bool} {t : Text} :
    splitLast? sep t = none ↔ ∀ c ∈ t, sep c = false := by
  induction t with
  | nil => simp [splitLast?]
  | cons c t ih =>
    cases h : splitLast? sep t with
    | some p => simp [splitLast?, h, ← ih]
    | none => by_cases hc : sep c <;> simp [splitLast?, h, hc]; exact ih.1 h

theorem eq_of_splitLast? {sep : Char → Bool} {t a b : Text} {s : Char}
    (h : splitLast? sep t = some (a, s, b)) :
    t = a ++ s :: b ∧ sep s = true ∧ ∀ c ∈ b, sep c = false := by
  induction t generalizing a with
  | nil => simp [splitLast?] at h
  | cons c t ih =>
    cases ht : splitLast? sep t with
    | some p =>
      obtain ⟨a', s', b'⟩ := p
      simp only [splitLast?, ht, Option.some.injEq, Prod.mk.injEq] at h
      obtain ⟨rfl, rfl, rfl⟩ := h
      obtain ⟨rfl, hs, hb⟩ := ih ht
      exact ⟨rfl, hs, hb⟩
    | none =>
      by_cases hc : sep c
      · simp only [splitLast?, ht, hc, if_true, Option.some.injEq, Prod.mk.injEq] at h
        obtain ⟨rfl, rfl, rfl⟩ := h
        exact ⟨rfl, hc, splitLast?_eq_none_iff.1 ht⟩
      · simp [splitLast?, ht, hc] at h

theorem splitLast?_append {sep : Char → Bool} {b : Text} {s : Char} (hs : sep s = true)
    (hb : ∀ c ∈ b, sep c = false) (a : Text) : splitLast? sep (a ++ s :: b) = some (a, s, b) := by
  induction a with
  | nil => simp [splitLast?, splitLast?_eq_none_iff.2 hb, hs]
  | cons c a ih => simp [splitLast?, ih]

def ofNat (n : Nat) : Text := Nat.toDigits 10 n

def utf8Length (t : Text) : Nat := t.foldl (fun n c => n + c.utf8Size) 0

theorem utf8Length_cons (c : Char) (t : Text) :
    utf8Length (c :: t) = c.utf8Size + utf8Length t := by
  have hsize : ∀ n, t.foldl (fun n c => n + c.utf8Size) n = n + utf8Length t := by
    rw [utf8Length]
    induction t with
    | nil => simp
    | cons c t ih =>
      intro n
      rw [List.foldl_cons, List.foldl_cons, ih (n + c.utf8Size), ih (0 + c.utf8Size)]
      omega
  rw [utf8Length, List.foldl_cons, hsize, Nat.zero_add]

theorem utf8Length_append (t u : Text) :
    utf8Length (t ++ u) = utf8Length t + utf8Length u := by
  induction t with
  | nil => simp [utf8Length]
  | cons c t ih => rw [List.cons_append, utf8Length_cons, utf8Length_cons, ih, Nat.add_assoc]

def utf8 (t : Text) : List UInt8 := t.flatMap String.utf8EncodeChar

def ofUtf8? (b : List UInt8) : Option Text := (String.fromUTF8? ⟨b.toArray⟩).map String.toList

/-- One of the 25 characters with the Unicode property White_Space. -/
def isBlank (c : Char) : Bool :=
  let n := c.toNat
  (9 ≤ n && n ≤ 13) || n = 0x20 || n = 0x85 || n = 0xA0 || n = 0x1680 ||
    (0x2000 ≤ n && n ≤ 0x200A) || n = 0x2028 || n = 0x2029 || n = 0x202F || n = 0x205F || n = 0x3000

/-! Scanning a text from the left: every place where a pattern applies, none overlapping another. -/

/-- What the head of a text may match: the part that is kept and the number of characters used. -/
abbrev Pattern := Text → Option (Text × Nat)

structure Hit where
  start : Nat
  length : Nat
  capture : Text
deriving DecidableEq, Repr

/-- The hits in a text that stands at `pos`, of which the first `skip` characters are used up. -/
def hitsFrom (pattern : Pattern) : (pos skip : Nat) → Text → List Hit
  | _, _, [] => []
  | pos, skip + 1, _ :: t => hitsFrom pattern (pos + 1) skip t
  | pos, 0, c :: t =>
    match pattern (c :: t) with
    | none => hitsFrom pattern (pos + 1) 0 t
    | some (capture, length) =>
      ⟨pos, length, capture⟩ :: hitsFrom pattern (pos + 1) (length - 1) t

theorem hitsFrom_skip (pattern : Pattern) (pos skip : Nat) (t : Text) (h : skip ≤ t.length) :
    hitsFrom pattern pos skip t = hitsFrom pattern (pos + skip) 0 (t.drop skip) := by
  induction skip generalizing pos t with
  | zero => simp
  | succ k ih =>
    cases t with
    | nil => simp at h
    | cons c t =>
      rw [hitsFrom, ih (pos + 1) t (by simpa using h), List.drop_succ_cons]
      congr 1
      omega

def hits (pattern : Pattern) (t : Text) : List Hit := hitsFrom pattern 0 0 t

def captures (pattern : Pattern) (t : Text) : List Text := (hits pattern t).map (·.capture)

end Text
end FluentBuilder
