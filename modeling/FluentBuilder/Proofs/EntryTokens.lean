import FluentBuilder.Text.Word
import FluentBuilder.Yaml.Scan

/-! The tokens of lines such as `key: value` with a plain word on either side: four for each line,
all of them in one block mapping. -/
namespace FluentBuilder.Yaml
open Text

/-- A line that gives a plain word under a key. The length of a key is limited, as a key is looked
for so far back only. -/
structure Entry where
  key : Text
  value : Text
  key_ne_nil : key ≠ []
  value_ne_nil : value ≠ []
  isWord_of_mem_key : ∀ c ∈ key, isWord c = true
  isWord_of_mem_value : ∀ c ∈ value, isWord c = true
  length_key : key.length ≤ 1024

namespace Entry

def line (e : Entry) : Text := e.key ++ ':' :: ' ' :: (e.value ++ ['\n'])

def text (es : List Entry) : Text := es.flatMap line

@[simp] theorem text_nil : text [] = [] := rfl

@[simp] theorem text_cons (e : Entry) (es : List Entry) : text (e :: es) = e.line ++ text es := rfl

section
variable (e : Entry) (m : Mark)

def keyEnd : Mark := m.advance e.key

def colonEnd : Mark := (e.keyEnd m).advance [':']

def valueStart : Mark := (e.colonEnd m).advance [' ']

def valueEnd : Mark := (e.valueStart m).advance e.value

def next : Mark := (e.valueEnd m).nextLine ['\n']

def tokens : List Token := [
  ⟨.key, m, m⟩,
  ⟨.scalar .plain e.key, m, e.keyEnd m⟩,
  ⟨.value, e.keyEnd m, e.colonEnd m⟩,
  ⟨.scalar .plain e.value, e.valueStart m, e.valueEnd m⟩]

end

def tokensFrom : Mark → List Entry → List Token
  | _, [] => []
  | m, e :: es => e.tokens m ++ tokensFrom (e.next m) es

def after : Mark → List Entry → Mark
  | m, [] => m
  | m, e :: es => after (e.next m) es

end Entry

/-! ### Characters and words -/

section
variable {c : Char} {w t : Text} {m : Mark} {least : Nat}

/-- A character that is not passed over between tokens. -/
def IsSolid (c : Char) : Prop :=
  c ≠ '\ufeff' ∧ c ≠ ' ' ∧ c ≠ '\t' ∧ c ≠ '#' ∧ isBreak c = false

theorem isBreak_eq_false_of_isWord (h : isWord c = true) : isBreak c = false := by
  have hne : c ∉ ['\n', '\r', '\u0085', '\u2028', '\u2029'] := not_mem_of_isWord h (by decide)
  simpa [isBreak, and_assoc] using hne

theorem isGap_eq_false_of_isWord (h : isWord c = true) : isGap c = false := by
  have hne : c ∉ [' ', '\t'] := not_mem_of_isWord h (by decide)
  simpa [isGap] using hne

theorem isSolid_of_isWord (h : isWord c = true) : IsSolid c :=
  ⟨ne_of_isWord h (by decide), ne_of_isWord h (by decide), ne_of_isWord h (by decide),
    ne_of_isWord h (by decide), isBreak_eq_false_of_isWord h⟩

theorem isSolid_colon : IsSolid ':' := by
  unfold IsSolid
  decide

theorem isAllowed_of_isWord (h : isWord c = true) : isAllowed c = true := by
  have hn := bounds_of_isWord h
  simp only [isAllowed, Bool.or_eq_true, Bool.and_eq_true, decide_eq_true_eq]
  omega

theorem utf8Length_of_isWord (h : ∀ c ∈ w, isWord c = true) : utf8Length w = w.length := by
  induction w with
  | nil => rfl
  | cons c w ih =>
    have hc : c.utf8Size = 1 := by
      have hn := (bounds_of_isWord (h c List.mem_cons_self)).2
      rw [Char.utf8Size_eq_one_iff, UInt32.le_iff_toNat_le]
      exact Nat.le_trans hn (by decide)
    rw [utf8Length_cons, ih (fun d hd => h d (List.mem_cons_of_mem c hd)), hc, List.length_cons,
      Nat.add_comm]

theorem limitFrom_eq_none (h : ∀ c ∈ t, isAllowed c = true) (start size : Nat) :
    limitFrom start size t = none := by
  induction t generalizing start size with
  | nil => rfl
  | cons c t ih =>
    rw [limitFrom]
    simp only [h c List.mem_cons_self, if_true]
    exact ih (fun d hd => h d (List.mem_cons_of_mem c hd)) _ _

theorem atDocumentMarker_of_isWord (h : isWord c = true) : atDocumentMarker (c :: t) = false := by
  have hhyphen : c ≠ '-' := ne_of_isWord h (by decide)
  have hdot : c ≠ '.' := ne_of_isWord h (by decide)
  simp [atDocumentMarker, hhyphen, hdot]

namespace Cursor

theorem advance_append (w t : Text) (m : Mark) :
    (⟨w ++ t, m⟩ : Cursor).advance w.length = ⟨t, m.advance w⟩ := by
  simp [advance]

end Cursor

namespace Plain

theorem word_append (h : ∀ c ∈ w, isWord c = true) (ht : word false t = some []) :
    word false (w ++ t) = some w := by
  induction w with
  | nil => exact ht
  | cons c w ih =>
    have hc := h c List.mem_cons_self
    have hcolon : c ≠ ':' := ne_of_isWord hc (by decide)
    rw [List.cons_append, word, ih fun d hd => h d (List.mem_cons_of_mem c hd)]
    simp [isGap_eq_false_of_isWord hc, isBreak_eq_false_of_isWord hc, hcolon]

theorem words_append (hne : w ≠ []) (h : ∀ c ∈ w, isWord c = true) (ht : word false t = some [])
    (fuel : Nat) : words false least (fuel + 1) {} ⟨[], m, ⟨w ++ t, m⟩, false⟩ =
      if t.isEmpty || !atEdge t then some ⟨w, m.advance w, ⟨t, m.advance w⟩, false⟩
      else
        (Gap.read least t (m.advance w) {}).bind fun (g, c) =>
          if c.mark.column < least then some ⟨w, m.advance w, c, g.broken⟩
          else words false least fuel g ⟨w, m.advance w, c, g.broken⟩ := by
  obtain ⟨c, r, rfl⟩ := List.exists_cons_of_ne_nil hne
  have hc := h c List.mem_cons_self
  have hhash : c ≠ '#' := ne_of_isWord hc (by decide)
  have hword := word_append h ht
  rw [List.cons_append] at hword
  have hcursor := Cursor.advance_append (c :: r) t m
  rw [List.cons_append, List.length_cons] at hcursor
  rw [words, List.cons_append]
  simp [atDocumentMarker_of_isWord hc, hhash, hword, hcursor, Gap.text]

theorem read_key (hne : w ≠ []) (h : ∀ c ∈ w, isWord c = true) (t : Text) :
    read false least ⟨w ++ ':' :: ' ' :: t, m⟩ =
      some ⟨w, m.advance w, ⟨':' :: ' ' :: t, m.advance w⟩, false⟩ := by
  have hend : word false (':' :: ' ' :: t) = some [] := by simp [word, atEdge, isGap]
  rw [read, words_append hne h hend]
  simp [atEdge, isGap, isBreak]

/-- A word at the end of its line ends where the next line starts with less indent. -/
theorem read_value (hne : w ≠ []) (h : ∀ c ∈ w, isWord c = true)
    (ht : ∀ c ∈ t.head?, isWord c = true) (hleast : 0 < least) :
    read false least ⟨w ++ '\n' :: t, m⟩ =
      some ⟨w, m.advance w, ⟨t, (m.advance w).nextLine ['\n']⟩, true⟩ := by
  have hend : word false ('\n' :: t) = some [] := by simp [word, isBreak]
  have hgap : ∀ m g, Gap.read least t m g = some (g, ⟨t, m⟩) := by
    intro m g
    cases t with
    | nil => rfl
    | cons c t =>
      have hc := ht c rfl
      have hreturn : c ≠ '\r' := ne_of_isWord hc (by decide)
      simp [Gap.read, isGap_eq_false_of_isWord hc, isBreak_eq_false_of_isWord hc, hreturn]
  have hbreak : Gap.read least ('\n' :: t) (m.advance w) {} =
      some (⟨[], true, ['\n'], []⟩, ⟨t, (m.advance w).nextLine ['\n']⟩) := by
    simp [Gap.read, isGap, isBreak, Cursor.lineBreak, Gap.addBreak, hgap]
  rw [read, words_append hne h hend, hbreak]
  simp [atEdge, isGap, isBreak, Mark.nextLine, hleast]

end Plain

end

/-! ### Steps of the scanner -/

namespace Scanner

section
variable {s s₁ s₂ : Scanner} {c : Char} {t : Text}

theorem skipBlank_of_solid (hrest : s.cursor.rest = c :: t) (hc : IsSolid c) (fuel : Nat) :
    skipBlank fuel s = s := by
  cases fuel with
  | zero => rfl
  | succ fuel =>
    obtain ⟨hmark, hspace, htab, hhash, hbreak⟩ := hc
    unfold skipBlank
    simp [hrest, hmark, hspace, htab, hhash, hbreak]

theorem dropStaleKeys_of_none (hkey : s.key = none) (houter : s.outerKeys = []) :
    s.dropStaleKeys = some s := by
  cases s
  simp_all [dropStaleKeys, KeyStart.refresh]

theorem dropStaleKeys_of_fresh {k : KeyStart} (hkey : s.key = some k) (houter : s.outerKeys = [])
    (hfresh : k.isStale s.cursor.mark = false) : s.dropStaleKeys = some s := by
  cases s
  simp_all [dropStaleKeys, KeyStart.refresh]

theorem closeBlocks_of_first (h : s.indents = [] ∨ s.indents = [0]) :
    s.closeBlocks (s.column < ·) = s := by
  cases s
  obtain h | h := h <;> simp_all [closeBlocks]

theorem step_of_token (s₁ : Scanner) (hskip : skipBlank (s.cursor.rest.length + 1) s = s₁)
    (hfresh : s₁.dropStaleKeys = some s₁) (hindents : s₁.indents = [] ∨ s₁.indents = [0])
    (hrest : s₁.cursor.rest ≠ []) (htoken : s₁.token = some s₂) (hlimit : s₂.limit = none)
    (hlast : s₂.dropStaleKeys = some s₂) : s.step = some s₂ := by
  have hclose := closeBlocks_of_first hindents
  simp [step, hskip, hfresh, hclose, hrest, htoken, hlimit, hlast]

theorem token_of_isWord (hrest : s.cursor.rest = c :: t) (hc : isWord c = true) :
    s.token = s.plainScalar := by
  have hne : c ∉ ['%', '-', '.', '[', ']', '\x7b', '\x7d', ',', '?', ':', '*', '&', '!', '|', '>',
      '\'', '"'] := not_mem_of_isWord hc (by decide)
  have hindicator : isIndicator c = false := by
    rw [isIndicator, ← Bool.not_eq_true, List.contains_iff_mem]
    exact not_mem_of_isWord hc (by decide)
  have hstart : startsPlain s.inFlow c t = true := by
    simp [startsPlain, isGap_eq_false_of_isWord hc, hindicator]
  simp only [List.mem_cons, not_or] at hne
  simp [token, hrest, hne, hstart]

theorem token_colon (hrest : s.cursor.rest = ':' :: t) (ht : atEdge t = true) :
    s.token = s.value := by
  simp [token, hrest, ht]

end

/-- Before a line, where no key is pending. -/
def atLine (tokens : List Token) (indents : List Nat) (rest : Text) (m : Mark) : Scanner where
  cursor := ⟨rest, m⟩
  tokens := tokens
  indents := indents

def opening (indents : List Nat) (m : Mark) : List Token :=
  if indents = [] then [⟨.blockMappingStart, m, m⟩] else []

section
variable (e : Entry) (tokens : List Token) (indents : List Nat) (rest : Text) (m : Mark)

def afterKey : Scanner where
  cursor := ⟨':' :: ' ' :: (e.value ++ '\n' :: rest), e.keyEnd m⟩
  tokens := ⟨.scalar .plain e.key, m, e.keyEnd m⟩ :: tokens
  indents := indents
  key := some ⟨tokens.length, m, decide (indents.head? = some 0)⟩
  keyAllowed := false

def afterColon : Scanner where
  cursor := ⟨' ' :: (e.value ++ '\n' :: rest), e.colonEnd m⟩
  tokens := ⟨.value, e.keyEnd m, e.colonEnd m⟩ :: ⟨.scalar .plain e.key, m, e.keyEnd m⟩ ::
    ⟨.key, m, m⟩ :: (opening indents m ++ tokens)
  indents := [0]
  keyAllowed := false

end

section
variable {e : Entry} {tokens : List Token} {indents : List Nat} {rest : Text} {m : Mark}

theorem fresh_key : (⟨tokens.length, m, decide (indents.head? = some 0)⟩ : KeyStart).isStale
    (e.keyEnd m) = false := by
  have hlength := utf8Length_of_isWord e.isWord_of_mem_key
  have hlimit := e.length_key
  simp [KeyStart.isStale, Entry.keyEnd, Mark.advance, hlength, hlimit]

section
variable (hm : m.column = 0) (hindents : indents = [] ∨ indents = [0])
include hm hindents

theorem step_key : (atLine tokens indents (e.line ++ rest) m).step =
    some (afterKey e tokens indents rest m) := by
  obtain ⟨c, r, hkey⟩ := List.exists_cons_of_ne_nil e.key_ne_nil
  have hc : isWord c = true := e.isWord_of_mem_key c (by simp [hkey])
  have hline : e.line ++ rest = e.key ++ ':' :: ' ' :: (e.value ++ '\n' :: rest) := by
    simp [Entry.line]
  have hhead : e.line ++ rest = c :: (r ++ ':' :: ' ' :: (e.value ++ '\n' :: rest)) := by
    rw [hline, hkey, List.cons_append]
  apply step_of_token (atLine tokens indents (e.line ++ rest) m)
  case hskip => exact skipBlank_of_solid hhead (isSolid_of_isWord hc) _
  case hfresh => exact dropStaleKeys_of_none rfl rfl
  case hindents => exact hindents
  case hrest => simp [atLine, hhead]
  case htoken =>
    rw [token_of_isWord (by rw [atLine, hhead]) hc]
    simp [plainScalar, saveKey, dropKey, atLine, inFlow, column, hm, hline,
      Plain.read_key e.key_ne_nil e.isWord_of_mem_key, emitTo, allowKey, afterKey, Entry.keyEnd]
  case hlimit => rfl
  case hlast => exact dropStaleKeys_of_fresh rfl rfl fresh_key

theorem step_colon : (afterKey e tokens indents rest m).step =
    some (afterColon e tokens indents rest m) := by
  apply step_of_token (afterKey e tokens indents rest m)
  case hskip => exact skipBlank_of_solid rfl isSolid_colon _
  case hfresh => exact dropStaleKeys_of_fresh rfl rfl fresh_key
  case hindents => exact hindents
  case hrest => simp [afterKey]
  case htoken =>
    rw [token_colon rfl rfl]
    obtain rfl | rfl := hindents <;>
      simp [value, insertKey, opensAt, afterKey, afterColon, inFlow, hm, emitChars, emit, emitTo,
        allowKey, opening, Cursor.advance, Entry.colonEnd]
  case hlimit => rfl
  case hlast => exact dropStaleKeys_of_none rfl rfl

end

theorem step_value (hrest : ∀ c ∈ rest.head?, isWord c = true) :
    (afterColon e tokens indents rest m).step =
      some (atLine ((e.tokens m).reverse ++ (opening indents m ++ tokens)) [0] rest (e.next m)) := by
  obtain ⟨c, r, hvalue⟩ := List.exists_cons_of_ne_nil e.value_ne_nil
  have hc : isWord c = true := e.isWord_of_mem_value c (by simp [hvalue])
  have hhead : e.value ++ '\n' :: rest = c :: (r ++ '\n' :: rest) := by
    rw [hvalue, List.cons_append]
  -- the scanner on the first character of the value
  let s : Scanner := { afterColon e tokens indents rest m with
    cursor := ⟨e.value ++ '\n' :: rest, e.valueStart m⟩ }
  apply step_of_token s
  case hskip =>
    have hspace : (afterColon e tokens indents rest m).cursor.advance 1 = s.cursor := by
      simp [afterColon, s, Cursor.advance, Entry.valueStart]
    have hskip : skipBlank ((afterColon e tokens indents rest m).cursor.rest.length)
        { afterColon e tokens indents rest m with cursor := s.cursor } = s :=
      skipBlank_of_solid hhead (isSolid_of_isWord hc) _
    rw [← hspace] at hskip
    rw [skipBlank]
    simpa [afterColon] using hskip
  case hfresh => exact dropStaleKeys_of_none rfl rfl
  case hindents => exact .inr rfl
  case hrest => simp [s, hhead]
  case htoken =>
    have hs : s.cursor.rest = c :: (r ++ '\n' :: rest) := hhead
    rw [token_of_isWord hs hc]
    have hread := Plain.read_value (m := e.valueStart m) e.value_ne_nil e.isWord_of_mem_value hrest
      Nat.one_pos
    simp [plainScalar, saveKey, s, afterColon, inFlow, leastColumn, hread, emitTo, allowKey, atLine,
      Entry.tokens, Entry.next, Entry.valueEnd]
  case hlimit => rfl
  case hlast => exact dropStaleKeys_of_none rfl rfl

end

/-! ### Runs of the scanner -/

section
variable {s s' : Scanner} {e : Entry} {es : List Entry} {tokens : List Token} {indents : List Nat}
  {rest : Text} {m : Mark} {fuel : Nat}

theorem run_of_step (h : s.step = some s') (hs : s'.isFinished = false) :
    run (fuel + 1) s = run fuel s' := by
  rw [run, h]
  simp [hs]

theorem run_of_last (h : s.step = some s') (hs : s'.isFinished = true) :
    run (fuel + 1) s = s'.tokens.reverse := by
  rw [run, h]
  simp [hs]

theorem run_line (hm : m.column = 0) (hindents : indents = [] ∨ indents = [0])
    (hrest : ∀ c ∈ rest.head?, isWord c = true) :
    run (fuel + 3) (atLine tokens indents (e.line ++ rest) m) =
      run fuel (atLine ((e.tokens m).reverse ++ (opening indents m ++ tokens)) [0] rest
        (e.next m)) := by
  rw [run_of_step (step_key hm hindents) rfl, run_of_step (step_colon hm hindents) rfl,
    run_of_step (step_value hrest) rfl]

theorem run_end (hm : m.column = 0) (hindents : indents = [] ∨ indents = [0]) :
    run (fuel + 1) (atLine tokens indents [] m) =
      tokens.reverse ++ indents.map (fun _ => ⟨.blockEnd, m, m⟩) ++ [⟨.textEnd, m, m⟩] := by
  have hstart : m.lineStart = m := if_pos hm
  have hstop : m.advance [] = m := rfl
  have hstep : (atLine tokens indents [] m).step = some { atLine tokens [] [] m with
      tokens := ⟨.textEnd, m, m⟩ :: (indents.map (fun _ => ⟨.blockEnd, m, m⟩) ++ tokens) } := by
    obtain rfl | rfl := hindents <;>
      simp [step, atLine, skipBlank, dropStaleKeys, KeyStart.refresh, closeBlocks, inFlow, column,
        finish, dropKey, emitChars, emit, emitTo, Cursor.advance, hstart, hstop]
  rw [run_of_last hstep rfl]
  obtain rfl | rfl := hindents <;> simp

theorem isWord_head_text (es : List Entry) : ∀ c ∈ (Entry.text es).head?, isWord c = true := by
  cases es with
  | nil => simp
  | cons e es =>
    obtain ⟨c, r, hkey⟩ := List.exists_cons_of_ne_nil e.key_ne_nil
    intro d hd
    simp only [Entry.text_cons, Entry.line, hkey, List.cons_append, List.head?_cons,
      Option.mem_some] at hd
    exact e.isWord_of_mem_key d (by simp [hkey, hd])

theorem run_lines (hm : m.column = 0) :
    run (3 * es.length + 1 + fuel) (atLine tokens [0] (Entry.text es) m) =
      tokens.reverse ++ Entry.tokensFrom m es ++
        [⟨.blockEnd, Entry.after m es, Entry.after m es⟩,
          ⟨.textEnd, Entry.after m es, Entry.after m es⟩] := by
  induction es generalizing tokens m with
  | nil =>
    have hfuel : 3 * ([] : List Entry).length + 1 + fuel = fuel + 1 := by
      simp [Nat.add_comm]
    rw [hfuel]
    simpa [Entry.tokensFrom, Entry.after] using run_end hm (.inr rfl)
  | cons e es ih =>
    have hfuel : 3 * (e :: es).length + 1 + fuel = (3 * es.length + 1 + fuel) + 3 := by
      rw [List.length_cons]
      omega
    have hnext : (e.next m).column = 0 := rfl
    rw [hfuel, Entry.text_cons, run_line hm (.inr rfl) (isWord_head_text es), ih hnext]
    simp [opening, Entry.tokensFrom, Entry.after]

end

end Scanner

namespace Entry

theorem length_text (es : List Entry) : 3 * es.length ≤ (text es).length := by
  induction es with
  | nil => simp
  | cons e es ih =>
    rw [text_cons, List.length_append, List.length_cons]
    simp only [line, List.length_append, List.length_cons]
    omega

theorem length_tokensFrom (m : Mark) (es : List Entry) :
    (tokensFrom m es).length = 4 * es.length := by
  induction es generalizing m with
  | nil => rfl
  | cons e es ih =>
    rw [tokensFrom, List.length_append, ih, tokens, List.length_cons]
    simp only [List.length_cons, List.length_nil]
    omega

theorem limit_text (es : List Entry) : limit (text es) = none := by
  apply limitFrom_eq_none
  intro c hc
  obtain ⟨e, _, hc⟩ := List.mem_flatMap.1 hc
  simp only [line, List.mem_append, List.mem_cons, List.not_mem_nil, or_false] at hc
  obtain hc | rfl | rfl | hc | rfl := hc
  · exact isAllowed_of_isWord (e.isWord_of_mem_key c hc)
  · decide
  · decide
  · exact isAllowed_of_isWord (e.isWord_of_mem_value c hc)
  · decide

theorem scan_nil : Token.scan (text []) = [⟨.textEnd, .start, .start⟩] := by decide

/-- Lines make one block mapping from the start of the text to its end. -/
theorem scan_cons (e : Entry) (es : List Entry) :
    let stop := after .start (e :: es)
    Token.scan (text (e :: es)) = ⟨.blockMappingStart, .start, .start⟩ ::
      (tokensFrom .start (e :: es) ++ [⟨.blockEnd, stop, stop⟩, ⟨.textEnd, stop, stop⟩]) := by
  intro stop
  obtain ⟨k, hk⟩ := Nat.exists_eq_add_of_le (length_text (e :: es))
  have hfuel : (text (e :: es)).length + 1 = (3 * es.length + 1 + k) + 3 := by
    rw [hk, List.length_cons]
    omega
  have hstart : ({ cursor := ⟨text (e :: es), .start⟩, limit := none } : Scanner) =
      Scanner.atLine [] [] (e.line ++ text es) .start := by
    simp [Scanner.atLine]
  rw [Token.scan, limit_text, hfuel, hstart,
    Scanner.run_line rfl (.inl rfl) (Scanner.isWord_head_text es), Scanner.run_lines rfl]
  simp [Scanner.opening, tokensFrom, stop, after]

end Entry

end FluentBuilder.Yaml
