import FluentBuilder.Yaml.Cursor

/-! Scalars of a YAML text: plain, quoted and block ones. -/
namespace FluentBuilder.Yaml

/-! Plain scalars: words and the gaps between them, up to an indicator or a lesser indent. -/

namespace Plain

def isFlowIndicator (c : Char) : Bool := c = ',' || c = '[' || c = ']' || c = '\x7b' || c = '\x7d'

/-- The next word. Inside brackets a colon may not touch an indicator. -/
def word (inFlow : Bool) : Text → Option Text
  | [] => some []
  | c :: t =>
    if isGap c || isBreak c then some []
    else if inFlow && c = ':' && t.head?.any (fun d => isFlowIndicator d || d = '?') then none
    else if (c = ':' && atEdge t) || (inFlow && isFlowIndicator c) then some []
    else (word inFlow t).map (c :: ·)

structure Found where
  text : Text
  stop : Mark
  cursor : Cursor
  broken : Bool

/-- Words and gaps up to a comment, an indicator, a document marker or a lesser indent. -/
def words (inFlow : Bool) (least : Nat) : (fuel : Nat) → Gap → Found → Option Found
  | 0, _, _ => none
  | fuel + 1, g, f =>
    if (f.cursor.mark.column = 0 && atDocumentMarker f.cursor.rest) ||
        f.cursor.rest.head? = some '#' then
      some f
    else do
      let w ← word inFlow f.cursor.rest
      let c := f.cursor.advance w.length
      let f := if w.isEmpty then f else ⟨f.text ++ g.text ++ w, c.mark, c, false⟩
      if c.rest.isEmpty || !atEdge c.rest then some f
      else
        let (g, c) ← Gap.read least c.rest c.mark {}
        let f := { f with cursor := c, broken := g.broken }
        if !inFlow && c.mark.column < least then some f
        else words inFlow least fuel g f

def read (inFlow : Bool) (least : Nat) (c : Cursor) : Option Found :=
  words inFlow least (c.rest.length + 1) {} ⟨[], c.mark, c, false⟩

end Plain

/-! Quoted scalars. A single quote is written twice in single quotes; double quotes know escapes. -/

namespace Quoted

def hexDigit? (c : Char) : Option Nat :=
  if '0' ≤ c && c ≤ '9' then some (c.toNat - '0'.toNat)
  else if 'a' ≤ c && c ≤ 'f' then some (c.toNat - 'a'.toNat + 10)
  else if 'A' ≤ c && c ≤ 'F' then some (c.toNat - 'A'.toNat + 10)
  else none

def hexNumber? (digits : Text) : Option Nat :=
  digits.foldlM (fun n c => (hexDigit? c).map (16 * n + ·)) 0

def charOf? (n : Nat) : Option Char := if n.isValidChar then some (Char.ofNat n) else none

def escape? : Char → Option Char
  | '0' => some '\x00'
  | 'a' => some '\x07'
  | 'b' => some '\x08'
  | 't' => some '\t'
  | '\t' => some '\t'
  | 'n' => some '\n'
  | 'v' => some '\x0b'
  | 'f' => some '\x0c'
  | 'r' => some '\r'
  | 'e' => some '\x1b'
  | ' ' => some ' '
  | '"' => some '"'
  | '/' => some '/'
  | '\\' => some '\\'
  | 'N' => some '\u0085'
  | '_' => some '\u00a0'
  | 'L' => some '\u2028'
  | 'P' => some '\u2029'
  | _ => none

def escapeWidth? : Char → Option Nat
  | 'x' => some 2
  | 'u' => some 4
  | 'U' => some 8
  | _ => none

structure Piece where
  text : Text
  cursor : Cursor
  joined : Bool

def piece (double : Bool) : (fuel : Nat) → Piece → Option Piece
  | 0, _ => none
  | fuel + 1, p =>
    match p.cursor.rest with
    | [] => some p
    | c :: t =>
      if isGap c || isBreak c then some p
      else if !double && c = '\'' && t.head? = some '\'' then
        piece double fuel ⟨p.text ++ ['\''], p.cursor.advance 2, false⟩
      else if c = (if double then '"' else '\'') then some p
      else if double && c = '\\' then
        match t with
        | [] => none
        | d :: digits =>
          if isBreak d then some ⟨p.text, (p.cursor.advance 1).skipBreak, true⟩
          else
            match escapeWidth? d with
            | none => do
              let x ← escape? d
              piece double fuel ⟨p.text ++ [x], p.cursor.advance 2, false⟩
            | some w => do
              if digits.length < w then none
              let x ← hexNumber? (digits.take w) >>= charOf?
              piece double fuel ⟨p.text ++ [x], p.cursor.advance (2 + w), false⟩
      else piece double fuel ⟨p.text ++ [c], p.cursor.advance 1, false⟩

def pieces (double : Bool) : (fuel : Nat) → Text → Cursor → Option (Text × Cursor)
  | 0, _, _ => none
  | fuel + 1, text, c =>
    if (c.mark.column = 0 && atDocumentMarker c.rest) || c.rest.isEmpty then none
    else do
      let p ← piece double (c.rest.length + 1) ⟨text, c, false⟩
      if p.cursor.rest.head? = some (if double then '"' else '\'') then
        some (p.text, p.cursor.advance 1)
      else
        let (g, c) ← Gap.read 0 p.cursor.rest p.cursor.mark { broken := p.joined }
        pieces double fuel (p.text ++ g.text) c

def read (double : Bool) (c : Cursor) : Option (Text × Cursor) :=
  pieces double (c.rest.length + 1) [] (c.advance 1)

end Quoted

/-! Block scalars: lines at one indent, kept as they are or folded. -/

namespace Block

inductive Chomping where
  | strip
  | clip
  | keep
deriving DecidableEq

structure Header where
  chomping : Chomping := .clip
  increment : Option Nat := none

def increment? (c : Char) : Option Nat :=
  if '1' ≤ c && c ≤ '9' then some (c.toNat - '0'.toNat) else none

def chomping? : Char → Option Chomping
  | '+' => some .keep
  | '-' => some .strip
  | _ => none

/-- The indicators after `|` or `>`, in either order. An increment of zero is refused. -/
def header (c : Cursor) : Option (Header × Cursor) :=
  match c.rest with
  | a :: t =>
    match chomping? a with
    | some chomping =>
      match t with
      | b :: _ =>
        if b.isDigit then (increment? b).map fun n => (⟨chomping, some n⟩, c.advance 2)
        else some (⟨chomping, none⟩, c.advance 1)
      | [] => some (⟨chomping, none⟩, c.advance 1)
    | none =>
      if a.isDigit then do
        let n ← increment? a
        match t.head? >>= chomping? with
        | some chomping => some (⟨chomping, some n⟩, c.advance 2)
        | none => some (⟨.clip, some n⟩, c.advance 1)
      else some ({}, c)
  | [] => some ({}, c)

def headerEnd (c : Cursor) : Option Cursor :=
  let c := c.skipGap
  let c := if c.rest.head? = some '#' then c.skipLine else c
  if atLineEnd c.rest then some c.skipBreak else none

/-- Empty lines: their breaks, the widest run of spaces, and the place after them. A tab may not
stand where the indent is still open. -/
def emptyLines (indent : Option Nat) :
    (t : Text) → Mark → (widest : Nat) → (breaks : Text) → Option (Nat × Text × Cursor)
  | [], m, widest, breaks => some (max widest m.column, breaks, ⟨[], m⟩)
  | '\r' :: '\n' :: t, m, widest, breaks =>
    emptyLines indent t (m.nextLine ['\r', '\n']) (max widest m.column) (breaks ++ ['\n'])
  | c :: t, m, widest, breaks =>
    let isOpen := indent.all (m.column < ·)
    if isOpen && c = ' ' then emptyLines indent t (m.advance [c]) widest breaks
    else if isOpen && c = '\t' then none
    else if isBreak c then
      emptyLines indent t (m.nextLine [c]) (max widest m.column)
        (breaks ++ (Cursor.lineBreak ⟨c :: t, m⟩).1)
    else some (max widest m.column, breaks, ⟨c :: t, m⟩)

structure Lines where
  text : Text := []
  first : Text := []
  more : Text := []
  startsBlank : Bool := false

/-- Before another line: two adjacent lines of a folded scalar join with a space, unless one of them
starts with a gap. -/
def Lines.fold (l : Lines) (literal startsBlank : Bool) : Text :=
  if !literal && l.first = ['\n'] && !l.startsBlank && !startsBlank then
    if l.more.isEmpty then l.text ++ [' '] else l.text ++ l.more
  else l.text ++ l.first ++ l.more

def lines (literal : Bool) (indent : Nat) : (fuel : Nat) → Lines → Cursor → Option (Lines × Cursor)
  | 0, _, _ => none
  | fuel + 1, l, c =>
    if c.mark.column = indent && !c.rest.isEmpty then do
      let startsBlank := c.rest.head?.any isGap
      let line := c.rest.takeWhile (!isBreak ·)
      let (first, c) := c.skipLine.lineBreak
      let (_, more, c) ← emptyLines (some indent) c.rest c.mark 0 []
      lines literal indent fuel ⟨l.fold literal startsBlank ++ line, first, more, startsBlank⟩ c
    else some (l, c)

def chomp (l : Lines) : Chomping → Text
  | .strip => l.text
  | .clip => l.text ++ l.first
  | .keep => l.text ++ l.first ++ l.more

/-- From the indicator to past the last line; `parent` is the indent of the collection around it. -/
def read (literal : Bool) (parent : Option Nat) (c : Cursor) : Option (Text × Cursor) := do
  let (h, c) ← header (c.advance 1)
  let c ← headerEnd c
  let least := match parent with
    | some n => n + 1
    | none => 0
  let given := h.increment.map (parent.getD 0 + ·)
  let (widest, breaks, c) ← emptyLines given c.rest c.mark 0 []
  let indent := given.getD (max widest (max least 1))
  let (l, c) ← lines literal indent (c.rest.length + 1) { more := breaks } c
  some (chomp l h.chomping, c)

end Block

end FluentBuilder.Yaml
