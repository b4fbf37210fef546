import FluentBuilder.Text.Basic

/-! A place in a YAML text, the line structure around it, and the gaps between words. -/
namespace FluentBuilder.Yaml

/-- Bytes, lines, and characters of the line before a place. -/
structure Mark where
  index : Nat
  line : Nat
  column : Nat
deriving DecidableEq, Repr

namespace Mark

def start : Mark := ⟨0, 0, 0⟩

def advance (m : Mark) (t : Text) : Mark :=
  ⟨m.index + Text.utf8Length t, m.line, m.column + t.length⟩

def nextLine (m : Mark) (t : Text) : Mark := ⟨m.index + Text.utf8Length t, m.line + 1, 0⟩

def lineStart (m : Mark) : Mark := if m.column = 0 then m else ⟨m.index, m.line + 1, 0⟩

end Mark

structure Cursor where
  rest : Text
  mark : Mark
deriving DecidableEq, Repr

def isGap (c : Char) : Bool := c = ' ' || c = '\t'

def isBreak (c : Char) : Bool :=
  c = '\n' || c = '\r' || c = '\u0085' || c = '\u2028' || c = '\u2029'

def atEdge : Text → Bool
  | [] => true
  | c :: _ => isGap c || isBreak c

def atLineEnd : Text → Bool
  | [] => true
  | c :: _ => isBreak c

def atDocumentMarker : Text → Bool
  | '-' :: '-' :: '-' :: t => atEdge t
  | '.' :: '.' :: '.' :: t => atEdge t
  | _ => false

def isAllowed (c : Char) : Bool :=
  let n := c.toNat
  n = 0x09 || n = 0x0A || n = 0x0D || (0x20 ≤ n && n ≤ 0x7E) || n = 0x85 ||
    (0xA0 ≤ n && n ≤ 0xFFFD) || 0x10000 ≤ n

/-- Texts are read in blocks of as many whole characters as fit into this number of bytes. -/
def blockSize : Nat := 16384

/-- The bytes before the first block with a character that is not allowed, if there is one. So far
`start` bytes come before the current block, and `size` are in it. -/
def limitFrom (start size : Nat) : Text → Option Nat
  | [] => none
  | c :: t =>
    let full := blockSize < size + c.utf8Size
    let start := if full then start + size else start
    if isAllowed c then limitFrom start (if full then c.utf8Size else size + c.utf8Size) t
    else some start

def limit (t : Text) : Option Nat := limitFrom 0 0 t

namespace Cursor

def advance (c : Cursor) (n : Nat) : Cursor := ⟨c.rest.drop n, c.mark.advance (c.rest.take n)⟩

def skipWhile (p : Char → Bool) (c : Cursor) : Cursor := c.advance (c.rest.takeWhile p).length

def skipGap : Cursor → Cursor := skipWhile isGap

def skipLine : Cursor → Cursor := skipWhile (!isBreak ·)

/-- The line break at the cursor as text, and the cursor after it. Unicode separators stay as they
are; all other line breaks read as a line feed. -/
def lineBreak (c : Cursor) : Text × Cursor :=
  match c.rest with
  | '\r' :: '\n' :: t => (['\n'], ⟨t, c.mark.nextLine ['\r', '\n']⟩)
  | x :: t =>
    if x = '\u2028' || x = '\u2029' then ([x], ⟨t, c.mark.nextLine [x]⟩)
    else if isBreak x then (['\n'], ⟨t, c.mark.nextLine [x]⟩)
    else ([], c)
  | [] => ([], c)

def skipBreak (c : Cursor) : Cursor := c.lineBreak.2

end Cursor

/-! What separates two words of a scalar: blanks on one line, or line breaks that fold. -/

structure Gap where
  blanks : Text := []
  broken : Bool := false
  first : Text := []
  more : Text := []

namespace Gap

def addBreak (g : Gap) (b : Text) : Gap :=
  if g.broken then { g with more := g.more ++ b } else { broken := true, first := b }

def addBlank (g : Gap) (c : Char) : Gap :=
  if g.broken then g else { g with blanks := g.blanks ++ [c] }

/-- A single line feed reads as a space, and a longer run loses its first line feed. -/
def text (g : Gap) : Text :=
  if !g.broken then g.blanks
  else if g.first = ['\n'] then if g.more.isEmpty then [' '] else g.more
  else g.first ++ g.more

/-- The gap from here to the next word. A tab may not indent a line to less than `least`. -/
def read (least : Nat) : (t : Text) → Mark → Gap → Option (Gap × Cursor)
  | [], m, g => some (g, ⟨[], m⟩)
  | '\r' :: '\n' :: t, m, g => read least t (m.nextLine ['\r', '\n']) (g.addBreak ['\n'])
  | c :: t, m, g =>
    if isGap c then
      if g.broken && c = '\t' && m.column < least then none
      else read least t (m.advance [c]) (g.addBlank c)
    else if isBreak c then
      read least t (m.nextLine [c]) (g.addBreak (Cursor.lineBreak ⟨c :: t, m⟩).1)
    else some (g, ⟨c :: t, m⟩)

end Gap
end FluentBuilder.Yaml
