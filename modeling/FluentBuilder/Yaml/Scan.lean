import FluentBuilder.Yaml.Token

/-! From a YAML text to its tokens. Indentation opens and closes block collections, and a colon
turns the scalar or bracket before it into a key. -/
namespace FluentBuilder.Yaml

/-- A place where a key may have started. -/
structure KeyStart where
  position : Nat
  mark : Mark
  /-- The line is an error unless this is a key. -/
  required : Bool
deriving DecidableEq, Repr

namespace KeyStart

/-- A key ends on its line and within 1024 bytes. -/
def isStale (k : KeyStart) (m : Mark) : Bool :=
  k.mark.line < m.line || k.mark.index + 1024 < m.index

def refresh (m : Mark) : Option KeyStart → Option (Option KeyStart)
  | none => some none
  | some k => if !k.isStale m then some (some k) else if k.required then none else some none

end KeyStart

structure Scanner where
  cursor : Cursor
  /-- Newest first. -/
  tokens : List Token := []
  /-- Columns of the open block collections, innermost first. -/
  indents : List Nat := []
  key : Option KeyStart := none
  /-- The key starts outside each open bracket, innermost first. -/
  outerKeys : List (Option KeyStart) := []
  keyAllowed : Bool := true
  /-- The bytes that can be read, unless these are all. -/
  limit : Option Nat := none

namespace Scanner

def inFlow (s : Scanner) : Bool := !s.outerKeys.isEmpty

def column (s : Scanner) : Nat := s.cursor.mark.column

def leastColumn (s : Scanner) : Nat :=
  match s.indents with
  | [] => 0
  | n :: _ => n + 1

def emitTo (s : Scanner) (lexeme : Lexeme) (stop : Mark) (next : Cursor) : Scanner :=
  { s with tokens := ⟨lexeme, s.cursor.mark, stop⟩ :: s.tokens, cursor := next }

def emit (s : Scanner) (lexeme : Lexeme) (next : Cursor) : Scanner := s.emitTo lexeme next.mark next

def emitChars (s : Scanner) (lexeme : Lexeme) (n : Nat) : Scanner :=
  s.emit lexeme (s.cursor.advance n)

def allowKey (s : Scanner) (allowed : Bool) : Scanner := { s with keyAllowed := allowed }

/-- White space, comments and line breaks up to the next token. A byte order mark may start any
line. -/
def skipBlank : (fuel : Nat) → Scanner → Scanner
  | 0, s => s
  | fuel + 1, s =>
    match s.cursor.rest with
    | [] => s
    | c :: _ =>
      if (c = '\ufeff' && s.column = 0) || c = ' ' ||
          (c = '\t' && (s.inFlow || !s.keyAllowed)) then
        skipBlank fuel { s with cursor := s.cursor.advance 1 }
      else if c = '#' then skipBlank fuel { s with cursor := s.cursor.skipLine }
      else if isBreak c then
        skipBlank fuel
          { s with cursor := s.cursor.skipBreak, keyAllowed := s.keyAllowed || !s.inFlow }
      else s

def dropStaleKeys (s : Scanner) : Option Scanner := do
  let key ← KeyStart.refresh s.cursor.mark s.key
  let outerKeys ← s.outerKeys.mapM (KeyStart.refresh s.cursor.mark)
  some { s with key, outerKeys }

def dropKey (s : Scanner) : Option Scanner :=
  if s.key.any (·.required) then none else some { s with key := none }

def saveKey (s : Scanner) : Option Scanner :=
  if s.keyAllowed then do
    let s ← s.dropKey
    let required := !s.inFlow && s.indents.head? = some s.column
    some { s with key := some ⟨s.tokens.length, s.cursor.mark, required⟩ }
  else some s

def opensAt (s : Scanner) (column : Nat) : Bool := !s.inFlow && s.indents.head?.all (· < column)

def openBlock (s : Scanner) (lexeme : Lexeme) : Scanner :=
  if s.opensAt s.column then
    { s with
      indents := s.column :: s.indents
      tokens := ⟨lexeme, s.cursor.mark, s.cursor.mark⟩ :: s.tokens }
  else s

def closeBlocks (s : Scanner) (closes : Nat → Bool) : Scanner :=
  if s.inFlow then s
  else
    let closed := s.indents.takeWhile closes
    { s with
      indents := s.indents.drop closed.length
      tokens := closed.map (fun _ => ⟨.blockEnd, s.cursor.mark, s.cursor.mark⟩) ++ s.tokens }

/-- What was scanned from `k` on is a key. -/
def insertKey (s : Scanner) (k : KeyStart) : Scanner :=
  let opens := s.opensAt k.mark.column
  let mapping := if opens then [⟨.blockMappingStart, k.mark, k.mark⟩] else []
  let since := s.tokens.length - k.position
  { s with
    tokens := s.tokens.take since ++ ⟨.key, k.mark, k.mark⟩ :: mapping ++ s.tokens.drop since
    indents := if opens then k.mark.column :: s.indents else s.indents
    key := none }

def directive (s : Scanner) : Option Scanner := do
  let s ← (s.closeBlocks fun _ => true).dropKey
  let (lexeme, stop, next) ← Directive.read s.cursor
  some ((s.emitTo lexeme stop.mark next).allowKey false)

def documentMarker (s : Scanner) (lexeme : Lexeme) : Option Scanner := do
  let s ← (s.closeBlocks fun _ => true).dropKey
  some ((s.emitChars lexeme 3).allowKey false)

def openBracket (s : Scanner) (lexeme : Lexeme) : Option Scanner := do
  let s ← s.saveKey
  let inner := { s with key := none, outerKeys := s.key :: s.outerKeys }
  some ((inner.emitChars lexeme 1).allowKey true)

def closeBracket (s : Scanner) (lexeme : Lexeme) : Option Scanner := do
  let s ← s.dropKey
  let s := match s.outerKeys with
    | [] => s
    | key :: outerKeys => { s with key, outerKeys }
  some ((s.emitChars lexeme 1).allowKey false)

def flowEntry (s : Scanner) : Option Scanner := do
  let s ← s.dropKey
  some ((s.emitChars .flowEntry 1).allowKey true)

def blockEntry (s : Scanner) : Option Scanner := do
  if !s.inFlow && !s.keyAllowed then none
  let s ← (s.openBlock .blockSequenceStart).dropKey
  some ((s.emitChars .blockEntry 1).allowKey true)

def explicitKey (s : Scanner) : Option Scanner := do
  if !s.inFlow && !s.keyAllowed then none
  let s ← (s.openBlock .blockMappingStart).dropKey
  some ((s.emitChars .key 1).allowKey (!s.inFlow))

def value (s : Scanner) : Option Scanner :=
  match s.key with
  | some k => some (((s.insertKey k).emitChars .value 1).allowKey false)
  | none =>
    if s.inFlow then some ((s.emitChars .value 1).allowKey false)
    else if s.keyAllowed then
      some (((s.openBlock .blockMappingStart).emitChars .value 1).allowKey true)
    else none

def anchor (s : Scanner) (lexeme : Text → Lexeme) : Option Scanner := do
  let s ← s.saveKey
  let (name, next) ← Anchor.read s.cursor
  some ((s.emit (lexeme name) next).allowKey false)

def tag (s : Scanner) : Option Scanner := do
  let s ← s.saveKey
  let (handle, suffix, next) ← Tag.read s.inFlow s.cursor
  some ((s.emit (.tag handle suffix) next).allowKey false)

def blockScalar (s : Scanner) (literal : Bool) : Option Scanner := do
  let s ← s.dropKey
  let (text, next) ← Block.read literal s.indents.head? s.cursor
  some ((s.emit (.scalar (if literal then .literal else .folded) text) next).allowKey true)

def quotedScalar (s : Scanner) (double : Bool) : Option Scanner := do
  let s ← s.saveKey
  let (text, next) ← Quoted.read double s.cursor
  let style := if double then .doubleQuoted else .singleQuoted
  some ((s.emit (.scalar style text) next).allowKey false)

def plainScalar (s : Scanner) : Option Scanner := do
  let s ← s.saveKey
  let f ← Plain.read s.inFlow s.leastColumn s.cursor
  some ((s.emitTo (.scalar .plain f.text) f.stop f.cursor).allowKey f.broken)

def isIndicator (c : Char) : Bool :=
  ['-', '?', ':', ',', '[', ']', '\x7b', '\x7d', '#', '&', '*', '!',
    '|', '>', '\'', '"', '%', '@', '\x60'].contains c

def startsPlain (inFlow : Bool) (c : Char) (t : Text) : Bool :=
  !(isGap c || isIndicator c) || (c = '-' && !t.head?.any isGap) ||
    (!inFlow && (c = '?' || c = ':') && !atEdge t)

def token (s : Scanner) : Option Scanner :=
  match s.cursor.rest with
  | [] => some s
  | c :: t =>
    if s.column = 0 && c = '%' then s.directive
    else if s.column = 0 && c = '-' && atDocumentMarker (c :: t) then
      s.documentMarker .documentStart
    else if s.column = 0 && c = '.' && atDocumentMarker (c :: t) then s.documentMarker .documentEnd
    else if c = '[' then s.openBracket .flowSequenceStart
    else if c = '\x7b' then s.openBracket .flowMappingStart
    else if c = ']' then s.closeBracket .flowSequenceEnd
    else if c = '\x7d' then s.closeBracket .flowMappingEnd
    else if c = ',' then s.flowEntry
    else if c = '-' && atEdge t then s.blockEntry
    else if c = '?' && (s.inFlow || atEdge t) then s.explicitKey
    else if c = ':' && (s.inFlow || atEdge t) then s.value
    else if c = '*' then s.anchor .aliasName
    else if c = '&' then s.anchor .anchor
    else if c = '!' then s.tag
    else if c = '|' && !s.inFlow then s.blockScalar true
    else if c = '>' && !s.inFlow then s.blockScalar false
    else if c = '\'' then s.quotedScalar false
    else if c = '"' then s.quotedScalar true
    else if startsPlain s.inFlow c t then s.plainScalar
    else none

/-- At the end, which stands on a line of its own, every block collection closes and no key is
owed. -/
def finish (s : Scanner) : Option Scanner := do
  let s := { s with cursor := ⟨[], s.cursor.mark.lineStart⟩ }
  let s ← (s.closeBlocks fun _ => true).dropKey
  some (s.emitChars .textEnd 0)

def isFinished (s : Scanner) : Bool := s.tokens.head?.any (·.lexeme = .textEnd)

def step (s : Scanner) : Option Scanner := do
  let s ← (s.skipBlank (s.cursor.rest.length + 1)).dropStaleKeys
  let s := s.closeBlocks (s.column < ·)
  let s ← if s.cursor.rest.isEmpty then s.finish else s.token
  if s.limit.any (· < s.cursor.mark.index + 2) then none
  s.dropStaleKeys

/-- The tokens before the first one that may still turn out to be a key. -/
def settled (s : Scanner) : List Token :=
  let tokens := s.tokens.reverse
  match ((s.key :: s.outerKeys).filterMap fun k => k.map (·.position)).min? with
  | some position => tokens.take position
  | none => tokens

def run : (fuel : Nat) → Scanner → List Token
  | 0, s => s.settled
  | fuel + 1, s =>
    match s.step with
    | none => s.settled
    | some s => if s.isFinished then s.tokens.reverse else run fuel s

end Scanner

def Token.scan (t : Text) : List Token :=
  Scanner.run (t.length + 1) { cursor := ⟨t, .start⟩, limit := limit t }

end FluentBuilder.Yaml
