import FluentBuilder.Yaml.Scalar

/-! Tokens of a YAML text, and the reading of anchors, tags and directives. -/
namespace FluentBuilder.Yaml

inductive ScalarStyle where
  | plain
  | singleQuoted
  | doubleQuoted
  | literal
  | folded
deriving DecidableEq, Repr

/-- A tag in bytes, which escapes may spell freely, so they need not be text. -/
abbrev TagBytes := List UInt8

inductive Lexeme where
  | versionDirective (major minor : Nat)
  | tagDirective (handle : Text) (replacement : TagBytes)
  | documentStart
  | documentEnd
  | blockSequenceStart
  | blockMappingStart
  | blockEnd
  | flowSequenceStart
  | flowSequenceEnd
  | flowMappingStart
  | flowMappingEnd
  | blockEntry
  | flowEntry
  | key
  | value
  | aliasName (name : Text)
  | anchor (name : Text)
  | tag (handle : Text) (suffix : TagBytes)
  | scalar (style : ScalarStyle) (text : Text)
  | textEnd
deriving DecidableEq, Repr

structure Token where
  lexeme : Lexeme
  start : Mark
  stop : Mark
deriving DecidableEq, Repr

/-! Anchors, tags and directives. -/

def isNameChar (c : Char) : Bool := c.isAlphanum || c = '_' || c = '-'

namespace Anchor

def endsName : Text → Bool
  | [] => true
  | c :: _ => isGap c || isBreak c || ['?', ':', ',', ']', '\x7d', '%', '@', '\x60'].contains c

def read (c : Cursor) : Option (Text × Cursor) :=
  let c := c.advance 1
  let name := c.rest.takeWhile isNameChar
  let c := c.advance name.length
  if !name.isEmpty && endsName c.rest then some (name, c) else none

end Anchor

namespace Tag

def isUriChar (c : Char) : Bool :=
  isNameChar c ||
    [';', '/', '?', ':', '@', '&', '=', '+', '$', '.', '!', '~', '*', '\'', '(', ')'].contains c

/-- Part of a URI, but not of a tag that a flow collection may hold. -/
def isListChar (c : Char) : Bool := c = ',' || c = '[' || c = ']'

def escapedByte? : Text → Option (UInt8 × Text)
  | '%' :: a :: b :: t => (Quoted.hexNumber? [a, b]).map (·.toUInt8, t)
  | _ => none

def continuation : (count : Nat) → Text → Option (TagBytes × Text)
  | 0, t => some ([], t)
  | n + 1, t => do
    let (b, t) ← escapedByte? t
    if b.toNat / 64 ≠ 2 then none
    let (bs, t) ← continuation n t
    some (b :: bs, t)

def continuationCount? (b : Nat) : Option Nat :=
  if b < 128 then some 0
  else if b / 32 = 6 then some 1
  else if b / 16 = 14 then some 2
  else if b / 8 = 30 then some 3
  else none

/-- The escaped bytes of one character. Only their number is checked, not what they stand for. -/
def escapedChar? (t : Text) : Option (TagBytes × Text) := do
  let (b, t) ← escapedByte? t
  let (bs, t) ← continuation (← continuationCount? b.toNat) t
  some (b :: bs, t)

def uri (lists : Bool) : (fuel : Nat) → Text → Option (TagBytes × Text)
  | 0, _ => none
  | fuel + 1, t =>
    match t with
    | [] => some ([], [])
    | c :: r =>
      if c = '%' then do
        let (bs, r) ← escapedChar? t
        let (u, r) ← uri lists fuel r
        some (bs ++ u, r)
      else if isUriChar c || (lists && isListChar c) then do
        let (u, r) ← uri lists fuel r
        some (Text.utf8 [c] ++ u, r)
      else some ([], t)

/-- A zero byte ends a tag. -/
def untilZero (b : TagBytes) : TagBytes := b.takeWhile (· ≠ 0)

def readUri (lists : Bool) (c : Cursor) : Option (TagBytes × Cursor) := do
  let (u, r) ← uri lists (c.rest.length + 1) c.rest
  some (u, c.advance (c.rest.length - r.length))

def readHandle (c : Cursor) : Option (Text × Cursor) :=
  match c.rest with
  | '!' :: t =>
    let name := t.takeWhile isNameChar
    match t.drop name.length with
    | '!' :: _ => some ('!' :: name ++ ['!'], c.advance (name.length + 2))
    | _ => some ('!' :: name, c.advance (name.length + 1))
  | _ => none

/-- A whole tag as handle and suffix: `!<uri>`, `!handle!suffix`, `!suffix`, or `!` alone. -/
def readBody (c : Cursor) : Option (Text × TagBytes × Cursor) :=
  match c.rest with
  | '!' :: '<' :: _ => do
    let (u, c) ← readUri true (c.advance 2)
    if u.isEmpty || c.rest.head? ≠ some '>' then none
    some ([], untilZero u, c.advance 1)
  | _ => do
    let (handle, c) ← readHandle c
    let (u, c) ← readUri false c
    if handle.length > 1 && handle.getLast? = some '!' then
      if u.isEmpty then none else some (handle, untilZero u, c)
    else
      let suffix := untilZero (Text.utf8 (handle.drop 1) ++ u)
      if suffix.isEmpty then some ([], Text.utf8 ['!'], c) else some (['!'], suffix, c)

def read (inFlow : Bool) (c : Cursor) : Option (Text × TagBytes × Cursor) := do
  let (handle, suffix, c) ← readBody c
  if atEdge c.rest || (inFlow && c.rest.head? = some ',') then some (handle, suffix, c) else none

end Tag

namespace Directive

def number (c : Cursor) : Option (Nat × Cursor) :=
  let digits := c.rest.takeWhile Char.isDigit
  if digits.isEmpty || digits.length > 9 then none
  else some (digits.foldl (fun n d => 10 * n + (d.toNat - '0'.toNat)) 0, c.advance digits.length)

def version (c : Cursor) : Option (Lexeme × Cursor) := do
  let (major, c) ← number c.skipGap
  if c.rest.head? ≠ some '.' then none
  let (minor, c) ← number (c.advance 1)
  some (.versionDirective major minor, c)

def tagDirective (c : Cursor) : Option (Lexeme × Cursor) := do
  let (handle, c) ← Tag.readHandle c.skipGap
  if handle ≠ ['!'] && handle.getLast? ≠ some '!' then none
  if !c.rest.head?.any isGap then none
  let (replacement, c) ← Tag.readUri true c.skipGap
  if replacement.isEmpty || !atEdge c.rest then none
  some (.tagDirective handle (Tag.untilZero replacement), c)

def read (c : Cursor) : Option (Lexeme × Cursor × Cursor) := do
  let c := c.advance 1
  let name := c.rest.takeWhile isNameChar
  let c := c.advance name.length
  if !atEdge c.rest then none
  let (lexeme, stop) ←
    if name = "YAML".toList then version c
    else if name = "TAG".toList then tagDirective c
    else none
  let next ← Block.headerEnd stop
  some (lexeme, stop, next)

end Directive
end FluentBuilder.Yaml
