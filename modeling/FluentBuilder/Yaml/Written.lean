import FluentBuilder.Yaml.Cursor
import FluentBuilder.Yaml.Value

/-! How a text is written as a YAML scalar: plain where it reads back as the same text, else in
single quotes, and in double quotes where characters need an escape. -/
namespace FluentBuilder.Yaml

def isPrintable (c : Char) : Bool :=
  let n := c.toNat
  n = 0x0A || (0x20 ≤ n && n ≤ 0x7E) || (0xA0 ≤ n && n ≤ 0xFFFD && n ≠ 0xFEFF) || 0x10000 ≤ n

def anyPair (r : Char → Char → Bool) : Text → Bool
  | a :: b :: t => r a b || anyPair r (b :: t)
  | _ => false

def opensToken : Text → Bool
  | [] => false
  | c :: t =>
    ['#', ',', '[', ']', '\x7b', '\x7d', '&', '*', '!', '|', '>', '\'', '"', '%', '@',
        '\x60'].contains c ||
      ((c = '?' || c = '-' || c = ':') && atEdge t)

def hasIndicator (t : Text) : Bool :=
  opensToken t || ['-', '-', '-'].isPrefixOf t || ['.', '.', '.'].isPrefixOf t ||
    t.getLast? = some ':' ||
    anyPair (fun a b => a = ':' && (isGap b || isBreak b)) t ||
    anyPair (fun a b => (isGap a || isBreak a) && b = '#') t

def isOuterBlank (c : Char) : Bool := c = ' ' || isBreak c

/-- It reads back as something else than text. -/
def meansOther (t : Text) : Bool := Value.read t ≠ .text || Value.isZeroPadded t

def staysPlain (t : Text) : Bool :=
  !meansOther t && !hasIndicator t && !t.any isBreak && !t.head?.any isOuterBlank &&
    !t.getLast?.any isOuterBlank

/-- Single quotes cannot show every character, and blanks beside a line break would be lost. -/
def needsEscape (t : Text) : Bool :=
  !t.all isPrintable || anyPair (fun a b => (a = ' ' && isBreak b) || (isBreak a && b = ' ')) t

/-- The text in single quotes. After line breaks it goes on at column `indent`. -/
def singleQuotedFrom (indent : Nat) : (broken : Bool) → Text → Text
  | broken, [] => lead broken ++ ['\'']
  | broken, c :: t =>
    if isBreak c then
      (if c = '\n' && !broken then ['\n'] else []) ++ c :: singleQuotedFrom indent true t
    else if c = ' ' then c :: singleQuotedFrom indent broken t
    else lead broken ++ (if c = '\'' then ['\'', '\''] else [c]) ++ singleQuotedFrom indent false t
where
  lead (broken : Bool) : Text := if broken then List.replicate indent ' ' else []

def singleQuoted (indent : Nat) (t : Text) : Text := '\'' :: singleQuotedFrom indent false t

def hexNumeral (width n : Nat) : Text :=
  let digits := (Nat.toDigits 16 n).map Char.toUpper
  List.replicate (width - digits.length) '0' ++ digits

def codeEscape (n : Nat) : Text :=
  if n ≤ 0xFF then 'x' :: hexNumeral 2 n
  else if n ≤ 0xFFFF then 'u' :: hexNumeral 4 n
  else 'U' :: hexNumeral 8 n

def escapeName (c : Char) : Text :=
  match c with
  | '\x00' => ['0']
  | '\x07' => ['a']
  | '\x08' => ['b']
  | '\t' => ['t']
  | '\n' => ['n']
  | '\x0b' => ['v']
  | '\x0c' => ['f']
  | '\r' => ['r']
  | '\x1b' => ['e']
  | '"' => ['"']
  | '\\' => ['\\']
  | '\u0085' => ['N']
  | '\u2028' => ['L']
  | '\u2029' => ['P']
  | c => codeEscape c.toNat

def doubleQuoted (t : Text) : Text :=
  let written (c : Char) : Text :=
    if !isPrintable c || isBreak c || c = '"' || c = '\\' then '\\' :: escapeName c else [c]
  '"' :: t.flatMap written ++ ['"']

/-- A scalar whose later lines, if any, start at column `indent`. -/
def written (indent : Nat) (t : Text) : Text :=
  if needsEscape t then doubleQuoted t else if staysPlain t then t else singleQuoted indent t

end FluentBuilder.Yaml
