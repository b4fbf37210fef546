import FluentBuilder.Decimal

/-! What an unquoted YAML scalar means: nothing, a truth value, a number or text. -/
namespace FluentBuilder.Yaml

inductive Value where
  | null
  | boolean (b : Bool)
  | integer (n : Int)
  | float (negative : Bool) (size : Binary64)
  | infinity (negative : Bool)
  | notANumber
  | text
deriving DecidableEq, Repr

namespace Value

def isNullWord (t : Text) : Bool :=
  t = "null".toList || t = "Null".toList || t = "NULL".toList || t = "~".toList

def boolean? (t : Text) : Option Bool :=
  if t = "true".toList || t = "True".toList || t = "TRUE".toList then some true
  else if t = "false".toList || t = "False".toList || t = "FALSE".toList then some false
  else none

def digit? (base : Nat) (c : Char) : Option Nat :=
  let n :=
    if c.isDigit then c.toNat - '0'.toNat
    else if 'a' ≤ c && c ≤ 'f' then c.toNat - 'a'.toNat + 10
    else if 'A' ≤ c && c ≤ 'F' then c.toNat - 'A'.toNat + 10
    else base
  if n < base then some n else none

def numeral? (base : Nat) : Text → Option Nat
  | [] => none
  | t => t.foldlM (fun n c => (digit? base c).map (base * n + ·)) 0

/-- A numeral with the base that its first letters name. -/
def based? : Text → Option Nat
  | '0' :: 'x' :: t => numeral? 16 t
  | '0' :: 'o' :: t => numeral? 8 t
  | '0' :: 'b' :: t => numeral? 2 t
  | _ => none

def unsigned : Text → Text
  | '+' :: t => t
  | '-' :: t => t
  | t => t

/-- Several digits of which the first is a zero: a code, not a number. -/
def isZeroPadded (t : Text) : Bool :=
  match unsigned t with
  | '0' :: c :: t => (c :: t).all Char.isDigit
  | _ => false

def natural? (bound : Nat) (t : Text) : Option Nat :=
  let body := match t with
    | '+' :: r => r
    | _ => t
  let n := match based? body with
    | some n => some n
    | none => if isZeroPadded t then none else numeral? 10 body
  n.filter (· < bound)

def negative? (bound : Nat) (t : Text) : Option Nat :=
  match t with
  | '-' :: body =>
    let n := match based? body with
      | some n => some n
      | none => if isZeroPadded t then none else numeral? 10 body
    n.filter (· ≤ bound)
  | _ => none

/-- An integer of at most 128 bits. -/
def integer? (t : Text) : Option Int :=
  match natural? (Nat.pow 2 128) t with
  | some n => some n
  | none => (negative? (Nat.pow 2 127) t).map fun n => -(n : Int)

def exponent? : Text → Option Int
  | [] => some 0
  | c :: t =>
    if c = 'e' || c = 'E' then
      match t with
      | '-' :: t => (numeral? 10 t).map fun n => -(n : Int)
      | '+' :: t => (numeral? 10 t).map Int.ofNat
      | t => (numeral? 10 t).map Int.ofNat
    else none

/-- Digits with an optional point and an optional exponent, as digits and a power of ten. -/
def decimal? (t : Text) : Option (Nat × Int) :=
  let whole := t.takeWhile Char.isDigit
  let rest := t.drop whole.length
  let (fraction, rest) := match rest with
    | '.' :: r => (r.takeWhile Char.isDigit, r.dropWhile Char.isDigit)
    | r => ([], r)
  match numeral? 10 (whole ++ fraction), exponent? rest with
  | some n, some e => some (n, e - fraction.length)
  | _, _ => none

def isInfinityWord (t : Text) : Bool := t = ".inf".toList || t = ".Inf".toList || t = ".INF".toList

def isNotANumberWord (t : Text) : Bool :=
  t = ".nan".toList || t = ".NaN".toList || t = ".NAN".toList

def float? (t : Text) : Option Value :=
  let (negative, body) := match t with
    | '-' :: r => (true, r)
    | '+' :: r => (false, r)
    | r => (false, r)
  if isInfinityWord body then some (infinity negative)
  else if isNotANumberWord t then some notANumber
  else do
    let (n, e) ← decimal? body
    let x ← Binary64.ofDecimal n e
    some (float negative x)

def read (t : Text) : Value :=
  if t.isEmpty || isNullWord t then null
  else
    match boolean? t with
    | some b => boolean b
    | none =>
      match integer? t with
      | some n => integer n
      | none => if isZeroPadded t then text else (float? t).getD text

end Value
end FluentBuilder.Yaml
