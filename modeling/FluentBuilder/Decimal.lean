import FluentBuilder.Text.Basic

/-! Finite numbers in binary64 in exact arithmetic: the nearest one to a decimal, and its shortest
decimal. -/
namespace FluentBuilder

structure Binary64 where
  mantissa : Nat
  exponent : Int
deriving DecidableEq, Repr

namespace Binary64

def leastExponent : Int := -1074

def greatestExponent : Int := 971

/-- The nearest integer to `n / d`, of two the even one. -/
def roundDiv (n d : Nat) : Nat :=
  let k := n / d
  let r := n % d
  if d < 2 * r || (2 * r = d && k % 2 = 1) then k + 1 else k

/-- A lower bound of the exponent of `n / d` with 53 digits in its mantissa. -/
def exponentOf (n d : Nat) : Int :=
  let l : Int := n.log2 - d.log2
  let fits := if 0 ≤ l then d * Nat.pow 2 l.toNat ≤ n else d ≤ n * Nat.pow 2 (-l).toNat
  max ((if fits then l else l - 1) - 52) leastExponent

def ofRatio (n d : Nat) : Option Binary64 :=
  let q := exponentOf n d
  let m :=
    if 0 ≤ q then roundDiv n (d * Nat.pow 2 q.toNat) else roundDiv (n * Nat.pow 2 (-q).toNat) d
  let x : Binary64 := if m = Nat.pow 2 53 then ⟨Nat.pow 2 52, q + 1⟩ else ⟨m, q⟩
  if x.exponent ≤ greatestExponent then some x else none

/-- The nearest number to `digits * 10 ^ e`. No number is as large as `10 ^ 310`, and none that is
not zero is as small as `10 ^ (-330)`. -/
def ofDecimal (digits : Nat) (e : Int) : Option Binary64 :=
  let size : Int := (Nat.toDigits 10 digits).length + e
  if digits = 0 || size < -330 then some ⟨0, leastExponent⟩
  else if 310 < size then none
  else if 0 ≤ e then ofRatio (digits * Nat.pow 10 e.toNat) 1
  else ofRatio digits (Nat.pow 10 (-e).toNat)

end Binary64

/-! The shortest decimal of a binary64 number: fewest digits that read back as the number, nearest
of those, and of two equally near the greater. -/

structure Decimal where
  digits : Nat
  exponent : Int
deriving DecidableEq, Repr

namespace Binary64

/-- The numbers that round to `x` lie between these quarters of its last place. -/
def bounds (x : Binary64) : Nat × Nat :=
  let low := if x.mantissa = Nat.pow 2 52 && leastExponent < x.exponent then 1 else 2
  (4 * x.mantissa - low, 4 * x.mantissa + 2)

def onGrid (x : Binary64) (p : Int) : Option Decimal :=
  let s := x.exponent - 2
  let step := Nat.pow 10 p.toNat * Nat.pow 2 (-s).toNat
  let quarter := Nat.pow 2 s.toNat * Nat.pow 10 (-p).toNat
  let v := 4 * x.mantissa * quarter
  let (low, high) := x.bounds
  let rounds (d : Nat) : Bool :=
    if x.mantissa % 2 = 0 then low * quarter ≤ d * step && d * step ≤ high * quarter
    else low * quarter < d * step && d * step < high * quarter
  let d := v / step
  if (d + 1) * step - v ≤ v - d * step then
    if rounds (d + 1) then some ⟨d + 1, p⟩ else if rounds d then some ⟨d, p⟩ else none
  else if rounds d then some ⟨d, p⟩ else if rounds (d + 1) then some ⟨d + 1, p⟩ else none

/-- The coarsest grid of powers of ten up to `10 ^ p` with a multiple that rounds to `x`. -/
def search (x : Binary64) : (fuel : Nat) → (p : Int) → Decimal
  | 0, p => ⟨0, p⟩
  | fuel + 1, p =>
    match x.onGrid p with
    | some d => d
    | none => search x fuel (p - 1)

def shortest (x : Binary64) : Decimal := if x.mantissa = 0 then ⟨0, 0⟩ else search x 640 309

end Binary64

namespace Decimal

def positional (d : Decimal) : Text :=
  let digits := Text.ofNat d.digits
  if 0 ≤ d.exponent then digits ++ List.replicate d.exponent.toNat '0' ++ ['.', '0']
  else
    let places := (-d.exponent).toNat
    let padded := List.replicate (places + 1 - digits.length) '0' ++ digits
    padded.take (padded.length - places) ++ '.' :: padded.drop (padded.length - places)

end Decimal
end FluentBuilder
