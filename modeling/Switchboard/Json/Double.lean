import Switchboard.Text.Decimal

/-!
# Double-precision numbers as text

The text of a double has the fewest digits that still single it out among all
doubles, and of these digits the ones nearest to its value. It is written
positionally, with a fraction, when its leading digit stands for a power of ten
from `10^-5` to `10^15`, and else with a signed exponent of two digits or more.

A finite double is a significand times a power of two. All that rounds to it
lies between the midpoints to its neighbours, the midpoints included when the
significand is even. Below the significand `2^52` the gap is half as wide.
-/

namespace Switchboard.Json

/-- A positive finite double as `m * 2^q`. -/
structure Scaled where
  /-- The significand. -/
  m : Nat
  /-- The power of two. -/
  q : Int
  /-- Whether the gap below is half the gap above. -/
  narrowBelow : Bool

/-- The significand and power of the bits of a double, its sign left out. -/
def Scaled.ofBits (bits : UInt64) : Scaled :=
  let expo := ((bits >>> 52) &&& 0x7ff).toNat
  let frac := (bits &&& 0xfffffffffffff).toNat
  if expo = 0 then ⟨frac, -1074, false⟩
  else ⟨frac + 0x10000000000000, (expo : Int) - 1075, frac = 0 && expo ≠ 1⟩

/-- A fraction of natural numbers. -/
structure Ratio where
  /-- The numerator. -/
  num : Nat
  /-- The denominator. -/
  den : Nat

/-- `n * 2^q` as a fraction. -/
def Ratio.scale (n : Nat) (q : Int) : Ratio :=
  match q with
  | .ofNat k => ⟨n * Nat.pow 2 k, 1⟩
  | .negSucc k => ⟨n, Nat.pow 2 (k + 1)⟩

/-- Whether `n * 10^e` is below a fraction. -/
def Ratio.above (r : Ratio) (n : Nat) (e : Int) : Bool :=
  match e with
  | .ofNat k => n * Nat.pow 10 k * r.den < r.num
  | .negSucc k => n * r.den < r.num * Nat.pow 10 (k + 1)

/-- Whether `n * 10^e` is above a fraction. -/
def Ratio.below (r : Ratio) (n : Nat) (e : Int) : Bool :=
  match e with
  | .ofNat k => r.num < n * Nat.pow 10 k * r.den
  | .negSucc k => r.num * Nat.pow 10 (k + 1) < n * r.den

/-- A fraction divided by `10^e`, rounded down. -/
def Ratio.floorDiv (r : Ratio) (e : Int) : Nat :=
  match e with
  | .ofNat k => r.num / (r.den * Nat.pow 10 k)
  | .negSucc k => r.num * Nat.pow 10 (k + 1) / r.den

/-- The power of ten of the leading digit of a fraction, found from a first
guess by stepping down. -/
def Ratio.leading (r : Ratio) : Nat → Int → Int
  | 0, e => e
  | n + 1, e => if r.floorDiv e = 0 then Ratio.leading r n (e - 1) else e

/-- Twice the distance comparison of two neighbours on a decimal grid: whether
the lower one is at least as near as the one above it. -/
def Ratio.nearLow (r : Ratio) (n : Nat) (e : Int) : Bool :=
  match e with
  | .ofNat k => 2 * r.num ≤ (2 * n + 1) * Nat.pow 10 k * r.den
  | .negSucc k => 2 * r.num * Nat.pow 10 (k + 1) ≤ (2 * n + 1) * r.den

/-- **The fewest digits that single a double out**, as a number and the power
of ten of its last digit, trying grids from coarse to fine. -/
def Scaled.shortest (s : Scaled) : Nat × Int :=
  let value := Ratio.scale s.m s.q
  let high := Ratio.scale (2 * s.m + 1) (s.q - 1)
  let low :=
    if s.narrowBelow then Ratio.scale (4 * s.m - 1) (s.q - 2)
    else Ratio.scale (2 * s.m - 1) (s.q - 1)
  let even := s.m % 2 = 0
  let inside (n : Nat) (e : Int) : Bool :=
    (low.below n e || (even && !low.above n e)) &&
      (high.above n e || (even && !high.below n e))
  let top := value.leading 700 310
  let rec search : Nat → Int → Nat × Int
    | 0, e => (value.floorDiv e, e)
    | k + 1, e =>
      let n := value.floorDiv e
      match inside n e, inside (n + 1) e with
      | true, true => if value.nearLow n e then (n, e) else (n + 1, e)
      | true, false => (n, e)
      | false, true => (n + 1, e)
      | false, false => search k (e - 1)
  search 17 top

/-- Digits without the zeros at their end, which move into the power of ten. -/
def trimZeros : Nat → Nat → Int → Nat × Int
  | 0, n, e => (n, e)
  | k + 1, n, e =>
    if n % 10 = 0 ∧ n ≠ 0 then trimZeros k (n / 10) (e + 1) else (n, e)

/-- An exponent with its sign and at least two digits. -/
def exponentText (k : Int) : String :=
  let digits := Nat.toDigits 10 k.natAbs
  let padded := if digits.length < 2 then '0' :: digits else digits
  String.ofList ((if k < 0 then '-' else '+') :: padded)

/-- **The text of a double**, given by its bits. -/
def doubleText (bits : UInt64) : String :=
  let sign := if (bits >>> 63) = 0 then "" else "-"
  let s := Scaled.ofBits bits
  if s.m = 0 then sign ++ "0.0"
  else
    let (n, e) := s.shortest
    let (n, e) := trimZeros 20 n e
    let digits := Nat.toDigits 10 n
    let count := digits.length
    let k : Int := e + (count : Int) - 1
    let body : List Char :=
      if -5 ≤ k ∧ k ≤ 15 then
        if 0 ≤ e then digits ++ List.replicate e.toNat '0' ++ ['.', '0']
        else if 0 ≤ k then
          digits.take (k.toNat + 1) ++ '.' :: digits.drop (k.toNat + 1)
        else '0' :: '.' :: List.replicate (-k - 1).toNat '0' ++ digits
      else
        let tail := digits.drop 1
        digits.take 1 ++ (if tail.isEmpty then [] else '.' :: tail)
          ++ 'e' :: (exponentText k).toList
    sign ++ String.ofList body

/-- The double nearest to a significand, times or over a power of ten up to
`10^308`; larger powers are divided out in steps. Nothing when the result is
infinite. -/
def doubleOfParts : Nat → Float → Int → Option Float
  | 0, f, _ => some f
  | fuel + 1, f, e =>
    if e.natAbs ≤ 308 then
      let power := Float.ofScientific 1 false e.natAbs
      if 0 ≤ e then
        let g := f * power
        if g.isInf then none else some g
      else some (f / power)
    else if f == 0.0 then some f
    else if 0 ≤ e then none
    else doubleOfParts fuel (f / Float.ofScientific 1 false 308) (e + 308)

/-- **The double a decimal literal reads as**: its first significant digits as
an integer, scaled by its power of ten. -/
def double? (negative : Bool) (significand : Nat) (e : Int) : Option UInt64 :=
  (doubleOfParts (e.natAbs / 308 + 2) (Float.ofNat significand) e).map fun f =>
    (if negative then -f else f).toBits

end Switchboard.Json
