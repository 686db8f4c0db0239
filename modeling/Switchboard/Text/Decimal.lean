/-!
# Decimal integers

A machine integer is written as an optional sign and decimal digits and has to
fit its width: 64 bits with a sign, or 64 bits without. Nothing else may stand
in the text, white space included.
-/

namespace Switchboard.Text

/-- The value of a digit. -/
def digit? (c : Char) : Option Nat :=
  if '0' ≤ c ∧ c ≤ '9' then some (c.toNat - '0'.toNat) else none

/-- Digits read onto the value of the digits before them. -/
def digitsFrom : Nat → List Char → Option Nat
  | acc, [] => some acc
  | acc, c :: rest => do digitsFrom (acc * 10 + (← digit? c)) rest

/-- **The number a row of digits denotes**; a row has at least one. -/
def digits? : List Char → Option Nat
  | [] => none
  | cs => digitsFrom 0 cs

/-- The least signed 64-bit integer. -/
def int64Min : Int := -9223372036854775808

/-- The greatest signed 64-bit integer. -/
def int64Max : Int := 9223372036854775807

/-- Whether an integer fits 64 bits with a sign. -/
def fitsInt64 (n : Int) : Bool := int64Min ≤ n && n ≤ int64Max

/-- **A signed 64-bit integer**: an optional sign, then digits, in range. -/
def int64? (cs : List Char) : Option Int :=
  let value : Option Int := match cs with
    | '-' :: rest => (digits? rest).map fun n => -(n : Int)
    | '+' :: rest => (digits? rest).map fun n => (n : Int)
    | rest => (digits? rest).map fun n => (n : Int)
  value.filter fitsInt64

/-- **An unsigned 64-bit integer**: an optional plus sign, then digits, in
range. -/
def uint64? (cs : List Char) : Option Nat :=
  let value := match cs with
    | '+' :: rest => digits? rest
    | rest => digits? rest
  value.filter (· < 18446744073709551616)

/-- The decimal text of an integer. -/
def decimal (n : Int) : String :=
  match n with
  | .ofNat k => String.ofList (Nat.toDigits 10 k)
  | .negSucc k => String.ofList ('-' :: Nat.toDigits 10 (k + 1))

/-- The value of a hexadecimal digit of either case. -/
def hexDigit? (c : Char) : Option Nat :=
  if '0' ≤ c ∧ c ≤ '9' then some (c.toNat - '0'.toNat)
  else if 'a' ≤ c ∧ c ≤ 'f' then some (c.toNat - 'a'.toNat + 10)
  else if 'A' ≤ c ∧ c ≤ 'F' then some (c.toNat - 'A'.toNat + 10)
  else none

end Switchboard.Text
