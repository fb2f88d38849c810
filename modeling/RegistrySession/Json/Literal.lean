import RegistrySession.Json.Basic

/-!
# Numbers as written

A decimal literal is kept as a significand of 64 bits and a power of ten. Digits that the
significand has no room for are lost: before the point they still count for the power of ten,
behind it they do not matter. `number?` is the number that a literal stands for.
-/

namespace RegistrySession.Json

/-- The literal `± significand * 10 ^ power`, plain if it has neither a point nor an exponent and
all its digits are in the significand. -/
structure Literal where
  negative : Bool
  significand : Nat
  power : Int
  plain : Bool
  deriving DecidableEq, Inhabited

namespace Literal

def digitValue (c : Char) : Nat :=
  c.toNat - '0'.toNat

/-- Appends digits to a significand up to the first that leads beyond 64 bits: the significand
then, and how many were appended. -/
def append : Nat → List Char → Nat × Nat
  | significand, [] => (significand, 0)
  | significand, c :: rest =>
    let longer := 10 * significand + digitValue c
    if longer < UInt64.size then
      let (found, count) := append longer rest
      (found, count + 1)
    else (significand, 0)

/-- The literal of the digits before the point, those behind it and the exponent. The significand
starts anew to take digits behind the point, even if some before it were lost. -/
def ofDigits (negative : Bool) (whole fraction : List Char) (exponent : Option Int) : Literal :=
  let (significand, kept) := append 0 whole
  let lost := whole.length - kept
  let (significand, places) := append significand fraction
  { negative
    significand
    power := exponent.getD 0 + Int.ofNat lost - Int.ofNat places
    plain := fraction.isEmpty && exponent.isNone && lost = 0 }

/-- A plain literal is whole if it fits 64 bits; minus zero is not whole. Any other is its
significand as a binary fraction, shifted by its power of ten, and nothing if that is too large. -/
def number? (literal : Literal) : Option Number :=
  let value : Int :=
    if literal.negative then -Int.ofNat literal.significand else literal.significand
  if h : literal.plain = true ∧ (literal.negative = true → 0 < literal.significand) ∧
      Fits value then
    some (.whole value h.2.2)
  else do
    let significand ← Double.nearest? literal.negative literal.significand 1
    return .real (← significand.shift? literal.power)

end Literal

end RegistrySession.Json
