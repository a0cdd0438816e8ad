/-!
Decimal numbers: a sign, digits, and a power of ten. `Decimal.of` leaves no zeros at the end of the
digits, so a number has one form.
-/
namespace CrudScripts.Data

/-- A decimal number: its sign, its digits without trailing zeros, and the power of ten they are
    multiplied by. -/
structure Decimal where
  negative : Bool
  digits : Nat
  exponent : Int
deriving DecidableEq

namespace Decimal

/-- Moves up to so many trailing zeros of the digits into the exponent. -/
def shorten : Nat → Nat → Int → Nat × Int
  | 0, digits, exponent => (digits, exponent)
  | places + 1, digits, exponent =>
    if digits % 10 = 0 then shorten places (digits / 10) (exponent + 1) else (digits, exponent)

/-- The decimal with given sign, digits and power of ten. -/
def of (negative : Bool) (digits : Nat) (exponent : Int) : Decimal :=
  if digits = 0 then ⟨negative, 0, 0⟩
  else
    let short := shorten (digits.log2 + 1) digits exponent
    ⟨negative, short.1, short.2⟩

end Decimal

end CrudScripts.Data
