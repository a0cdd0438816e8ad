import CrudScripts.Data.Decimal

/-!
Numbers in double precision. A finite one is a significand times a power of two, with 53 bits, or
fewer at the least exponent, so a number has one form. `Double.ofDecimal` takes the number nearest
to a decimal, and of two equally near ones the one with the even significand. `Double.shortest`
goes back: it gives the fewest digits that are read as the number again.
-/
namespace CrudScripts.Data

/-- A number in double precision. -/
inductive Double where
  /-- A significand times a power of two. -/
  | finite (negative : Bool) (significand : Nat) (exponent : Int)
  /-- Beyond every finite number. -/
  | infinite (negative : Bool)
  /-- No number at all. -/
  | undefined
deriving DecidableEq

/-- The quotient of two numbers, rounded to the nearest whole number, and to the even one of two
    equally near ones. -/
def roundedQuotient (n d : Nat) : Nat :=
  match compare (2 * (n % d)) d with
  | .lt => n / d
  | .gt => n / d + 1
  | .eq => n / d + n / d % 2

/-- A quotient times a power of a base, as a quotient. -/
def scaledQuotient (base : Nat) (power : Int) (n d : Nat) : Nat × Nat :=
  (n * base.pow power.toNat, d * base.pow (-power).toNat)

/-- The exponent of the greatest power of two that a quotient reaches. -/
def binaryPlace (n d : Nat) : Int :=
  let guess : Int := (n.log2 : Int) - d.log2
  let scaled := scaledQuotient 2 (-guess) n d
  if scaled.2 ≤ scaled.1 then guess else guess - 1

/-- The exponent of the greatest power of ten that a quotient reaches. -/
def decimalPlace (n d : Nat) : Int :=
  if d ≤ n then (Nat.toDigits 10 (n / d)).length - 1
  else -((Nat.toDigits 10 ((d - 1) / n)).length : Int)

namespace Double

/-- The exponent of the numbers nearest to zero. -/
def leastExponent : Int := -1074

/-- The exponent of the numbers farthest from zero. -/
def greatestExponent : Int := 971

/-- Zero, with either sign. -/
def zero (negative : Bool) : Double := .finite negative 0 leastExponent

/-- The number nearest to a quotient that is not zero. -/
def ofQuotient (negative : Bool) (n d : Nat) : Double :=
  let exponent := max (binaryPlace n d - 52) leastExponent
  let scaled := scaledQuotient 2 (-exponent) n d
  let significand := roundedQuotient scaled.1 scaled.2
  let full := significand = Nat.pow 2 53
  let exponent := if full then exponent + 1 else exponent
  if greatestExponent < exponent then .infinite negative
  else .finite negative (if full then Nat.pow 2 52 else significand) exponent

/-- The number nearest to a decimal. A decimal that is out of reach by its binary length alone is
    not written out: `digits` has more than three tenths of its bits in decimal places, and less
    than a third. -/
def ofDecimal (x : Decimal) : Double :=
  let bits : Int := x.digits.log2 + 1
  if x.digits = 0 then zero x.negative
  else if 310 < bits * 3 / 10 - 1 + x.exponent then .infinite x.negative
  else if bits / 3 + 1 + x.exponent < -330 then zero x.negative
  else
    let scaled := scaledQuotient 10 x.exponent x.digits 1
    ofQuotient x.negative scaled.1 scaled.2

/-- Whether a number is zero. -/
def isZero : Double → Bool
  | .finite _ significand _ => significand == 0
  | _ => false

/-- Whether two numbers are equal; the sign of zero does not count. -/
def same (x y : Double) : Bool := x == y || (x.isZero && y.isZero)

/-- Whether a number is a given whole number. -/
def isWhole (n : Int) : Double → Bool
  | .finite negative significand exponent =>
    let scaled := scaledQuotient 2 exponent significand 1
    scaled.1 == n.natAbs * scaled.2 && (n == 0 || negative == decide (n < 0))
  | _ => false

/-- The decimal of so many digits nearest to a magnitude, and then the one on its other side. -/
def candidates (n d count : Nat) : List Decimal :=
  let power := decimalPlace n d - count + 1
  let scaled := scaledQuotient 10 (-power) n d
  let nearest := roundedQuotient scaled.1 scaled.2
  let other := if nearest = scaled.1 / scaled.2 then nearest + 1 else nearest - 1
  [.of false nearest power, .of false other power]

/-- The decimal with the fewest digits that is read as a magnitude, the nearest one of those. Where
    no count up to seventeen gives one, the magnitude itself. -/
def shortest (significand : Nat) (exponent : Int) : Decimal :=
  if significand = 0 then ⟨false, 0, 0⟩
  else
    let q := scaledQuotient 2 exponent significand 1
    let readsBack (x : Decimal) : Bool := ofDecimal x == .finite false significand exponent
    let found := (List.range 17).findSome? fun count =>
      (candidates q.1 q.2 (count + 1)).find? readsBack
    found.getD (.of false (q.1 * Nat.pow 5 q.2.log2) (-q.2.log2))

end Double

end CrudScripts.Data
