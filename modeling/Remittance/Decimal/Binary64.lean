import Remittance.Numeral.Digits

/-! # Binary fractions of 64 bits

The numbers that a decimal with a point or an exponent is rounded to: `mantissa · 2 ^ exponent` with
a mantissa below `2 ^ 53` and an exponent from -1074 to 971, and beyond them the infinities. The
arithmetic is exact, on natural numbers. -/

namespace Remittance

/-- A binary fraction of 64 bits. -/
inductive Binary64 where
  /-- The number `± mantissa · 2 ^ exponent`. -/
  | finite (negative : Bool) (mantissa : Nat) (exponent : Int)
  /-- A number too large to be written. -/
  | infinite (negative : Bool)
  /-- No number at all. -/
  | nan
  deriving DecidableEq, Repr

namespace Binary64

/-- The quotient `n / d` to the nearest integer, a half to the even neighbour. -/
def roundHalfEven (n d : Nat) : Nat :=
  let q := n / d
  let r := n % d
  if 2 * r < d ∨ (2 * r = d ∧ q % 2 = 0) then q else q + 1

/-- The exponent at which the quotient `n / d` has a mantissa of 53 bits, or the least one. -/
def exponentFor (n d : Nat) : Int :=
  let q : Int := (n.log2 : Int) - d.log2 - 52
  let q := if n <<< (-q).toNat < d <<< (q.toNat + 52) then q - 1 else q
  max q (-1074)

/-- The quotient `n / d` to the nearest binary fraction. -/
def ofQuotient (negative : Bool) (n d : Nat) : Binary64 :=
  let q := exponentFor n d
  let m := roundHalfEven (n <<< (-q).toNat) (d <<< q.toNat)
  let (m, q) := if m = 1 <<< 53 then (1 <<< 52, q + 1) else (m, q)
  if 971 < q then .infinite negative else .finite negative m q

/-- The decimal `± digits · 10 ^ exponent` to the nearest binary fraction. Decimals whose first
digit lies far outside the range are settled without forming the power of ten. -/
def ofDecimal (negative : Bool) (digits : List Nat) (exponent : Int) : Binary64 :=
  let n := Numeral.ofDigits digits
  let size := exponent + ((toString n).length : Int)
  if n = 0 ∨ size < -400 then .finite negative 0 (-1074)
  else if 400 < size then .infinite negative
  else ofQuotient negative (n * Nat.pow 10 exponent.toNat) (Nat.pow 10 (-exponent).toNat)

/-- Whether the number is neither infinite nor missing. -/
def isFinite : Binary64 → Bool
  | .finite .. => true
  | _ => false

/-- The integer that the number is, if it is one. -/
def toInt? : Binary64 → Option Int
  | .finite negative m q =>
    let scaled := m <<< q.toNat
    let unit := 1 <<< (-q).toNat
    if scaled % unit = 0 then
      let n : Int := (scaled / unit : Nat)
      some (if negative then -n else n)
    else none
  | _ => none

end Binary64

end Remittance
