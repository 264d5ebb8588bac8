import Remittance.Decimal.Binary64

/-! # Shortest decimals

A binary fraction is written with the fewest digits that read back to it, and among those with the
digits nearest to it. The decimals that read back form an interval that reaches half way to either
neighbour, its ends included when the mantissa is even. For one digit, two digits and so on, the two
neighbours of the number on that decimal grid are tried. -/

namespace Remittance.Binary64

/-- Compares `a · 10 ^ i` with `b · 2 ^ j`. -/
def compareScaled (a : Nat) (i : Int) (b : Nat) (j : Int) : Ordering :=
  compare ((a * Nat.pow 10 i.toNat) <<< (-j).toNat) ((b * Nat.pow 10 (-i).toNat) <<< j.toNat)

/-- Whether `d · 10 ^ g` is rounded to `m · 2 ^ q`. Below a power of two the neighbour is half as
far away, and so is the end of the interval. -/
def readsBack (m : Nat) (q : Int) (d : Nat) (g : Int) : Bool :=
  let below := if m = 1 <<< 52 ∧ -1074 < q then 4 * m - 1 else 4 * m - 2
  let lower := compareScaled d g below (q - 2)
  let upper := compareScaled d g (4 * m + 2) (q - 2)
  let closed := m % 2 == 0
  (lower == .gt || (closed && lower == .eq)) && (upper == .lt || (closed && upper == .eq))

/-- The number of digits before the point of `n / d`, less the zeros that follow the point if there
is none: the least `k` with `n / d < 10 ^ k`. -/
def pointPlace (n d : Nat) : Int :=
  if d ≤ n then ((toString (n / d)).length : Int)
  else 1 - ((toString ((d - 1) / n)).length : Int)

/-- The neighbour of `m · 2 ^ q` on the grid `10 ^ g` that reads back, the nearer one of two. -/
def onGrid? (m : Nat) (q g : Int) : Option Nat :=
  let n := (m * Nat.pow 10 (-g).toNat) <<< q.toNat
  let d := Nat.pow 10 g.toNat <<< (-q).toNat
  let low := n / d
  match readsBack m q low g, readsBack m q (low + 1) g with
  | true, true => some (roundHalfEven n d)
  | true, false => some low
  | false, true => some (low + 1)
  | false, false => none

/-- The digits of a positive number `m · 2 ^ q`, and the place of the point before them. -/
def shortest (m : Nat) (q : Int) : List Char × Int :=
  let place := pointPlace (m <<< q.toNat) (1 <<< (-q).toNat)
  let grids := (List.range 17).map fun i => place - ((i + 1 : Nat) : Int)
  let found := grids.findSome? fun g => (onGrid? m q g).map fun d => (d, g)
  let (d, g) := found.getD ((m * Nat.pow 5 (-q).toNat) <<< q.toNat, min q 0)
  let ds := (toString d).toList
  ((ds.reverse.dropWhile (· == '0')).reverse, g + ds.length)

/-- The decimal exponent after its mark: a sign and at least two digits. -/
def exponentText (e : Int) : List Char :=
  let ds := (toString e.natAbs).toList
  (if e < 0 then '-' else '+') :: (if ds.length < 2 then '0' :: ds else ds)

/-- The layout of digits with the point at `place`: positional if the first digit stands between the
fourth place after the point and the sixteenth before it, with an exponent otherwise. -/
def layout (ds : List Char) (place : Int) : List Char :=
  if place < -3 ∨ 16 < place then
    ds.take 1 ++ (if ds.length = 1 then [] else '.' :: ds.drop 1) ++
      'e' :: exponentText (place - 1)
  else if place ≤ 0 then '0' :: '.' :: (List.replicate (-place).toNat '0' ++ ds)
  else if ds.length ≤ place.toNat then
    ds ++ List.replicate (place.toNat - ds.length) '0' ++ ['.', '0']
  else ds.take place.toNat ++ '.' :: ds.drop place.toNat

/-- The text of a binary fraction. -/
def text : Binary64 → String
  | .finite negative m q =>
    let body := if m = 0 then ['0', '.', '0'] else let (ds, place) := shortest m q; layout ds place
    String.ofList (if negative then '-' :: body else body)
  | .infinite negative => if negative then "-Infinity" else "Infinity"
  | .nan => "NaN"

end Remittance.Binary64
