import DataBinding.Number.Binary

namespace DataBinding

structure Decimal where
  digits : Nat
  exponent : Int
deriving DecidableEq, Repr

namespace Decimal

/-- The order of `a · 10 ^ i` and `n · 2 ^ j`. -/
def compareScaled (a : Nat) (i : Int) (n : Nat) (j : Int) : Ordering :=
  compare (a * Nat.pow 10 i.toNat * Nat.pow 2 (-j).toNat)
    (n * Nat.pow 2 j.toNat * Nat.pow 10 (-i).toNat)

end Decimal

namespace Binary

/-- The neighbour below is half as far away as the neighbour above. -/
def narrowBelow (x : Binary) : Bool :=
  x.significand == Nat.pow 2 (precision - 1) && decide (leastExponent < x.exponent)

/-- The magnitude of `x` is the nearest one to `d`, a tie going to the even significand. -/
def readsBack (x : Binary) (d : Decimal) : Bool :=
  let low := if x.narrowBelow then 4 * x.significand - 1 else 4 * x.significand - 2
  let high := 4 * x.significand + 2
  let closed := x.significand % 2 == 0
  let below := Decimal.compareScaled d.digits d.exponent low (x.exponent - 2)
  let above := Decimal.compareScaled d.digits d.exponent high (x.exponent - 2)
  (below == .gt || (closed && below == .eq)) && (above == .lt || (closed && above == .eq))

def decimalScale (x : Binary) : Int :=
  let bits : Int := Nat.log2 x.significand + x.exponent
  let guess := Int.fdiv (bits * 30103) 100000
  let exceeds (k : Int) := Decimal.compareScaled 1 k x.significand x.exponent == .gt
  if exceeds guess then guess
  else if exceeds (guess + 1) then guess + 1
  else guess + 2

/-- The point of the grid `10 ^ k` nearest to the magnitude among its two neighbours that read
back, a tie going to the even one. -/
def onGrid (x : Binary) (k : Int) : Option Decimal :=
  let (a, b) := x.ratio
  let num := a * Nat.pow 10 (-k).toNat
  let den := b * Nat.pow 10 k.toNat
  let low := num / den
  match x.readsBack ⟨low, k⟩, x.readsBack ⟨low + 1, k⟩ with
  | true, true =>
    match compare (2 * (num % den)) den with
    | .lt => some ⟨low, k⟩
    | .gt => some ⟨low + 1, k⟩
    | .eq => some ⟨if low % 2 = 0 then low else low + 1, k⟩
  | true, false => some ⟨low, k⟩
  | false, true => some ⟨low + 1, k⟩
  | false, false => none

def exactDecimal (x : Binary) : Decimal :=
  if 0 ≤ x.exponent then ⟨x.significand * Nat.pow 2 x.exponent.toNat, 0⟩
  else ⟨x.significand * Nat.pow 5 (-x.exponent).toNat, x.exponent⟩

/-- The decimal with the fewest digits that reads back to the magnitude. -/
def shortest (x : Binary) : Decimal :=
  let scale := x.decimalScale
  ((List.range 17).findSome? fun n : Nat ↦ x.onGrid (scale - (n + 1))).getD x.exactDecimal

end Binary

namespace Decimal

def significantDigits (ds : List Char) : List Char × Nat :=
  let zeros := (ds.reverse.takeWhile (· == '0')).length
  (ds.take (ds.length - zeros), zeros)

def positional (e : Int) : Bool := decide (-5 ≤ e) && decide (e < 16)

def layout (d : Decimal) : List Char :=
  let all := Nat.toDigits 10 d.digits
  let e : Int := all.length - 1 + d.exponent
  let ds := (significantDigits all).1
  if positional e then
    if e < 0 then '0' :: '.' :: (List.replicate (-e - 1).toNat '0' ++ ds)
    else
      let n := e.toNat + 1
      let whole := ds.take n ++ List.replicate (n - ds.length) '0'
      let fraction := ds.drop n
      whole ++ '.' :: (if fraction.isEmpty then ['0'] else fraction)
  else
    let exponent := 'e' :: (if e < 0 then '-' else '+') :: Nat.toDigits 10 e.natAbs
    match ds with
    | [] => exponent
    | [c] => c :: exponent
    | c :: rest => c :: '.' :: (rest ++ exponent)

end Decimal

def Binary.text (x : Binary) : List Char :=
  let magnitude := if x.isZero then ['0', '.', '0'] else x.shortest.layout
  if x.negative then '-' :: magnitude else magnitude

end DataBinding
