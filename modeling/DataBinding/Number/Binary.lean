namespace DataBinding

/-- The finite number `±significand · 2 ^ exponent`. Numbers built by `ofRatio` are canonical:
the significand has 53 bits, or fewer at the least exponent. -/
structure Binary where
  negative : Bool
  significand : Nat
  exponent : Int
deriving DecidableEq, Repr, Inhabited

namespace Binary

def precision : Nat := 53

def leastExponent : Int := -1074

def greatestExponent : Int := 971

def zero (negative : Bool) : Binary := ⟨negative, 0, leastExponent⟩

def isZero (x : Binary) : Bool := x.significand == 0

def neg (x : Binary) : Binary := { x with negative := !x.negative }

/-- `num / den` rounded to an integer, a half going to the even neighbour. -/
def roundQuotient (num den : Nat) : Nat :=
  let q := num / den
  let r := num % den
  match compare (2 * r) den with
  | .lt => q
  | .gt => q + 1
  | .eq => if q % 2 = 0 then q else q + 1

def inUnits (num den : Nat) (e : Int) : Nat × Nat :=
  (num * Nat.pow 2 (-e).toNat, den * Nat.pow 2 e.toNat)

/-- The exponent at which `num / den` has a significand of full precision, but no smaller than
the least one. -/
def unitExponent (num den : Nat) : Int :=
  let guess : Int := (Nat.log2 num : Int) - Nat.log2 den - (precision - 1 : Nat)
  let (n, d) := inUnits num den guess
  let e := if n / d < Nat.pow 2 (precision - 1) then guess - 1 else guess
  max e leastExponent

/-- The number nearest to `num / den`, a tie going to the even significand; `none` beyond the
finite range. -/
def ofRatio (negative : Bool) (num den : Nat) : Option Binary :=
  if num = 0 then some (zero negative)
  else
    let e := unitExponent num den
    let (n, d) := inUnits num den e
    let m := roundQuotient n d
    let (m, e) :=
      if m = Nat.pow 2 precision then (Nat.pow 2 (precision - 1), e + 1) else (m, e)
    if greatestExponent < e then none else some ⟨negative, m, e⟩

def ratio (x : Binary) : Nat × Nat :=
  (x.significand * Nat.pow 2 x.exponent.toNat, Nat.pow 2 (-x.exponent).toNat)

def mul (x y : Binary) : Option Binary :=
  let (a, b) := x.ratio
  let (c, d) := y.ratio
  ofRatio (x.negative != y.negative) (a * c) (b * d)

def div (x y : Binary) : Option Binary :=
  let (a, b) := x.ratio
  let (c, d) := y.ratio
  ofRatio (x.negative != y.negative) (a * d) (b * c)

def natural? (x : Binary) : Option Nat :=
  let (a, b) := x.ratio
  if a % b = 0 then some (a / b) else none

end Binary

end DataBinding
