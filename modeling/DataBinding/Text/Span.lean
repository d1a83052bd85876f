namespace DataBinding.Text

/-- Every `step`-th code point from `first` to `last`. -/
structure Span where
  first : Nat
  last : Nat
  step : Nat
deriving DecidableEq, Repr

def Span.holds (s : Span) (n : Nat) : Bool :=
  decide (s.first ≤ n) && decide (n ≤ s.last) && (n - s.first) % s.step == 0

def Span.codes (s : Span) : List Nat :=
  (List.range ((s.last - s.first) / s.step + 1)).map fun i ↦ s.first + s.step * i

def inSpans (spans : List Span) (c : Char) : Bool := spans.any (·.holds c.toNat)

/-- A span whose characters are mapped to those `offset` code points away. -/
structure Shift where
  span : Span
  offset : Int
deriving DecidableEq, Repr

def Shift.target (s : Shift) (n : Nat) : Nat := ((n : Int) + s.offset).toNat

def shift (shifts : List Shift) (n : Nat) : Nat :=
  match shifts.find? (·.span.holds n) with
  | some s => s.target n
  | none => n

def unshift (shifts : List Shift) (n : Nat) : List Nat :=
  shifts.filterMap fun s ↦
    let source := ((n : Int) - s.offset).toNat
    if s.span.holds source && s.target source == n then some source else none

end DataBinding.Text
