import DataBinding.Text.Span

namespace DataBinding.Text

structure CodeRange where
  first : Nat
  last : Nat
deriving DecidableEq, Repr

namespace CodeRange

def holds (r : CodeRange) (n : Nat) : Bool := decide (r.first ≤ n) && decide (n ≤ r.last)

def between (a b : Nat) : CodeRange := ⟨min a b, max a b⟩

end CodeRange

def maxCode : Nat := 0x10FFFF

def nextCode (n : Nat) : Nat := if n == 0xD7FF then 0xE000 else n + 1

def previousCode (n : Nat) : Nat := if n == 0xE000 then 0xD7FF else n - 1

structure CharSet where
  ranges : List CodeRange
deriving DecidableEq, Repr

namespace CharSet

def holds (s : CharSet) (n : Nat) : Bool := s.ranges.any (·.holds n)

def mem (s : CharSet) (c : Char) : Bool := s.holds c.toNat

def join : List CodeRange → List CodeRange
  | r :: s :: rest =>
    if s.first ≤ r.last + 1 then join (⟨r.first, max r.last s.last⟩ :: rest)
    else r :: join (s :: rest)
  | rs => rs
termination_by rs => rs.length

def ofRanges (rs : List CodeRange) : CharSet :=
  ⟨join (rs.mergeSort fun r s ↦ decide (r.first ≤ s.first))⟩

def empty : CharSet := ⟨[]⟩

def all : CharSet := ⟨[⟨0, maxCode⟩]⟩

def isEmpty (s : CharSet) : Bool := s.ranges.isEmpty

def single (c : Char) : CharSet := ⟨[⟨c.toNat, c.toNat⟩]⟩

def range (first last : Char) : CharSet := ⟨[⟨first.toNat, last.toNat⟩]⟩

def ofCodes (ns : List Nat) : CharSet := ofRanges (ns.map fun n ↦ ⟨n, n⟩)

def ofChars (cs : List Char) : CharSet := ofCodes (cs.map Char.toNat)

def spanRanges (s : Span) : List CodeRange :=
  if s.step == 1 then [⟨s.first, s.last⟩] else s.codes.map fun n ↦ ⟨n, n⟩

def ofSpans (spans : List Span) : CharSet := ofRanges (spans.flatMap spanRanges)

def union (a b : CharSet) : CharSet := ofRanges (a.ranges ++ b.ranges)

def unions (sets : List CharSet) : CharSet := ofRanges (sets.flatMap ranges)

/-- The common part of two lists of ranges; of their heads, the one that ends first is used up. -/
def interRanges : List CodeRange → List CodeRange → List CodeRange
  | a :: as, b :: bs =>
    let rest := if a.last < b.last then interRanges as (b :: bs) else interRanges (a :: as) bs
    let first := max a.first b.first
    let last := min a.last b.last
    if first ≤ last then ⟨first, last⟩ :: rest else rest
  | _, _ => []
termination_by as bs => as.length + bs.length

def inter (a b : CharSet) : CharSet := ⟨interRanges a.ranges b.ranges⟩

def diffRanges : List CodeRange → List CodeRange → List CodeRange
  | [], _ => []
  | as, [] => as
  | a :: as, b :: bs =>
    if b.last < a.first then diffRanges (a :: as) bs
    else if a.last < b.first then a :: diffRanges as (b :: bs)
    else
      let rest :=
        if b.last < a.last then diffRanges (⟨nextCode b.last, a.last⟩ :: as) bs
        else diffRanges as (b :: bs)
      if a.first < b.first then ⟨a.first, previousCode b.first⟩ :: rest else rest
termination_by as bs => as.length + bs.length

def diff (a b : CharSet) : CharSet := ⟨diffRanges a.ranges b.ranges⟩

def symmDiff (a b : CharSet) : CharSet := (a.union b).diff (a.inter b)

def gaps : List CodeRange → List CodeRange
  | r :: s :: rest => .between (nextCode r.last) (previousCode s.first) :: gaps (s :: rest)
  | [r] => if r.last < maxCode then [⟨nextCode r.last, maxCode⟩] else []
  | [] => []

def compl (s : CharSet) : CharSet :=
  match s.ranges with
  | [] => all
  | r :: rs => ⟨(if 0 < r.first then [⟨0, previousCode r.first⟩] else []) ++ gaps (r :: rs)⟩

def isAscii (s : CharSet) : Bool := s.ranges.all fun r ↦ decide (r.last < 0x80)

/-- The character of a set that has one. -/
def only? (s : CharSet) : Option Char :=
  match s.ranges with
  | [r] => if r.first = r.last then some (Char.ofNat r.first) else none
  | _ => none

end CharSet

structure RangeTable where
  ranges : Array CodeRange
deriving DecidableEq, Repr

namespace RangeTable

def ofSet (s : CharSet) : RangeTable := ⟨s.ranges.toArray⟩

/-- One of the ranges from the one at `low` on, up to the one before `high`, holds `n`. -/
def holdsBetween (t : RangeTable) (n low high : Nat) : Bool :=
  if low < high then
    let middle := (low + high) / 2
    match t.ranges[middle]? with
    | none => false
    | some r =>
      if n < r.first then holdsBetween t n low middle
      else if r.last < n then holdsBetween t n (middle + 1) high
      else true
  else false
termination_by high - low

def holds (t : RangeTable) (n : Nat) : Bool := t.holdsBetween n 0 t.ranges.size

def mem (t : RangeTable) (c : Char) : Bool := t.holds c.toNat

end RangeTable

end DataBinding.Text
