import DataBinding.Path.Store

namespace DataBinding.Index

def fit? (n : Nat) : Option UInt64 :=
  if n < indexLimit then some (.ofNat n) else none

def isDigit (b : UInt8) : Bool := '0'.toUInt8 ≤ b && b ≤ '9'.toUInt8

def push? (n : UInt64) (b : UInt8) : Option UInt64 :=
  if isDigit b then do
    let tens ← fit? (n.toNat * 10)
    fit? (tens.toNat + (b - '0'.toUInt8).toNat)
  else none

def number? (bytes : List UInt8) : Option UInt64 :=
  let digits := if bytes.head? = some '+'.toUInt8 then bytes.tail else bytes
  if digits = [] then none else digits.foldlM push? 0

/-- Reads an index: digits, of which a zero is the first only if it is the only one. -/
def ofBytes? (bytes : List UInt8) : Option UInt64 :=
  if bytes = [] ∨ 1 < bytes.length ∧ bytes.head? = some '0'.toUInt8 then none
  else if bytes.all isDigit then number? bytes
  else none

def ofSegment? (segment : String) : Option UInt64 := ofBytes? segment.toUTF8.data.toList

end DataBinding.Index
