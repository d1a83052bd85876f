import DataBinding.Json.Tree

namespace DataBinding.Json

namespace Numeral

def wordSize : Nat := Nat.pow 2 64

def leading (n : Nat) : List Nat → Nat × List Nat
  | [] => (n, [])
  | d :: ds => if 10 * n + d < wordSize then leading (10 * n + d) ds else (n, d :: ds)

def exponentLimit : Nat := Nat.pow 2 31 - 1

def powerOfTen (k : Nat) : Option Binary := Binary.ofRatio false (Nat.pow 10 k) 1

/-- Divides by `10 ^ 308` until the exponent is within reach, then scales once. Zero stays
zero. `none` beyond the finite range. -/
def scale (x : Binary) (exponent : Int) : Nat → Option Binary
  | 0 => some x
  | n + 1 =>
    if exponent.natAbs ≤ 308 then do
      let p ← powerOfTen exponent.natAbs
      if 0 ≤ exponent then x.mul p else x.div p
    else if x.isZero then some x
    else if 0 ≤ exponent then none
    else do
      let p ← powerOfTen 308
      scale (← x.div p) (exponent + 308) n

def magnitude (significand : Nat) (exponent : Int) : Option Binary := do
  scale (← Binary.ofRatio false significand 1) exponent (exponent.natAbs / 308 + 1)

def value (ds : List Nat) : Nat := ds.foldl (fun n d ↦ 10 * n + d) 0

def writtenExponent (n : Numeral) : Int :=
  match n.exponent with
  | none => 0
  | some (negative, ds) =>
    if negative then -(value ds : Int) else value ds

/-- A float: digits beyond the 64-bit significand count by their place only. -/
def float (n : Numeral) : Option Binary :=
  let (m, dropped) := leading 0 n.whole
  let (m, rest) := leading m (n.fraction.getD [])
  let used := (n.fraction.getD []).length - rest.length
  let start : Int := (dropped.length : Int) - used
  let written := n.writtenExponent
  let value :=
    if exponentLimit < written.natAbs then
      if m ≠ 0 ∧ 0 ≤ written then none else some (Binary.zero false)
    else magnitude m (start + written)
  value.map fun x ↦ if n.negative then x.neg else x

/-- Integers within 64 bits are exact, but `-0` is a float. -/
def number (n : Numeral) : Option Number :=
  match n.fraction, n.exponent, leading 0 n.whole with
  | none, none, (m, []) =>
    if n.negative then
      if m = 0 ∨ Nat.pow 2 63 < m then n.float.map .float else some (.integer (-m))
    else some (.integer m)
  | _, _, _ => n.float.map .float

end Numeral

def surrogatePair (high low : Nat) : Char :=
  Char.ofNat (0x10000 + (high - 0xD800) * 0x400 + (low - 0xDC00))

def isHighSurrogate (n : Nat) : Bool := decide (0xD800 ≤ n) && decide (n < 0xDC00)

def isLowSurrogate (n : Nat) : Bool := decide (0xDC00 ≤ n) && decide (n < 0xE000)

def decodePieces : List Piece → Option (List Char)
  | [] => some []
  | .char c :: ps => (decodePieces ps).map (c :: ·)
  | .unit h :: .unit l :: ps =>
    if isHighSurrogate h then
      if isLowSurrogate l then (decodePieces ps).map (surrogatePair h l :: ·) else none
    else if isLowSurrogate h then none
    else (decodePieces (.unit l :: ps)).map (Char.ofNat h :: ·)
  | .unit h :: ps =>
    if isHighSurrogate h || isLowSurrogate h then none
    else (decodePieces ps).map (Char.ofNat h :: ·)

def decodeString (ps : List Piece) : Option String := (decodePieces ps).map String.ofList

namespace Tree

mutual

/-- The value of a tree with at most `depth` containers around any part of it. A repeated key
keeps its first place and takes the last value. -/
def value? (depth : Nat) : Tree → Option Json
  | .null => some .null
  | .bool b => some (.bool b)
  | .number n => n.number.map .number
  | .string s => (decodeString s).map .string
  | .array items =>
    match depth with
    | 0 => none
    | d + 1 => (itemValues? d items).map .array
  | .object members =>
    match depth with
    | 0 => none
    | d + 1 => (memberValues? d [] members).map .object

def itemValues? (depth : Nat) : List Tree → Option (List Json)
  | [] => some []
  | t :: ts => do
    let v ← value? depth t
    let vs ← itemValues? depth ts
    return v :: vs

def memberValues? (depth : Nat) (done : Members) : List (List Piece × Tree) → Option Members
  | [] => some done
  | (key, t) :: ts => do
    let k ← decodeString key
    let v ← value? depth t
    memberValues? depth (done.insert k v) ts

end

end Tree

def depthLimit : Nat := 127

def parse? (s : List Char) : Option Json := do
  (← Tree.read s).value? depthLimit

end DataBinding.Json
