import DataBinding.Text.CharSet

namespace DataBinding.Text

structure ByteRange where
  first : Nat
  last : Nat
deriving DecidableEq, Hashable, Repr

def utf8Bytes (n : Nat) : List Nat :=
  let trailing (i : Nat) := 0x80 + (n >>> (6 * i)) % 64
  if n < 0x80 then [n]
  else if n < 0x800 then [0xC0 + (n >>> 6), trailing 0]
  else if n < 0x10000 then [0xE0 + (n >>> 12), trailing 1, trailing 0]
  else [0xF0 + (n >>> 18), trailing 2, trailing 1, trailing 0]

namespace CodeRange

def clip (r : CodeRange) (first last : Nat) : List CodeRange :=
  if max r.first first ≤ min r.last last then [⟨max r.first first, min r.last last⟩] else []

def byLength (r : CodeRange) : List CodeRange :=
  r.clip 0 0x7F ++ r.clip 0x80 0x7FF ++ r.clip 0x800 0xD7FF ++ r.clip 0xE000 0xFFFF ++
    r.clip 0x10000 maxCode

/-- Cuts off the parts of a range that do not fill a block of `size` code points, unless the range
lies within a block. -/
def byBlock (size : Nat) (r : CodeRange) : List CodeRange :=
  if r.first / size == r.last / size then [r]
  else
    let first := (r.first + size - 1) / size * size
    let last := (r.last + 1) / size * size
    (if r.first < first then [⟨r.first, first - 1⟩] else []) ++
      (if first < last then [⟨first, last - 1⟩] else []) ++
      (if last ≤ r.last then [⟨last, r.last⟩] else [])

/-- A range as sequences of ranges of bytes: each stands for the characters with one byte from each
of its ranges. -/
def byteSequences (r : CodeRange) : List (List ByteRange) :=
  (r.byLength.flatMap fun r ↦
    if r.last < 0x80 then [r]
    else ((byBlock 0x40 r).flatMap (byBlock 0x1000)).flatMap (byBlock 0x40000)).map fun r ↦
      (utf8Bytes r.first).zipWith ByteRange.mk (utf8Bytes r.last)

end CodeRange

def CharSet.byteSequences (s : CharSet) : List (List ByteRange) :=
  s.ranges.flatMap CodeRange.byteSequences

end DataBinding.Text
