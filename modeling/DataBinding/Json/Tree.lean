import DataBinding.Json.Basic

namespace DataBinding.Json

structure Numeral where
  negative : Bool
  whole : List Nat
  fraction : Option (List Nat)
  exponent : Option (Bool × List Nat)
deriving DecidableEq, Repr

/-- A character of a string: itself, or the code of a `\u` escape. -/
inductive Piece where
  | char (c : Char)
  | unit (code : Nat)
deriving DecidableEq, Repr

inductive Tree where
  | null
  | bool (b : Bool)
  | number (n : Numeral)
  | string (s : List Piece)
  | array (items : List Tree)
  | object (members : List (List Piece × Tree))
deriving Repr

namespace Tree

def isSpace (c : Char) : Bool := c == ' ' || c == '\n' || c == '\r' || c == '\t'

def skipSpace (s : List Char) : List Char := s.dropWhile isSpace

def digit (c : Char) : Nat := c.toNat - '0'.toNat

def digits (s : List Char) : List Nat × List Char :=
  ((s.takeWhile Char.isDigit).map digit, s.dropWhile Char.isDigit)

def someDigits (s : List Char) : Option (List Nat × List Char) :=
  match digits s with
  | ([], _) => none
  | r => some r

def wholePart (s : List Char) : Option (List Nat × List Char) :=
  match someDigits s with
  | some (0 :: _ :: _, _) => none
  | r => r

def fractionPart : List Char → Option (Option (List Nat) × List Char)
  | '.' :: s => (someDigits s).map fun r ↦ (some r.1, r.2)
  | s => some (none, s)

def exponentSign : List Char → Bool × List Char
  | '+' :: s => (false, s)
  | '-' :: s => (true, s)
  | s => (false, s)

def exponentPart : List Char → Option (Option (Bool × List Nat) × List Char)
  | c :: s =>
    if c == 'e' || c == 'E' then
      let (negative, s) := exponentSign s
      (someDigits s).map fun r ↦ (some (negative, r.1), r.2)
    else some (none, c :: s)
  | [] => some (none, [])

def magnitude (negative : Bool) (s : List Char) : Option (Numeral × List Char) := do
  let (whole, s) ← wholePart s
  let (fraction, s) ← fractionPart s
  let (exponent, s) ← exponentPart s
  return (⟨negative, whole, fraction, exponent⟩, s)

def numeral : List Char → Option (Numeral × List Char)
  | '-' :: s => magnitude true s
  | s => magnitude false s

def hexValue? (c : Char) : Option Nat :=
  if '0' ≤ c ∧ c ≤ '9' then some (c.toNat - '0'.toNat)
  else if 'a' ≤ c ∧ c ≤ 'f' then some (c.toNat - 'a'.toNat + 10)
  else if 'A' ≤ c ∧ c ≤ 'F' then some (c.toNat - 'A'.toNat + 10)
  else none

def hexNumber? (cs : List Char) : Option Nat :=
  cs.foldlM (fun n c ↦ (hexValue? c).map (16 * n + ·)) 0

def escaped? : Char → Option Char
  | '"' => some '"'
  | '\\' => some '\\'
  | '/' => some '/'
  | 'b' => some '\x08'
  | 'f' => some '\x0c'
  | 'n' => some '\n'
  | 'r' => some '\r'
  | 't' => some '\t'
  | _ => none

def stringBody : List Char → Option (List Piece × List Char)
  | [] => none
  | '"' :: s => some ([], s)
  | '\\' :: 'u' :: a :: b :: c :: d :: s => do
    let code ← hexNumber? [a, b, c, d]
    let (ps, r) ← stringBody s
    return (.unit code :: ps, r)
  | '\\' :: c :: s => do
    let e ← escaped? c
    let (ps, r) ← stringBody s
    return (.char e :: ps, r)
  | c :: s =>
    if c == '\\' || c.toNat < 0x20 then none
    else (stringBody s).map fun r ↦ (.char c :: r.1, r.2)

def word (w : String) (v : Tree) (s : List Char) : Option (Tree × List Char) :=
  if w.toList.isPrefixOf s then some (v, s.drop w.toList.length) else none

mutual

def value : Nat → List Char → Option (Tree × List Char)
  | 0, _ => none
  | n + 1, s =>
    match skipSpace s with
    | [] => none
    | '"' :: s => (stringBody s).map fun r ↦ (.string r.1, r.2)
    | '[' :: s =>
      match skipSpace s with
      | ']' :: s => some (.array [], s)
      | s => (items n s).map fun r ↦ (.array r.1, r.2)
    | '{' :: s =>
      match skipSpace s with
      | '}' :: s => some (.object [], s)
      | s => (members n s).map fun r ↦ (.object r.1, r.2)
    | 'n' :: s => word "ull" .null s
    | 't' :: s => word "rue" (.bool true) s
    | 'f' :: s => word "alse" (.bool false) s
    | s => (numeral s).map fun r ↦ (.number r.1, r.2)

def items : Nat → List Char → Option (List Tree × List Char)
  | 0, _ => none
  | n + 1, s => do
    let (v, s) ← value n s
    match skipSpace s with
    | ',' :: s =>
      let (vs, s) ← items n s
      return (v :: vs, s)
    | ']' :: s => return ([v], s)
    | _ => none

def members : Nat → List Char → Option (List (List Piece × Tree) × List Char)
  | 0, _ => none
  | n + 1, s =>
    match skipSpace s with
    | '"' :: s => do
      let (key, s) ← stringBody s
      match skipSpace s with
      | ':' :: s =>
        let (v, s) ← value n s
        match skipSpace s with
        | ',' :: s =>
          let (ms, s) ← members n s
          return ((key, v) :: ms, s)
        | '}' :: s => return ([(key, v)], s)
        | _ => none
      | _ => none
    | _ => none

end

/-- The tree of a whole text; `none` if it is no JSON text. Two steps per character suffice. -/
def read (s : List Char) : Option Tree := do
  let (v, rest) ← value (2 * s.length + 2) s
  if (skipSpace rest).isEmpty then some v else none

end Tree

end DataBinding.Json
