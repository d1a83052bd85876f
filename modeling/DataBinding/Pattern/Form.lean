import DataBinding.Pattern.Basic

namespace DataBinding.Pattern

open Text

inductive Form where
  | empty
  | text (cs : List Char)
  | set (s : CharSet)
  | look (l : Look)
  | capture (index : Nat) (name : Option String) (r : Form)
  | loop (least : Nat) (most : Option Nat) (greedy : Bool) (r : Form)
  | concat (rs : List Form)
  | alternate (rs : List Form)

namespace Form

mutual

def same : Form → Form → Bool
  | empty, empty => true
  | text a, text b => a == b
  | set a, set b => a == b
  | look a, look b => a == b
  | capture i m a, capture j n b => i == j && m == n && a.same b
  | loop l m g a, loop l' m' g' b => l == l' && m == m' && g == g' && a.same b
  | concat a, concat b => sameAll a b
  | alternate a, alternate b => sameAll a b
  | _, _ => false

def sameAll : List Form → List Form → Bool
  | [], [] => true
  | a :: as, b :: bs => a.same b && sameAll as bs
  | _, _ => false

end

mutual

/-- The fewest characters that can match; none if nothing matches or that is not known. -/
def minLength : Form → Option Nat
  | empty | look _ => some 0
  | text cs => some cs.length
  | set s => if s.isEmpty then none else some 1
  | capture _ _ r => r.minLength
  | loop least _ _ r => r.minLength.map (least * ·)
  | concat rs => minSum rs
  | alternate rs => minOfAll rs

def minSum : List Form → Option Nat
  | [] => some 0
  | r :: rs => return (← r.minLength) + (← minSum rs)

def minOfAll : List Form → Option Nat
  | [] => none
  | [r] => r.minLength
  | r :: rs => return min (← r.minLength) (← minOfAll rs)

end

mutual

def maxLength : Form → Option Nat
  | empty | look _ => some 0
  | text cs => some cs.length
  | set s => if s.isEmpty then none else some 1
  | capture _ _ r => r.maxLength
  | loop _ most _ r => return (← most) * (← r.maxLength)
  | concat rs => maxSum rs
  | alternate rs => maxOfAll rs

def maxSum : List Form → Option Nat
  | [] => some 0
  | r :: rs => return (← r.maxLength) + (← maxSum rs)

def maxOfAll : List Form → Option Nat
  | [] => none
  | [r] => r.maxLength
  | r :: rs => return max (← r.maxLength) (← maxOfAll rs)

end

def consumes (r : Form) : Bool := r.minLength.any (0 < ·)

def isIdle (r : Form) : Bool := r.maxLength == some 0

mutual

def startsWith (l : Look) : Form → Bool
  | empty | text _ | set _ => false
  | look k => k == l
  | capture _ _ r => r.startsWith l
  | loop least _ _ r => least != 0 && r.startsWith l
  | concat rs => anyStartsWith l rs
  | alternate rs => allStartWith l rs

def anyStartsWith (l : Look) : List Form → Bool
  | [] => false
  | r :: rs => r.startsWith l || r.isIdle && anyStartsWith l rs

def allStartWith (l : Look) : List Form → Bool
  | [] => true
  | r :: rs => r.startsWith l && allStartWith l rs

end

mutual

def endsWith (l : Look) : Form → Bool
  | empty | text _ | set _ => false
  | look k => k == l
  | capture _ _ r => r.endsWith l
  | loop least _ _ r => least != 0 && r.endsWith l
  | concat rs => anyEndsWith l rs
  | alternate rs => allEndWith l rs

def anyEndsWith (l : Look) : List Form → Bool
  | [] => false
  | r :: rs => anyEndsWith l rs || rs.all isIdle && r.endsWith l

def allEndWith (l : Look) : List Form → Bool
  | [] => true
  | r :: rs => r.endsWith l && allEndWith l rs

end

mutual

def captures : Form → List (Nat × Option String)
  | empty | text _ | set _ | look _ => []
  | capture i name r => (i, name) :: r.captures
  | loop _ _ _ r => r.captures
  | concat rs => capturesAll rs
  | alternate rs => capturesAll rs

def capturesAll : List Form → List (Nat × Option String)
  | [] => []
  | r :: rs => r.captures ++ capturesAll rs

end

/-- One character stands for itself. -/
def ofSet (s : CharSet) : Form :=
  match s.only? with
  | some c => text [c]
  | none => set s

def parts : Form → List Form
  | empty => []
  | concat rs => rs
  | r => [r]

def joinTexts : List Form → List Form
  | [] => []
  | text a :: rs =>
    match joinTexts rs with
    | text b :: rs => text (a ++ b) :: rs
    | rs => text a :: rs
  | r :: rs => r :: joinTexts rs

def sequence (rs : List Form) : Form :=
  match joinTexts (rs.flatMap parts) with
  | [] => empty
  | [r] => r
  | rs => concat rs

/-- A repetition. What takes nothing from the text is tried at most once. -/
def repetition (least : Nat) (most : Option Nat) (greedy : Bool) (r : Form) : Form :=
  let (least, most) :=
    if r.isIdle then (min least 1, some ((most.map (min · 1)).getD 1)) else (least, most)
  if least == 0 && most == some 0 then empty
  else if least == 1 && most == some 1 then r
  else loop least most greedy r

def branches : Form → List Form
  | alternate rs => rs
  | r => [r]

/-- The characters of branches that match one certain character each. -/
def singles? (rs : List Form) : Option (List Char) :=
  rs.mapM fun
    | text [c] => some c
    | _ => none

def sets? (rs : List Form) : Option (List CharSet) :=
  rs.mapM fun
    | set s => some s
    | _ => none

def choice (rs : List Form) : Form :=
  match rs with
  | [] => set .empty
  | [r] => r
  | rs =>
    match singles? rs, sets? rs with
    | some cs, _ => ofSet (.ofChars cs)
    | none, some sets => ofSet (.unions sets)
    | none, none => alternate rs

def commonStart : List Form → List Form → List Form
  | a :: as, b :: bs => if a.same b then a :: commonStart as bs else []
  | _, _ => []

/-- The parts that all branches start with, if all of them are sequences of several parts. -/
def sharedStart : List Form → List Form
  | [concat as] => as
  | concat as :: rs => commonStart as (sharedStart rs)
  | _ => []

/-- Alternatives. What they have in common at their start is matched once, before them. -/
def alternation (rs : List Form) : Form :=
  match choice (rs.flatMap branches) with
  | alternate rs =>
    match sharedStart rs with
    | [] => alternate rs
    | start =>
      let rests := rs.map fun r ↦ sequence (r.parts.drop start.length)
      sequence (start ++ [choice (rests.flatMap branches)])
  | r => r

end Form

mutual

def Expr.form : Expr → Form
  | .empty | .flags => .empty
  | .set c => .ofSet c.toSet
  | .look l => .look l
  | .group r => r.form
  | .capture i name r => .capture i name r.form
  | .loop least most greedy r => .repetition least most greedy r.form
  | .concat rs => .sequence (Expr.forms rs)
  | .alternate rs => .alternation (Expr.forms rs)

def Expr.forms : List Expr → List Form
  | [] => []
  | r :: rs => r.form :: Expr.forms rs

end

end DataBinding.Pattern
