import DataBinding.Pattern.Search

namespace DataBinding.Replacement

open Pattern

/-- The text of a group by its number, empty if it took no part in the match. -/
def numbered (c : Captured) (n : Nat) : List Char := (c.groups.getD (n - 1) none).getD []

def named (c : Captured) (name : List Char) : List Char :=
  match c.names.lookup (String.ofList name) with
  | some n => numbered c n
  | none => []

def hasGroup (c : Captured) (n : Nat) : Bool := decide (1 ≤ n) && decide (n ≤ c.groups.length)

def digit (c : Char) : Nat := c.toNat - '0'.toNat

/-- The group that leading digits refer to, and how many digits that takes: two if that group
exists. -/
def groupReference (c : Captured) : List Char → Option (Nat × Nat)
  | [] => none
  | t :: s =>
    let two :=
      match s with
      | o :: _ => if o.isDigit && hasGroup c (10 * digit t + digit o)
          then some (10 * digit t + digit o, 2) else none
      | [] => none
    two.or (if hasGroup c (digit t) then some (digit t, 1) else none)

/-- What the text after a dollar sign refers to, and how much of it that takes. -/
def reference (c : Captured) : List Char → Option (List Char × Nat)
  | '$' :: _ => some (['$'], 1)
  | '&' :: _ => some (c.whole, 1)
  | '\x60' :: _ => some (c.before, 1)
  | '\x27' :: _ => some (c.after, 1)
  | '<' :: s =>
    if c.names.isEmpty then none
    else
      let name := s.takeWhile (· != '>')
      if name.length < s.length then some (named c name, name.length + 2) else none
  | d :: s =>
    if d.isDigit then (groupReference c (d :: s)).map fun r ↦ (numbered c r.1, r.2) else none
  | [] => none

/-- The replacement text with its references resolved. -/
def expand (c : Captured) : List Char → List Char
  | [] => []
  | d :: s =>
    if d = '$' then
      match reference c s with
      | some (t, n) => t ++ expand c (s.drop n)
      | none => '$' :: expand c s
    else d :: expand c s
termination_by s => s.length
decreasing_by all_goals simp only [List.length_drop, List.length_cons]; omega

end DataBinding.Replacement
