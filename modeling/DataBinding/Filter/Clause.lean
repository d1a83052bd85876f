namespace DataBinding

structure Clause where
  name : String
  args : List String
deriving DecidableEq, Repr

inductive Arity where
  | any
  | exactly (n : Nat)
  | between (least : Nat) (most : Option Nat)
deriving DecidableEq, Repr

namespace Arity

def accepts : Arity → Nat → Bool
  | any, _ => true
  | exactly n, given => given == n
  | between least none, given => decide (least ≤ given)
  | between least (some most), given => decide (least ≤ given) && decide (given ≤ most)

def counted (n : Nat) : String :=
  toString n ++ (if n = 1 then " argument" else " arguments")

def text : Arity → String
  | any => "any number of arguments"
  | exactly n => counted n
  | between least none => "at least " ++ counted least
  | between least (some most) => toString least ++ " to " ++ toString most ++ " arguments"

end Arity

end DataBinding
