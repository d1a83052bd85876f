import DataBinding.Filter.Clause
import DataBinding.Path.Basic

namespace DataBinding

inductive Binding where
  | chain (property : Path) (filters : List Clause)
  | content (property : Path)
  /-- The value becomes an attribute. If one of the literals is not empty, the attribute is set
  to the first or the second one by truthiness instead. -/
  | attr (property : Path) (name truthy falsy : String)
deriving DecidableEq, Repr

namespace Binding

def property : Binding → Path
  | chain p _ => p
  | content p => p
  | attr p _ _ _ => p

def hasLiterals : Binding → Bool
  | attr _ _ truthy falsy => !truthy.isEmpty || !falsy.isEmpty
  | _ => false

inductive Style where
  | auto
  | filterChain
  | attr
deriving DecidableEq, Repr

/-- A `|` makes a filter chain, otherwise a `:` makes an attribute, otherwise a lone path is a
filter chain without filters. -/
def guessStyle (input : List Char) : Style :=
  if '|' ∈ input then .filterChain
  else if ':' ∈ input then .attr
  else .filterChain

/-- What is wrong with an expression. Offsets count bytes of UTF-8. -/
inductive Fault where
  | invalidProperty
  | unexpectedChar (found : Char) (offset : Nat)
  | expectedFilterName (offset : Nat)
  | unclosedString
deriving DecidableEq, Repr

structure ParseError where
  expression : String
  fault : Fault
deriving DecidableEq, Repr

def ParseError.message (e : ParseError) : String :=
  match e.fault with
  | .invalidProperty => "syntax error: '" ++ e.expression ++ "'"
  | .unexpectedChar found offset =>
    "syntax error in '" ++ e.expression ++ "': unexpected character '" ++ found.toString ++ "' at "
      ++ toString offset
  | .expectedFilterName offset =>
    "syntax error in '" ++ e.expression ++ "': expected filter name at " ++ toString offset
  | .unclosedString => "syntax error in '" ++ e.expression ++ "': unclosed string"

end Binding

end DataBinding
