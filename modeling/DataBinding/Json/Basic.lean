import DataBinding.Number.Decimal

namespace DataBinding

inductive Number where
  | integer (n : Int)
  | float (x : Binary)
deriving DecidableEq, Repr, Inhabited

inductive Json where
  | null
  | bool (b : Bool)
  | number (n : Number)
  | string (s : String)
  | array (items : List Json)
  | object (members : List (String × Json))
deriving Repr, Inhabited

namespace Number

def isZero : Number → Bool
  | integer n => n == 0
  | float x => x.isZero

/-- Integers as decimal digits, floats as the shortest text that reads back. -/
def text : Number → List Char
  | integer n => (toString n).toList
  | float x => x.text

/-- Floats from here on are shown with their fraction or exponent even when they are integral. -/
def integralLimit : Nat := Nat.pow 10 21

/-- The text shown to users: an integral float below `integralLimit` loses its fraction. -/
def display : Number → List Char
  | integer n => (toString n).toList
  | float x =>
    match x.natural? with
    | some n =>
      if n < integralLimit then (toString (if x.negative then -(n : Int) else n)).toList else x.text
    | none => x.text

end Number

namespace Json

abbrev Members := List (String × Json)

/-- Gives `key` the value `value`: in its place if it is there, otherwise at the end. -/
def Members.insert (key : String) (value : Json) : Members → Members
  | [] => [(key, value)]
  | (k, v) :: ms => if k = key then (k, value) :: ms else (k, v) :: Members.insert key value ms

def Members.find? (key : String) : Members → Option Json
  | [] => none
  | (k, v) :: ms => if k = key then some v else Members.find? key ms

def isNull : Json → Bool
  | null => true
  | _ => false

def isContainer : Json → Bool
  | array _ | object _ => true
  | _ => false

/-- `false`, zero, `""`, `null` and a missing value are false; all else is true. -/
def isTruthy : Option Json → Bool
  | none | some null => false
  | some (bool b) => b
  | some (number n) => !n.isZero
  | some (string s) => !s.isEmpty
  | some (array _) | some (object _) => true

def orBlank : Json → Json
  | null => string ""
  | v => v

end Json

end DataBinding
