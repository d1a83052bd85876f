import DataBinding.Pattern.Class

namespace DataBinding.Pattern

inductive PatternError where
  | unclosedGroup
  | unopenedGroup
  | unclosedClass
  | invalidClass
  | nothingToRepeat
  | invalidRepetition
  | invalidEscape
  | invalidGroupName
  | invalidFlags
  | lookAround
  | backReference
  | unknownProperty
  | notUnicode
  | nestedTooDeep
  | tooLarge
deriving DecidableEq, Repr

def PatternError.message : PatternError → String
  | unclosedGroup => "a group is not closed"
  | unopenedGroup => "a group is closed that was not opened"
  | unclosedClass => "a character class is not closed"
  | invalidClass => "a character class is invalid"
  | nothingToRepeat => "a repetition has nothing to repeat"
  | invalidRepetition => "a repetition count is invalid"
  | invalidEscape => "an escape sequence is not recognized"
  | invalidGroupName => "a group name is invalid"
  | invalidFlags => "flags are invalid"
  | lookAround => "look-around is not supported"
  | backReference => "back-references are not supported"
  | unknownProperty => "a character property is not known"
  | notUnicode => "a part could match half a character"
  | nestedTooDeep => "groups are nested too deep"
  | tooLarge => "the pattern is too large"

inductive Look where
  | textStart
  | textEnd
  | lineStart
  | lineEnd
  | crlfStart
  | crlfEnd
  | wordBoundary (unicode : Bool)
  | notWordBoundary (unicode : Bool)
  | wordStart (unicode : Bool)
  | wordEnd (unicode : Bool)
  | wordStartHalf (unicode : Bool)
  | wordEndHalf (unicode : Bool)
deriving DecidableEq, Repr

inductive Expr where
  | empty
  /-- A change of flags; it matches the empty text but cannot be repeated. -/
  | flags
  | set (c : Class)
  | look (l : Look)
  | group (r : Expr)
  | capture (index : Nat) (name : Option String) (r : Expr)
  | loop (least : Nat) (most : Option Nat) (greedy : Bool) (r : Expr)
  | concat (rs : List Expr)
  | alternate (rs : List Expr)

namespace Expr

/-- A sequence; a single part stands for itself. -/
def ofSequence : List Expr → Expr
  | [] => empty
  | [r] => r
  | rs => concat rs

def ofBranches : List Expr → Expr
  | [r] => r
  | rs => alternate rs

mutual

def depth : Expr → Nat
  | empty | flags | look _ => 0
  | set c => c.depth
  | group r => 1 + r.depth
  | capture _ _ r => 1 + r.depth
  | loop _ _ _ r => 1 + r.depth
  | concat rs => 1 + depthAll rs
  | alternate rs => 1 + depthAll rs

def depthAll : List Expr → Nat
  | [] => 0
  | r :: rs => max r.depth (depthAll rs)

end

end Expr

end DataBinding.Pattern
