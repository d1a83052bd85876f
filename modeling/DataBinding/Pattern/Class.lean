import DataBinding.Pattern.Property.Case
import DataBinding.Pattern.Property.Mark
import DataBinding.Pattern.Property.Sign

namespace DataBinding.Pattern

open Text

inductive Folding where
  | exact
  | ascii
  | unicode
deriving DecidableEq, Repr

namespace Folding

def variants : Folding → Char → List Char
  | exact, c => [c]
  | ascii, c => asciiVariants c
  | unicode, c => caseVariants c

def close : Folding → CharSet → CharSet
  | exact, s => s
  | ascii, s => s.closeUnder Fold.asciiPairs
  | unicode, s => s.closeUnder Fold.pairs

end Folding

inductive SetOperation where
  | intersection
  | difference
  | symmetricDifference
deriving DecidableEq, Repr

def SetOperation.apply : SetOperation → CharSet → CharSet → CharSet
  | intersection => .inter
  | difference => .diff
  | symmetricDifference => .symmDiff

inductive Class where
  | chars (s : CharSet)
  | union (parts : List Class)
  | combine (op : SetOperation) (folding : Folding) (a b : Class)
  /-- The class in brackets is closed under folding, then negated. -/
  | bracket (negated : Bool) (folding : Folding) (inner : Class)

namespace Class

mutual

def toSet : Class → CharSet
  | chars s => s
  | union parts => .unions (toSets parts)
  | combine op f a b => op.apply (f.close a.toSet) (f.close b.toSet)
  | bracket negated f inner =>
    let s := f.close inner.toSet
    if negated then s.compl else s

def toSets : List Class → List CharSet
  | [] => []
  | c :: cs => c.toSet :: toSets cs

end

mutual

def depth : Class → Nat
  | chars _ => 0
  | union parts => 1 + depthAll parts
  | combine _ _ a b => 1 + max a.depth b.depth
  | bracket _ _ inner => 1 + inner.depth

def depthAll : List Class → Nat
  | [] => 0
  | c :: cs => max c.depth (depthAll cs)

end

def ofParts : List Class → Class
  | [] => chars .empty
  | [c] => c
  | cs => union cs

end Class

def wordSet : CharSet :=
  .unions [Property.alphabetic, Repertoire.mark, Repertoire.decimalNumber,
    Repertoire.connectorPunctuation, Property.joinControl]

def wordTable : RangeTable := .ofSet wordSet

def asciiSet : CharSet := .range '\x00' '\x7f'

def asciiLetters : CharSet := .unions [.range 'A' 'Z', .range 'a' 'z']

def asciiAlphanumerics : CharSet := .unions [.range '0' '9', asciiLetters]

def asciiGraphics : CharSet := .range '!' '~'

/-- The classes that have a name between `[:` and `:]`. All are of ASCII. -/
def asciiClass? (name : String) : Option CharSet :=
  match name with
  | "alnum" => some asciiAlphanumerics
  | "alpha" => some asciiLetters
  | "ascii" => some asciiSet
  | "blank" => some (.ofChars ['\t', ' '])
  | "cntrl" => some (.unions [.range '\x00' '\x1f', .single '\x7f'])
  | "digit" => some (.range '0' '9')
  | "graph" => some asciiGraphics
  | "lower" => some (.range 'a' 'z')
  | "print" => some (.range ' ' '~')
  | "punct" => some (asciiGraphics.diff asciiAlphanumerics)
  | "space" => some (.unions [.range '\t' '\r', .single ' '])
  | "upper" => some (.range 'A' 'Z')
  | "word" => some (asciiAlphanumerics.union (.single '_'))
  | "xdigit" => some Property.asciiHexDigit
  | _ => none

def letterClass? (unicode : Bool) (c : Char) : Option CharSet :=
  match c with
  | 'd' => if unicode then some Repertoire.decimalNumber else asciiClass? "digit"
  | 's' => if unicode then some Property.whiteSpace else asciiClass? "space"
  | 'w' => if unicode then some wordSet else asciiClass? "word"
  | _ => none

end DataBinding.Pattern
