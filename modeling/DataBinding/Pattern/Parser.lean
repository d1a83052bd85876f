import DataBinding.Pattern.Basic
import DataBinding.Pattern.Property
import DataBinding.Text.Pieces

namespace DataBinding.Pattern

open Text

structure Flags where
  ignoreCase : Bool
  multiLine : Bool
  dotAll : Bool
  lazyFirst : Bool
  unicode : Bool
  crlf : Bool
  verbose : Bool
deriving DecidableEq, Repr

def Flags.default : Flags := ⟨false, false, false, false, true, false, false⟩

def Flags.folding (f : Flags) : Folding :=
  if !f.ignoreCase then .exact else if f.unicode then .unicode else .ascii

structure ParserState where
  rest : List Char
  flags : Flags
  groups : Nat
  names : List String

abbrev Parser := StateT ParserState (Except PatternError)

namespace Parser

def fail {α : Type} (e : PatternError) : Parser α := throw e

def afterComment (s : List Char) : List Char := (s.dropWhile (· != '\n')).drop 1

def dropSpace : Nat → List Char → List Char
  | 0, s => s
  | n + 1, s =>
    match trimStart s with
    | '#' :: s => dropSpace n (afterComment s)
    | s => s

def skipSpace : Parser Unit :=
  modify fun st ↦
    if st.flags.verbose then { st with rest := dropSpace st.rest.length st.rest } else st

def rest : Parser (List Char) := return (← get).rest

def flags : Parser Flags := return (← get).flags

def setRest (s : List Char) : Parser Unit := modify ({ · with rest := s })

def advance : Parser Unit := modify fun st ↦ { st with rest := st.rest.drop 1 }

def advanceSpace : Parser Unit := do advance; skipSpace

def peek (atEnd : PatternError) : Parser Char := do
  match ← rest with
  | c :: _ => return c
  | [] => fail atEnd

def peekAfter : Parser (Option Char) := do
  let s := (← rest).drop 1
  if (← flags).verbose then
    match trimStart s with
    | '#' :: s => return (trimStart s).head?
    | s => return s.head?
  else return s.head?

def accept (lead : String) : Parser Bool := do
  let s ← rest
  if lead.toList.isPrefixOf s then
    setRest (s.drop lead.toList.length)
    return true
  else return false

inductive Escape where
  | literal (c : Char)
  | class (s : CharSet)
  | look (l : Look)

def hexValue? (c : Char) : Option Nat :=
  if c.isDigit then some (c.toNat - '0'.toNat)
  else if 'a' ≤ c ∧ c ≤ 'f' then some (c.toNat - 'a'.toNat + 10)
  else if 'A' ≤ c ∧ c ≤ 'F' then some (c.toNat - 'A'.toNat + 10)
  else none

def charOfCode? (n : Nat) : Option Char :=
  if n.isValidChar then some (Char.ofNat n) else none

def charOfHex (digits : List Nat) : Parser Char :=
  match charOfCode? (digits.foldl (fun n d ↦ 16 * n + d) 0) with
  | some c => return c
  | none => fail .invalidEscape

def hexDigits : Nat → Parser (List Nat)
  | 0 => return []
  | n + 1 => do
    match hexValue? (← peek .invalidEscape) with
    | none => fail .invalidEscape
    | some d =>
      advanceSpace
      return d :: (← hexDigits n)

def bracedDigits : Nat → Parser (List Nat)
  | 0 => fail .invalidEscape
  | n + 1 => do
    match ← peek .invalidEscape with
    | '}' =>
      advanceSpace
      return []
    | c =>
      match hexValue? c with
      | none => fail .invalidEscape
      | some d =>
        advanceSpace
        return d :: (← bracedDigits n)

/-- The code point after `\x`, `\u` or `\U`, whose plain forms take `width` digits. -/
def hexEscape (width : Nat) : Parser Char := do
  skipSpace
  if (← peek .invalidEscape) == '{' then
    advanceSpace
    match ← bracedDigits ((← rest).length + 1) with
    | [] => fail .invalidEscape
    | ds => charOfHex ds
  else
    let c ← charOfHex (← hexDigits width)
    if width == 2 && !(← flags).unicode && !isAscii c then fail .notUnicode else return c

def bracedName : Nat → Parser (List Char)
  | 0 => fail .invalidEscape
  | n + 1 => do
    match ← peek .invalidEscape with
    | '}' =>
      advance
      return []
    | c =>
      advanceSpace
      return c :: (← bracedName n)

def namedProperty? (s : List Char) : Option (CharSet × Bool) :=
  match breakAt? ['!', '='] s with
  | some (name, value) => (propertyValue? name value).map (·, true)
  | none =>
    match (breakAt? [':'] s).or (breakAt? ['='] s) with
    | some (name, value) => (propertyValue? name value).map (·, false)
    | none => (property? s).map (·, false)

def propertyEscape (negated : Bool) : Parser CharSet := do
  skipSpace
  let c ← peek .invalidEscape
  let name ←
    if c == '{' then do
      advanceSpace
      bracedName ((← rest).length + 1)
    else if c == '\\' then fail .invalidEscape
    else do
      advanceSpace
      pure [c]
  let f ← flags
  if !f.unicode then fail .notUnicode
  else
    match namedProperty? name with
    | none => fail .unknownProperty
    | some (s, opposite) =>
      let s := f.folding.close s
      return if negated != opposite then s.compl else s

def boundaryName : Nat → Parser (List Char)
  | 0 => fail .invalidEscape
  | n + 1 => do
    let c ← peek .invalidEscape
    if c.isAlpha || c == '-' then
      advanceSpace
      return c :: (← boundaryName n)
    else if c == '}' then
      advance
      return []
    else fail .invalidEscape

/-- A word boundary after `\b`, which may name a side in braces. Braces that hold no name are
left for a repetition. -/
def wordBoundary : Parser Look := do
  let u := (← flags).unicode
  let before ← rest
  match before with
  | '{' :: _ =>
    advanceSpace
    let c ← peek .invalidEscape
    if c.isAlpha || c == '-' then
      match String.ofList (← boundaryName ((← rest).length + 1)) with
      | "start" => return .wordStart u
      | "end" => return .wordEnd u
      | "start-half" => return .wordStartHalf u
      | "end-half" => return .wordEndHalf u
      | _ => fail .invalidEscape
    else
      setRest before
      return .wordBoundary u
  | _ => return .wordBoundary u

/-- Characters that may be escaped to stand for themselves: punctuation, space and controls of
ASCII, angle brackets excepted. -/
def isEscapable (c : Char) : Bool := isAscii c && !c.isAlphanum && c != '<' && c != '>'

def escape : Parser Escape := do
  let c ← peek .invalidEscape
  let f ← flags
  advance
  match c with
  | 'x' => return .literal (← hexEscape 2)
  | 'u' => return .literal (← hexEscape 4)
  | 'U' => return .literal (← hexEscape 8)
  | 'p' => return .class (← propertyEscape false)
  | 'P' => return .class (← propertyEscape true)
  | 'a' => return .literal '\x07'
  | 'f' => return .literal '\x0c'
  | 't' => return .literal '\t'
  | 'n' => return .literal '\n'
  | 'r' => return .literal '\r'
  | 'v' => return .literal '\x0b'
  | 'A' => return .look .textStart
  | 'z' => return .look .textEnd
  | 'b' => return .look (← wordBoundary)
  | 'B' => return .look (.notWordBoundary f.unicode)
  | '<' => return .look (.wordStart f.unicode)
  | '>' => return .look (.wordEnd f.unicode)
  | c =>
    if c.isDigit then fail .backReference
    else if isEscapable c then return .literal c
    else
      match letterClass? f.unicode c, letterClass? f.unicode c.toLower with
      | some s, _ => return .class s
      | none, some s => if f.unicode then return .class s.compl else fail .notUnicode
      | none, none => fail .invalidEscape

/-- A part of a class: a character, which may start a range, or a set. -/
inductive ClassPart where
  | literal (c : Char)
  | set (s : CharSet)

def classPart : Parser ClassPart := do
  let c ← peek .unclosedClass
  advance
  let e ← if c == '\\' then escape else pure (.literal c)
  match e with
  | .literal c => if !(← flags).unicode && !isAscii c then fail .notUnicode else return .literal c
  | .class s => return .set s
  | .look _ => fail .invalidClass

def classRange : Parser CharSet := do
  let first ← classPart
  skipSpace
  let alone : CharSet :=
    match first with
    | .literal c => .single c
    | .set s => s
  if (← peek .unclosedClass) != '-' then return alone
  else
    match ← peekAfter with
    | some ']' | some '-' => return alone
    | _ =>
      advanceSpace
      match first, ← classPart with
      | .literal a, .literal b => if a ≤ b then return .range a b else fail .invalidClass
      | _, _ => fail .invalidClass

def namedClass? : Parser (Option CharSet) := do
  let f ← flags
  match ← rest with
  | '[' :: ':' :: s =>
    let (negated, s) :=
      match s with
      | '^' :: s => (true, s)
      | s => (false, s)
    match s.dropWhile (· != ':') with
    | ':' :: ']' :: after =>
      match asciiClass? (String.ofList (s.takeWhile (· != ':'))) with
      | some s =>
        setRest after
        if negated && !f.unicode then fail .notUnicode
        else
          let s := f.folding.close s
          return some (if negated then s.compl else s)
      | none => return none
    | _ => return none
  | _ => return none

def leadingHyphens : Nat → Parser (List Class)
  | 0 => return []
  | n + 1 => do
    if (← peek .unclosedClass) == '-' then
      advanceSpace
      return .chars (.single '-') :: (← leadingHyphens n)
    else return []

def closeOperation (folding : Folding) (pending : Option (SetOperation × Class))
    (parts : List Class) : Class :=
  match pending with
  | none => Class.ofParts parts
  | some (op, left) => .combine op folding left (Class.ofParts parts)

mutual

def bracket : Nat → Parser Class
  | 0 => fail .unclosedClass
  | n + 1 => do
    let f ← flags
    skipSpace
    let negated := (← peek .unclosedClass) == '^'
    if negated then advanceSpace
    let parts ← leadingHyphens (← rest).length
    let parts ←
      if parts.isEmpty && (← peek .unclosedClass) == ']' then do
        advanceSpace
        pure [Class.chars (.single ']')]
      else pure parts
    let inner ← classParts n none parts
    if negated && !f.unicode then fail .notUnicode
    else return .bracket negated f.folding inner

def classParts : Nat → Option (SetOperation × Class) → List Class → Parser Class
  | 0, _, _ => fail .unclosedClass
  | n + 1, pending, parts => do
    let f ← flags
    skipSpace
    match ← rest with
    | [] => fail .unclosedClass
    | ']' :: s =>
      setRest s
      return closeOperation f.folding pending parts
    | '[' :: s =>
      match ← namedClass? with
      | some s => classParts n pending (parts ++ [.chars s])
      | none =>
        setRest s
        let c ← bracket n
        classParts n pending (parts ++ [c])
    | '&' :: '&' :: s =>
      setRest s
      classParts n (some (.intersection, closeOperation f.folding pending parts)) []
    | '-' :: '-' :: s =>
      setRest s
      classParts n (some (.difference, closeOperation f.folding pending parts)) []
    | '~' :: '~' :: s =>
      setRest s
      classParts n (some (.symmetricDifference, closeOperation f.folding pending parts)) []
    | _ =>
      let s ← classRange
      classParts n pending (parts ++ [.chars s])

end

def isNameChar (first : Bool) (c : Char) : Bool :=
  if first then c == '_' || isAlphabetic c
  else c == '_' || c == '.' || c == '[' || c == ']' || isAlphanumeric c

def groupName : Parser String := do
  let s ← rest
  let name := s.takeWhile (· != '>')
  match name, s.drop name.length with
  | c :: cs, _ :: s =>
    let name := String.ofList (c :: cs)
    if isNameChar true c && cs.all (isNameChar false) && !(← get).names.contains name then
      modify fun st ↦ { st with rest := s, names := name :: st.names }
      return name
    else fail .invalidGroupName
  | _, _ => fail .invalidGroupName

def Flags.put (f : Flags) (c : Char) (on : Bool) : Option Flags :=
  match c with
  | 'i' => some { f with ignoreCase := on }
  | 'm' => some { f with multiLine := on }
  | 's' => some { f with dotAll := on }
  | 'U' => some { f with lazyFirst := on }
  | 'u' => some { f with unicode := on }
  | 'R' => some { f with crlf := on }
  | 'x' => some { f with verbose := on }
  | _ => none

/-- Flags up to `:` or `)`: which letters came, and the flags with them. After a hyphen they are
cleared; no letter comes twice and no hyphen comes last. -/
def flagLetters :
    List Char → Flags → List Char → Except PatternError (List Char × Flags × List Char)
  | _, _, [] => .error .invalidFlags
  | seen, f, c :: s =>
    if c == ':' || c == ')' then
      if seen.head? == some '-' then .error .invalidFlags else .ok (seen, f, c :: s)
    else if seen.contains c then .error .invalidFlags
    else if c == '-' then flagLetters ('-' :: seen) f s
    else
      match Flags.put f c (!seen.contains '-') with
      | some f => flagLetters (c :: seen) f s
      | none => .error .invalidFlags

def openGroup : Parser Nat := do
  modify fun st ↦ { st with groups := st.groups + 1 }
  return (← get).groups

def count : Parser Nat := do
  setRest (trimStart (← rest))
  let ds ← digits ((← rest).length + 1)
  if ds.isEmpty then fail .invalidRepetition
  else
    setRest (trimStart (← rest))
    let n := ds.foldl (fun n c ↦ 10 * n + (c.toNat - '0'.toNat)) 0
    if n < Nat.pow 2 32 then return n else fail .invalidRepetition
where
  digits : Nat → Parser (List Char)
    | 0 => return []
    | n + 1 => do
      match ← rest with
      | c :: _ =>
        if c.isDigit then
          advanceSpace
          return c :: (← digits n)
        else return []
      | [] => return []

def bounds : Parser (Nat × Option Nat) := do
  skipSpace
  let least ← count
  skipSpace
  let c ← peek .invalidRepetition
  let most ←
    if c == ',' then do
      advanceSpace
      if (← peek .invalidRepetition) == '}' then pure none
      else
        let most ← count
        pure (some most)
    else pure (some least)
  skipSpace
  if (← peek .invalidRepetition) != '}' then fail .invalidRepetition
  else
    advance
    match most with
    | none => return (least, none)
    | some m => if least ≤ m then return (least, some m) else fail .invalidRepetition

def greedy : Parser Bool := do
  let lazyMark ← accept "?"
  return lazyMark == (← flags).lazyFirst

/-- Wraps the last part of a sequence, the nearest first. -/
def repeatLast (parts : List Expr) (wrap : Expr → Parser Expr) : Parser (List Expr) := do
  match parts with
  | [] | .flags :: _ => fail .nothingToRepeat
  | r :: rs => return (← wrap r) :: rs

def dot : Parser Expr := do
  let f ← flags
  if !f.unicode then fail .notUnicode
  else
    let lineEnds := if f.dotAll then [] else if f.crlf then ['\n', '\r'] else ['\n']
    return .set (.chars (CharSet.ofChars lineEnds).compl)

def lineStart (f : Flags) : Look :=
  if !f.multiLine then .textStart else if f.crlf then .crlfStart else .lineStart

def lineEnd (f : Flags) : Look :=
  if !f.multiLine then .textEnd else if f.crlf then .crlfEnd else .lineEnd

def literal (c : Char) : Parser Expr :=
  return .set (.chars (.ofChars ((← flags).folding.variants c)))

def primitive : Parser Expr := do
  let f ← flags
  let c ← peek .invalidEscape
  advance
  match c with
  | '\\' =>
    match ← escape with
    | .literal c => literal c
    | .class s => return .set (.chars s)
    | .look l => return .look l
  | '.' => dot
  | '^' => return .look (lineStart f)
  | '$' => return .look (lineEnd f)
  | c => literal c

mutual

def branches : Nat → Parser Expr
  | 0 => fail .nestedTooDeep
  | n + 1 => do
    return .ofBranches (← moreBranches n [])

def moreBranches : Nat → List Expr → Parser (List Expr)
  | 0, _ => fail .nestedTooDeep
  | n + 1, done => do
    let r ← sequence n []
    match ← rest with
    | '|' :: s =>
      setRest s
      moreBranches n (done ++ [r])
    | _ => return done ++ [r]

def sequence : Nat → List Expr → Parser Expr
  | 0, _ => fail .nestedTooDeep
  | n + 1, parts => do
    skipSpace
    match ← rest with
    | [] | ')' :: _ | '|' :: _ => return .ofSequence parts.reverse
    | '(' :: s =>
      setRest s
      let r ← group n
      sequence n (r :: parts)
    | '[' :: s =>
      setRest s
      let c ← bracket (2 * s.length + 2)
      sequence n (.set c :: parts)
    | '?' :: s =>
      setRest s
      let parts ← repeatLast parts fun r ↦ return .loop 0 (some 1) (← greedy) r
      sequence n parts
    | '*' :: s =>
      setRest s
      let parts ← repeatLast parts fun r ↦ return .loop 0 none (← greedy) r
      sequence n parts
    | '+' :: s =>
      setRest s
      let parts ← repeatLast parts fun r ↦ return .loop 1 none (← greedy) r
      sequence n parts
    | '{' :: s =>
      setRest s
      let parts ← repeatLast parts fun r ↦ do
        let (least, most) ← bounds
        skipSpace
        return .loop least most (← greedy) r
      sequence n parts
    | _ =>
      let r ← primitive
      sequence n (r :: parts)

def group : Nat → Parser Expr
  | 0 => fail .nestedTooDeep
  | n + 1 => do
    skipSpace
    let before ← flags
    let s ← rest
    if ["?=", "?!", "?<=", "?<!"].any fun lead ↦ lead.toList.isPrefixOf s then fail .lookAround
    else if (← accept "?P<") || (← accept "?<") then
      let i ← openGroup
      let name ← groupName
      return .capture i (some name) (← body n before)
    else if ← accept "?" then
      match flagLetters [] before (← rest) with
      | .error e => fail e
      | .ok (seen, f, ')' :: s) =>
        if seen.isEmpty then fail .nothingToRepeat
        else
          modify ({ · with rest := s, flags := f })
          return .flags
      | .ok (_, f, s) =>
        modify ({ · with rest := s.drop 1, flags := f })
        return .group (← body n before)
    else
      let i ← openGroup
      return .capture i none (← body n before)

/-- What a group holds, up to its closing parenthesis; then the flags before it hold again. -/
def body : Nat → Flags → Parser Expr
  | 0, _ => fail .nestedTooDeep
  | n + 1, before => do
    let r ← branches n
    if ← accept ")" then
      modify ({ · with flags := before })
      return r
    else fail .unclosedGroup

end

end Parser

def depthLimit : Nat := 250

def parse (s : List Char) : Except PatternError Expr := do
  let (r, st) ← (Parser.branches (5 * s.length + 8)).run ⟨s, .default, 0, []⟩
  if !st.rest.isEmpty then throw .unopenedGroup
  else if depthLimit < r.depth then throw .nestedTooDeep
  else return r

end DataBinding.Pattern
