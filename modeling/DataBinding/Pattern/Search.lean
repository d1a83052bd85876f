import DataBinding.Pattern.Program

namespace DataBinding.Pattern

open Text

def wordAt (unicode : Bool) (c : Option Char) : Bool :=
  c.any fun c ↦ if unicode then wordTable.mem c else isWordChar c

def Look.holds (l : Look) (before after : Option Char) : Bool :=
  match l with
  | textStart => before.isNone
  | textEnd => after.isNone
  | lineStart => before.isNone || before == some '\n'
  | lineEnd => after.isNone || after == some '\n'
  | crlfStart =>
    before.isNone || before == some '\n' || before == some '\r' && after != some '\n'
  | crlfEnd => after.isNone || after == some '\r' || after == some '\n' && before != some '\r'
  | wordBoundary u => wordAt u before != wordAt u after
  | notWordBoundary u => wordAt u before == wordAt u after
  | wordStart u => !wordAt u before && wordAt u after
  | wordEnd u => wordAt u before && !wordAt u after
  | wordStartHalf u => !wordAt u before
  | wordEndHalf u => !wordAt u after

abbrev Slots := Array (Option Nat)

/-- The instructions that have been tried, by place: each with the search that last tried it, so
that a new search begins by counting on. -/
structure Tried where
  searches : Array Nat
  current : Nat

namespace Tried

/-- Nothing has been tried at any of `n` pairs of an instruction and a place. -/
def init (n : Nat) : Tried := ⟨Array.replicate n 0, 1⟩

def contains (t : Tried) (i : Nat) : Bool := t.searches.getD i t.current == t.current

def insert (t : Tried) (i : Nat) : Tried :=
  { t with searches := t.searches.setIfInBounds i t.current }

def clear (t : Tried) : Tried := { t with current := t.current + 1 }

end Tried

structure Task where
  address : Nat
  position : Nat
  slots : Slots

structure Match where
  start : Nat
  stop : Nat
  slots : Slots

variable (pattern : Pattern) (text : Array Char)

def before? (position : Nat) : Option Char :=
  match position with
  | 0 => none
  | n + 1 => text[n]?

/-- What an instruction leads to: an end of the match, or further tasks. -/
def step (task : Task) : Option Match × List Task :=
  match pattern.program[task.address]? with
  | none | some .reject => (none, [])
  | some .accept => (some ⟨0, task.position, task.slots⟩, [])
  | some (.char s next) =>
    match text[task.position]? with
    | some c => (none, if s.mem c then [⟨next, task.position + 1, task.slots⟩] else [])
    | none => (none, [])
  | some (.look l next) =>
    (none, if l.holds (before? text task.position) text[task.position]?
      then [{ task with address := next }] else [])
  | some (.save slot next) =>
    (none, [⟨next, task.position, task.slots.setIfInBounds slot (some task.position)⟩])
  | some (.split first second) =>
    (none, [{ task with address := first }, { task with address := second }])

/-- Works off tasks, the first one first, until one accepts. -/
def run : Nat → List Task → Tried → Option Match × Tried
  | 0, _, tried => (none, tried)
  | _, [], tried => (none, tried)
  | n + 1, task :: tasks, tried =>
    let i := task.position * pattern.program.size + task.address
    if tried.contains i then run n tasks tried
    else
      match step pattern text task with
      | (some m, _) => (some m, tried)
      | (none, more) => run n (more ++ tasks) (tried.insert i)

/-- Tries `count` places from `start` on. What failed from one place fails from the next ones. -/
def tryFrom (start : Nat) : Nat → Tried → Option Match × Tried
  | 0, tried => (none, tried)
  | count + 1, tried =>
    let slots := Array.replicate (2 * pattern.groups + 2) none
    match run pattern text (2 * tried.searches.size + 2) [⟨pattern.start, start, slots⟩] tried with
    | (some m, tried) => (some { m with start }, tried)
    | (none, tried) => tryFrom (start + 1) count tried

def search (start : Nat) (tried : Tried) : Option Match × Tried :=
  tryFrom pattern text start (text.size + 1 - start) tried.clear

/-- The first match from `start` on that is not empty right at `last`, the end of the match before
it. -/
def next (start : Nat) (last : Option Nat) (tried : Tried) : Option Match × Tried :=
  match search pattern text start tried with
  | (none, tried) => (none, tried)
  | (some m, tried) =>
    if m.start = m.stop ∧ last = some m.stop then search pattern text (start + 1) tried
    else (some m, tried)

def matchesFrom : Nat → Nat → Option Nat → Tried → List Match
  | 0, _, _, _ => []
  | n + 1, start, last, tried =>
    match next pattern text start last tried with
    | (none, _) => []
    | (some m, tried) => m :: matchesFrom n m.stop (some m.stop) tried

def allMatches : List Match :=
  matchesFrom pattern text (text.size + 2) 0 none
    (Tried.init (pattern.program.size * (text.size + 1)))

def slice (start stop : Nat) : List Char := (text.extract start stop).toList

def groupText (m : Match) (i : Nat) : Option (List Char) := do
  return slice text (← (m.slots[2 * i]?).join) (← (m.slots[2 * i + 1]?).join)

/-- A match in its text, with the names of the pattern's groups and the texts that they captured,
by index from one on. -/
structure Captured where
  text : Array Char
  start : Nat
  stop : Nat
  groups : List (Option (List Char))
  names : List (String × Nat)

namespace Captured

def before (c : Captured) : List Char := slice c.text 0 c.start

def whole (c : Captured) : List Char := slice c.text c.start c.stop

def after (c : Captured) : List Char := slice c.text c.stop c.text.size

end Captured

def captured (m : Match) : Captured where
  text := text
  start := m.start
  stop := m.stop
  groups := (List.range pattern.groups).map fun i ↦ groupText text m (i + 1)
  names := pattern.names

/-- A text with its matches replaced: what lies between them stays. -/
def splice (text : Array Char) (replacement : Captured → List Char) (position : Nat) :
    List Captured → List Char
  | [] => slice text position text.size
  | c :: cs =>
    slice text position c.start ++ (replacement c ++ splice text replacement c.stop cs)

/-- An engine for patterns: what it compiles texts to, and what the matches of a pattern capture in
a text, the first one first. -/
structure Searcher (ρ : Type) where
  compile : String → Except PatternError ρ
  captures : ρ → Array Char → List Captured

def Searcher.replaceAll {ρ : Type} (searcher : Searcher ρ) (pattern : ρ)
    (replacement : Captured → List Char) (s : List Char) : List Char :=
  splice s.toArray replacement 0 (searcher.captures pattern s.toArray)

def searcher : Searcher Pattern where
  compile := compile
  captures pattern text := (allMatches pattern text).map (captured pattern text)

end DataBinding.Pattern
