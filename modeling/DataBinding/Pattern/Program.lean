import DataBinding.Pattern.Parser
import DataBinding.Pattern.Size

namespace DataBinding

namespace Pattern

open Text

inductive Instruction where
  | char (s : RangeTable) (next : Nat)
  | look (l : Look) (next : Nat)
  | save (slot next : Nat)
  /-- Goes on at `first`, and at `second` if that fails. -/
  | split (first second : Nat)
  | accept
  | reject

abbrev Program := Array Instruction

namespace Program

def emit (p : Program) (i : Instruction) : Program × Nat :=
  let address := p.size
  (p.push i, address)

def choice (greedy : Bool) (take leave : Nat) : Instruction :=
  if greedy then .split take leave else .split leave take

def compileText : List Char → Nat → Program → Program × Nat
  | [], next, p => (p, next)
  | c :: cs, next, p =>
    let (p, next) := compileText cs next p
    emit p (.char (.ofSet (.single c)) next)

def repeated (compile : Nat → Program → Program × Nat) : Nat → Nat → Program → Program × Nat
  | 0, next, p => (p, next)
  | n + 1, next, p =>
    let (p, next) := compile next p
    repeated compile n next p

mutual

/-- Appends the program of a form that goes on at `next`. -/
def compile : Form → Nat → Program → Program × Nat
  | .empty, next, p => (p, next)
  | .text cs, next, p => compileText cs next p
  | .set s, next, p => emit p (.char (.ofSet s) next)
  | .look l, next, p => emit p (.look l next)
  | .capture i _ r, next, p =>
    let (p, stop) := emit p (.save (2 * i + 1) next)
    let (p, inner) := compile r stop p
    emit p (.save (2 * i) inner)
  | .concat rs, next, p => compileAll rs next p
  | .alternate rs, next, p => compileBranches rs next p
  | .loop 0 none greedy r, next, p =>
    let (p, again) := emit p .reject
    let (p, inner) := compile r again p
    let p := p.setIfInBounds again (choice greedy inner next)
    if r.consumes then (p, again) else emit p (choice greedy inner next)
  | .loop (least + 1) none greedy r, next, p =>
    let (p, again) := emit p .reject
    let (p, inner) := compile r again p
    let p := p.setIfInBounds again (choice greedy inner next)
    repeated (compile r) least inner p
  | .loop least (some most) greedy r, next, p =>
    let optional (start : Nat) (p : Program) :=
      let (p, inner) := compile r start p
      emit p (choice greedy inner next)
    let (p, start) := repeated optional (most - least) next p
    repeated (compile r) least start p

def compileAll : List Form → Nat → Program → Program × Nat
  | [], next, p => (p, next)
  | r :: rs, next, p =>
    let (p, next) := compileAll rs next p
    compile r next p

def compileBranches : List Form → Nat → Program → Program × Nat
  | [], _, p => emit p .reject
  | [r], next, p => compile r next p
  | r :: rs, next, p =>
    let (p, first) := compile r next p
    let (p, second) := compileBranches rs next p
    emit p (.split first second)

end

def ofForm (r : Form) : Program × Nat := compile r 0 #[.accept]

end Program

end Pattern

structure Pattern where
  program : Pattern.Program
  start : Nat
  groups : Nat
  names : List (String × Nat)

namespace Pattern

def compile (text : String) : Except PatternError Pattern := do
  let r := (← parse text.toList).form
  if r.isTooLarge then throw .tooLarge
  else
    let (program, start) := Program.ofForm r
    let captures := r.captures
    return {
      program, start
      groups := (captures.map Prod.fst).foldl max 0
      names := captures.filterMap fun (i, name) ↦ name.map (·, i) }

end Pattern

end DataBinding
