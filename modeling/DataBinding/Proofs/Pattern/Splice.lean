import DataBinding.Proofs.Pattern.Matches

namespace DataBinding.Pattern

/-- Matches found one after the other, from a place on and after the end of a match before it, until
none is left. -/
inductive Successive (pattern : Pattern) (text : Array Char) :
    Nat → Option Nat → Tried → List Match → Prop
  | done {first : Nat} {last : Option Nat} {tried tried' : Tried}
      (h : next pattern text first last tried = (none, tried')) :
      Successive pattern text first last tried []
  | found {first : Nat} {last : Option Nat} {tried tried' : Tried} {m : Match} {ms : List Match}
      (h : next pattern text first last tried = (some m, tried'))
      (hs : Successive pattern text m.stop (some m.stop) tried' ms) :
      Successive pattern text first last tried (m :: ms)

/-- Matches within a text from a place on, each after the end of the one before it. -/
inductive InOrder (text : Array Char) : Nat → List Captured → Prop
  | nil {first : Nat} (h : first ≤ text.size) : InOrder text first []
  | cons {first : Nat} {c : Captured} {cs : List Captured} (htext : c.text = text)
      (hfirst : first ≤ c.start) (hstart : c.start ≤ c.stop) (h : InOrder text c.stop cs) :
      InOrder text first (c :: cs)

section

variable (pattern : Pattern) (text : Array Char)

theorem le_start_of_tryFrom (count first : Nat) (tried : Tried) :
    ∀ m ∈ (tryFrom pattern text first count tried).1, first ≤ m.start := by
  induction count generalizing first tried with
  | zero => exact nofun
  | succ count ih =>
    rw [tryFrom]
    split
    · rintro m ⟨⟩
      exact Nat.le_refl first
    · exact fun m hm ↦ Nat.le_of_succ_le (ih (first + 1) _ m hm)

theorem le_start_of_search (first : Nat) (tried : Tried) :
    ∀ m ∈ (search pattern text first tried).1, first ≤ m.start :=
  le_start_of_tryFrom pattern text _ first _

theorem le_start_of_next (first : Nat) (last : Option Nat) (tried : Tried) :
    ∀ m ∈ (next pattern text first last tried).1, first ≤ m.start := by
  have hfound := le_start_of_search pattern text first tried
  rw [next]
  split
  · intro m hm
    cases hm
  · rename_i m tried hm
    rw [hm] at hfound
    split
    · exact fun m hm ↦ Nat.le_of_succ_le (le_start_of_search pattern text _ _ m hm)
    · exact hfound

variable {pattern} {i : Nat} {within : Nat → Prop} (hl : Labelled i pattern.program within)

include hl

theorem lt_stop_of_next (first : Nat) (tried : Tried) :
    ∀ m ∈ (next pattern text first (some first) tried).1, first < m.stop := by
  have hfound := le_start_of_search pattern text first tried
  have hproper := search_proper text hl first tried
  rw [next]
  split
  · intro m hm
    cases hm
  · rename_i m tried hm
    rw [hm] at hfound hproper
    split
    · exact fun m hm ↦ Nat.lt_of_lt_of_le (le_start_of_search pattern text _ _ m hm)
        (search_proper text hl _ _ m hm).start_le
    · rename_i hne
      rintro m' ⟨⟩
      have hstart := hfound m rfl
      have hstop := (hproper m rfl).start_le
      rw [Option.some.injEq, not_and] at hne
      omega

theorem successive_matchesFrom {n first : Nat} (hn : text.size - first < n) (tried : Tried) :
    Successive pattern text first (some first) tried
      (matchesFrom pattern text n first (some first) tried) := by
  induction n generalizing first tried with
  | zero => exact absurd hn (Nat.not_lt_zero _)
  | succ n ih =>
    have hlt := lt_stop_of_next text hl first tried
    have hproper := next_proper text hl first (some first) tried
    rw [matchesFrom]
    split
    · rename_i h
      exact .done h
    · rename_i m tried' h
      rw [h] at hlt hproper
      have hstop := hlt m rfl
      have hsize := (hproper m rfl).le_size
      exact .found h (ih (by omega) tried')

theorem successive_allMatches :
    Successive pattern text 0 none (.init (pattern.program.size * (text.size + 1)))
      (allMatches pattern text) := by
  rw [allMatches, matchesFrom]
  split
  · rename_i h
    exact .done h
  · rename_i m tried' h
    exact .found h (successive_matchesFrom text hl (by omega) tried')

theorem Successive.inOrder {first : Nat} {last : Option Nat} {tried : Tried} {ms : List Match}
    (h : Successive pattern text first last tried ms) (hf : first ≤ text.size) :
    InOrder text first (ms.map (captured pattern text)) := by
  induction h with
  | done h => exact .nil hf
  | @found first last tried tried' m ms h hs ih =>
    have hstart := le_start_of_next pattern text first last tried
    have hproper := next_proper text hl first last tried
    rw [h] at hstart hproper
    exact .cons rfl (hstart m rfl) (hproper m rfl).start_le (ih (hproper m rfl).le_size)

end

section

variable {text : Array Char} {cs : List Captured}

theorem InOrder.le_size {first : Nat} (h : InOrder text first cs) : first ≤ text.size := by
  induction h with
  | nil h => exact h
  | cons htext hfirst hstart h ih => exact Nat.le_trans hfirst (Nat.le_trans hstart ih)

end

/-- What stands between matches, from a position on. -/
def gaps (text : Array Char) (position : Nat) : List Captured → List (List Char)
  | [] => [slice text position text.size]
  | c :: cs => slice text position c.start :: gaps text c.stop cs

theorem gaps_ne_nil (text : Array Char) (position : Nat) (cs : List Captured) :
    gaps text position cs ≠ [] := by
  cases cs <;> exact List.cons_ne_nil _ _

theorem slice_append (text : Array Char) {i j k : Nat} (hij : i ≤ j) (hjk : j ≤ k) :
    slice text i j ++ slice text j k = slice text i k := by
  rw [slice, slice, slice, ← Array.toList_append, Array.extract_append_extract,
    Nat.min_eq_left hij, Nat.max_eq_right hjk]

theorem slice_all (text : Array Char) : slice text 0 text.size = text.toList := by
  rw [slice, Array.extract_size]

theorem intercalate_gaps_cons (t : List Char) (text : Array Char) (position : Nat) (c : Captured)
    (cs : List Captured) : t.intercalate (gaps text position (c :: cs)) =
      slice text position c.start ++ (t ++ t.intercalate (gaps text c.stop cs)) := by
  rw [gaps]
  obtain ⟨g, gs, h⟩ := List.exists_cons_of_ne_nil (gaps_ne_nil text c.stop cs)
  rw [h, List.intercalate_cons_cons, List.append_assoc]

section

variable {text : Array Char}

theorem splice_eq_flatten (replacement : Captured → List Char) (position : Nat)
    (cs : List Captured) :
    splice text replacement position cs =
      (List.zipWith (· ++ ·) (gaps text position cs) (cs.map replacement ++ [[]])).flatten := by
  induction cs generalizing position with
  | nil => simp [splice, gaps]
  | cons c cs ih => simp [splice, gaps, ih]

theorem splice_const (t : List Char) (position : Nat) (cs : List Captured) :
    splice text (fun _ ↦ t) position cs = t.intercalate (gaps text position cs) := by
  induction cs generalizing position with
  | nil => rw [splice, gaps, List.intercalate_singleton]
  | cons c cs ih => rw [splice, ih, intercalate_gaps_cons]

theorem splice_whole {position : Nat} {cs : List Captured} (h : InOrder text position cs) :
    splice text Captured.whole position cs = slice text position text.size := by
  induction h with
  | nil h => rw [splice]
  | cons htext hfirst hstart h ih =>
    have hstop := h.le_size
    rw [splice, ih, Captured.whole, htext, slice_append _ hstart hstop,
      slice_append _ hfirst (Nat.le_trans hstart hstop)]

theorem flatten_gaps_whole {s : List Char} {cs : List Captured} (h : InOrder s.toArray 0 cs) :
    (List.zipWith (· ++ ·) (gaps s.toArray 0 cs) (cs.map Captured.whole ++ [[]])).flatten = s := by
  rw [← splice_eq_flatten, splice_whole h, slice_all]

end

theorem successive_of_compile {pattern : Pattern} {source : String}
    (h : compile source = .ok pattern) (text : Array Char) :
    Successive pattern text 0 none (.init (pattern.program.size * (text.size + 1)))
        (allMatches pattern text) ∧
      InOrder text 0 (searcher.captures pattern text) := by
  obtain ⟨within, hl⟩ := exists_labelled_of_compile h 0
  have hs := successive_allMatches text hl
  exact ⟨hs, hs.inOrder text hl (Nat.zero_le _)⟩

end DataBinding.Pattern
