import DataBinding.Pattern.Search
import DataBinding.Proofs.Pattern.Groups

namespace DataBinding.Pattern

/-- The positions noted from `start` on to `last`, the end of group `i` after its start. -/
structure Noted (i start last : Nat) (slots : Slots) (outside : Prop) : Prop where
  mem : ∀ k q : Nat, slots[k]? = some (some q) → start ≤ q ∧ q ≤ last
  ordered : outside → ∀ first stop : Nat, slots[2 * i]? = some (some first) →
    slots[2 * i + 1]? = some (some stop) → first ≤ stop

theorem Noted.mono {i start last last' : Nat} {slots : Slots} {outside outside' : Prop}
    (h : Noted i start last slots outside) (hl : last ≤ last') (ho : outside' → outside) :
    Noted i start last' slots outside' :=
  ⟨fun k q hq ↦ ⟨(h.mem k q hq).1, Nat.le_trans (h.mem k q hq).2 hl⟩, fun hi ↦ h.ordered (ho hi)⟩

theorem Noted.save {i start position slot next : Nat} {slots : Slots} {inside : Prop}
    {within : Nat → Prop} (h : Noted i start position slots (¬ inside)) (hs : start ≤ position)
    (hf : (Instruction.save slot next).Fits i inside within) :
    Noted i start position (slots.setIfInBounds slot (some position)) (¬ within next) := by
  constructor
  · intro k q hq
    rcases of_getElem?_setIfInBounds hq with ⟨-, ⟨⟩⟩ | ⟨-, hq⟩
    · exact ⟨hs, Nat.le_refl _⟩
    · exact h.mem k q hq
  · intro hnext first stop hfirst hstop
    rcases of_getElem?_setIfInBounds hfirst with ⟨heq, -⟩ | ⟨-, hfirst'⟩
    · exact absurd (hf.1 heq.symm) hnext
    · rcases of_getElem?_setIfInBounds hstop with ⟨-, ⟨⟩⟩ | ⟨hne, hstop'⟩
      · exact (h.mem _ _ hfirst').2
      · refine h.ordered (fun hin ↦ ?_) first stop hfirst' hstop'
        rcases hf.2 hin with rfl | hn
        · exact hne rfl
        · exact hnext hn

structure Task.Proper (i start size : Nat) (within : Nat → Prop) (t : Task) : Prop where
  start_le : start ≤ t.position
  le_size : t.position ≤ size
  noted : Noted i start t.position t.slots (¬ within t.address)

structure Match.Proper (i start size : Nat) (m : Match) : Prop where
  start_le : start ≤ m.stop
  le_size : m.stop ≤ size
  noted : Noted i start m.stop m.slots True

section

variable {i start : Nat} {within : Nat → Prop} {pattern : Pattern} {text : Array Char}

theorem step_proper (hl : Labelled i pattern.program within) {t : Task}
    (ht : t.Proper i start text.size within) :
    (∀ m ∈ (step pattern text t).1, m.Proper i start text.size) ∧
      ∀ t' ∈ (step pattern text t).2, t'.Proper i start text.size within := by
  have hgo : ∀ next, (within t.address → within next) →
      Task.Proper i start text.size within { t with address := next } := fun next hn ↦
    ⟨ht.start_le, ht.le_size, ht.noted.mono (Nat.le_refl _) (mt hn)⟩
  rw [step]
  split
  · exact ⟨nofun, nofun⟩
  · exact ⟨nofun, nofun⟩
  · rename_i hj
    have hout : ¬ within t.address := hl.fits _ _ hj
    refine ⟨?_, nofun⟩
    rintro m ⟨⟩
    exact ⟨ht.start_le, ht.le_size, ht.noted.mono (Nat.le_refl _) fun _ ↦ hout⟩
  · rename_i s next hj
    have hf : within t.address → within next := hl.fits _ _ hj
    split
    · rename_i c hc
      refine ⟨nofun, fun t' ht' ↦ ?_⟩
      split at ht'
      · cases List.mem_singleton.mp ht'
        have hlt : t.position < text.size := (Array.getElem?_eq_some_iff.mp hc).1
        exact ⟨Nat.le_succ_of_le ht.start_le, hlt, ht.noted.mono (Nat.le_succ _) (mt hf)⟩
      · cases ht'
    · exact ⟨nofun, nofun⟩
  · rename_i l next hj
    refine ⟨nofun, fun t' ht' ↦ ?_⟩
    split at ht'
    · cases List.mem_singleton.mp ht'
      exact hgo next (hl.fits _ _ hj)
    · cases ht'
  · rename_i slot next hj
    refine ⟨nofun, fun t' ht' ↦ ?_⟩
    cases List.mem_singleton.mp ht'
    exact ⟨ht.start_le, ht.le_size, ht.noted.save ht.start_le (hl.fits _ _ hj)⟩
  · rename_i first second hj
    have hf := hl.fits _ _ hj
    refine ⟨nofun, fun t' ht' ↦ ?_⟩
    rcases List.mem_cons.mp ht' with rfl | ht'
    · exact hgo first hf.1
    · cases List.mem_singleton.mp ht'
      exact hgo second hf.2

theorem run_proper (hl : Labelled i pattern.program within) (n : Nat) {tasks : List Task}
    (ht : ∀ t ∈ tasks, t.Proper i start text.size within) (tried : Tried) :
    ∀ m ∈ (run pattern text n tasks tried).1, m.Proper i start text.size := by
  induction n generalizing tasks tried with
  | zero => exact nofun
  | succ n ih =>
    cases tasks with
    | nil => exact nofun
    | cons t tasks =>
      have hrest : ∀ t ∈ tasks, t.Proper i start text.size within :=
        fun t' ht' ↦ ht t' (List.mem_cons_of_mem t ht')
      obtain ⟨hstop, hmore⟩ := step_proper hl (ht t List.mem_cons_self)
      rw [run]
      split
      · exact ih hrest tried
      · split
        · rename_i m more hs
          rw [hs] at hstop
          exact hstop
        · rename_i more hs
          rw [hs] at hmore
          refine ih (fun t' ht' ↦ ?_) _
          rcases List.mem_append.mp ht' with ht' | ht'
          · exact hmore t' ht'
          · exact hrest t' ht'

theorem tryFrom_proper (hl : Labelled i pattern.program within) (count : Nat) {first : Nat}
    (hc : count ≤ text.size + 1 - first) (tried : Tried) :
    ∀ m ∈ (tryFrom pattern text first count tried).1, m.Proper i m.start text.size := by
  induction count generalizing first tried with
  | zero => exact nofun
  | succ count ih =>
    let slots : Slots := Array.replicate (2 * pattern.groups + 2) none
    have hslots : Noted i first first slots (¬ within pattern.start) := by
      have hnone : ∀ k q : Nat, slots[k]? ≠ some (some q) := by
        intro k q h
        rw [Array.getElem?_replicate] at h
        split at h <;> cases h
      exact ⟨fun k q h ↦ absurd h (hnone k q), fun _ q _ h ↦ absurd h (hnone _ q)⟩
    have htask : Task.Proper i first text.size within ⟨pattern.start, first, slots⟩ :=
      ⟨Nat.le_refl first, by change first ≤ text.size; omega, hslots⟩
    have hrun := run_proper hl (2 * tried.searches.size + 2) (List.forall_mem_singleton.mpr htask)
      tried
    rw [tryFrom]
    split
    · rename_i m tried hm
      rw [hm] at hrun
      rintro m' ⟨⟩
      obtain ⟨hs, hsize, hn⟩ := hrun m rfl
      exact ⟨hs, hsize, hn⟩
    · exact ih (by omega) _

variable (text)

theorem search_proper (hl : Labelled i pattern.program within) (first : Nat) (tried : Tried) :
    ∀ m ∈ (search pattern text first tried).1, m.Proper i m.start text.size :=
  tryFrom_proper hl _ (Nat.le_refl _) _

theorem next_proper (hl : Labelled i pattern.program within) (first : Nat) (last : Option Nat)
    (tried : Tried) :
    ∀ m ∈ (next pattern text first last tried).1, m.Proper i m.start text.size := by
  have hfound := search_proper text hl first tried
  rw [next]
  split
  · exact nofun
  · rename_i m tried hm
    rw [hm] at hfound
    split
    · exact search_proper text hl _ _
    · exact hfound

theorem matchesFrom_proper (hl : Labelled i pattern.program within) (n first : Nat)
    (last : Option Nat) (tried : Tried) :
    ∀ m ∈ matchesFrom pattern text n first last tried, m.Proper i m.start text.size := by
  induction n generalizing first last tried with
  | zero => exact nofun
  | succ n ih =>
    have hnext := next_proper text hl first last tried
    rw [matchesFrom]
    split
    · exact nofun
    · rename_i m tried hm
      rw [hm] at hnext
      intro m' hm'
      rcases List.mem_cons.mp hm' with rfl | hm'
      · exact hnext _ rfl
      · exact ih _ _ _ m' hm'

end

/-- A match and its groups lie in the text, each with its start before its end, and the groups lie
in the match. -/
theorem allMatches_proper {source : String} {pattern : Pattern} (h : compile source = .ok pattern)
    (text : Array Char) {m : Match} (hm : m ∈ allMatches pattern text) (i : Nat) :
    m.Proper i m.start text.size := by
  obtain ⟨within, hl⟩ := exists_labelled_of_compile h i
  exact matchesFrom_proper text hl _ _ _ _ m hm

end DataBinding.Pattern
