import DataBinding.Proofs.Engine.Run

namespace DataBinding.Engine

variable {D : Type}

/-- What an engine is about to do. -/
inductive Act (D : Type) where
  | run (c : Callback D)
  | write (p : Path) (v : Json)
  | refresh (p : Path)
  | scan
  | define (f : Filter)

/-- A state and what is about to be done in it. -/
structure Moment (D : Type) where
  act : Act D
  state : Engine D

/-- The engine in the course of a write, before its bindings are refreshed. -/
def stored (p : Path) (v : Json) (s : Engine D) : Engine D :=
  { s with data := (s.data.set p v).2, depth := s.depth + 1 }

variable {I : Engine D → Prop} {R : Moment D → Prop}

/-- An invariant holds at the end of a list of moments and whenever a program goes on. -/
def Holds (I : Engine D → Prop) (moments : List (Moment D)) (s : Engine D) : Prop :=
  I s ∧ ∀ m ∈ moments, ∀ c, m.act = .run c → I m.state

theorem Holds.run {l : List (Moment D)} {s s' : Engine D} (h : Holds I l s') (hs : I s)
    (c : Callback D) : Holds I (⟨.run c, s⟩ :: l) s' := by
  refine ⟨h.1, fun m hm ↦ ?_⟩
  rcases List.mem_cons.mp hm with rfl | hm
  · exact fun _ _ ↦ hs
  · exact h.2 m hm

theorem Holds.cons {l : List (Moment D)} {s : Engine D} (h : Holds I l s) {m : Moment D}
    (hm : ∀ c, m.act ≠ .run c) : Holds I (m :: l) s := by
  refine ⟨h.1, fun m' hm' ↦ ?_⟩
  rcases List.mem_cons.mp hm' with rfl | hm'
  · exact fun c hc ↦ absurd hc (hm c)
  · exact h.2 m' hm'

theorem Holds.append {l l' : List (Moment D)} {s s' : Engine D} (h : Holds I l s)
    (h' : Holds I l' s') : Holds I (l ++ l') s' :=
  ⟨h'.1, fun m hm ↦ (List.mem_append.mp hm).elim (h.2 m) (h'.2 m)⟩

/-- An action carries an invariant through its moments if they are as they should be. -/
def Carries (I : Engine D → Prop) (R : Moment D → Prop) (past : Engine D → List (Moment D))
    (x : EngineM D Unit) : Prop :=
  ∀ s, I s → (∀ m ∈ past s, R m) → Holds I (past s) (after x s)

def dispatchHistory (run : Callback D → EngineM D Unit)
    (past : Callback D → Engine D → List (Moment D)) : List (Callback D) → Engine D →
    List (Moment D)
  | [], _ => []
  | c :: cs, s =>
    past c s ++
      match (run c).run s with
      | .ok () s => dispatchHistory run past cs s
      | .error _ _ => []

theorem Carries.dispatch {run : Callback D → EngineM D Unit}
    {past : Callback D → Engine D → List (Moment D)}
    (hr : ∀ c, Carries I R (past c) (run c)) (cs : List (Callback D)) :
    Carries I R (dispatchHistory run past cs) (cs.forM run) := by
  intro s hs hR
  induction cs generalizing s with
  | nil => exact ⟨hs, by simp [dispatchHistory]⟩
  | cons c cs ih =>
    simp only [dispatchHistory, List.forall_mem_append] at hR ⊢
    have hc := hr c s hs hR.1
    rw [after, run_forM_cons]
    cases hrun : (run c).run s with
    | error e s' =>
      rw [after_of_error hrun] at hc
      simpa using hc
    | ok a s' =>
      rw [after_of_ok hrun] at hc
      simp only [hrun] at hR
      exact hc.append (ih s' hc.1 hR.2)

variable [Document D]

def programHistory (write : Path → Json → EngineM D Unit)
    (past : Path → Json → Engine D → List (Moment D)) (c : Callback D) (s : Engine D) :
    List (Moment D) :=
  ⟨.run c, s⟩ ::
    match c with
    | .done | .fail _ => []
    | .note entry next => programHistory write past next (s.record (.noted entry))
    | .inspect next => programHistory write past (next s.view) s
    | .set p v next =>
      past p v s ++ programHistory write past (next (outcome (write p v) s)) (after (write p v) s)
    | .observe p callback next =>
      programHistory write past next { s with observers := s.observers.observe p callback }
    | .compute target value sources next =>
      let x := declare write target value sources
      let first :=
        if Declares target sources s then
          let s' := declared target value sources s
          past target (value s'.view) s'
        else []
      first ++ programHistory write past (next (outcome x s)) (after x s)
    | .scan next =>
      ⟨.scan, s⟩ :: programHistory write past (next (outcome scan s)) (after scan s)
    | .defineFilter f next =>
      ⟨.define f, s⟩ :: programHistory write past next { s with filters := s.filters.define f }
    | .edit change next =>
      programHistory write past next { s with document := change s.document }

/-- The moments of a write, while at most `remaining` further writes may be in progress at once. -/
def assignHistory : Nat → Path → Json → Engine D → List (Moment D)
  | 0, _, _, _ => []
  | remaining + 1, p, v, s =>
    ⟨.write p v, s⟩ :: ⟨.refresh p, stored p v s⟩ ::
      match (refresh p).run (stored p v s) with
      | .ok () s =>
        dispatchHistory (perform (assign remaining))
          (programHistory (assign remaining) (assignHistory remaining)) (s.observers.relatedTo p) s
      | .error _ _ => []

/-- The moments of a program that is run from outside. -/
def history (c : Callback D) (s : Engine D) : List (Moment D) :=
  let remaining := s.options.maxDispatchDepth - s.depth
  programHistory (assign remaining) (assignHistory remaining) c s

theorem run_assign (n : Nat) (p : Path) (v : Json) (s : Engine D) :
    (assign (n + 1) p v).run s =
      match (refresh p).run (stored p v s) with
      | .ok () s =>
        match ((s.observers.relatedTo p).forM (perform (assign n))).run s with
        | .ok () s => .ok () { s with depth := s.depth - 1 }
        | .error e s => .error e { s with depth := s.depth - 1 }
      | .error e s => .error e { s with depth := s.depth - 1 } := by
  have hstore : (store (perform (assign n)) p v).run { s with depth := s.depth + 1 } =
      match (refresh p).run (stored p v s) with
      | .ok () s => ((s.observers.relatedTo p).forM (perform (assign n))).run s
      | .error e s => .error e s := run_store _ p v _
  rw [run_assign_succ, hstore]
  cases (refresh p).run (stored p v s) <;> rfl

theorem of_run_assign {n : Nat} {p : Path} {v : Json} {s s' : Engine D}
    (h : (assign (n + 1) p v).run s = .ok () s') :
    ∃ s₁ s₂, (refresh p).run (stored p v s) = .ok () s₁ ∧
      ((s₁.observers.relatedTo p).forM (perform (assign n))).run s₁ = .ok () s₂ ∧
      s' = { s₂ with depth := s₂.depth - 1 } := by
  rw [run_assign] at h
  cases hr : (refresh p).run (stored p v s) with
  | error e s₁ =>
    rw [hr] at h
    cases h
  | ok u s₁ =>
    simp only [hr] at h
    cases hf : ((s₁.observers.relatedTo p).forM (perform (assign n))).run s₁ with
    | error e s₂ =>
      rw [hf] at h
      cases h
    | ok u s₂ =>
      rw [hf] at h
      cases h
      exact ⟨s₁, s₂, rfl, hf, rfl⟩

/-- Every step keeps an invariant, given what holds of the moments in which it is taken. -/
structure Keeps (I : Engine D → Prop) (R : Moment D → Prop) : Prop where
  note : ∀ s entry, I s → I (s.record (.noted entry))
  observe : ∀ s p c, I s → I { s with observers := s.observers.observe p c }
  declare : ∀ s target value sources, I s → I (declared target value sources s)
  edit : ∀ s (change : D → D), I s → I { s with document := change s.document }
  define : ∀ s f, R ⟨.define f, s⟩ → I s → I { s with filters := s.filters.define f }
  scan : ∀ s, R ⟨.scan, s⟩ → I s → I (after scan s)
  refresh : ∀ s p v, R ⟨.write p v, s⟩ → R ⟨.refresh p, stored p v s⟩ → I s →
    I (after (refresh p) (stored p v s))
  leave : ∀ s, I s → I { s with depth := s.depth - 1 }

theorem Keeps.program (h : Keeps I R) {write : Path → Json → EngineM D Unit}
    {past : Path → Json → Engine D → List (Moment D)}
    (hw : ∀ p v, Carries I R (past p v) (write p v)) (c : Callback D) :
    Carries I R (programHistory write past c) (perform write c) := by
  intro s hs hR
  induction c generalizing s with
  | done | fail _ => exact Holds.run ⟨hs, by simp⟩ hs _
  | note entry next ih =>
    simp only [programHistory, List.forall_mem_cons] at hR ⊢
    exact (ih _ (h.note s entry hs) hR.2).run hs _
  | inspect next ih =>
    simp only [programHistory, List.forall_mem_cons] at hR ⊢
    exact (ih _ s hs hR.2).run hs _
  | set p v next ih =>
    simp only [programHistory, List.forall_mem_cons, List.forall_mem_append] at hR ⊢
    have hset := hw p v s hs hR.2.1
    rw [after_congr (run_perform_set write p v next s)]
    exact (hset.append (ih _ _ hset.1 hR.2.2)).run hs _
  | observe p callback next _ ih =>
    simp only [programHistory, List.forall_mem_cons] at hR ⊢
    exact (ih _ (h.observe s p callback hs) hR.2).run hs _
  | compute target value sources next ih =>
    simp only [programHistory, List.forall_mem_cons, List.forall_mem_append] at hR ⊢
    rw [after_congr (run_perform_compute write target value sources next s)]
    by_cases hd : Declares target sources s
    · simp only [if_pos hd] at hR ⊢
      have hset := hw target _ _ (h.declare s target value sources hs) hR.2.1
      have hafter : after (Engine.declare write target value sources) s =
          after (write target (value (declared target value sources s).view))
            (declared target value sources s) := after_congr (run_declare write value hd)
      rw [← hafter] at hset
      exact (hset.append (ih _ _ hset.1 hR.2.2)).run hs _
    · simp only [if_neg hd, List.nil_append] at hR ⊢
      rw [after_declare_of_not write value hd] at hR ⊢
      exact (ih _ s hs hR.2.2).run hs _
  | scan next ih =>
    simp only [programHistory, List.forall_mem_cons] at hR ⊢
    rw [after_congr (run_perform_scan write next s)]
    exact ((ih _ _ (h.scan s hR.2.1 hs) hR.2.2).cons (by simp)).run hs _
  | defineFilter f next ih =>
    simp only [programHistory, List.forall_mem_cons] at hR ⊢
    exact ((ih _ (h.define s f hR.2.1 hs) hR.2.2).cons (by simp)).run hs _
  | edit change next ih =>
    simp only [programHistory, List.forall_mem_cons] at hR ⊢
    exact (ih _ (h.edit s change hs) hR.2).run hs _

theorem Keeps.assign (h : Keeps I R) (n : Nat) (p : Path) (v : Json) :
    Carries I R (assignHistory n p v) (Engine.assign n p v) := by
  induction n generalizing p v with
  | zero => exact fun s hs _ ↦ ⟨hs, by simp [assignHistory]⟩
  | succ n ih =>
    intro s hs hR
    simp only [assignHistory, List.forall_mem_cons] at hR ⊢
    refine .cons (.cons ?_ (by simp)) (by simp)
    have hr := h.refresh s p v hR.1 hR.2.1 hs
    rw [after, run_assign]
    cases hrun : (Engine.refresh p).run (stored p v s) with
    | error e s' =>
      rw [after_of_error hrun] at hr
      exact ⟨h.leave s' hr, by simp⟩
    | ok a s' =>
      rw [after_of_ok hrun] at hr
      simp only [hrun] at hR
      have hd := Carries.dispatch (h.program ih) (s'.observers.relatedTo p) s' hr hR.2.2
      refine ⟨?_, hd.2⟩
      have hl := h.leave _ hd.1
      rw [after] at hl
      simp only
      cases hf : ((s'.observers.relatedTo p).forM (perform (Engine.assign n))).run s' <;>
        simpa only [hf] using hl

theorem Keeps.run (h : Keeps I R) (c : Callback D) :
    Carries I R (history c) (Engine.run c) :=
  fun s ↦ h.program (h.assign (s.options.maxDispatchDepth - s.depth)) c s

end DataBinding.Engine
