import DataBinding.Proofs.Engine.Halting
import DataBinding.Proofs.Engine.Observers
import DataBinding.Proofs.Engine.Passage

namespace DataBinding

def Observers.callbacks {κ : Type} (o : Observers κ) : List κ := o.entries.flatMap (·.2)

theorem Observers.mem_callbacks_of_mem_relatedTo {κ : Type} {o : Observers κ} {p : Path} {c : κ}
    (h : c ∈ o.relatedTo p) : c ∈ o.callbacks := by
  simp only [relatedTo, List.mem_flatMap, List.mem_filterMap] at h
  obtain ⟨e, ⟨i, -, hi⟩, hc⟩ := h
  exact List.mem_flatMap.mpr ⟨e, List.mem_of_getElem? hi, hc⟩

namespace Engine.Machine

open StateTransition

variable {D : Type}

/-- The callback that is about to be called by the write whose frame stands on `height` others. -/
def Config.calls? (height : Nat) : Config D → Option (Callback D)
  | ⟨.answer (.ok ()), .dispatch (c :: _) :: .leave _ :: stack, _⟩ =>
    if stack.length = height then some c else none
  | _ => none

def Config.returns? (height : Nat) : Config D → Option (Except Error Unit)
  | ⟨.answer o, .dispatch _ :: .leave _ :: stack, _⟩ =>
    if stack.length = height then some o else none
  | _ => none

/-- The callbacks that a write calls in the course of a run, each one with the outcome that comes
back next. -/
def invocations (height : Nat) :
    List (Config D) → List (Callback D × Option (Except Error Unit))
  | [] => []
  | k :: run =>
    match k.calls? height with
    | some c => (c, run.findSome? (Config.returns? height)) :: invocations height run
    | none => invocations height run

theorem returns?_eq_some {height : Nat} {k : Config D} {o : Except Error Unit}
    (h : k.returns? height = some o) : k.control = .answer o ∧ k.stack.length = height + 2 := by
  unfold Config.returns? at h
  split at h
  · split at h
    · rename_i hlen
      cases h
      exact ⟨rfl, by simp only [List.length_cons, hlen]⟩
    · cases h
  · cases h

theorem returns?_of_calls? {height : Nat} {k : Config D} {c : Callback D}
    (h : k.calls? height = some c) : k.returns? height = some (.ok ()) := by
  unfold Config.calls? at h
  split at h
  · split at h
    · rename_i hlen
      simp only [Config.returns?, if_pos hlen]
    · cases h
  · cases h

def Quiet (height : Nat) (run : List (Config D)) : Prop := ∀ k ∈ run, k.returns? height = none

theorem invocations_append {height : Nat} {run : List (Config D)} (h : Quiet height run)
    (run' : List (Config D)) : invocations height (run ++ run') = invocations height run' := by
  induction run with
  | nil => rfl
  | cons k run ih =>
    obtain ⟨hk, hrun⟩ := List.forall_mem_cons.mp h
    have hnone : k.calls? height = none := by
      cases hc : k.calls? height with
      | none => rfl
      | some c =>
        rw [returns?_of_calls? hc] at hk
        cases hk
    rw [List.cons_append, invocations, hnone]
    exact ih hrun

theorem invocations_append_quiet {height : Nat} (run : List (Config D)) {run' : List (Config D)}
    (h : Quiet height run') : invocations height (run ++ run') = invocations height run := by
  induction run with
  | nil =>
    have h' := invocations_append h []
    rwa [List.append_nil] at h'
  | cons k run ih =>
    have hback : (run ++ run').findSome? (Config.returns? height) =
        run.findSome? (Config.returns? height) := by
      rw [List.findSome?_append, List.findSome?_eq_none_iff.mpr h, Option.or_none]
    simp only [List.cons_append, invocations, hback, ih]

theorem Quiet.findSome?_append {height : Nat} {run : List (Config D)} (h : Quiet height run)
    (run' : List (Config D)) : (run ++ run').findSome? (Config.returns? height) =
      run'.findSome? (Config.returns? height) := by
  rw [List.findSome?_append, List.findSome?_eq_none_iff.mpr h, Option.none_or]

/-- Callbacks are called in their order, and none after one that fails. -/
inductive Dispatches :
    List (Callback D) → List (Callback D × Option (Except Error Unit)) → Except Error Unit → Prop
  | done : Dispatches [] [] (.ok ())
  | next {c : Callback D} {cs : List (Callback D)}
      {called : List (Callback D × Option (Except Error Unit))} {o : Except Error Unit} :
      Dispatches cs called o → Dispatches (c :: cs) ((c, some (.ok ())) :: called) o
  | stop {c : Callback D} {cs : List (Callback D)} {e : Error} :
      Dispatches (c :: cs) [(c, some (.error e))] (.error e)

theorem Dispatches.cut {cs : List (Callback D)}
    {called : List (Callback D × Option (Except Error Unit))} {o : Except Error Unit}
    (h : Dispatches cs called o) :
    (called = cs.map (·, some (.ok ())) ∧ o = .ok ()) ∨
      ∃ before c rest e, cs = before ++ c :: rest ∧
        called = before.map (·, some (.ok ())) ++ [(c, some (.error e))] ∧ o = .error e := by
  induction h with
  | done => exact .inl ⟨rfl, rfl⟩
  | @next c _ _ _ _ ih =>
    rcases ih with ⟨rfl, rfl⟩ | ⟨before, d, rest, e, rfl, rfl, rfl⟩
    · exact .inl ⟨rfl, rfl⟩
    · exact .inr ⟨c :: before, d, rest, e, rfl, rfl, rfl⟩
  | @stop c cs e => exact .inr ⟨[], c, cs, e, rfl, rfl, rfl⟩

theorem Dispatches.map_fst_prefix {cs : List (Callback D)}
    {called : List (Callback D × Option (Except Error Unit))} {o : Except Error Unit}
    (h : Dispatches cs called o) : called.map (·.1) <+: cs := by
  induction h with
  | done => exact List.prefix_refl _
  | next _ ih => exact (List.prefix_cons_inj _).mpr ih
  | stop => exact ⟨_, rfl⟩

variable [Document D]

theorem Passes.quiet {k k' : Config D} {run : List (Config D)} (h : Passes k run k')
    (first second : Frame D) (stack : List (Frame D)) :
    Quiet stack.length (run.map (·.on (first :: second :: stack))) := by
  intro k₁ hk₁
  obtain ⟨k₁, hrun, rfl⟩ := List.mem_map.mp hk₁
  cases hr : (k₁.on (first :: second :: stack)).returns? stack.length with
  | none => rfl
  | some o =>
    obtain ⟨hcontrol, hlen⟩ := returns?_eq_some hr
    obtain ⟨control, stack₁, s⟩ := k₁
    have hnil : stack₁ = [] := by
      rw [← List.length_eq_zero_iff]
      simp only [Config.on, List.length_append, List.length_cons] at hlen
      omega
    subst hnil
    simp only [Config.on] at hcontrol
    subst hcontrol
    -- an answer with nothing below it ends its run, and is not on the way
    have hstep := h.isSome_step _ hrun
    cases hstep

theorem invocations_call {c : Callback D} {cs : List (Callback D)} {p : Path}
    {stack : List (Frame D)} {s : Engine D} {k k' : Config D} {run rest : List (Config D)}
    {o : Except Error Unit} (h : Passes k run k')
    (ho : rest.findSome? (Config.returns? stack.length) = some o) :
    invocations stack.length (⟨.answer (.ok ()), .dispatch (c :: cs) :: .leave p :: stack, s⟩ ::
        (run.map (·.on (.dispatch cs :: .leave p :: stack)) ++ rest)) =
      (c, some o) :: invocations stack.length rest := by
  have hquiet := h.quiet (.dispatch cs) (.leave p) stack
  simp only [invocations, Config.calls?, if_true, hquiet.findSome?_append, ho,
    invocations_append hquiet]

theorem exists_dispatch (cs : List (Callback D)) (s : Engine D) :
    ∃ o s', ∀ p stack, ∃ run,
      Passes ⟨.answer (.ok ()), .dispatch cs :: .leave p :: stack, s⟩ run
          ⟨.answer o, .leave p :: stack, s'⟩ ∧
        Dispatches cs (invocations stack.length run) o ∧
        ∀ k ∈ run, .leave p :: stack <:+ k.stack := by
  induction cs generalizing s with
  | nil =>
    refine ⟨.ok (), s, fun p stack ↦ ⟨[_], .head rfl (.refl _), .done, ?_⟩⟩
    rw [List.forall_mem_singleton]
    exact List.suffix_cons _ _
  | cons c cs ih =>
    -- the callback's own run, with nothing below it: put on the frames of the write it is quiet
    obtain ⟨inner, hinner⟩ := exists_passes (answers_run c s [])
    have habove (p : Path) (stack : List (Frame D)) :
        ∀ k ∈ inner.map (·.on (.dispatch cs :: .leave p :: stack)),
          .leave p :: stack <:+ k.stack := by
      intro k hk
      obtain ⟨k, -, rfl⟩ := List.mem_map.mp hk
      exact (List.suffix_cons _ _).trans (List.suffix_append _ _)
    cases ho : outcome (run c) s with
    | error e =>
      rw [ho] at hinner
      refine ⟨.error e, after (run c) s, fun p stack ↦ ⟨_, .head rfl
        ((hinner.on (.dispatch cs :: .leave p :: stack)).trans (.head rfl (.refl _))), ?_, ?_⟩⟩
      · rw [invocations_call hinner (o := .error e) (by simp [Config.returns?, Config.on])]
        exact .stop
      · refine List.forall_mem_cons.mpr ⟨List.suffix_cons _ _, ?_⟩
        exact List.forall_mem_append.mpr
          ⟨habove p stack, List.forall_mem_singleton.mpr (List.suffix_cons _ _)⟩
    | ok u =>
      rw [ho] at hinner
      obtain ⟨o, s', h⟩ := ih (after (run c) s)
      refine ⟨o, s', fun p stack ↦ ?_⟩
      obtain ⟨rest, hrest, hd, hsuf⟩ := h p stack
      refine ⟨_, .head rfl
        ((hinner.on (.dispatch cs :: .leave p :: stack)).trans hrest), ?_, ?_⟩
      · cases hrest with
        | head hs hrest =>
          rw [invocations_call hinner (o := .ok ()) (by simp [Config.returns?])]
          exact .next hd
      · refine List.forall_mem_cons.mpr ⟨List.suffix_cons _ _, ?_⟩
        exact List.forall_mem_append.mpr ⟨habove p stack, hsuf⟩

theorem exists_passes_write {p : Path} {v : Json} {s s₁ : Engine D} (stack : List (Frame D))
    (hlt : s.depth < s.options.maxDispatchDepth)
    (hr : (refresh p).run (stored p v s) = .ok () s₁) :
    let write := assign (s.options.maxDispatchDepth - s.depth) p v
    ∃ run, Passes ⟨.write p v, stack, s⟩ run ⟨.answer (outcome write s), stack, after write s⟩ ∧
      (∀ k ∈ run.tail, .leave p :: stack <:+ k.stack) ∧
      Dispatches (s₁.observers.relatedTo p) (invocations stack.length run) (outcome write s) := by
  intro write
  obtain ⟨o, s₂, h⟩ := exists_dispatch (s₁.observers.relatedTo p) s₁
  have hwhole (stack : List (Frame D)) :
      ∃ run, Passes ⟨.write p v, stack, s⟩ run
          ⟨.answer o, stack, { s₂ with depth := s₂.depth - 1 }⟩ ∧
        (∀ k ∈ run.tail, .leave p :: stack <:+ k.stack) ∧
        Dispatches (s₁.observers.relatedTo p) (invocations stack.length run) o := by
    obtain ⟨run, hrun, hd, hsuf⟩ := h p stack
    have hlast : Quiet stack.length [⟨.answer o, .leave p :: stack, s₂⟩] :=
      List.forall_mem_singleton.mpr rfl
    refine ⟨_, .head (step_write_of_lt hlt) (.head (step_refresh_of_ok hr)
      (hrun.trans (.head rfl (.refl _)))), ?_, ?_⟩
    · refine List.forall_mem_cons.mpr ⟨List.suffix_refl _, List.forall_mem_append.mpr ⟨hsuf, ?_⟩⟩
      exact List.forall_mem_singleton.mpr (List.suffix_refl _)
    · rw [← invocations_append_quiet run hlast] at hd
      exact hd
  -- on the empty stack, the machine halts with what the write gives
  have hend : o = outcome write s ∧ { s₂ with depth := s₂.depth - 1 } = after write s := by
    obtain ⟨run, hrun, -⟩ := hwhole []
    have hwrite := answers_assign (s.options.maxDispatchDepth - s.depth) p v (s := s) rfl []
    have he := Part.mem_unique (mem_eval.mpr ⟨hrun.reaches, rfl⟩) (mem_eval.mpr ⟨hwrite, rfl⟩)
    injection he with hc _ hs
    injection hc with ho
    exact ⟨ho, hs⟩
  rw [← hend.1, ← hend.2]
  exact hwhole stack

/-- A write that is let through, and whose bindings are refreshed, comes to its end. In the course
of it the callbacks that are triggered as things stand after the refresh are called in their order,
each one once, up to the first one that fails, and the write fails if one of them does. Nothing is
registered before the first of them is called; what is registered from then on, by whatever the
callbacks set off, is not called by this write. -/
theorem invocations_of_write {p : Path} {v : Json} {s s₁ : Engine D} (stack : List (Frame D))
    (hlt : s.depth < s.options.maxDispatchDepth)
    (hr : (refresh p).run (stored p v s) = .ok () s₁) :
    let write := assign (s.options.maxDispatchDepth - s.depth) p v
    let triggered := s₁.observers.relatedTo p
    ∃ run, Passes ⟨.write p v, stack, s⟩ run ⟨.answer (outcome write s), stack, after write s⟩ ∧
      (∀ k ∈ run.tail, .leave p :: stack <:+ k.stack) ∧
      (invocations stack.length run = triggered.map (·, some (.ok ())) ∨
        ∃ before c rest e, triggered = before ++ c :: rest ∧
          invocations stack.length run =
            before.map (·, some (.ok ())) ++ [(c, some (.error e))]) ∧
      (outcome write s = .ok () ↔
        invocations stack.length run = triggered.map (·, some (.ok ()))) ∧
      s₁.observers = s.observers ∧
      (after write s).observers = register s.observers (run.flatMap Config.registers) ∧
      ∀ q c, (q, c) ∈ run.flatMap Config.registers → c ∉ s.observers.callbacks →
        ∀ o, (c, o) ∉ invocations stack.length run := by
  intro write triggered
  obtain ⟨run, hrun, hsuf, hd⟩ := exists_passes_write stack hlt hr
  have hobs : s₁.observers = s.observers := by
    have hb := (rebinds_refresh p (stored p v s)).observers
    rw [after_of_ok hr] at hb
    exact hb
  refine ⟨run, hrun, hsuf, ?_, ?_, hobs, hrun.observers, fun q c _ hc o ho ↦ hc ?_⟩
  · rcases hd.cut with ⟨hcalled, -⟩ | ⟨before, c, rest, e, ht, hcalled, -⟩
    · exact .inl hcalled
    · exact .inr ⟨before, c, rest, e, ht, hcalled⟩
  · rcases hd.cut with ⟨hcalled, ho⟩ | ⟨before, c, rest, e, ht, hcalled, ho⟩
    · exact iff_of_true ho hcalled
    · refine iff_of_false (fun h ↦ by cases ho.symm.trans h) fun hall ↦ ?_
      have hmem : (c, some (.error e)) ∈ triggered.map (·, some (Except.ok ())) := by
        rw [← hall, hcalled]
        simp
      simp at hmem
  · have hmem := hd.map_fst_prefix.subset (List.mem_map_of_mem ho)
    rw [hobs] at hmem
    exact Observers.mem_callbacks_of_mem_relatedTo hmem

namespace Reentrant

def shown : Path := ⟨["shown"], by decide, by decide⟩

def registering : Callback Markup := .observe shown (.note .null .done) .done

def failing : Callback Markup := .fail (.path .empty)

def engine : Engine Markup :=
  { (State.init .empty {} : Engine Markup) with
    observers := .ofList [(shown, registering), (shown, failing), (shown, .done)] }

theorem invocations_of_write_shown :
    engine.depth < engine.options.maxDispatchDepth ∧
      Succeeds (refresh shown) (stored shown .null engine) ∧
      ∃ run k before c rest e, Passes ⟨.write shown .null, [], engine⟩ run k ∧
        [registering, failing, .done] = before ++ c :: rest ∧
        invocations 0 run = before.map (·, some (.ok ())) ++ [(c, some (.error e))] := by
  have hlt : engine.depth < engine.options.maxDispatchDepth := by decide
  have hs : Succeeds (refresh shown) (stored shown .null engine) := by decide +kernel
  obtain ⟨_, s₁, hr⟩ := id hs
  obtain ⟨run, hrun, -, hcut, hok, hobs, -⟩ := invocations_of_write [] hlt hr
  have hfails : (outcome (assign 64 shown .null) engine).toBool = false := by decide +kernel
  have htriggered : s₁.observers.relatedTo shown = [registering, failing, .done] := by
    rw [hobs]
    exact (Observers.lists_ofList _).relatedTo_eq shown
  rcases hcut with hall | ⟨before, c, rest, e, ht, hcalled⟩
  · have hwhole := hok.mpr hall
    change outcome (assign 64 shown .null) engine = .ok () at hwhole
    rw [hwhole] at hfails
    cases hfails
  · exact ⟨hlt, hs, run, _, before, c, rest, e, hrun, htriggered.symm.trans ht, hcalled⟩

end Reentrant

end Engine.Machine

end DataBinding
