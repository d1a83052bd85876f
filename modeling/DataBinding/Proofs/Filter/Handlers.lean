import DataBinding.Proofs.Filter.Chain

namespace DataBinding

/-- What a filter does with a value and arguments: it may change the state that it runs in, and
ends with a value or an error. -/
abbrev Handler (σ : Type) := Json → List String → EStateM FilterError σ Json

structure Invocation where
  filter : Filter
  value : Json
  args : List String

namespace Json

theorem orBlank_ne_null (v : Json) : v.orBlank ≠ null := by
  cases v <;> simp [orBlank]

theorem orBlank_orBlank (v : Json) : v.orBlank.orBlank = v.orBlank := by
  cases v <;> rfl

end Json

namespace Clause

variable {σ τ : Type}

def scripts {E : Type} [FilterTarget E] (f : Filter) : Handler (Option E) :=
  fun v args ↦ (f.script v args).run

def applyWith (handlers : Filter → Handler σ) (r : Filters) (v : Json) (call : Clause) :
    EStateM FilterError σ Json :=
  match r.find? call.name with
  | none => throw (.unknownFilter call.name)
  | some f =>
    match f.arity.check f.name call.args.length with
    | .error e => throw e
    | .ok () => tryCatch (handlers f v.orBlank call.args) fun e ↦ throw (.execution call.name e)

/-- `applyAll` with any handlers. -/
def applyAllWith (handlers : Filter → Handler σ) (r : Filters) (chain : List Clause)
    (v : Option Json) : EStateM FilterError σ Json := do
  return (← chain.foldlM (applyWith handlers r) (v.getD .null)).orBlank

theorem applyAll_eq_applyAllWith {E : Type} [FilterTarget E] (r : Filters) :
    applyAll (E := E) r = applyAllWith scripts r := rfl

variable (handlers : Filter → Handler σ) (r : Filters)

theorem applyWith_orBlank (v : Json) : applyWith handlers r v.orBlank = applyWith handlers r v := by
  funext call
  simp only [applyWith, Json.orBlank_orBlank]

theorem applyAllWith_orBlank (chain : List Clause) (v : Json) :
    applyAllWith handlers r chain (some v.orBlank) = applyAllWith handlers r chain (some v) := by
  cases chain with
  | nil =>
    simp only [applyAllWith, List.foldlM_nil, Option.getD_some, pure_bind, Json.orBlank_orBlank]
  | cons call chain =>
    simp only [applyAllWith, List.foldlM_cons, Option.getD_some, applyWith_orBlank]

theorem applyAllWith_append (c₁ c₂ : List Clause) (v : Option Json) :
    applyAllWith handlers r (c₁ ++ c₂) v =
      applyAllWith handlers r c₁ v >>= fun w ↦ applyAllWith handlers r c₂ (some w) := by
  have hblank : ∀ u : Json, applyAllWith handlers r c₂ (some u.orBlank) =
      c₂.foldlM (applyWith handlers r) u >>= fun w ↦ pure w.orBlank :=
    fun u ↦ applyAllWith_orBlank handlers r c₂ u
  calc applyAllWith handlers r (c₁ ++ c₂) v
      = c₁.foldlM (applyWith handlers r) (v.getD .null) >>= fun u ↦
          c₂.foldlM (applyWith handlers r) u >>= fun w ↦ pure w.orBlank := by
        rw [applyAllWith, List.foldlM_append, bind_assoc]
    _ = c₁.foldlM (applyWith handlers r) (v.getD .null) >>= fun u ↦
          applyAllWith handlers r c₂ (some u.orBlank) := by
        simp only [hblank]
    _ = applyAllWith handlers r c₁ v >>= fun w ↦ applyAllWith handlers r c₂ (some w) := by
        rw [applyAllWith, bind_assoc]
        simp only [pure_bind]

def final : EStateM.Result FilterError σ Json → σ
  | .ok _ s => s
  | .error _ s => s

/-- A result with another view of its state. -/
def mapState (π : σ → τ) : EStateM.Result FilterError σ Json → EStateM.Result FilterError τ Json
  | .ok v s => .ok v (π s)
  | .error e s => .error e (π s)

theorem run_named (name : String) (x : EStateM FilterError σ Json) (s : σ) :
    (tryCatch x fun e ↦ throw (.execution name e) : EStateM FilterError σ Json).run s =
      match x.run s with
      | .ok w s => .ok w s
      | .error e s => .error (.execution name e) s := by
  change EStateM.tryCatch x _ s = _
  unfold EStateM.tryCatch EStateM.run
  cases x s <;> rfl

theorem run_applyWith (v : Json) (call : Clause) (s : σ) :
    (applyWith handlers r v call).run s =
      match r.find? call.name with
      | none => .error (.unknownFilter call.name) s
      | some f =>
        match f.arity.check f.name call.args.length with
        | .error e => .error e s
        | .ok () =>
          match (handlers f v.orBlank call.args).run s with
          | .ok w s => .ok w s
          | .error e s => .error (.execution call.name e) s := by
  rw [applyWith]
  cases r.find? call.name with
  | none => rfl
  | some f =>
    cases hc : f.arity.check f.name call.args.length with
    | error e => simp only [hc]; rfl
    | ok u => simp only [hc, run_named]

theorem run_foldlM_applyWith_cons (call : Clause) (chain : List Clause) (v : Json) (s : σ) :
    ((call :: chain).foldlM (applyWith handlers r) v).run s =
      match (applyWith handlers r v call).run s with
      | .ok w s => (chain.foldlM (applyWith handlers r) w).run s
      | .error e s => .error e s := by
  rw [List.foldlM_cons, EStateM.run_bind]
  cases (applyWith handlers r v call).run s <;> rfl

theorem run_applyAllWith (chain : List Clause) (v : Option Json) (s : σ) :
    (applyAllWith handlers r chain v).run s =
      match (chain.foldlM (applyWith handlers r) (v.getD .null)).run s with
      | .ok w s => .ok w.orBlank s
      | .error e s => .error e s := by
  rw [applyAllWith, EStateM.run_bind]
  cases (chain.foldlM (applyWith handlers r) (v.getD .null)).run s <;> rfl

/-- Where each handler does to a state what another one does to a view of it, so do the chains. -/
theorem mapState_run_applyWith {π : τ → σ} {handlers : Filter → Handler σ}
    {handlers' : Filter → Handler τ}
    (h : ∀ f v args t, mapState π ((handlers' f v args).run t) = (handlers f v args).run (π t))
    (v : Json) (call : Clause) (t : τ) :
    mapState π ((applyWith handlers' r v call).run t) =
      (applyWith handlers r v call).run (π t) := by
  rw [run_applyWith, run_applyWith]
  cases r.find? call.name with
  | none => rfl
  | some f =>
    cases hc : f.arity.check f.name call.args.length with
    | error e => simp only [hc, mapState]
    | ok u =>
      simp only [hc, ← h f v.orBlank call.args t]
      cases (handlers' f v.orBlank call.args).run t <;> rfl

theorem mapState_run_foldlM {π : τ → σ} {handlers : Filter → Handler σ}
    {handlers' : Filter → Handler τ}
    (h : ∀ f v args t, mapState π ((handlers' f v args).run t) = (handlers f v args).run (π t))
    (chain : List Clause) (v : Json) (t : τ) :
    mapState π ((chain.foldlM (applyWith handlers' r) v).run t) =
      (chain.foldlM (applyWith handlers r) v).run (π t) := by
  induction chain generalizing v t with
  | nil => rfl
  | cons call chain ih =>
    rw [run_foldlM_applyWith_cons, run_foldlM_applyWith_cons, ← mapState_run_applyWith r h]
    cases (applyWith handlers' r v call).run t with
    | ok w t => exact ih w t
    | error e t => rfl

theorem mapState_run_applyAllWith {π : τ → σ} {handlers : Filter → Handler σ}
    {handlers' : Filter → Handler τ}
    (h : ∀ f v args t, mapState π ((handlers' f v args).run t) = (handlers f v args).run (π t))
    (chain : List Clause) (v : Option Json) (t : τ) :
    mapState π ((applyAllWith handlers' r chain v).run t) =
      (applyAllWith handlers r chain v).run (π t) := by
  rw [run_applyAllWith, run_applyAllWith, ← mapState_run_foldlM r h]
  cases (chain.foldlM (applyWith handlers' r) (v.getD .null)).run t <;> rfl

theorem final_mapState (π : σ → τ) (x : EStateM.Result FilterError σ Json) :
    final (mapState π x) = π (final x) := by
  cases x <;> rfl

theorem accepts_of_check {arity : Arity} {name : String} {n : Nat} {u : Unit}
    (h : arity.check name n = .ok u) : arity.accepts n := by
  unfold Arity.check at h
  split at h
  · assumption
  · cases h

theorem eq_of_check {arity : Arity} {name : String} {n : Nat} {e : FilterError}
    (h : arity.check name n = .error e) : e = .argumentCount name arity n := by
  unfold Arity.check at h
  split at h
  · cases h
  · cases h
    rfl

theorem mem_of_find? {r : Filters} {name : String} {f : Filter} (h : r.find? name = some f) :
    f ∈ r.filters := List.mem_of_find?_eq_some h

theorem final_run_foldlM {P : σ → Prop} {handlers : Filter → Handler σ} {r : Filters}
    (h : ∀ f ∈ r.filters, ∀ v args s, v ≠ .null → f.arity.accepts args.length → P s →
      P (final ((handlers f v args).run s)))
    (chain : List Clause) (v : Json) (s : σ) (hs : P s) :
    P (final ((chain.foldlM (applyWith handlers r) v).run s)) := by
  induction chain generalizing v s with
  | nil => exact hs
  | cons call chain ih =>
    have hcall : P (final ((applyWith handlers r v call).run s)) := by
      rw [run_applyWith]
      cases hf : r.find? call.name with
      | none => exact hs
      | some f =>
        cases hc : f.arity.check f.name call.args.length with
        | error e => simpa only [hc, final] using hs
        | ok u =>
          have hkeep := h f (mem_of_find? hf) v.orBlank call.args s (Json.orBlank_ne_null v)
            (accepts_of_check hc) hs
          simp only [hc]
          cases hrun : (handlers f v.orBlank call.args).run s with
          | ok w s => rwa [hrun] at hkeep
          | error e s => rwa [hrun] at hkeep
    rw [run_foldlM_applyWith_cons]
    cases hrun : (applyWith handlers r v call).run s with
    | ok w s =>
      rw [hrun] at hcall
      exact ih w s hcall
    | error e s => rwa [hrun] at hcall

theorem final_run_applyAllWith {P : σ → Prop} {handlers : Filter → Handler σ} {r : Filters}
    (h : ∀ f ∈ r.filters, ∀ v args s, v ≠ .null → f.arity.accepts args.length → P s →
      P (final ((handlers f v args).run s)))
    (chain : List Clause) (v : Option Json) (s : σ) (hs : P s) :
    P (final ((applyAllWith handlers r chain v).run s)) := by
  have hfold := final_run_foldlM h chain (v.getD .null) s hs
  rw [run_applyAllWith]
  cases hrun : (chain.foldlM (applyWith handlers r) (v.getD .null)).run s with
  | ok w s => rwa [hrun] at hfold
  | error e s => rwa [hrun] at hfold

theorem final_run_script {E : Type} [FilterTarget E] {P : E → Prop}
    (h : ∀ e name value, P e → P (FilterTarget.setAttribute e name value)) (script : Script)
    (e : E) (he : P e) : ∃ e', final (script.run.run (some e)) = some e' ∧ P e' := by
  induction script generalizing e with
  | done result => cases result <;> exact ⟨e, rfl, he⟩
  | readAttribute name next ih =>
    simp only [Script.run, EStateM.run_bind, EStateM.run_get]
    exact ih (FilterTarget.attribute? e name) e he
  | setAttribute name value next ih =>
    simp only [Script.run, EStateM.run_bind, EStateM.run_get, EStateM.run_set]
    exact ih (FilterTarget.setAttribute e name value) (h e name value he)
  | innerHtml next ih =>
    simp only [Script.run, EStateM.run_bind, EStateM.run_get]
    exact ih (FilterTarget.innerHtml e) e he

theorem final_run_applyAll {E : Type} [FilterTarget E] {P : E → Prop}
    (h : ∀ e name value, P e → P (FilterTarget.setAttribute e name value)) (r : Filters)
    (chain : List Clause) (v : Option Json) (e : E) (he : P e) :
    ∃ e', final ((applyAll r chain v).run (some e)) = some e' ∧ P e' := by
  rw [applyAll_eq_applyAllWith]
  refine final_run_applyAllWith (P := fun b ↦ ∃ e, b = some e ∧ P e) ?_ chain v (some e)
    ⟨e, rfl, he⟩
  rintro f - w args _ - - ⟨e, rfl, he⟩
  exact final_run_script h (f.script w args) e he

/-- A chain ends with an error of its own, or with one of a handler under the name of its filter. -/
def EndsWith (P : FilterError → Prop) (e : FilterError) : Prop :=
  (∃ name, e = .unknownFilter name) ∨ (∃ name arity given, e = .argumentCount name arity given) ∨
    ∃ name source, e = .execution name source ∧ P source

theorem endsWith_of_run_applyWith {P : FilterError → Prop} {handlers : Filter → Handler σ}
    {r : Filters}
    (h : ∀ f ∈ r.filters, ∀ v args s e s', f.arity.accepts args.length →
      (handlers f v args).run s = .error e s' → P e)
    {v : Json} {call : Clause} {s s' : σ} {e : FilterError}
    (he : (applyWith handlers r v call).run s = .error e s') : EndsWith P e := by
  rw [run_applyWith] at he
  cases hf : r.find? call.name with
  | none =>
    rw [hf] at he
    cases he
    exact .inl ⟨_, rfl⟩
  | some f =>
    cases hc : f.arity.check f.name call.args.length with
    | error e' =>
      simp only [hf, hc] at he
      cases he
      exact .inr (.inl ⟨_, _, _, eq_of_check hc⟩)
    | ok u =>
      simp only [hf, hc] at he
      cases hrun : (handlers f v.orBlank call.args).run s with
      | ok w s₁ =>
        rw [hrun] at he
        cases he
      | error e' s₁ =>
        rw [hrun] at he
        cases he
        have hp := h f (mem_of_find? hf) _ _ _ _ _ (accepts_of_check hc) hrun
        exact .inr (.inr ⟨_, _, rfl, hp⟩)

theorem endsWith_of_run_applyAllWith {P : FilterError → Prop} {handlers : Filter → Handler σ}
    {r : Filters}
    (h : ∀ f ∈ r.filters, ∀ v args s e s', f.arity.accepts args.length →
      (handlers f v args).run s = .error e s' → P e)
    {chain : List Clause} {v : Option Json} {s s' : σ} {e : FilterError}
    (he : (applyAllWith handlers r chain v).run s = .error e s') : EndsWith P e := by
  have hfold : (chain.foldlM (applyWith handlers r) (v.getD .null)).run s = .error e s' := by
    rw [run_applyAllWith] at he
    cases hrun : (chain.foldlM (applyWith handlers r) (v.getD .null)).run s with
    | ok w s₁ => rw [hrun] at he; cases he
    | error e₁ s₁ => rw [hrun] at he; cases he; rfl
  clear he
  induction chain generalizing v s with
  | nil => cases hfold
  | cons call chain ih =>
    rw [run_foldlM_applyWith_cons] at hfold
    cases hrun : (applyWith handlers r (v.getD .null) call).run s with
    | ok w s₁ =>
      rw [hrun] at hfold
      exact ih (v := some w) hfold
    | error e₁ s₁ =>
      rw [hrun] at hfold
      cases hfold
      exact endsWith_of_run_applyWith h hrun

def noting (handlers : Filter → Handler σ) (f : Filter) : Handler (σ × List Invocation) :=
  fun v args s ↦ mapState (·, s.2 ++ [⟨f, v, args⟩]) ((handlers f v args).run s.1)

/-- The calls that a chain makes, in order. -/
def invocations (chain : List Clause) (v : Option Json) (s : σ) : List Invocation :=
  (final ((applyAllWith (noting handlers) r chain v).run (s, []))).2

theorem mapState_run_noting (chain : List Clause) (v : Option Json) (s : σ)
    (calls : List Invocation) :
    mapState Prod.fst ((applyAllWith (noting handlers) r chain v).run (s, calls)) =
      (applyAllWith handlers r chain v).run s := by
  refine mapState_run_applyAllWith r (fun f v args t ↦ ?_) chain v (s, calls)
  simp only [noting, EStateM.run]
  cases handlers f v args t.1 <;> rfl

theorem run_noting_append (chain : List Clause) (v : Option Json) (s : σ)
    (before calls : List Invocation) :
    (applyAllWith (noting handlers) r chain v).run (s, before ++ calls) =
      mapState (fun t ↦ (t.1, before ++ t.2))
        ((applyAllWith (noting handlers) r chain v).run (s, calls)) := by
  have hkeep : ∀ f v args (t : σ × List Invocation),
      mapState (fun t ↦ (t.1, before ++ t.2)) ((noting handlers f v args).run t) =
        (noting handlers f v args).run (t.1, before ++ t.2) := by
    intro f v args t
    simp only [noting, EStateM.run, List.append_assoc]
    cases handlers f v args t.1 <;> rfl
  exact (mapState_run_applyAllWith r hkeep chain v (s, calls)).symm

theorem of_mem_invocations {i : Invocation} {chain : List Clause} {v : Option Json} {s : σ}
    (hi : i ∈ invocations handlers r chain v s) :
    i.filter ∈ r.filters ∧ i.value ≠ .null ∧ i.filter.arity.accepts i.args.length := by
  let Proper (i : Invocation) :=
    i.filter ∈ r.filters ∧ i.value ≠ .null ∧ i.filter.arity.accepts i.args.length
  have hkeep : ∀ f ∈ r.filters, ∀ v args (t : σ × List Invocation), v ≠ .null →
      f.arity.accepts args.length → (∀ i ∈ t.2, Proper i) →
      ∀ i ∈ (final ((noting handlers f v args).run t)).2, Proper i := by
    intro f hf v args t hv ha ht i hi
    have hnoted : (final ((noting handlers f v args).run t)).2 = t.2 ++ [⟨f, v, args⟩] := by
      simp only [noting, EStateM.run]
      cases handlers f v args t.1 <;> rfl
    rw [hnoted] at hi
    rcases List.mem_append.mp hi with hi | hi
    · exact ht i hi
    · rw [List.mem_singleton.mp hi]
      exact ⟨hf, hv, ha⟩
  exact final_run_applyAllWith hkeep chain v (s, []) (by simp) i hi

theorem invocations_append (c₁ c₂ : List Clause) (v : Option Json) (s : σ) :
    invocations handlers r (c₁ ++ c₂) v s =
      invocations handlers r c₁ v s ++
        match (applyAllWith handlers r c₁ v).run s with
        | .ok w s' => invocations handlers r c₂ (some w) s'
        | .error _ _ => [] := by
  have hview := mapState_run_noting handlers r c₁ v s []
  rw [invocations, invocations, applyAllWith_append, EStateM.run_bind, ← hview]
  cases (applyAllWith (noting handlers) r c₁ v).run (s, []) with
  | error e t => exact (List.append_nil _).symm
  | ok w t =>
    have hafter := run_noting_append handlers r c₂ (some w) t.1 t.2 []
    rw [List.append_nil] at hafter
    change (final ((applyAllWith (noting handlers) r c₂ (some w)).run (t.1, t.2))).2 =
      t.2 ++ invocations handlers r c₂ (some w) t.1
    rw [hafter, final_mapState, invocations]

/-- A chain is applied by applying its first part and, if that gives a value, its second part to
this value in the state that the first one left; if the first part fails, nothing else is called.
A missing value counts as `null`. -/
theorem applyAll_append {E : Type} [FilterTarget E] (c₁ c₂ : List Clause) (v : Option Json)
    (s : σ) :
    applyAll (E := E) r = applyAllWith scripts r ∧
    (applyAllWith handlers r (c₁ ++ c₂) v).run s =
      (match (applyAllWith handlers r c₁ v).run s with
      | .ok w s' => (applyAllWith handlers r c₂ (some w)).run s'
      | .error e s' => .error e s') ∧
    invocations handlers r (c₁ ++ c₂) v s =
      invocations handlers r c₁ v s ++
        (match (applyAllWith handlers r c₁ v).run s with
        | .ok w s' => invocations handlers r c₂ (some w) s'
        | .error _ _ => []) ∧
    applyAllWith handlers r c₁ none = applyAllWith handlers r c₁ (some .null) := by
  refine ⟨applyAll_eq_applyAllWith r, ?_, invocations_append handlers r c₁ c₂ v s, rfl⟩
  rw [applyAllWith_append, EStateM.run_bind]
  cases (applyAllWith handlers r c₁ v).run s <;> rfl

end Clause

end DataBinding
