import DataBinding.Proofs.Engine.Passage

namespace DataBinding.Engine

variable {D : Type}

/-- The index in the course of a scan. -/
structure Partial (t : Bindings) : Prop where
  indexed : t.Indexed
  unbuilt : t.built = false

theorem partial_empty : Partial .empty := ⟨Bindings.indexed_empty, rfl⟩

theorem Partial.push {t : Bindings} (h : Partial t) (el : ElementId) (b : Binding) :
    Partial (t.push el b) := ⟨h.indexed.push el b, h.unbuilt⟩

variable [Document D]

theorem bindings_after_bind (name : String) (el : ElementId) (s : Engine D) :
    (after (bind name el) s).bindings = s.bindings ∨
      ∃ b, (after (bind name el) s).bindings = s.bindings.push el b := by
  cases ha : Document.attribute? s.document el name with
  | none => exact .inl (by rw [after_of_ok (run_bind_none ha)])
  | some expression =>
    have hrun := run_bind_some ha
    cases hp : Binding.parse s.options.style expression with
    | error e =>
      rw [hp] at hrun
      exact .inl (by rw [after_of_error hrun])
    | ok b =>
      have hd := (redraws_render s.bindings.size el b s).bindings
      simp only [hp] at hrun
      cases hr : (render s.bindings.size el b).run s with
      | error e s₁ =>
        rw [after_of_error hr] at hd
        rw [hr] at hrun
        exact .inl (by rw [after_of_error hrun, hd])
      | ok u s₁ =>
        rw [after_of_ok hr] at hd
        rw [hr] at hrun
        exact .inr ⟨b, by rw [after_of_ok hrun, hd]⟩

theorem partial_after_bind (name : String) (el : ElementId) (s : Engine D)
    (h : Partial s.bindings) : Partial (after (bind name el) s).bindings := by
  rcases bindings_after_bind name el s with hb | ⟨b, hb⟩
  · rwa [hb]
  · rw [hb]
    exact h.push el b

theorem bindings_after_scan (s : Engine D) :
    ∃ t, Partial t ∧ (after scan s).bindings = { t with built := (outcome scan s).isOk } := by
  have hl : Partial (after ((Document.elementsWith s.document s.options.bindingAttribute).forM
      (bind s.options.bindingAttribute)) { s with bindings := .empty }).bindings :=
    after_forM (I := fun s ↦ Partial s.bindings) (partial_after_bind _) _ _ partial_empty
  have hs := run_scan s
  cases hr : ((Document.elementsWith s.document s.options.bindingAttribute).forM
      (bind s.options.bindingAttribute)).run { s with bindings := .empty } with
  | ok u s₁ =>
    rw [hr] at hs
    rw [after_of_ok hr] at hl
    refine ⟨s₁.bindings, hl, ?_⟩
    rw [after_of_ok hs, outcome_of_ok hs]
    rfl
  | error e s₁ =>
    rw [hr] at hs
    rw [after_of_error hr] at hl
    refine ⟨s₁.bindings, hl, ?_⟩
    rw [after_of_error hs, outcome_of_error hs, Except.isOk, Except.toBool, ← hl.unbuilt]

theorem indexed_after_scan (s : Engine D) : (after scan s).bindings.Indexed := by
  obtain ⟨t, ht, hs⟩ := bindings_after_scan s
  rw [hs]
  exact ht.indexed

theorem built_after_scan (s : Engine D) :
    (after scan s).bindings.built = (outcome scan s).isOk := by
  obtain ⟨t, -, hs⟩ := bindings_after_scan s
  rw [hs]

theorem bindings_after_refresh {s : Engine D} (h : s.bindings.built) (p : Path) :
    (after (refresh p) s).bindings = s.bindings := by
  rw [after_congr (run_refresh_built h p)]
  refine after_forM (I := fun s₁ ↦ s₁.bindings = s.bindings) (fun (i, el, b) s₁ hs ↦ ?_) _ s rfl
  exact (redraws_render i el b s₁).bindings.trans hs

theorem after_refresh_unbuilt {s : Engine D} (h : s.bindings.built = false) (p : Path) :
    after (refresh p) s = after scan s := by
  rw [after, run_refresh_unbuilt h, after]
  cases scan.run s <;> rfl

namespace Machine

/-- What the scan that the next step makes comes to, if it makes one: programs scan the document,
and so does a write before that has been done. -/
def Config.scan? : Config D → Option (Except Error Nat)
  | ⟨.run (.scan _), _, s⟩ => some (outcome scan s)
  | ⟨.refresh _, _, s⟩ => if s.bindings.built then none else some (outcome scan s)
  | _ => none

def scans (run : List (Config D)) : List (Except Error Nat) := run.filterMap Config.scan?

/-- There has been a scan, and the last one came to its end. -/
def Scanned (run : List (Config D)) : Prop := ∃ n, (scans run).getLast? = some (.ok n)

theorem bindings_of_step {k k' : Config D} (h : k' ∈ step k) :
    k.scan? = none ∧ k'.state.bindings = k.state.bindings ∨
      k.scan? = some (outcome scan k.state) ∧
        k'.state.bindings = (after scan k.state).bindings := by
  obtain ⟨control, stack, s⟩ := k
  cases control with
  | run c =>
    cases h
    cases c with
    | scan next => exact .inr ⟨rfl, rfl⟩
    | done | fail _ | note _ _ | inspect _ | set _ _ _ | observe _ _ _ | defineFilter _ _
    | edit _ _ => exact .inl ⟨rfl, rfl⟩
    | compute target value sources next =>
      refine .inl ⟨rfl, ?_⟩
      by_cases hd : Declares target sources s
      · rw [act_compute hd]
        rfl
      · obtain ⟨o, ho, -⟩ : ∃ o, act stack s (.compute target value sources next) =
            ⟨.run (next o), stack, s⟩ ∧ _ := act_compute_of_not hd
        rw [ho]
  | write p v =>
    refine .inl ⟨rfl, ?_⟩
    by_cases hlt : s.depth < s.options.maxDispatchDepth
    · rw [step_write_of_lt hlt] at h
      cases h
      rfl
    · rw [step_write_of_le (Nat.not_lt.mp hlt)] at h
      cases h
      rfl
  | refresh p =>
    -- a write scans only as long as no scan has come to its end
    rw [state_of_step_refresh h, Config.scan?]
    cases hb : s.bindings.built with
    | true => exact .inl ⟨rfl, bindings_after_refresh hb p⟩
    | false =>
      rw [after_refresh_unbuilt hb]
      exact .inr ⟨rfl, rfl⟩
  | answer o =>
    cases stack with
    | nil => cases h
    | cons frame stack =>
      cases h
      refine .inl ⟨rfl, ?_⟩
      cases frame with
      | resume next | leave p => rfl
      | dispatch cs =>
        simp only [pass]
        split <;> rfl

theorem Passes.bindings {k k' : Config D} {run : List (Config D)} (h : Passes k run k') :
    scans run = [] ∧ k'.state.bindings = k.state.bindings ∨
      ∃ s : Engine D, (scans run).getLast? = some (outcome scan s) ∧
        k'.state.bindings = (after scan s).bindings := by
  induction h with
  | refl => exact .inl ⟨rfl, rfl⟩
  | @head k k₁ k' run hs _ ih =>
    -- a scan of the first step is the last one of the run only if no other follows
    rcases ih with ⟨hnone, hb⟩ | ⟨s, hlast, hb⟩
    · rcases bindings_of_step hs with ⟨hk, hb₁⟩ | ⟨hk, hb₁⟩
      · exact .inl ⟨by rw [scans, List.filterMap_cons_none hk, ← scans, hnone], hb.trans hb₁⟩
      · refine .inr ⟨k.state, ?_, hb.trans hb₁⟩
        rw [scans, List.filterMap_cons_some hk, ← scans, hnone, List.getLast?_singleton]
    · refine .inr ⟨s, ?_, hb⟩
      cases hk : k.scan? with
      | none => rw [scans, List.filterMap_cons_none hk, ← scans, hlast]
      | some o =>
        rw [scans, List.filterMap_cons_some hk, ← scans, List.getLast?_cons, hlast,
          Option.getD_some]

section Start

variable {document : D} {options : Options} {c : Callback D} {run : List (Config D)}
  {k : Config D}

theorem Passes.indexed (h : Passes (start c (State.init document options)) run k) :
    k.state.bindings.Indexed := by
  rcases h.bindings with ⟨-, hb⟩ | ⟨s, -, hb⟩
  · rw [hb]
    exact Bindings.indexed_empty
  · rw [hb]
    exact indexed_after_scan s

theorem Passes.built_iff (h : Passes (start c (State.init document options)) run k) :
    k.state.bindings.built ↔ Scanned run := by
  rcases h.bindings with ⟨hnone, hb⟩ | ⟨s, hlast, hb⟩
  · rw [hb, Scanned, hnone]
    exact iff_of_false Bool.false_ne_true fun ⟨n, hn⟩ ↦ by cases hn
  · rw [hb, built_after_scan, Scanned, hlast]
    cases outcome scan s with
    | ok n => exact iff_of_true rfl ⟨n, rfl⟩
    | error e => exact iff_of_false Bool.false_ne_true fun ⟨n, hn⟩ ↦ by cases hn

/-- The index holds the position of each entry once, at the path that the entry shows, and nothing
else. It counts as built if the last scan came to its end, and only then; until one does, every
write that is let through scans the whole document anew. -/
theorem indexed_and_built_iff (h : Passes (start c (State.init document options)) run k) :
    let t := k.state.bindings
    t.positions.trie.listing.Perm (t.bound.zipIdx.map fun e ↦ (e.1.2.property.segments, e.2)) ∧
      (∀ q, (t.positions.exact q).Perm
        ((t.bound.zipIdx.filter fun e ↦ e.1.2.property = q).map (·.2))) ∧
      (t.built ↔ Scanned run) ∧
      ∀ p v, k.control = .write p v → k.state.depth < k.state.options.maxDispatchDepth →
        let s := stored p v k.state
        let next : Config D := ⟨.refresh p, .leave p :: k.stack, s⟩
        step k = some next ∧
          (¬ Scanned run →
            next.scan? = some (outcome scan s) ∧
            (refresh p).run s =
              match ((Document.elementsWith s.document s.options.bindingAttribute).forM
                (bind s.options.bindingAttribute)).run { s with bindings := .empty } with
              | .ok () s => .ok () { s with bindings := { s.bindings with built := true } }
              | .error e s => .error e s) ∧
          (Scanned run → next.scan? = none ∧ (after (refresh p) s).bindings = t) := by
  intro t
  refine ⟨h.indexed.listing_perm, h.indexed.exact_perm, h.built_iff, fun p v hw hlt ↦ ?_⟩
  intro s next
  have hstep : step k = some next := by
    obtain ⟨control, stack, s₀⟩ := k
    subst hw
    exact step_write_of_lt hlt
  refine ⟨hstep, fun hno ↦ ?_, fun hyes ↦ ?_⟩
  · have hb : s.bindings.built = false := by
      rw [← Bool.not_eq_true]
      exact fun hb ↦ hno (h.built_iff.mp hb)
    refine ⟨if_neg (by rw [hb]; exact Bool.false_ne_true), ?_⟩
    rw [run_refresh_unbuilt hb, run_scan]
    cases ((Document.elementsWith s.document s.options.bindingAttribute).forM
      (bind s.options.bindingAttribute)).run { s with bindings := .empty } <;> rfl
  · have hb : s.bindings.built := h.built_iff.mpr hyes
    exact ⟨if_pos hb, bindings_after_refresh hb p⟩

end Start

def misspelt : Markup :=
  ⟨[⟨"p", [("data-binding", "title")], [], none, true⟩,
    ⟨"p", [("data-binding", "title | shout")], [], none, true⟩], [0, 1]⟩

def scanning : Callback Markup :=
  .scan fun _ ↦ .set ⟨["title"], by decide, by decide⟩ (.string "News") fun _ ↦ .done

theorem indexed_and_built_iff_misspelt :
    ∃ run k p v, Passes (start scanning (State.init misspelt {})) run k ∧
      k.control = .write p v ∧ k.state.depth < k.state.options.maxDispatchDepth ∧
      k.state.bindings.bound.length = 1 ∧ ¬ Scanned run ∧ k.state.bindings.built = false ∧
      (⟨.refresh p, .leave p :: k.stack, stored p v k.state⟩ : Config Markup).scan?.isSome := by
  let k₀ := start scanning (State.init misspelt {})
  let p : Path := ⟨["title"], by decide, by decide⟩
  let k₁ : Config Markup := ⟨.run (.set p (.string "News") fun _ ↦ .done), [], after scan k₀.state⟩
  let k₂ : Config Markup :=
    ⟨.write p (.string "News"), [.resume fun _ ↦ .done], after scan k₀.state⟩
  have hrun : Passes k₀ [k₀, k₁] k₂ := .head rfl (.head rfl (.refl _))
  have hlt : k₂.state.depth < k₂.state.options.maxDispatchDepth := by decide +kernel
  have hno : ¬ Scanned [k₀, k₁] := by
    rintro ⟨n, hn⟩
    have hfails : (outcome scan k₀.state).toBool = false := by decide +kernel
    have hscan : outcome scan k₀.state = .ok n := Option.some.inj hn
    rw [hscan] at hfails
    cases hfails
  obtain ⟨-, -, hbuilt, hwrite⟩ := indexed_and_built_iff hrun
  obtain ⟨-, hagain, -⟩ := hwrite p (.string "News") rfl hlt
  refine ⟨_, k₂, p, _, hrun, rfl, hlt, by decide +kernel, hno, ?_, ?_⟩
  · rw [← Bool.not_eq_true]
    exact fun hb ↦ hno (hbuilt.mp hb)
  · rw [(hagain hno).1]
    rfl

end Machine

end DataBinding.Engine
