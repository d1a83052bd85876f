import DataBinding.Proofs.Engine.History
import DataBinding.Proofs.Engine.Render
import DataBinding.Proofs.Path.Frame

namespace DataBinding.Engine

variable {D : Type}

/-- No array on the way to a path is addressed by a segment that is no index. -/
def KeepsArrays (root : Json) (p : Path) : Prop :=
  ∀ (i : Nat) (h : i < p.segments.length), ¬ Json.GivesUp root (p.segments.take i) p.segments[i]

instance (root : Json) (p : Path) : Decidable (KeepsArrays root p) :=
  inferInstanceAs (Decidable (∀ (i : Nat) (_ : i < p.segments.length), ¬ _))

theorem KeepsArrays.not_givesUp {root : Json} {p : Path} (h : KeepsArrays root p)
    {above below : List String} {key : String} (hp : p.segments = above ++ key :: below) :
    ¬ Json.GivesUp root above key := by
  have hk := h above.length (by simp [hp])
  simpa [hp] using hk

theorem agrees_stored {s : Engine D} {p : Path} (hp : KeepsArrays s.data p) (v : Json)
    {b : Binding} (hb : ¬ b.property.isRelatedTo p) : Agrees s (stored p v s) b where
  value := by
    obtain ⟨above, a, c, below, rest, hps, hbs, hac⟩ :=
      Path.exists_parting_of_not_isRelatedTo fun h ↦ hb (Path.isRelatedTo_comm.mp h)
    have h := Json.getD_getAt?_setAt v below rest hac (hp.not_givesUp hps)
    simpa only [stored, Json.get?, Json.set, hps, hbs] using h.symm
  filters _ _ := rfl

variable [Document D]

/-- The last write for the binding at a position was made by an engine that agrees about it. -/
def ShownAt (s : Engine D) (i : Nat) (el : ElementId) (b : Binding) : Prop :=
  ∃ w s₀, s.lastShown? i = some w ∧ Agrees s₀ s b ∧ Draws s₀ i el b w

theorem ShownAt.of_agrees {s s' : Engine D} {i : Nat} {el : ElementId} {b : Binding}
    (h : ShownAt s i el b) (ha : Agrees s s' b) (hs : s'.lastShown? i = s.lastShown? i) :
    ShownAt s' i el b := by
  obtain ⟨w, s₀, hw, ha₀, hd⟩ := h
  exact ⟨w, s₀, hs.trans hw, ha₀.trans ha, hd⟩

theorem redraws_of_run_render {s s' : Engine D} {i : Nat} {el : ElementId} {b : Binding}
    (h : (render i el b).run s = .ok () s') : Redraws s s' := by
  have hr := redraws_render i el b s
  rwa [after_of_ok h] at hr

theorem shownAt_of_run_render {s s' : Engine D} {i : Nat} {el : ElementId} {b : Binding}
    (h : (render i el b).run s = .ok () s') : ShownAt s' i el b := by
  obtain ⟨w, hd, hw⟩ := exists_draws h
  refine ⟨w, s, ?_, (redraws_of_run_render h).agrees b, hd⟩
  rw [State.lastShown?, hw, List.lookup_cons_self]

theorem lastShown?_of_run_render {s s' : Engine D} {i j : Nat} {el : ElementId} {b : Binding}
    (h : (render i el b).run s = .ok () s') (hj : j ≠ i) :
    s'.lastShown? j = s.lastShown? j := by
  obtain ⟨w, -, hw⟩ := exists_draws h
  have hji : (j == i) = false := by simpa using hj
  rw [State.lastShown?, hw, List.lookup_cons, hji, State.lastShown?]

theorem ShownAt.of_run_render {s s' : Engine D} {i j : Nat} {el el' : ElementId} {b b' : Binding}
    (hs : ShownAt s j el' b') (h : (render i el b).run s = .ok () s') (hj : j ≠ i) :
    ShownAt s' j el' b' :=
  hs.of_agrees ((redraws_of_run_render h).agrees b') (lastShown?_of_run_render h hj)

/-- All bindings are shown, and they are indexed by the paths that they show. -/
structure Synced (s : Engine D) : Prop where
  indexed : s.bindings.positions.Indexes (s.bindings.bound.map fun e ↦ e.2.property)
  shown : ∀ (i : Nat) el b, s.bindings.bound[i]? = some (el, b) → ShownAt s i el b

theorem Synced.of_agrees {s s' : Engine D} (h : Synced s) (hb : s'.bindings = s.bindings)
    (hs : s'.shown = s.shown)
    (ha : ∀ (i : Nat) el b, s.bindings.bound[i]? = some (el, b) → Agrees s s' b) : Synced s' where
  indexed := hb ▸ h.indexed
  shown i el b hi := by
    rw [hb] at hi
    have hlast : s'.lastShown? i = s.lastShown? i := by
      rw [State.lastShown?, hs, State.lastShown?]
    exact (h.shown i el b hi).of_agrees (ha i el b hi) hlast

theorem shownAt_of_run_forM {l : List (Nat × ElementId × Binding)} {s s' : Engine D}
    (hl : ∀ e ∈ l, s.bindings.bound[e.1]? = some e.2)
    (hs : ∀ (i : Nat) el b, s.bindings.bound[i]? = some (el, b) → ShownAt s i el b ∨ (i, el, b) ∈ l)
    (h : (l.forM fun (i, el, b) ↦ render i el b).run s = .ok () s') :
    Redraws s s' ∧ ∀ (i : Nat) el b, s.bindings.bound[i]? = some (el, b) → ShownAt s' i el b := by
  induction l generalizing s with
  | nil =>
    cases h
    exact ⟨.refl _, fun i el b hi ↦ (hs i el b hi).resolve_right List.not_mem_nil⟩
  | cons e l ih =>
    obtain ⟨j, el', b'⟩ := e
    obtain ⟨hj, hl⟩ := List.forall_mem_cons.mp hl
    obtain ⟨s₁, hr, h⟩ := of_run_forM_cons h
    have hd := redraws_of_run_render hr
    have hb := hd.bindings
    have hs₁ : ∀ (i : Nat) el b, s₁.bindings.bound[i]? = some (el, b) →
        ShownAt s₁ i el b ∨ (i, el, b) ∈ l := by
      intro i el b hi
      rw [hb] at hi
      by_cases hij : i = j
      · subst hij
        rw [hj, Option.some.injEq, Prod.mk.injEq] at hi
        obtain ⟨rfl, rfl⟩ := hi
        exact .inl (shownAt_of_run_render hr)
      · rcases hs i el b hi with hshown | hmem
        · exact .inl (hshown.of_run_render hr hij)
        · rcases List.mem_cons.mp hmem with he | hmem
          · exact absurd (Prod.mk.inj he).1 hij
          · exact .inr hmem
    obtain ⟨hd', hshown⟩ := ih (hb ▸ hl) hs₁ h
    exact ⟨hd.trans hd', hb ▸ hshown⟩

theorem Synced.of_run_refresh {s s' : Engine D} {p : Path} {v : Json} (hs : Synced s)
    (hb : s.bindings.built) (hp : KeepsArrays s.data p)
    (h : (refresh p).run (stored p v s) = .ok () s') : Synced s' ∧ s'.bindings = s.bindings := by
  rw [run_refresh_affected (s := stored p v s) hs.indexed hb] at h
  have hall : ∀ (i : Nat) el b, s.bindings.bound[i]? = some (el, b) →
      ShownAt (stored p v s) i el b ∨ (i, el, b) ∈ s.bindings.affected p := by
    intro i el b hi
    by_cases hr : b.property.isRelatedTo p
    · exact .inr (Bindings.mem_affected.mpr ⟨hi, hr⟩)
    · exact .inl ((hs.shown i el b hi).of_agrees (agrees_stored hp v hr) rfl)
  obtain ⟨hd, hshown⟩ := shownAt_of_run_forM (s := stored p v s)
    (fun e he ↦ (Bindings.mem_affected.mp he).1) hall h
  have hbs : s'.bindings = s.bindings := hd.bindings
  exact ⟨⟨hbs ▸ hs.indexed, fun i el b hi ↦ hshown i el b (hbs ▸ hi)⟩, hbs⟩

theorem Synced.push {s : Engine D} {el : ElementId} {b : Binding} (hs : Synced s)
    (h : ShownAt s s.bindings.size el b) :
    Synced { s with bindings := s.bindings.push el b } where
  indexed := Bindings.Indexed.push hs.indexed el b
  shown i el' b' hi := by
    suffices ShownAt s i el' b' from this.of_agrees ⟨rfl, fun _ _ ↦ rfl⟩ rfl
    simp only [Bindings.push, List.getElem?_append] at hi
    split at hi
    · exact hs.shown i el' b' hi
    · rename_i hge
      rw [List.getElem?_singleton] at hi
      split at hi
      · rename_i hzero
        cases hi
        have hsize : i = s.bindings.size := by
          rw [Bindings.size]
          omega
        exact hsize ▸ h
      · cases hi

theorem Synced.of_run_bind {s s' : Engine D} {name : String} {el : ElementId} (hs : Synced s)
    (h : (bind name el).run s = .ok () s') : Synced s' := by
  rcases Engine.of_run_bind h with ⟨-, rfl⟩ | ⟨expression, b, s₁, -, -, hr, rfl⟩
  · exact hs
  · have hb := (redraws_of_run_render hr).bindings
    have hs₁ : Synced s₁ := by
      refine ⟨hb ▸ hs.indexed, fun i el' b' hi ↦ ?_⟩
      rw [hb] at hi
      have hlt := (List.getElem?_eq_some_iff.mp hi).1
      exact (hs.shown i el' b' hi).of_run_render hr (Nat.ne_of_lt hlt)
    exact hs₁.push (hb ▸ shownAt_of_run_render hr)

theorem Synced.of_run_forM_bind {s s' : Engine D} {name : String} {els : List ElementId}
    (hs : Synced s) (h : (els.forM (bind name)).run s = .ok () s') : Synced s' := by
  induction els generalizing s with
  | nil =>
    cases h
    exact hs
  | cons el els ih =>
    obtain ⟨s₁, hb, h⟩ := of_run_forM_cons h
    exact ih (hs.of_run_bind hb) h

theorem synced_of_run_scan {s s' : Engine D} {n : Nat} (h : scan.run s = .ok n s') :
    Synced s' ∧ s'.bindings.built := by
  obtain ⟨s₁, hl, -, rfl⟩ := of_run_scan h
  have hempty : Synced { s with bindings := .empty } := ⟨.empty, fun i el b hi ↦ by cases hi⟩
  have hs₁ := hempty.of_run_forM_bind hl
  exact ⟨⟨hs₁.indexed, fun i el b hi ↦ (hs₁.shown i el b hi).of_agrees ⟨rfl, fun _ _ ↦ rfl⟩ rfl⟩,
    rfl⟩

/-- All bindings are shown, and there are none before the first scan. -/
structure Tracked (s : Engine D) : Prop extends Synced s where
  unbuilt : s.bindings.built = false → s.bindings.bound = []

theorem Tracked.of_agrees {s s' : Engine D} (h : Tracked s) (hb : s'.bindings = s.bindings)
    (hs : s'.shown = s.shown)
    (ha : ∀ (i : Nat) el b, s.bindings.bound[i]? = some (el, b) → Agrees s s' b) : Tracked s' :=
  ⟨h.toSynced.of_agrees hb hs ha, hb ▸ h.unbuilt⟩

theorem Tracked.define {s : Engine D} (h : Tracked s) {f : Filter}
    (hf : s.bindings.built → s.filters.find? f.name = none) :
    Tracked { s with filters := s.filters.define f } := by
  refine h.of_agrees rfl rfl fun i el b hi ↦ ⟨rfl, fun call hc ↦ ?_⟩
  cases hb : s.bindings.built with
  | false =>
    rw [h.unbuilt hb] at hi
    cases hi
  | true =>
    obtain ⟨w, s₀, -, ha, hd⟩ := h.shown i el b hi
    have hsome := hd.isSome_find? call hc
    rw [ha.filters call hc] at hsome
    have hne : call.name ≠ f.name := by
      intro he
      rw [he, hf hb] at hsome
      cases hsome
    exact (Filters.find?_define_of_ne hne s.filters).symm

theorem tracked_of_run_scan {s s' : Engine D} {n : Nat} (h : scan.run s = .ok n s') :
    Tracked s' := by
  obtain ⟨hs, hb⟩ := synced_of_run_scan h
  exact ⟨hs, fun hu ↦ by rw [hb] at hu; cases hu⟩

theorem Tracked.of_run_refresh {s s' : Engine D} {p : Path} {v : Json} (hs : Tracked s)
    (hp : KeepsArrays s.data p) (h : (refresh p).run (stored p v s) = .ok () s') : Tracked s' := by
  cases hb : s.bindings.built with
  | true =>
    obtain ⟨hs', hb'⟩ := hs.toSynced.of_run_refresh hb hp h
    exact ⟨hs', fun hu ↦ by rw [hb', hb] at hu; cases hu⟩
  | false =>
    obtain ⟨n, hscan⟩ := of_run_refresh_unbuilt (s := stored p v s) hb h
    exact tracked_of_run_scan hscan

/-- No scan and no rendering fails, no write gives up an array, and no filter is redefined once the
document has been scanned. -/
def Moment.Regular (m : Moment D) : Prop :=
  match m.act with
  | .run _ => True
  | .write p _ => KeepsArrays m.state.data p
  | .refresh p => Succeeds (Engine.refresh p) m.state
  | .scan => Succeeds Engine.scan m.state
  | .define f => m.state.bindings.built → m.state.filters.find? f.name = none

instance (m : Moment D) : Decidable m.Regular :=
  match m with
  | ⟨.run _, _⟩ => isTrue trivial
  | ⟨.write p _, s⟩ => inferInstanceAs (Decidable (KeepsArrays s.data p))
  | ⟨.refresh p, s⟩ => inferInstanceAs (Decidable (Succeeds (Engine.refresh p) s))
  | ⟨.scan, s⟩ => inferInstanceAs (Decidable (Succeeds Engine.scan s))
  | ⟨.define f, s⟩ =>
    inferInstanceAs (Decidable (s.bindings.built = true → s.filters.find? f.name = none))

theorem keeps_tracked : Keeps (D := D) Tracked Moment.Regular where
  note _ _ h := h.of_agrees rfl rfl fun _ _ _ _ ↦ ⟨rfl, fun _ _ ↦ rfl⟩
  observe _ _ _ h := h.of_agrees rfl rfl fun _ _ _ _ ↦ ⟨rfl, fun _ _ ↦ rfl⟩
  declare _ _ _ _ h := h.of_agrees rfl rfl fun _ _ _ _ ↦ ⟨rfl, fun _ _ ↦ rfl⟩
  edit _ _ h := h.of_agrees rfl rfl fun _ _ _ _ ↦ ⟨rfl, fun _ _ ↦ rfl⟩
  leave _ h := h.of_agrees rfl rfl fun _ _ _ _ ↦ ⟨rfl, fun _ _ ↦ rfl⟩
  define _ _ hf h := h.define hf
  scan s hok _ := by
    obtain ⟨n, s', hok⟩ := hok
    exact after_of_ok hok ▸ tracked_of_run_scan hok
  refresh s p v hp hok h := by
    obtain ⟨_, s', hok⟩ := hok
    exact after_of_ok hok ▸ h.of_run_refresh hp hok

/-- The last write for each binding is the one that rendering it would make now, if its filters
are pure. -/
def InStep (s : Engine D) : Prop :=
  ∀ (i : Nat) el b, s.bindings.bound[i]? = some (el, b) → s.filters.PureOn b.calls →
    ∃ w, s.lastShown? i = some w ∧ (render i el b).run s = .ok () (wrote i w s)

theorem Synced.inStep {s : Engine D} (h : Synced s) : InStep s := by
  intro i el b hi hp
  obtain ⟨w, s₀, hw, ha, hd⟩ := h.shown i el b hi
  exact ⟨w, hw, hd.run_render ha hp⟩

/-- Whenever a program or a callback goes on, and in the end, the document is in step with the
store. -/
theorem holds_inStep (c : Callback D) (document : D) (options : Options)
    (h : ∀ m ∈ history c (State.init document options), m.Regular) :
    Holds InStep (history c (State.init document options))
      (after (run c) (State.init document options)) := by
  have hinit : Tracked (State.init document options : Engine D) :=
    ⟨⟨.empty, fun i el b hi ↦ by cases hi⟩, fun _ ↦ rfl⟩
  obtain ⟨hend, hrun⟩ := keeps_tracked.run c _ hinit h
  exact ⟨hend.inStep, fun m hm d hd ↦ (hrun m hm d hd).inStep⟩

def nameplate : Markup := ⟨[⟨"p", [("data-binding", "name | upcase")], [], none, true⟩], [0]⟩

def rename : Callback Markup :=
  .set ⟨["name"], by decide, by decide⟩ (.string "Ann") fun _ ↦
    .set ⟨["name"], by decide, by decide⟩ (.string "Bob") fun _ ↦ .done

theorem regular_rename : ∀ m ∈ history rename (State.init nameplate {}), m.Regular := by
  decide +kernel

theorem holds_inStep_rename :
    (∀ m ∈ history rename (State.init nameplate {}), m.Regular) ∧
      (after (run rename) (State.init nameplate {})).lastShown? 0 = some (.html 0 "BOB") ∧
      Holds InStep (history rename (State.init nameplate {}))
        (after (run rename) (State.init nameplate {})) :=
  ⟨regular_rename, by decide +kernel, holds_inStep rename nameplate {} regular_rename⟩

end DataBinding.Engine
