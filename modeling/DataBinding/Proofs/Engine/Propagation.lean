import DataBinding.Proofs.Engine.Cycle
import DataBinding.Proofs.Engine.History
import DataBinding.Proofs.Engine.Observers
import DataBinding.Proofs.Engine.Refresh
import DataBinding.Proofs.Path.Frame
import Mathlib.Data.List.Pairwise

namespace DataBinding.Engine

variable {D : Type}

/-- A computed property. -/
structure Property (D : Type) where
  target : Path
  value : View D → Json
  sources : List Path

namespace Property

/-- The value depends on nothing but what is read at the sources. -/
def ReadsSources (d : Property D) : Prop :=
  ∀ s s' : View D, (∀ q ∈ d.sources, s.data.get? q = s'.data.get? q) → d.value s = d.value s'

/-- The target holds the value that is computed from the store. -/
def UpToDate (d : Property D) (s : Engine D) : Prop :=
  s.data.get? d.target = some (d.value s.view)

/-- Some source may be changed by a write to `p`. -/
def Needs (d : Property D) (p : Path) : Prop := ∃ q ∈ d.sources, q.isRelatedTo p

def callback (d : Property D) : Callback D := recompute d.target d.value

def Apart (d e : Property D) : Prop := ¬ d.target.isRelatedTo e.target

instance (d e : Property D) : Decidable (d.Apart e) := inferInstanceAs (Decidable (¬ _))

instance : Std.Symm (Apart (D := D)) where
  symm _ _ h hr := h (Path.isRelatedTo_comm.mp hr)

def registrations (d : Property D) : List (Path × Callback D) := d.sources.map (·, d.callback)

theorem target_eq_of_callback_eq {d e : Property D} (h : d.callback = e.callback) (s : Engine D) :
    d.target = e.target := by
  have hnext := congrFun (Callback.inspect.inj h) s.view
  exact (Callback.set.inj hnext).1

theorem value_congr {d : Property D} (hd : d.ReadsSources) {s s' : Engine D}
    (h : ∀ q ∈ d.sources, s.data.get? q = s'.data.get? q) : d.value s.view = d.value s'.view :=
  hd _ _ h

theorem UpToDate.of_data_eq {d : Property D} {s s' : Engine D} (h : d.UpToDate s)
    (hd : d.ReadsSources) (hs : s'.data = s.data) : d.UpToDate s' := by
  rw [UpToDate, hs, h, value_congr hd fun q _ ↦ by rw [hs]]

theorem get?_stored {d : Property D} {s : Engine D} (hs : s.data.ArrayFree) {p : Path} (v : Json)
    (hp : ¬ d.Needs p) : ∀ q ∈ d.sources, (stored p v s).data.get? q = s.data.get? q :=
  fun q hq ↦ Json.get?_set_of_not_isRelatedTo hs v fun hr ↦
    hp ⟨q, hq, Path.isRelatedTo_comm.mp hr⟩

theorem UpToDate.stored {d : Property D} {s : Engine D} (h : d.UpToDate s) (hd : d.ReadsSources)
    (hs : s.data.ArrayFree) {p : Path} (v : Json) (ht : ¬ p.isRelatedTo d.target)
    (hp : ¬ d.Needs p) : d.UpToDate (stored p v s) := by
  rw [UpToDate, value_congr hd (get?_stored hs v hp), ← h]
  exact Json.get?_set_of_not_isRelatedTo hs v ht

theorem upToDate_stored_target {d : Property D} {s : Engine D} (hd : d.ReadsSources)
    (hs : s.data.ArrayFree) (hc : ¬ d.Needs d.target) :
    d.UpToDate (Engine.stored d.target (d.value s.view) s) := by
  rw [UpToDate, value_congr hd (get?_stored hs _ hc)]
  exact Json.get?_set_self _ _ _

end Property

/-- Properties that can be kept up to date together. -/
structure Separate (ds : List (Property D)) : Prop where
  apart : ds.Pairwise Property.Apart
  reads : ∀ d ∈ ds, d.ReadsSources
  acyclic : ∀ d ∈ ds, ¬ d.Needs d.target

theorem Separate.eq_of_isRelatedTo {ds : List (Property D)} (h : Separate ds) {d e : Property D}
    (hd : d ∈ ds) (he : e ∈ ds) (hr : d.target.isRelatedTo e.target) : d = e := by
  by_contra hne
  exact h.apart.forall hd he hne hr

/-- The engine holds no array, and its only observers are those of the properties. -/
structure Serves (ds : List (Property D)) (s : Engine D) : Prop where
  observers : s.observers.Lists (ds.flatMap Property.registrations)
  free : s.data.ArrayFree

theorem Serves.mem_relatedTo {ds : List (Property D)} {s : Engine D} (h : Serves ds s) {p : Path}
    {c : Callback D} :
    c ∈ s.observers.relatedTo p ↔ ∃ d ∈ ds, d.Needs p ∧ d.callback = c := by
  rw [h.observers.mem_relatedTo]
  simp only [Property.registrations, Property.Needs, List.mem_flatMap, List.mem_map, Prod.mk.injEq]
  constructor
  · rintro ⟨_, ⟨d, hd, q, hq, rfl, hc⟩, hr⟩
    exact ⟨d, hd, ⟨q, hq, hr⟩, hc⟩
  · rintro ⟨d, hd, ⟨q, hq, hr⟩, hc⟩
    exact ⟨q, ⟨d, hd, q, hq, rfl, hc⟩, hr⟩

/-- The moment writes no array. -/
def Moment.WritesNoArray (m : Moment D) : Prop := ∀ p v, m.act = .write p v → v.ArrayFree

/-- What a write that succeeds leaves up to date: the property whose value it is, and those apart
from it that need the write or were up to date before. -/
def Maintains (ds : List (Property D)) (write : Path → Json → EngineM D Unit)
    (past : Path → Json → Engine D → List (Moment D)) : Prop :=
  ∀ p v s s', Serves ds s → (∀ m ∈ past p v s, m.WritesNoArray) → (write p v).run s = .ok () s' →
    Serves ds s' ∧ ∀ d ∈ ds,
      (p = d.target ∧ v = d.value s.view) ∨
        (¬ p.isRelatedTo d.target ∧ (d.Needs p ∨ d.UpToDate s)) → d.UpToDate s'

variable [Document D]

theorem run_perform_recompute (write : Path → Json → EngineM D Unit) (target : Path)
    (value : View D → Json) (s : Engine D) :
    (perform write (recompute target value)).run s = (write target (value s.view)).run s := by
  rw [recompute, run_perform_inspect, run_perform_set, outcome, after]
  cases (write target (value s.view)).run s <;> rfl

theorem mem_programHistory_recompute (write : Path → Json → EngineM D Unit)
    (past : Path → Json → Engine D → List (Moment D)) (target : Path) (value : View D → Json)
    {s : Engine D} {m : Moment D} (h : m ∈ past target (value s.view) s) :
    m ∈ programHistory write past (recompute target value) s := by
  simp [recompute, programHistory, h]

theorem Maintains.callback {ds : List (Property D)} {write : Path → Json → EngineM D Unit}
    {past : Path → Json → Engine D → List (Moment D)} (hw : Maintains ds write past)
    (hds : Separate ds) {e : Property D} (he : e ∈ ds) {s s' : Engine D} (hs : Serves ds s)
    (hm : ∀ m ∈ programHistory write past e.callback s, m.WritesNoArray)
    (h : (perform write e.callback).run s = .ok () s') :
    Serves ds s' ∧ ∀ d ∈ ds, d.callback = e.callback ∨ d.UpToDate s → d.UpToDate s' := by
  rw [Property.callback, run_perform_recompute] at h
  obtain ⟨hs', hd⟩ := hw e.target (e.value s.view) s s' hs
    (fun m hmem ↦ hm m (mem_programHistory_recompute write past _ _ hmem)) h
  refine ⟨hs', fun d hmem hor ↦ ?_⟩
  by_cases hr : e.target.isRelatedTo d.target
  · obtain rfl := hds.eq_of_isRelatedTo he hmem hr
    exact hd e he (.inl ⟨rfl, rfl⟩)
  · refine hd d hmem (.inr ⟨hr, .inr (hor.resolve_left fun hc ↦ hr ?_)⟩)
    rw [Property.target_eq_of_callback_eq hc s]
    exact Path.isRelatedTo_self e.target

theorem Maintains.dispatch {ds : List (Property D)} {write : Path → Json → EngineM D Unit}
    {past : Path → Json → Engine D → List (Moment D)} (hw : Maintains ds write past)
    (hds : Separate ds) {cs : List (Callback D)} (hcs : ∀ c ∈ cs, ∃ e ∈ ds, e.callback = c)
    {s s' : Engine D} (hs : Serves ds s)
    (hm : ∀ m ∈ dispatchHistory (perform write) (programHistory write past) cs s, m.WritesNoArray)
    (h : (cs.forM (perform write)).run s = .ok () s') :
    Serves ds s' ∧ ∀ d ∈ ds, d.callback ∈ cs ∨ d.UpToDate s → d.UpToDate s' := by
  induction cs generalizing s with
  | nil =>
    cases h
    exact ⟨hs, fun d _ hor ↦ hor.resolve_left List.not_mem_nil⟩
  | cons c cs ih =>
    obtain ⟨⟨e, he, rfl⟩, hcs'⟩ := List.forall_mem_cons.mp hcs
    obtain ⟨s₁, hc, h⟩ := of_run_forM_cons h
    simp only [dispatchHistory, hc, List.forall_mem_append] at hm
    obtain ⟨hs₁, hd₁⟩ := hw.callback hds he hs hm.1 hc
    obtain ⟨hs', hd'⟩ := ih hcs' hs₁ hm.2 h
    refine ⟨hs', fun d hmem hor ↦ hd' d hmem ?_⟩
    rcases hor with hin | hup
    · rcases List.mem_cons.mp hin with heq | hin
      · exact .inr (hd₁ d hmem (.inl heq))
      · exact .inl hin
    · exact .inr (hd₁ d hmem (.inr hup))

theorem maintains_assign {ds : List (Property D)} (hds : Separate ds) (n : Nat) :
    Maintains ds (assign n) (assignHistory n) := by
  induction n with
  | zero =>
    intro p v s s' _ _ h
    rw [run_assign_zero] at h
    cases h
  | succ n ih =>
    intro p v s s' hs hm h
    obtain ⟨s₁, s₂, hr, hf, rfl⟩ := of_run_assign h
    simp only [assignHistory, hr, List.forall_mem_cons] at hm
    have hb := rebinds_refresh p (stored p v s)
    rw [after_of_ok hr] at hb
    have hs₁ : Serves ds s₁ := by
      obtain ⟨_, _, _, _, rfl⟩ := hb
      exact ⟨hs.observers, Json.arrayFree_setAt (hm.1 p v rfl) hs.free⟩
    have hdata : s₁.data = (stored p v s).data := by
      obtain ⟨_, _, _, _, rfl⟩ := hb
      rfl
    have hcs : ∀ c ∈ s₁.observers.relatedTo p, ∃ e ∈ ds, e.callback = c := by
      intro c hc
      obtain ⟨e, he, -, hec⟩ := hs₁.mem_relatedTo.mp hc
      exact ⟨e, he, hec⟩
    obtain ⟨hs₂, hd₂⟩ := ih.dispatch hds hcs hs₁ hm.2.2 hf
    -- a property may be computed from sources that are out of date themselves: what brings such a
    -- source up to date is a later write, and computes the property again
    refine ⟨⟨hs₂.observers, hs₂.free⟩, fun d hmem hor ↦ ?_⟩
    have hreads := hds.reads d hmem
    refine (hd₂ d hmem ?_).of_data_eq hreads rfl
    rcases hor with ⟨rfl, rfl⟩ | ⟨ht, hor⟩
    · have hup := Property.upToDate_stored_target hreads hs.free (hds.acyclic d hmem)
      exact .inr (hup.of_data_eq hreads hdata)
    · by_cases hn : d.Needs p
      · exact .inl (hs₁.mem_relatedTo.mpr ⟨d, hmem, hn, rfl⟩)
      · have hup := (hor.resolve_left hn).stored hreads hs.free v ht hn
        exact .inr (hup.of_data_eq hreads hdata)

end DataBinding.Engine
