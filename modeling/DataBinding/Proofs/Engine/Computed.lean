import DataBinding.Proofs.Engine.Propagation

namespace DataBinding.Engine

variable {D : Type}

/-- A call from outside. -/
inductive Call (D : Type) where
  | set (p : Path) (v : Json)
  | compute (d : Property D)

/-- Makes calls in turn, up to the first one that fails. -/
def program : List (Call D) → Callback D
  | [] => .done
  | .set p v :: calls => .set p v fun
    | .ok () => program calls
    | .error e => .fail e
  | .compute d :: calls => .compute d.target d.value d.sources fun
    | .ok () => program calls
    | .error e => .fail e

def properties (calls : List (Call D)) : List (Property D) :=
  calls.filterMap fun
    | .set _ _ => none
    | .compute d => if d.sources.isEmpty then none else some d

/-- The targets are apart, values depend on nothing but the sources, and no call writes to what is
related to a target that is declared already. -/
structure Orderly (calls : List (Call D)) : Prop where
  apart : (properties calls).Pairwise Property.Apart
  reads : ∀ d ∈ properties calls, d.ReadsSources
  sets : ∀ before p v rest, calls = before ++ .set p v :: rest →
    ∀ d ∈ properties before, ¬ p.isRelatedTo d.target

theorem Serves.declared {ds : List (Property D)} {s : Engine D} (h : Serves ds s)
    (d : Property D) : Serves (ds ++ [d]) (declared d.target d.value d.sources s) where
  observers := by
    have hl := h.observers.observeAll d.registrations
    rw [Property.registrations, List.foldl_map] at hl
    rw [List.flatMap_append, List.flatMap_singleton]
    exact hl
  free := h.free

/-- What calls have brought about so far, all of them successful. -/
structure Settled (calls : List (Call D)) (s : Engine D) : Prop where
  separate : Separate (properties calls)
  serves : Serves (properties calls) s
  upToDate : ∀ d ∈ properties calls, d.UpToDate s

section Settled

variable {calls before rest : List (Call D)} {write : Path → Json → EngineM D Unit}
  {past : Path → Json → Engine D → List (Moment D)} {s s' : Engine D}

theorem Settled.set {p : Path} {v : Json} (hs : Settled before s)
    (hw : Maintains (properties before) write past)
    (hp : ∀ d ∈ properties before, ¬ p.isRelatedTo d.target)
    (hm : ∀ m ∈ past p v s, m.WritesNoArray) (h : (write p v).run s = .ok () s') :
    Settled (before ++ [.set p v]) s' := by
  obtain ⟨hserves, hup⟩ := hw p v s s' hs.serves hm h
  have he : properties (before ++ [.set p v]) = properties before := by simp [properties]
  refine ⟨he ▸ hs.separate, he ▸ hserves, he ▸ fun d hd ↦ ?_⟩
  exact hup d hd (.inr ⟨hp d hd, .inr (hs.upToDate d hd)⟩)

theorem Settled.compute {d : Property D} (hs : Settled before s)
    (hds : Separate (properties before ++ [d]))
    (hw : Maintains (properties before ++ [d]) write past) (hne : d.sources ≠ [])
    (hm : ∀ m ∈ past d.target (d.value (declared d.target d.value d.sources s).view)
      (declared d.target d.value d.sources s), m.WritesNoArray)
    (h : (write d.target (d.value (declared d.target d.value d.sources s).view)).run
      (declared d.target d.value d.sources s) = .ok () s') :
    Settled (before ++ [.compute d]) s' := by
  obtain ⟨hserves, hup⟩ := hw _ _ _ s' (hs.serves.declared d) hm h
  have he : properties (before ++ [.compute d]) = properties before ++ [d] := by
    simp [properties, hne]
  refine ⟨he ▸ hds, he ▸ hserves, he ▸ fun e hmem ↦ hup e hmem ?_⟩
  rcases List.mem_append.mp hmem with hb | hd
  · refine .inr ⟨fun hr ↦ ?_, .inr ((hs.upToDate e hb).of_data_eq (hs.separate.reads e hb) rfl)⟩
    have hapart := (List.pairwise_append.mp hds.apart).2.2 e hb d (List.mem_singleton_self d)
    exact hapart (Path.isRelatedTo_comm.mp hr)
  · rw [List.mem_singleton.mp hd]
    exact .inl ⟨rfl, rfl⟩

theorem Orderly.separate {d : Property D} (ho : Orderly (before ++ .compute d :: rest))
    (hds : Separate (properties before)) (hne : d.sources ≠ [])
    (hd : ¬ d.Needs d.target) : Separate (properties before ++ [d]) := by
  have he : properties (before ++ .compute d :: rest) =
      (properties before ++ [d]) ++ properties rest := by
    simp [properties, hne]
  have hapart := ho.apart
  have hreads := ho.reads
  rw [he] at hapart hreads
  refine ⟨(List.pairwise_append.mp hapart).1,
    fun e hmem ↦ hreads e (List.mem_append_left _ hmem), fun e hmem ↦ ?_⟩
  rcases List.mem_append.mp hmem with hb | hmem
  · exact hds.acyclic e hb
  · rwa [List.mem_singleton.mp hmem]

variable [Document D]

theorem Settled.program (ho : Orderly (before ++ rest))
    (hw : ∀ ds, Separate ds → Maintains ds write past) (hs : Settled before s)
    (hm : ∀ m ∈ programHistory write past (program rest) s, m.WritesNoArray)
    (h : (perform write (program rest)).run s = .ok () s') : Settled (before ++ rest) s' := by
  induction rest generalizing before s with
  | nil =>
    cases h
    rwa [List.append_nil]
  | cons call rest ih =>
    have hsplit : before ++ call :: rest = (before ++ [call]) ++ rest := by simp
    cases call with
    | set p v =>
      simp only [Engine.program, programHistory, List.forall_mem_cons, List.forall_mem_append] at hm
      rw [Engine.program, run_perform_set] at h
      cases hr : (write p v).run s with
      | error e s₁ =>
        simp only [outcome, hr] at h
        cases h
      | ok u s₁ =>
        simp only [outcome, after_of_ok hr, hr] at h hm
        have hs₁ := hs.set (hw _ hs.separate) (ho.sets before p v rest rfl) hm.2.1 hr
        rw [hsplit] at ho ⊢
        exact ih ho hs₁ hm.2.2 h
    | compute d =>
      simp only [Engine.program, programHistory, List.forall_mem_cons, List.forall_mem_append] at hm
      rw [Engine.program, run_perform_compute] at h
      cases hr : (declare write d.target d.value d.sources).run s with
      | error e s₁ =>
        simp only [outcome, hr] at h
        cases h
      | ok u s₁ =>
        simp only [outcome, after_of_ok hr, hr] at h hm
        by_cases hne : d.sources = []
        · -- without sources nothing is declared
          rw [hne, run_declare_nil] at hr
          cases hr
          have he : properties (before ++ [.compute d]) = properties before := by
            simp [properties, hne]
          rw [hsplit] at ho ⊢
          exact ih ho ⟨he ▸ hs.separate, he ▸ hs.serves, he ▸ hs.upToDate⟩ hm.2.2 h
        · have hd := declares_of_run_declare write d.value hne hr
          rw [run_declare write d.value hd] at hr
          simp only [if_pos hd] at hm
          have hds := ho.separate hs.separate hne (Dependencies.not_touches_of_cycleVia hd.2)
          have hs₁ := hs.compute hds (hw _ hds) hne hm.2.1 hr
          rw [hsplit] at ho ⊢
          exact ih ho hs₁ hm.2.2 h

/-- After calls that all succeed, each declared target holds the value that its function gives on
the store as it is then. -/
theorem get?_target_of_run_program {calls : List (Call D)} {s₀ s : Engine D} (ho : Orderly calls)
    (hobs : s₀.observers = ∅) (hfree : s₀.data.ArrayFree)
    (hm : ∀ m ∈ history (program calls) s₀, m.WritesNoArray)
    (h : (run (program calls)).run s₀ = .ok () s) :
    ∀ d ∈ properties calls, s.data.get? d.target = some (d.value s.view) := by
  have hinit : Settled [] s₀ := by
    refine ⟨⟨.nil, ?_, ?_⟩, ⟨?_, hfree⟩, ?_⟩
    · simp [properties]
    · simp [properties]
    · rw [hobs]
      exact Observers.lists_empty
    · simp [properties]
  have ho' : Orderly ([] ++ calls) := ho
  exact (hinit.program ho' (fun _ hds ↦ maintains_assign hds _) hm h).upToDate

end Settled

def Moment.writesScalar (m : Moment D) : Bool :=
  match m.act with
  | .write _ v => !v.isContainer
  | _ => true

theorem Moment.writesNoArray_of_writesScalar {m : Moment D} (h : m.writesScalar) :
    m.WritesNoArray := by
  intro p v hm
  refine Json.arrayFree_of_isContainer ?_
  simpa [Moment.writesScalar, hm] using h

namespace Diamond

def base : Path := ⟨["base"], by decide, by decide⟩

def left : Path := ⟨["left"], by decide, by decide⟩

def right : Path := ⟨["right"], by decide, by decide⟩

def copy (target : Path) : Property Markup :=
  ⟨target, fun s ↦ (s.data.get? base).getD .null, [base]⟩

def alike (p q : Path) : Property Markup where
  target := ⟨["alike"], by decide, by decide⟩
  value s := .bool (Json.displayOption (s.data.get? p) == Json.displayOption (s.data.get? q))
  sources := [p, q]

def diamond : List (Call Markup) :=
  [.compute (copy left), .compute (copy right), .compute (alike left right),
   .set base (.string "a")]

theorem orderly_diamond : Orderly diamond where
  apart := by decide
  reads := by
    have hp : properties diamond = [copy left, copy right, alike left right] := rfl
    simp only [hp, List.forall_mem_cons, List.not_mem_nil, false_implies, implies_true, and_true]
    refine ⟨fun s s' h ↦ ?_, fun s s' h ↦ ?_, fun s s' h ↦ ?_⟩
    · simp only [copy, h base (by decide)]
    · simp only [copy, h base (by decide)]
    · simp only [alike, h left (by decide), h right (by decide)]
  sets before p v rest h := by
    have hb : before = [.compute (copy left), .compute (copy right), .compute (alike left right)] ∧
        p = base := by
      simp [diamond, List.cons_eq_append_iff] at h
      exact ⟨h.1, h.2.1.1⟩
    obtain ⟨rfl, rfl⟩ := hb
    decide

theorem writesNoArray_diamond :
    ∀ m ∈ history (program diamond) (State.init Markup.empty {}), m.WritesNoArray := by
  have h : ∀ m ∈ history (program diamond) (State.init Markup.empty {}), m.writesScalar := by
    decide +kernel
  exact fun m hm ↦ Moment.writesNoArray_of_writesScalar (h m hm)

theorem succeeds_diamond : Succeeds (run (program diamond)) (State.init Markup.empty {}) := by
  decide +kernel

theorem get?_target_of_run_diamond :
    Orderly diamond ∧
      (∀ m ∈ history (program diamond) (State.init Markup.empty {}), m.WritesNoArray) ∧
      ∃ s, (run (program diamond)).run (State.init Markup.empty {}) = .ok () s ∧
        ∀ d ∈ properties diamond, s.data.get? d.target = some (d.value s.view) := by
  obtain ⟨_, s, h⟩ := succeeds_diamond
  have hfree : (State.init Markup.empty {} : Engine Markup).data.ArrayFree := by
    rintro (_ | ⟨s, path⟩) items <;> simp [State.init, Json.getAt?, Json.Members.find?]
  exact ⟨orderly_diamond, writesNoArray_diamond, s, h,
    get?_target_of_run_program orderly_diamond rfl hfree writesNoArray_diamond h⟩

end Diamond

end DataBinding.Engine
