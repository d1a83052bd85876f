import DataBinding.Proofs.Engine.Cascade
import DataBinding.Proofs.Engine.Registry

namespace DataBinding

section Except

variable {α β ε : Type} {f : α → Except ε β}

theorem mapM_eq_ok {l : List α} {bs : List β} (h : l.map f = bs.map .ok) : l.mapM f = .ok bs := by
  induction l generalizing bs with
  | nil =>
    cases bs with
    | nil => rfl
    | cons b bs => cases h
  | cons a l ih =>
    cases bs with
    | nil => cases h
    | cons b bs =>
      obtain ⟨ha, hl⟩ := List.cons.inj h
      rw [List.mapM_cons, ha, ih hl]
      rfl

def AllOk (f : α → Except ε β) (l : List α) : Prop := ∀ a ∈ l, ∃ b, f a = .ok b

theorem mapM_eq_error {before rest : List α} {a : α} {e : ε} (hb : AllOk f before)
    (ha : f a = .error e) : (before ++ a :: rest).mapM f = .error e := by
  induction before with
  | nil =>
    rw [List.nil_append, List.mapM_cons, ha]
    rfl
  | cons b before ih =>
    obtain ⟨⟨c, hc⟩, hb⟩ := List.forall_mem_cons.mp hb
    rw [List.cons_append, List.mapM_cons, hc, ih hb]
    rfl

theorem exists_first_error {l : List α} (h : ∃ a ∈ l, ∃ e, f a = .error e) :
    ∃ before a rest e, l = before ++ a :: rest ∧ AllOk f before ∧ f a = .error e := by
  induction l with
  | nil =>
    obtain ⟨a, ha, -⟩ := h
    cases ha
  | cons b l ih =>
    cases hb : f b with
    | error e => exact ⟨[], b, l, e, rfl, List.forall_mem_nil _, hb⟩
    | ok c =>
      obtain ⟨a, ha, e, he⟩ := h
      have hl : a ∈ l := by
        refine (List.mem_cons.mp ha).resolve_left ?_
        rintro rfl
        rw [hb] at he
        cases he
      obtain ⟨before, a, rest, e, rfl, hbefore, he⟩ := ih ⟨a, hl, e, he⟩
      exact ⟨b :: before, a, rest, e, rfl, List.forall_mem_cons.mpr ⟨⟨c, hb⟩, hbefore⟩, he⟩

end Except

namespace Callback

variable {D : Type} {target : String} {value : View D → Json} {sources : List String}
  {next : Except Error Unit → Callback D}

def pathTexts (target : String) (sources : List String) : List String :=
  target :: sources.filter (!isBlankText ·)

theorem computeText_of_isBlankText (h : isBlankText target) :
    computeText target value sources next = next (.ok ()) := by
  rw [computeText, if_pos h]

theorem computeText_of_ok (ht : ¬ isBlankText target) {t : Path} {ss : List Path}
    (h : (pathTexts target sources).map Path.parse = (t :: ss).map .ok) :
    computeText target value sources next = .compute t value ss next := by
  obtain ⟨hp, hs⟩ := List.cons.inj h
  simp only [computeText, if_neg ht, hp, mapM_eq_ok hs]

theorem computeText_of_error (ht : ¬ isBlankText target) {before rest : List String}
    {text : String} {e : PathError} (hsplit : pathTexts target sources = before ++ text :: rest)
    (hb : AllOk Path.parse before) (he : Path.parse text = .error e) :
    computeText target value sources next = next (.error (.path e)) := by
  cases before with
  | nil =>
    obtain ⟨rfl, -⟩ := List.cons.inj hsplit
    simp only [computeText, if_neg ht, he]
  | cons b before =>
    obtain ⟨rfl, hs⟩ : target = b ∧ sources.filter (!isBlankText ·) = before ++ text :: rest :=
      List.cons.inj hsplit
    obtain ⟨⟨t, hp⟩, hb⟩ := List.forall_mem_cons.mp hb
    simp only [computeText, if_neg ht, hp, hs, mapM_eq_error hb he]

end Callback

namespace Engine

variable {D : Type}

/-- What a declaration adds to an engine: one edge, and the same update once for each source, after
the callbacks that the source has. -/
structure Registers (target : Path) (value : View D → Json) (sources : List Path)
    (s s' : Engine D) : Prop where
  frame : s' = { s with computed := s'.computed, observers := s'.observers }
  edges : s'.computed.edges = s.computed.edges ++ [(target, sources)]
  callbacks : ∀ q, s'.observers.callbacksOn q =
    s.observers.callbacksOn q ++ List.replicate (sources.count q) (recompute target value)

theorem callbacksOn_foldl_observe (o : Observers (Callback D)) (c : Callback D)
    (sources : List Path) (q : Path) :
    (sources.foldl (fun o p ↦ o.observe p c) o).callbacksOn q =
      o.callbacksOn q ++ List.replicate (sources.count q) c := by
  induction sources generalizing o with
  | nil => simp
  | cons p sources ih =>
    rw [List.foldl_cons, ih, Observers.callbacksOn_observe, List.append_assoc, List.count_cons]
    by_cases hp : p = q
    · simp [hp, List.replicate_succ]
    · simp [hp]

theorem registers_declared (target : Path) (value : View D → Json) (sources : List Path)
    (s : Engine D) : Registers target value sources s (declared target value sources s) where
  frame := rfl
  edges := rfl
  callbacks := callbacksOn_foldl_observe s.observers (recompute target value) sources

/-- What is declared and registered stays. -/
structure Retains (s s' : Engine D) : Prop where
  edges : s.computed.edges <+: s'.computed.edges
  callbacks : ∀ q, s.observers.callbacksOn q <+: s'.observers.callbacksOn q

theorem Retains.refl (s : Engine D) : Retains s s :=
  ⟨List.prefix_refl _, fun _ ↦ List.prefix_refl _⟩

theorem Retains.trans {s s' s'' : Engine D} (h : Retains s s') (h' : Retains s' s'') :
    Retains s s'' :=
  ⟨h.edges.trans h'.edges, fun q ↦ (h.callbacks q).trans (h'.callbacks q)⟩

theorem Retains.of_eq {s s' : Engine D} (hc : s'.computed = s.computed)
    (ho : s'.observers = s.observers) : Retains s s' := by
  refine ⟨?_, fun q ↦ ?_⟩
  · rw [hc]
  · rw [ho]

theorem Registers.retains {target : Path} {value : View D → Json} {sources : List Path}
    {s s' : Engine D} (h : Registers target value sources s s') : Retains s s' :=
  ⟨h.edges ▸ List.prefix_append _ _, fun q ↦ h.callbacks q ▸ List.prefix_append _ _⟩

theorem retains_observe (s : Engine D) (p : Path) (c : Callback D) :
    Retains s { s with observers := s.observers.observe p c } :=
  ⟨List.prefix_refl _, fun q ↦ s.observers.callbacksOn_observe p c q ▸ List.prefix_append _ _⟩

variable [Document D]

theorem keeps_retains (s₀ : Engine D) : Keeps (Retains s₀) fun _ ↦ True where
  note _ _ h := h.trans (.of_eq rfl rfl)
  observe s p c h := h.trans (retains_observe s p c)
  declare s target value sources h := h.trans (registers_declared target value sources s).retains
  edit _ _ h := h.trans (.of_eq rfl rfl)
  define _ _ _ h := h.trans (.of_eq rfl rfl)
  scan s _ h := h.trans (.of_eq (rebinds_scan s).computed (rebinds_scan s).observers)
  refresh s p v _ _ h :=
    have hr := rebinds_refresh p (stored p v s)
    h.trans (.of_eq hr.computed hr.observers)
  leave _ h := h.trans (.of_eq rfl rfl)

theorem retains_assign (n : Nat) (p : Path) (v : Json) (s : Engine D) :
    Retains s (after (assign n p v) s) :=
  ((keeps_retains s).assign n p v s (.refl s) fun _ _ ↦ trivial).1

theorem run_returning (o : Except Error Unit) (s : Engine D) :
    (run (returning o)).run s =
      match o with
      | .ok () => .ok () s
      | .error e => .error e s := by
  cases o <;> rfl

theorem run_compute_returning (target : Path) (value : View D → Json) (sources : List Path)
    (s : Engine D) :
    (run (.compute target value sources returning)).run s =
      (declare (assign (s.options.maxDispatchDepth - s.depth)) target value sources).run s := by
  change (perform _ (.compute target value sources returning)).run s = _
  rw [run_perform_compute, outcome, after]
  cases (declare (assign (s.options.maxDispatchDepth - s.depth)) target value sources).run s <;> rfl

/-- A declaration in any state of an engine. One with a blank target does nothing. If a text that it
reads as a path is none, it fails with the first such error, and if the new property would feed
itself, with that; both leave the engine as it is. Otherwise the property is declared and registered
with its sources, and then computed for the first time, which takes nothing of that back, whether it
fails or not. -/
theorem registers_or_unchanged (s : Engine D) (target : String) (value : View D → Json)
    (sources : List String) :
    let call := run (.computeText target value sources returning)
    let texts := Callback.pathTexts target sources
    (Callback.isBlankText target → call.run s = .ok () s) ∧
      (¬ Callback.isBlankText target →
        ((∃ text ∈ texts, ∃ e, Path.parse text = .error e) →
          ∃ before text rest e, texts = before ++ text :: rest ∧ AllOk Path.parse before ∧
            Path.parse text = .error e ∧ call.run s = .error (.path e) s) ∧
        ∀ t ss, texts.map Path.parse = (t :: ss).map .ok →
          (ss = [] → call.run s = .ok () s) ∧
          (ss ≠ [] →
            (∀ source, s.computed.cycleVia t ss = some source →
              call.run s = .error (.cyclicCompute t source) s) ∧
            (s.computed.cycleVia t ss = none →
              ∃ s₁, Registers t value ss s s₁ ∧
                call.run s =
                  (assign (s.options.maxDispatchDepth - s.depth) t (value s₁.view)).run s₁ ∧
                Retains s₁ (after call s)))) := by
  intro call texts
  refine ⟨fun ht ↦ ?_, fun ht ↦ ⟨fun hbad ↦ ?_, fun t ss hgood ↦ ?_⟩⟩
  · simp only [call, Callback.computeText_of_isBlankText ht, run_returning]
  · obtain ⟨before, text, rest, e, hsplit, hb, he⟩ := exists_first_error hbad
    refine ⟨before, text, rest, e, hsplit, hb, he, ?_⟩
    simp only [call, Callback.computeText_of_error ht hsplit hb he, run_returning]
  · have hcall : call.run s =
        (declare (assign (s.options.maxDispatchDepth - s.depth)) t value ss).run s := by
      simp only [call, Callback.computeText_of_ok ht hgood, run_compute_returning]
    refine ⟨?_, fun hne ↦ ⟨fun source hc ↦ ?_, fun hc ↦ ?_⟩⟩
    · rintro rfl
      exact hcall
    · exact hcall.trans (run_declare_cyclic _ value hne hc)
    · have hfirst := hcall.trans (run_declare _ value ⟨hne, hc⟩)
      refine ⟨declared t value ss s, registers_declared t value ss s, hfirst, ?_⟩
      rw [after_congr hfirst]
      exact retains_assign _ t _ _

def total : Path := ⟨["total"], by decide, by decide⟩

def price : Path := ⟨["price"], by decide, by decide⟩

theorem registers_or_unchanged_twice :
    let s : Engine Markup := State.init .empty {}
    let twice := run (.computeText "total" (fun _ ↦ .null) ["price", " ", "price"] returning)
    let broken := run (.computeText "total" (fun _ ↦ .null) ["price", "b..c"] returning)
    (∃ s₁, s₁.computed.edges = [(total, [price, price])] ∧
        (s₁.observers.callbacksOn price).length = 2 ∧ Retains s₁ (after twice s)) ∧
      ∃ e, broken.run s = .error e s := by
  intro s twice broken
  obtain ⟨-, htwice⟩ := registers_or_unchanged s "total" (fun _ ↦ .null) ["price", " ", "price"]
  obtain ⟨-, hbroken⟩ := registers_or_unchanged s "total" (fun _ ↦ .null) ["price", "b..c"]
  constructor
  · have hmade := ((htwice (by decide)).2 total [price, price] (by rfl)).2 (by simp)
    obtain ⟨s₁, hs₁, -, hkeep⟩ := hmade.2 (by decide +kernel)
    refine ⟨s₁, hs₁.edges, ?_, hkeep⟩
    rw [hs₁.callbacks]
    decide
  · obtain ⟨_, _, _, e, -, -, -, hrun⟩ :=
      (hbroken (by decide)).1 ⟨"b..c", by decide, .emptySegment "b..c", by rfl⟩
    exact ⟨.path e, hrun⟩

/-- A blank target hides that a source is no path. -/
theorem blank_target_hides_path_error :
    ¬ ∀ (s : Engine Markup) (target : String) (value : View Markup → Json) (sources : List String),
      (∃ text ∈ target :: sources, ¬ Callback.isBlankText text ∧
        ∃ e, Path.parse text = .error e) →
      ∃ e s', (run (.computeText target value sources returning)).run s = .error (.path e) s' := by
  intro h
  obtain ⟨e, s', hrun⟩ := h (State.init .empty {}) "" (fun _ ↦ .null) ["a..b"]
    ⟨"a..b", by simp, by decide, .emptySegment "a..b", by rfl⟩
  rw [Callback.computeText_of_isBlankText (by decide)] at hrun
  cases hrun

end Engine

end DataBinding
