import DataBinding.Proofs.Engine.Acceptance
import DataBinding.Proofs.Engine.Depth
import DataBinding.Proofs.Engine.Observers
import Mathlib.Data.Finset.Card
import Mathlib.Data.Finset.Dedup

namespace DataBinding

namespace Dependencies

open Relation

variable {g : Dependencies} {target : Path} {sources : List Path} {x y : Path}

def targets (g : Dependencies) : Finset Path := (g.edges.map (·.1)).toFinset

open Classical in
/-- The targets that a write to `x` comes to recompute. -/
noncomputable def downstream (g : Dependencies) (x : Path) : Finset Path :=
  g.targets.filter (TransGen g.Feeds x)

theorem mem_targets_of_transGen (h : TransGen g.Feeds x y) : y ∈ g.targets := by
  obtain ⟨_, -, inputs, hm, -⟩ := TransGen.tail'_iff.mp h
  exact List.mem_toFinset.mpr (List.mem_map_of_mem hm)

theorem mem_downstream : y ∈ g.downstream x ↔ TransGen g.Feeds x y := by
  simp only [downstream, Finset.mem_filter, and_iff_right_iff_imp]
  exact mem_targets_of_transGen

theorem card_downstream_le (g : Dependencies) (x : Path) :
    (g.downstream x).card ≤ g.targets.card :=
  Finset.card_le_card fun _ ht ↦ mem_targets_of_transGen (mem_downstream.mp ht)

theorem mem_targets_insert :
    x ∈ (g.insert target sources).targets ↔ x = target ∨ x ∈ g.targets := by
  simp only [targets, insert, List.map_append, List.map_cons, List.map_nil, List.mem_toFinset,
    List.mem_append, List.mem_singleton]
  exact or_comm

theorem Acyclic.card_downstream_lt (hg : g.Acyclic) (h : g.Feeds x y) :
    (g.downstream y).card < (g.downstream x).card := by
  refine Finset.card_lt_card ⟨fun z hz ↦ ?_, fun hsub ↦ ?_⟩
  · exact mem_downstream.mpr (.head h (mem_downstream.mp hz))
  -- only the larger set holds `y`
  · exact hg y (mem_downstream.mp (hsub (mem_downstream.mpr (.single h))))

theorem Acyclic.card_downstream_insert_le (hg : (g.insert target sources).Acyclic) :
    ((g.insert target sources).downstream target).card ≤ g.targets.card := by
  refine Finset.card_le_card fun t ht ↦ ?_
  have hreach := mem_downstream.mp ht
  refine (mem_targets_insert.mp (mem_targets_of_transGen hreach)).resolve_left ?_
  rintro rfl
  exact hg t hreach

end Dependencies

def Admits {α : Type} (E : Error → Prop) (o : Except Error α) : Prop := ∀ e, o = .error e → E e

/-- A program that registers nothing, writes to paths of a kind only and fails with errors of a kind
only, as long as its actions do so. -/
def Callback.Confined {D : Type} (P : Path → Prop) (E : Error → Prop) : Callback D → Prop
  | .done => True
  | .fail e => E e
  | .note _ next | .defineFilter _ next | .edit _ next => next.Confined P E
  | .inspect next => ∀ s, (next s).Confined P E
  | .set p _ next => P p ∧ ∀ o, Admits E o → (next o).Confined P E
  | .scan next => ∀ o, Admits E o → (next o).Confined P E
  | .observe _ _ _ | .compute _ _ _ _ => False

namespace Engine

variable {D : Type}

structure Computes (s : Engine D) : Prop where
  acyclic : s.computed.Acyclic
  registered : ∃ L, s.observers.Lists L ∧ ∀ q c, (q, c) ∈ L → ∃ target value,
    c = recompute target value ∧ ∃ sources, (target, sources) ∈ s.computed.edges ∧ q ∈ sources

theorem Computes.init (document : D) (options : Options) :
    Computes (State.init document options) where
  acyclic := Dependencies.acyclic_empty
  registered := ⟨[], Observers.lists_empty, fun _ _ h ↦ absurd h List.not_mem_nil⟩

theorem Computes.of_eq {s s' : Engine D} (h : Computes s) (ho : s'.observers = s.observers)
    (hc : s'.computed = s.computed) : Computes s' := by
  obtain ⟨hg, L, hl, hL⟩ := h
  exact ⟨hc ▸ hg, L, ho ▸ hl, hc ▸ hL⟩

theorem Computes.exists_feeds {s : Engine D} (h : Computes s) {p : Path} {c : Callback D}
    (hc : c ∈ s.observers.relatedTo p) :
    ∃ target value, c = recompute target value ∧ s.computed.Feeds p target := by
  obtain ⟨-, L, hl, hL⟩ := h
  obtain ⟨q, hq, hr⟩ := hl.mem_relatedTo.mp hc
  obtain ⟨target, value, rfl, sources, hm, hs⟩ := hL q c hq
  exact ⟨target, value, rfl, sources, hm, q, hs, hr⟩

theorem Computes.declared {s : Engine D} (h : Computes s) {target : Path} {sources : List Path}
    (value : View D → Json) (hd : Declares target sources s) :
    Computes (declared target value sources s) := by
  obtain ⟨hg, L, hl, hL⟩ := h
  refine ⟨hg.insert_iff.mpr hd.2, L ++ sources.map (·, recompute target value), ?_, ?_⟩
  · have hall := hl.observeAll (sources.map (·, recompute target value))
    rwa [List.foldl_map] at hall
  · intro q c hq
    rcases List.mem_append.mp hq with hq | hq
    · obtain ⟨t, f, hc, inputs, hm, hi⟩ := hL q c hq
      exact ⟨t, f, hc, inputs, List.mem_append_left _ hm, hi⟩
    · obtain ⟨source, hs, he⟩ := List.mem_map.mp hq
      cases he
      exact ⟨target, value, rfl, sources, List.mem_append_right _ (List.mem_singleton_self _), hs⟩

def returning : Except Error Unit → Callback D
  | .ok () => .done
  | .error e => .fail e

theorem confined_returning {P : Path → Prop} {E : Error → Prop} {o : Except Error Unit}
    (h : Admits E o) : (returning o : Callback D).Confined P E := by
  cases o with
  | ok u => trivial
  | error e => exact h e rfl

theorem confined_recompute {P : Path → Prop} {E : Error → Prop} {target : Path}
    (value : View D → Json) (h : P target) : (recompute target value).Confined P E :=
  fun _ ↦ ⟨h, fun _ ho ↦ confined_returning ho⟩

namespace Machine

open StateTransition

/-- Writes beyond the limit fail only if the limit is at most `N`. -/
def Excused (limit N : Nat) : Error → Prop
  | .dispatchDepth _ _ => limit ≤ N
  | _ => True

theorem excused_of_isRendering {limit N : Nat} {e : Error} (h : IsRendering e) :
    Excused limit N e := by
  cases e with
  | dispatchDepth _ _ => exact h.elim
  | path _ | binding _ | filter _ | cyclicCompute _ _ => trivial

/-- Inside `m` writes, one to `p` leaves room for as many more as there are targets downstream. -/
def Room (g : Dependencies) (N m : Nat) (p : Path) : Prop := (g.downstream p).card + m ≤ N

section Fits

variable (g : Dependencies) (N limit : Nat)

/-- What waits goes on within the room that is left inside the writes below it. -/
def FrameFits (below : List (Frame D)) : Frame D → Prop
  | .resume next =>
    ∀ o, Admits (Excused limit N) o →
      (next o).Confined (Room g N (writing below).length) (Excused limit N)
  | .dispatch cs => ∀ c ∈ cs, c.Confined (Room g N (writing below).length) (Excused limit N)
  | .leave _ => True

def StackFits : List (Frame D) → Prop
  | [] => True
  | frame :: stack => FrameFits g N limit stack frame ∧ StackFits stack

def ControlFits (stack : List (Frame D)) : Control D → Prop
  | .run c => c.Confined (Room g N (writing stack).length) (Excused limit N)
  | .write p _ => Room g N (writing stack).length p
  -- the write to `p` is on the stack by now
  | .refresh p => (g.downstream p).card + (writing stack).length ≤ N + 1
  | .answer o => Admits (Excused limit N) o

end Fits

/-- In a run from an engine `s₀` whose observers are those of its computed properties, every write
has room for those that it sets off. -/
structure Cascades (s₀ : Engine D) (N : Nat) (k : Config D) : Prop where
  observers : k.state.observers = s₀.observers
  computed : k.state.computed = s₀.computed
  bounded : (writing k.stack).length ≤ N + 1
  control : ControlFits s₀.computed N s₀.options.maxDispatchDepth k.stack k.control
  stack : StackFits s₀.computed N s₀.options.maxDispatchDepth k.stack

variable {s₀ : Engine D} {N : Nat} {k k' : Config D}

theorem Cascades.length_calls_le (h : Cascades s₀ N k) : k.calls.length ≤ 1 + N := by
  obtain ⟨control, stack, s⟩ := k
  have hb := h.bounded
  have hc := h.control
  cases control with
  | run _ | refresh _ | answer _ =>
    simp only [Config.calls] at hb ⊢
    omega
  | write p v =>
    simp only [Config.calls, ControlFits, Room, List.length_cons] at hc ⊢
    omega

theorem Cascades.keep {control : Control D} {stack stack' : List (Frame D)} {s s' : Engine D}
    (h : Cascades s₀ N ⟨control, stack, s⟩) {control' : Control D}
    (ho : s'.observers = s.observers) (hc : s'.computed = s.computed)
    (hw : writing stack' = writing stack)
    (hcontrol : ControlFits s₀.computed N s₀.options.maxDispatchDepth stack' control')
    (hstack : StackFits s₀.computed N s₀.options.maxDispatchDepth stack') :
    Cascades s₀ N ⟨control', stack', s'⟩ where
  observers := ho.trans h.observers
  computed := hc.trans h.computed
  bounded := by
    rw [hw]
    exact h.bounded
  control := hcontrol
  stack := hstack

theorem Cascades.pass {o : Except Error Unit} {frame : Frame D} {stack : List (Frame D)}
    {s : Engine D} (h : Cascades s₀ N ⟨.answer o, frame :: stack, s⟩) :
    Cascades s₀ N (pass o stack s frame) := by
  obtain ⟨hframe, hstack⟩ := h.stack
  cases frame with
  | resume next => exact h.keep rfl rfl rfl (hframe o h.control) hstack
  | dispatch cs =>
    simp only [Machine.pass]
    split
    · obtain ⟨hc, hcs⟩ := List.forall_mem_cons.mp hframe
      exact h.keep rfl rfl rfl hc ⟨hcs, hstack⟩
    · exact h.keep rfl rfl rfl h.control hstack
  | leave p =>
    have hb := h.bounded
    simp only [writing_leave, List.length_cons] at hb
    exact ⟨h.observers, h.computed, Nat.le_of_succ_le hb, h.control, hstack⟩

theorem confined_of_mem_relatedTo (hs : Computes s₀) {stack : List (Frame D)} {p : Path}
    (hp : (s₀.computed.downstream p).card + (writing stack).length ≤ N + 1) :
    ∀ c ∈ s₀.observers.relatedTo p,
      c.Confined (Room s₀.computed N (writing stack).length)
        (Excused s₀.options.maxDispatchDepth N) := by
  intro c hc
  obtain ⟨target, value, rfl, hf⟩ := hs.exists_feeds hc
  have hlt := hs.acyclic.card_downstream_lt hf
  refine confined_recompute value ?_
  rw [Room]
  omega

variable [Document D]

theorem Cascades.act {c : Callback D} {stack : List (Frame D)} {s : Engine D}
    (h : Cascades s₀ N ⟨.run c, stack, s⟩) : Cascades s₀ N (act stack s c) := by
  have hc := h.control
  cases c with
  | done => exact h.keep rfl rfl rfl (fun _ he ↦ by cases he) h.stack
  | fail e =>
    refine h.keep rfl rfl rfl (fun e' he ↦ ?_) h.stack
    cases he
    exact hc
  | note _ _ | defineFilter _ _ | edit _ _ => exact h.keep rfl rfl rfl hc h.stack
  | inspect next => exact h.keep rfl rfl rfl (hc s.view) h.stack
  | set p v next => exact h.keep rfl rfl rfl hc.1 ⟨hc.2, h.stack⟩
  | scan next =>
    have hr := rebinds_scan s
    have ho : Admits (Excused s₀.options.maxDispatchDepth N) (outcome scan s) :=
      fun e he ↦ excused_of_isRendering (failsWith_scan.outcome he)
    exact h.keep hr.observers hr.computed rfl (hc _ ho) h.stack
  | observe _ _ _ | compute _ _ _ _ => exact hc.elim

theorem Cascades.step (h : Cascades s₀ N k) (hs : Computes s₀) (hrest : s₀.depth = 0)
    (hb : Balanced s₀ k) (hk : k' ∈ step k) : Cascades s₀ N k' := by
  obtain ⟨control, stack, s⟩ := k
  cases control with
  | run c =>
    cases hk
    exact h.act
  | write p v =>
    have hroom := h.control
    simp only [ControlFits, Room] at hroom
    by_cases hlt : s.depth < s.options.maxDispatchDepth
    · rw [step_write_of_lt hlt] at hk
      cases hk
      refine ⟨h.observers, h.computed, ?_, ?_, ⟨trivial, h.stack⟩⟩
      · simp only [writing_leave, List.length_cons]
        omega
      · simp only [ControlFits, writing_leave, List.length_cons]
        omega
    · rw [step_write_of_le (Nat.not_lt.mp hlt)] at hk
      cases hk
      -- as many writes are in progress as the limit admits, and there is room for one more
      refine h.keep rfl rfl rfl (fun e he ↦ ?_) h.stack
      cases he
      have hd := hb.depth
      have ho := hb.options
      simp only [hrest] at hd ho
      rw [ho] at hlt
      simp only [Excused]
      omega
  | refresh p =>
    obtain ⟨s', hr, rfl | ⟨e, he, rfl⟩⟩ := step_refresh_cases hk
    · have hobs := hr.observers.trans h.observers
      refine h.keep hr.observers hr.computed rfl (fun e he ↦ by cases he) ⟨?_, h.stack⟩
      exact hobs ▸ confined_of_mem_relatedTo hs h.control
    · refine h.keep hr.observers hr.computed rfl (fun e' he' ↦ ?_) h.stack
      cases he'
      exact excused_of_isRendering he
  | answer o =>
    cases stack with
    | nil => cases hk
    | cons frame stack =>
      cases hk
      exact h.pass

theorem Cascades.reaches (h : Cascades s₀ N k) (hs : Computes s₀) (hrest : s₀.depth = 0)
    (hb : Balanced s₀ k) (hk : Reaches Machine.step k k') : Cascades s₀ N k' := by
  induction hk with
  | refl => exact h
  | tail hk hstep ih => exact ih.step hs hrest (hb.reaches hk) hstep

/-- What a call does cascades, at the latest after its first step and in the engine that this step
leaves. -/
def Contained (c : Callback D) (s : Engine D) : Prop :=
  ∃ s₀, Computes s₀ ∧ s₀.options = s.options ∧ ∀ k, Reaches step (start c s) k →
    k = start c s ∨ Cascades s₀ s.computed.targets.card k

variable {c : Callback D} {s : Engine D}

theorem cascades_of_confined (hs : Computes s) (hrest : s.depth = 0)
    (hc : c.Confined (Room s.computed N 0) (Excused s.options.maxDispatchDepth N))
    (hk : Reaches step (start c s) k) : Cascades s N k := by
  have h : Cascades s N (start c s) := ⟨rfl, rfl, Nat.zero_le _, hc, trivial⟩
  exact h.reaches hs hrest (Balanced.start _ s) hk

theorem contained_of_confined (hs : Computes s) (hrest : s.depth = 0)
    (hc : c.Confined (Room s.computed s.computed.targets.card 0)
      (Excused s.options.maxDispatchDepth s.computed.targets.card)) : Contained c s :=
  ⟨s, hs, rfl, fun _ hk ↦ .inr (cascades_of_confined hs hrest hc hk)⟩

theorem contained_compute (target : Path) (value : View D → Json) (sources : List Path)
    (hs : Computes s) (hrest : s.depth = 0) :
    Contained (.compute target value sources returning) s := by
  by_cases hd : Declares target sources s
  -- the first write is made by an engine that has the new target, which its cascade cannot reach
  · have hs₀ := hs.declared value hd
    refine ⟨declared target value sources s, hs₀, rfl, fun k hk ↦ ?_⟩
    rcases hk.cases_head with rfl | ⟨k₁, h₁, hk⟩
    · exact .inl rfl
    · have he := Option.some.inj (h₁.symm.trans (congrArg some (act_compute hd)))
      subst he
      refine .inr (Cascades.reaches ⟨rfl, rfl, Nat.zero_le _, ?_, ?_⟩ hs₀ hrest ?_ hk)
      · exact hs₀.acyclic.card_downstream_insert_le
      · exact ⟨fun o ho ↦ confined_returning ho, trivial⟩
      · exact ⟨rfl, rfl, Nat.zero_le _⟩
  · refine ⟨s, hs, rfl, fun k hk ↦ ?_⟩
    rcases hk.cases_head with rfl | ⟨k₁, h₁, hk⟩
    · exact .inl rfl
    · obtain ⟨o, ho, hor⟩ := act_compute_of_not hd
      have he := Option.some.inj (h₁.symm.trans (congrArg some ho))
      subst he
      refine .inr (cascades_of_confined hs hrest (confined_returning fun e he ↦ ?_) hk)
      rcases hor with rfl | ⟨source, rfl⟩
      · cases he
      · cases he
        trivial

theorem Contained.length_calls_le (h : Contained c s) (hk : Reaches step (start c s) k) :
    k.calls.length ≤ 1 + s.computed.targets.card := by
  obtain ⟨s₀, -, -, hall⟩ := h
  rcases hall k hk with rfl | hc
  · exact Nat.zero_le _
  · exact hc.length_calls_le

theorem Contained.cascades_end (h : Contained c s) :
    ∃ s₀, Computes s₀ ∧ s₀.options = s.options ∧
      Cascades s₀ s.computed.targets.card ⟨.answer (outcome (run c) s), [], after (run c) s⟩ := by
  obtain ⟨s₀, hs₀, ho, hall⟩ := h
  refine ⟨s₀, hs₀, ho, (hall _ (answers_run c s [])).resolve_left fun he ↦ ?_⟩
  cases congrArg Config.control he

theorem Contained.computes (h : Contained c s) : Computes (after (run c) s) := by
  obtain ⟨s₀, hs₀, -, hc⟩ := h.cascades_end
  exact hs₀.of_eq hc.observers hc.computed

theorem Contained.outcome_ne (h : Contained c s)
    (hN : 1 + s.computed.targets.card ≤ s.options.maxDispatchDepth) (limit : Nat) (p : Path) :
    outcome (run c) s ≠ .error (.dispatchDepth limit p) := by
  intro he
  obtain ⟨s₀, -, ho, hc⟩ := h.cascades_end
  have hle := hc.control _ he
  rw [Excused, ho] at hle
  omega

end Machine

end Engine

end DataBinding
