import DataBinding.Proofs.Engine.History
import DataBinding.Proofs.Engine.Refresh

namespace DataBinding

/-- The notes in the journal, the last one first. -/
def State.notes {D κ : Type} (s : State D κ) : List Json :=
  s.journal.filterMap fun
    | .noted entry => some entry
    | .wrote _ => none

namespace Engine

variable {D : Type}

def Moment.note? (m : Moment D) : Option Json :=
  match m.act with
  | .run (.note entry _) => some entry
  | _ => none

theorem Rebinds.notes {s s' : Engine D} (h : Rebinds s s') : s'.notes = s.notes := by
  obtain ⟨_, _, _, writes, rfl⟩ := h
  simp [State.notes, List.filterMap_append]

def Recounts (past : Engine D → List (Moment D)) (x : EngineM D Unit) : Prop :=
  ∀ s, (after x s).notes = ((past s).filterMap Moment.note?).reverse ++ s.notes

theorem Recounts.dispatch {run : Callback D → EngineM D Unit}
    {past : Callback D → Engine D → List (Moment D)} (hr : ∀ c, Recounts (past c) (run c))
    (cs : List (Callback D)) : Recounts (dispatchHistory run past cs) (cs.forM run) := by
  intro s
  induction cs generalizing s with
  | nil => rfl
  | cons c cs ih =>
    have hc := hr c s
    rw [after, run_forM_cons]
    simp only [dispatchHistory]
    cases hrun : (run c).run s with
    | error e s₁ =>
      rw [after_of_error hrun] at hc
      rw [List.append_nil]
      exact hc
    | ok u s₁ =>
      have hcs := ih s₁
      rw [after_of_ok hrun] at hc
      rw [hc, after] at hcs
      simp only [List.filterMap_append, List.reverse_append, List.append_assoc]
      exact hcs

variable [Document D]

theorem Recounts.program {write : Path → Json → EngineM D Unit}
    {past : Path → Json → Engine D → List (Moment D)}
    (hw : ∀ p v, Recounts (past p v) (write p v)) (c : Callback D) :
    Recounts (programHistory write past c) (perform write c) := by
  intro s
  induction c generalizing s with
  | done | fail _ => rfl
  | note entry next ih =>
    have h := ih (s.record (.noted entry))
    simp only [programHistory, List.filterMap_cons, Moment.note?, List.reverse_cons,
      List.append_assoc]
    exact h
  | inspect next ih => exact ih s.view s
  | set p v next ih =>
    rw [after_congr (run_perform_set write p v next s), ih, hw, programHistory,
      List.filterMap_cons_none rfl, List.filterMap_append, List.reverse_append, List.append_assoc]
  | observe p callback next _ ih => exact ih { s with observers := s.observers.observe p callback }
  | compute target value sources next ih =>
    rw [after_congr (run_perform_compute write target value sources next s), ih, programHistory,
      List.filterMap_cons_none rfl, List.filterMap_append, List.reverse_append, List.append_assoc]
    congr 1
    by_cases hd : Declares target sources s
    · rw [if_pos hd, after_congr (run_declare write value hd), hw]
      rfl
    · rw [if_neg hd, after_declare_of_not write value hd]
      rfl
  | scan next ih =>
    rw [after_congr (run_perform_scan write next s), ih, (rebinds_scan s).notes]
    rfl
  | defineFilter f next ih => exact ih { s with filters := s.filters.define f }
  | edit change next ih => exact ih { s with document := change s.document }

theorem recounts_assign (n : Nat) (p : Path) (v : Json) :
    Recounts (D := D) (assignHistory n p v) (assign n p v) := by
  induction n generalizing p v with
  | zero => exact fun _ ↦ rfl
  | succ n ih =>
    intro s
    have hb := (rebinds_refresh p (stored p v s)).notes
    rw [after, run_assign]
    simp only [assignHistory]
    cases hr : (refresh p).run (stored p v s) with
    | error e s₁ =>
      rw [after_of_error hr] at hb
      exact hb
    | ok u s₁ =>
      rw [after_of_ok hr] at hb
      have hd := Recounts.dispatch (Recounts.program ih) (s₁.observers.relatedTo p) s₁
      rw [hb, after] at hd
      simp only
      cases hf : ((s₁.observers.relatedTo p).forM (perform (assign n))).run s₁ with
      | error e s₂ =>
        rw [hf] at hd
        exact hd
      | ok u s₂ =>
        rw [hf] at hd
        exact hd

theorem recounts_run (c : Callback D) : Recounts (history c) (run c) :=
  fun s ↦ Recounts.program (recounts_assign (s.options.maxDispatchDepth - s.depth)) c s

end Engine

end DataBinding
