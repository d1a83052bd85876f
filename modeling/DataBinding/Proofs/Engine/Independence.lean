import DataBinding.Proofs.Engine.Depth
import DataBinding.Proofs.Engine.Lockstep

namespace DataBinding

open Engine Machine StateTransition

inductive StoreCall where
  | set (path : String) (v : Json)
  | get (path : String)
  | observe (path : String) (callback : Plan)
  | compute (target : String) (value : Json → Json) (sources : List String)

inductive Reply where
  | value (v : Option Json)
  | outcome (o : Except Error Unit)

/-- What an engine tells of a call: what comes back, the callbacks that were called in the course of
it, and the store and the notes after it. -/
structure Account where
  reply : Reply
  invoked : List (Invocation Plan)
  data : Json
  notes : List Json

namespace StoreCall

variable {D : Type}

def program (D : Type) : StoreCall → Callback D
  | set path v => .setText path v returning
  | get _ => .done
  | observe path callback => .observeText path (callback.program D) returning
  | compute target value sources =>
    .computeText target (fun s ↦ value s.data) sources returning

def plan : StoreCall → Plan
  | set path v => .setText path v Plan.returning
  | get _ => .done
  | observe path callback => .observeText path callback Plan.returning
  | compute target value sources => .computeText target value sources Plan.returning

theorem program_plan (call : StoreCall) : call.plan.program D = call.program D := by
  cases call with
  | set path v => simp only [plan, program, Plan.program_setText, Plan.program_returning]
  | get path => rfl
  | observe path callback =>
    simp only [plan, program, Plan.program_observeText, Plan.program_returning]
  | compute target value sources =>
    simp only [plan, program, Plan.program_computeText, Plan.program_returning]

variable [Document D]

def reply (s : Engine D) (call : StoreCall) : Reply :=
  match call with
  | get path => .value (s.get? path)
  | _ => .outcome (outcome (run (call.program D)) s)

def next (s : Engine D) (call : StoreCall) : Engine D := after (run (call.program D)) s

structure Tells (s : Engine D) (call : StoreCall) (account : Account) : Prop where
  reply : account.reply = call.reply s
  data : account.data = (call.next s).data
  notes : account.notes = (call.next s).notes
  invoked : ∃ passed,
    Passes (start (call.program D) s) passed
        ⟨.answer (outcome (run (call.program D)) s), [], call.next s⟩ ∧
      allInvocations passed = account.invoked.map (·.map (Plan.program D))

def Undisturbed (s : Engine D) (call : StoreCall) : Prop :=
  ∀ k, Reaches step (start (call.program D) s) k → k.Calm

theorem exists_tells {D₁ D₂ : Type} [Document D₁] [Document D₂] {s₁ : Engine D₁} {s₂ : Engine D₂}
    (hs : Alike s₁ s₂) {call : StoreCall} (h₁ : call.Undisturbed s₁) (h₂ : call.Undisturbed s₂) :
    Alike (call.next s₁) (call.next s₂) ∧
      ∃ account, call.Tells s₁ account ∧ call.Tells s₂ account := by
  obtain ⟨passed₁, hp₁⟩ := exists_passes (answers_run (call.program D₁) s₁ [])
  obtain ⟨passed₂, hp₂⟩ := exists_passes (answers_run (call.program D₂) s₂ [])
  have hstart : Config.Alike (start (call.program D₁) s₁) (start (call.program D₂) s₂) := by
    rw [← program_plan, ← program_plan]
    exact ⟨.run call.plan, .nil, hs⟩
  obtain ⟨ho, hs', made, hm₁, hm₂⟩ := hstart.passes hp₁ hp₂
    (fun k hk ↦ h₁ k (hp₁.reaches_of_mem hk)) (fun k hk ↦ h₂ k (hp₂.reaches_of_mem hk))
  have hreply : call.reply s₁ = call.reply s₂ := by
    cases call with
    | get path => exact congrArg Reply.value (hs.get? path)
    | set _ _ | observe _ _ | compute _ _ _ => exact congrArg Reply.outcome ho
  exact ⟨hs', ⟨call.reply s₁, made, (call.next s₁).data, (call.next s₁).notes⟩,
    ⟨rfl, rfl, rfl, passed₁, hp₁, hm₁⟩, ⟨hreply, hs'.data, hs'.notes, passed₂, hp₂, hm₂⟩⟩

theorem Tells.unique [Nonempty D] {s : Engine D} {call : StoreCall} {a b : Account}
    (ha : call.Tells s a) (hb : call.Tells s b) : a = b := by
  obtain ⟨passed, hp, hm⟩ := ha.invoked
  obtain ⟨passed', hp', hm'⟩ := hb.invoked
  have hinvoked : a.invoked = b.invoked := by
    have hinj : Function.Injective (Plan.program D) := Plan.program_injective
    refine List.map_injective_iff.mpr (Invocation.map_injective hinj) ?_
    rw [← hm, ← hm', hp.unique hp']
  obtain ⟨reply, invoked, data, notes⟩ := a
  obtain ⟨hr, hd, hn, -⟩ := ha
  obtain ⟨hr', hd', hn', -⟩ := hb
  simp only at hr hd hn hinvoked
  rw [hr, hd, hn, hinvoked, ← hr', ← hd', ← hn']

/-- The accounts of calls in turn, each one on the engine that the calls before it have left. -/
inductive TellsAll : Engine D → List StoreCall → List Account → Prop
  | nil (s : Engine D) : TellsAll s [] []
  | cons {s : Engine D} {call : StoreCall} {calls : List StoreCall} {account : Account}
      {accounts : List Account} :
      call.Tells s account → TellsAll (call.next s) calls accounts →
        TellsAll s (call :: calls) (account :: accounts)

def AllUndisturbed : Engine D → List StoreCall → Prop
  | _, [] => True
  | s, call :: calls => call.Undisturbed s ∧ AllUndisturbed (call.next s) calls

theorem TellsAll.unique [Nonempty D] {s : Engine D} {calls : List StoreCall}
    {as bs : List Account} (ha : TellsAll s calls as) (hb : TellsAll s calls bs) : as = bs := by
  induction ha generalizing bs with
  | nil s =>
    cases hb
    rfl
  | cons hfirst _ ih =>
    cases hb with
    | cons hfirst' hrest' => rw [hfirst.unique hfirst', ih hrest']

section Checks

/-- A run ends in fewer than `n` steps, and no scan and no rendering fails in it. -/
def calmFor : Nat → Config D → Bool
  | 0, _ => false
  | n + 1, k =>
    decide k.Calm &&
      match step k with
      | some k' => calmFor n k'
      | none => true

theorem calm_of_calmFor {n : Nat} {k k' : Config D} (h : calmFor n k) (hk : Reaches step k k') :
    k'.Calm := by
  induction n generalizing k with
  | zero => cases h
  | succ n ih =>
    simp only [calmFor, Bool.and_eq_true, decide_eq_true_eq] at h
    rcases Relation.ReflTransGen.cases_head hk with rfl | ⟨k₁, hs, hk⟩
    · exact h.1
    · rw [Option.mem_def.mp hs] at h
      exact ih h.2 hk

def allCalmFor (n : Nat) : Engine D → List StoreCall → Bool
  | _, [] => true
  | s, call :: calls =>
    calmFor n (start (call.program D) s) && allCalmFor n (call.next s) calls

theorem allUndisturbed_of_allCalmFor {n : Nat} {s : Engine D} {calls : List StoreCall}
    (h : allCalmFor n s calls) : AllUndisturbed s calls := by
  induction calls generalizing s with
  | nil => trivial
  | cons call calls ih =>
    simp only [allCalmFor, Bool.and_eq_true] at h
    exact ⟨fun _ hk ↦ calm_of_calmFor h.1 hk, ih h.2⟩

end Checks

variable {D₁ D₂ : Type} [Document D₁] [Document D₂]

theorem exists_tellsAll {s₁ : Engine D₁} {s₂ : Engine D₂} (hs : Alike s₁ s₂)
    {calls : List StoreCall} (h₁ : AllUndisturbed s₁ calls) (h₂ : AllUndisturbed s₂ calls) :
    ∃ accounts, TellsAll s₁ calls accounts ∧ TellsAll s₂ calls accounts := by
  induction calls generalizing s₁ s₂ with
  | nil => exact ⟨[], .nil s₁, .nil s₂⟩
  | cons call calls ih =>
    obtain ⟨hcall₁, hrest₁⟩ := h₁
    obtain ⟨hcall₂, hrest₂⟩ := h₂
    obtain ⟨hs', account, ht₁, ht₂⟩ := exists_tells hs hcall₁ hcall₂
    obtain ⟨accounts, hts₁, hts₂⟩ := ih hs' hrest₁ hrest₂
    exact ⟨account :: accounts, .cons ht₁ hts₁, .cons ht₂ hts₂⟩

/-- Two engines with the same limit on the depth of writes take the same calls. Whatever their
documents, their filters and their other options are, if no scan and no rendering fails in either
of them, each has one account to give of every call, and they give the same: the same reply, the
same callbacks called by the same writes, in the same order and on the same stores, and the same
store after the call. -/
theorem tellsAll_iff_eq (d₁ : D₁) (d₂ : D₂) (filters₁ filters₂ : Filters) {o₁ o₂ : Options}
    (ho : o₁.maxDispatchDepth = o₂.maxDispatchDepth) (calls : List StoreCall)
    (h₁ : AllUndisturbed (fresh d₁ filters₁ o₁) calls)
    (h₂ : AllUndisturbed (fresh d₂ filters₂ o₂) calls) :
    ∃ accounts, ∀ told, (TellsAll (fresh d₁ filters₁ o₁) calls told ↔ told = accounts) ∧
      (TellsAll (fresh d₂ filters₂ o₂) calls told ↔ told = accounts) := by
  have : Nonempty D₁ := ⟨d₁⟩
  have : Nonempty D₂ := ⟨d₂⟩
  obtain ⟨accounts, ht₁, ht₂⟩ := exists_tellsAll (alike_fresh d₁ d₂ filters₁ filters₂ ho) h₁ h₂
  refine ⟨accounts, fun told ↦ ⟨⟨fun h ↦ h.unique ht₁, ?_⟩, ⟨fun h ↦ h.unique ht₂, ?_⟩⟩⟩
  · rintro rfl
    exact ht₁
  · rintro rfl
    exact ht₂

namespace Greeting

def greet : Plan := .getText "name" fun v ↦ .setText "greeting" (v.getD .null) Plan.returning

def calls : List StoreCall :=
  [.observe "name" greet,
   .compute "met" (fun data ↦ .bool (Json.isTruthy (Plan.valueAt "greeting" data))) ["greeting"],
   .set "name" (.string "Ann"), .get "greeting"]

def plate : Markup := ⟨[⟨"p", [("data-binding", "name | upcase")], [], none, true⟩], [0]⟩

def badge : Markup := ⟨[⟨"img", [("show", "greeting:title")], [], none, true⟩], [0]⟩

def plain : Options := { bindingAttribute := "show", style := .attr }

theorem tellsAll_iff_eq_calls :
    ({} : Options).maxDispatchDepth = plain.maxDispatchDepth ∧
      AllUndisturbed (fresh plate .builtin {}) calls ∧
      AllUndisturbed (fresh badge ∅ plain) calls ∧
      Json.displayOption ((calls.foldl next (fresh badge ∅ plain)).get? "greeting") = "Ann" ∧
      ∃ accounts, ∀ told, (TellsAll (fresh plate .builtin {}) calls told ↔ told = accounts) ∧
        (TellsAll (fresh badge ∅ plain) calls told ↔ told = accounts) := by
  have hlimit : ({} : Options).maxDispatchDepth = plain.maxDispatchDepth := rfl
  have hplate : AllUndisturbed (fresh plate .builtin {}) calls :=
    allUndisturbed_of_allCalmFor (n := 40) (by decide +kernel)
  have hbadge : AllUndisturbed (fresh badge ∅ plain) calls :=
    allUndisturbed_of_allCalmFor (n := 40) (by decide +kernel)
  exact ⟨hlimit, hplate, hbadge, by decide +kernel,
    tellsAll_iff_eq plate badge .builtin ∅ hlimit calls hplate hbadge⟩

end Greeting

end StoreCall

end DataBinding
