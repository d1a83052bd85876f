import DataBinding.Proofs.Markup.Serialize

namespace DataBinding.Markup

open Relation

variable {d : Markup} {el x : ElementId} {stack out : List ElementId}

def pushAll (els stack : List ElementId) : List ElementId :=
  els.foldl (fun stack el ↦ el :: stack) stack

theorem pushAll_reverse (els stack : List ElementId) :
    pushAll els.reverse stack = els ++ stack := by
  rw [pushAll, List.foldl_flip_cons_eq_append, List.map_id', List.reverse_reverse]

/-- What the loop lists from a stack on. The element on top is taken off; if it exists it is listed
and its children are pushed, the last one first. -/
inductive Walks (d : Markup) : List ElementId → List ElementId → Prop
  | done : Walks d [] []
  | skip {el : ElementId} {stack out : List ElementId} :
      d.node? el = none → Walks d stack out → Walks d (el :: stack) out
  | visit {el : ElementId} {stack out : List ElementId} {node : Node} :
      d.node? el = some node →
      Walks d (pushAll (node.children.reverse.filterMap Child.element?) stack) out →
      Walks d (el :: stack) (el :: out)

theorem Walks.unique (h : d.Walks stack out) {out' : List ElementId} (h' : d.Walks stack out') :
    out' = out := by
  induction h generalizing out' with
  | done =>
    cases h'
    rfl
  | skip hnone _ ih =>
    cases h' with
    | skip _ h' => exact ih h'
    | visit hnode =>
      rw [hnone] at hnode
      cases hnode
  | visit hnode _ ih =>
    cases h' with
    | skip hnone =>
      rw [hnode] at hnone
      cases hnone
    | visit hnode' h' =>
      rw [hnode, Option.some.injEq] at hnode'
      subst hnode'
      rw [ih h']

theorem walks_flatMap {els : List ElementId}
    (h : ∀ c ∈ els, ∀ stack out, d.Walks stack out → d.Walks (c :: stack) (d.subtree c ++ out))
    (hrest : d.Walks stack out) : d.Walks (els ++ stack) (els.flatMap d.subtree ++ out) := by
  induction els with
  | nil => exact hrest
  | cons c els ih =>
    obtain ⟨hc, hels⟩ := List.forall_mem_cons.mp h
    rw [List.flatMap_cons, List.append_assoc]
    exact hc _ _ (ih hels)

theorem subtree_of_none (h : d.node? el = none) : d.subtree el = [] := by
  rw [subtree]
  cases d.size with
  | zero => rfl
  | succ n => simp only [subtreeTo, h]

namespace Descends

theorem walks_subtree (h : d.Descends el) (hrest : d.Walks stack out) :
    d.Walks (el :: stack) (d.subtree el ++ out) := by
  -- children come after their parents, so the induction starts at the end of the table
  induction hn : d.size - el using Nat.strongRecOn generalizing el stack out with
  | ind n ih =>
    cases hnode : d.node? el with
    | none =>
      rw [subtree_of_none hnode]
      exact .skip hnode hrest
    | some node =>
      have hel : el < d.size := lt_size_of_node? hnode
      rw [h.subtree_of_node? hnode, List.cons_append]
      refine .visit hnode ?_
      rw [List.filterMap_reverse, pushAll_reverse]
      refine walks_flatMap (fun c hc stack out hrest ↦ ?_) hrest
      have hcontains : d.Contains el c := by
        rw [Contains, childElements_eq, hnode]
        exact hc
      obtain ⟨hlt, -, hdesc⟩ := h.child hcontains
      exact ih (d.size - c) (hn ▸ Nat.sub_lt_sub_left hel hlt) hdesc hrest rfl

theorem walks_iff (h : ∀ r ∈ d.roots, d.Descends r) :
    d.Walks (pushAll d.roots.reverse []) out ↔ out = d.preorder := by
  have hwalk : d.Walks (pushAll d.roots.reverse []) d.preorder := by
    have hall : d.Walks (d.roots ++ []) (d.roots.flatMap d.subtree ++ []) :=
      walks_flatMap (fun c hc _ _ hrest ↦ (h c hc).walks_subtree hrest) .done
    rw [List.append_nil (d.roots.flatMap d.subtree)] at hall
    rw [pushAll_reverse]
    exact hall
  constructor
  · exact fun hout ↦ hwalk.unique hout
  · rintro rfl
    exact hwalk

end Descends

namespace Forest

theorem walks_iff (h : d.Forest) : d.Walks (pushAll d.roots.reverse []) out ↔ out = d.preorder :=
  Descends.walks_iff fun r _ ↦ h.descends r

theorem mem_preorder_iff (h : d.Forest) : el ∈ d.preorder ↔ d.isAttached el := by
  rw [h.isAttached_iff]
  exact h.mem_flatMap_subtree_iff fun r hr ↦ lt_size_of_isAttached ((h.mem_roots r).mp hr).2

/-- Distinct elements none of which is above another one have nothing below them in common. -/
theorem nodup_flatMap_subtree (h : d.Forest) {els : List ElementId} (hels : els.Nodup)
    (hlt : ∀ c ∈ els, c < d.size) (hsub : ∀ c ∈ els, (d.subtree c).Nodup)
    (happart : ∀ a ∈ els, ∀ b ∈ els, ReflTransGen d.Contains a b → a = b) :
    (els.flatMap d.subtree).Nodup := by
  refine List.nodup_flatMap.mpr ⟨hsub, hels.imp_of_mem fun ha hb hne ↦ ?_⟩
  intro y hya hyb
  rw [h.mem_subtree_iff (hlt _ ha)] at hya
  rw [h.mem_subtree_iff (hlt _ hb)] at hyb
  rcases h.linked.above_total hya hyb with hab | hba
  · exact hne (happart _ ha _ hb hab)
  · exact hne (happart _ hb _ ha hba).symm

theorem nodup_subtree (h : d.Forest) (el : ElementId) : (d.subtree el).Nodup := by
  induction hn : d.size - el using Nat.strongRecOn generalizing el with
  | ind n ih =>
    cases hnode : d.node? el with
    | none =>
      rw [subtree_of_none hnode]
      exact List.nodup_nil
    | some node =>
      have hel : el < d.size := lt_size_of_node? hnode
      have hchildren : node.children.filterMap Child.element? = d.childElements el := by
        rw [childElements_eq, hnode]
        rfl
      rw [(h.descends el).subtree_of_node? hnode, hchildren, List.nodup_cons]
      refine ⟨fun hmem ↦ h.irrefl el (h.mem_below_iff.mp hmem), ?_⟩
      refine h.nodup_flatMap_subtree (h.nodup_childElements el) (fun c hc ↦ h.linked.lt_size hc)
        (fun c hc ↦ ?_) fun a ha b hb hab ↦ ?_
      · exact ih (d.size - c) (hn ▸ Nat.sub_lt_sub_left hel (h.lt hc)) c rfl
      · -- the parent of `b` comes before `a`
        rcases ReflTransGen.cases_tail hab with rfl | ⟨q, haq, hq⟩
        · rfl
        · have hp : q = el := by
            rw [h.contains_iff] at hq
            exact Option.some.inj (hq.symm.trans (h.contains_iff.mp hb))
          exact absurd (hp ▸ h.linked.le_of_below haq) (Nat.not_le.mpr (h.lt ha))

theorem nodup_preorder (h : d.Forest) : d.preorder.Nodup := by
  refine h.nodup_flatMap_subtree h.nodup_roots
    (fun r hr ↦ lt_size_of_isAttached ((h.mem_roots r).mp hr).2) (fun r _ ↦ h.nodup_subtree r) ?_
  intro a _ b hb hab
  rcases ReflTransGen.cases_tail hab with rfl | ⟨q, -, hq⟩
  · rfl
  · have hnone := ((h.mem_roots b).mp hb).1
    rw [h.contains_iff.mp hq] at hnone
    cases hnone

theorem nodup_elementsWith (h : d.Forest) (name : String) : (d.elementsWith name).Nodup :=
  h.nodup_preorder.filter _

end Forest

end DataBinding.Markup
