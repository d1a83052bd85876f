import DataBinding.Proofs.Markup.Table

namespace DataBinding.Markup

open Relation

variable {d d' : Markup} {el p q x : ElementId} {els : List ElementId}

/-- An element in a list of children has that parent, and does not come before it. -/
def Linked (d : Markup) : Prop := ∀ p el, d.Contains p el → d.parent? el = some p ∧ p ≤ el

namespace Linked

theorem unique (h : d.Linked) (hp : d.Contains p el) (hq : d.Contains q el) : p = q :=
  Option.some.inj ((h p el hp).1.symm.trans (h q el hq).1)

theorem lt_size (h : d.Linked) (hc : d.Contains p el) : el < d.size :=
  lt_size_of_parent? (h p el hc).1

theorem le_of_below (h : d.Linked) (hb : ReflTransGen d.Contains p el) : p ≤ el := by
  induction hb with
  | refl => exact Nat.le_refl p
  | tail _ hc ih => exact Nat.le_trans ih (h _ _ hc).2

/-- An element that stands in its own list is below no other one. -/
theorem eq_of_above_own (h : d.Linked) (hown : d.Contains x x) (hb : ReflTransGen d.Contains p x) :
    p = x := by
  induction hb using ReflTransGen.head_induction_on with
  | refl => rfl
  | head hc _ ih =>
    subst ih
    exact h.unique hc hown

theorem above_total (h : d.Linked) (hp : ReflTransGen d.Contains p x)
    (hq : ReflTransGen d.Contains q x) :
    ReflTransGen d.Contains p q ∨ ReflTransGen d.Contains q p := by
  have hunique : Relator.RightUnique (Function.swap d.Contains) := fun _ _ _ ↦ h.unique
  rw [← reflTransGen_swap] at hp hq
  rcases ReflTransGen.total_of_right_unique hunique hp hq with hpq | hqp
  · exact .inr (reflTransGen_swap.mp hpq)
  · exact .inl (reflTransGen_swap.mp hqp)

theorem descends (h : d.Linked) (hown : ¬ d.Contains el el) : d.Descends el := by
  intro p c hp hc
  obtain ⟨hparent, hle⟩ := h p c hc
  refine ⟨Nat.lt_of_le_of_ne hle ?_, lt_size_of_parent? hparent⟩
  rintro rfl
  rw [h.eq_of_above_own hc hp] at hown
  exact hown hc

end Linked

/-- Some elements lose their parents and leave the lists that they stand in, and what is below them
then is detached. One at the top leaves the top only if it has no parent. -/
structure Cuts (d d' : Markup) (els : List ElementId) : Prop where
  lt : ∀ el ∈ els, el < d.size
  size : d'.size = d.size
  parent? : ∀ x, d'.parent? x = if x ∈ els then none else d.parent? x
  childElements : ∀ p, d'.childElements p = (d.childElements p).filter (· ∉ els)
  roots : d'.roots = d.roots.filter fun r ↦ r ∉ els ∨ (d.parent? r).isSome
  isAttached : ∀ x, d'.isAttached x = (d.isAttached x && decide (x ∉ els.flatMap d'.subtree))

namespace Cuts

theorem contains_iff (hd : Cuts d d' els) : d'.Contains p el ↔ d.Contains p el ∧ el ∉ els := by
  rw [Contains, hd.childElements, List.mem_filter, decide_eq_true_iff]
  rfl

theorem linked (hd : Cuts d d' els) (h : d.Linked) : d'.Linked := by
  intro p el hc
  obtain ⟨hc, hel⟩ := hd.contains_iff.mp hc
  rw [hd.parent?, if_neg hel]
  exact h p el hc

theorem descends (hd : Cuts d d' els) (h : d.Linked) (hel : el ∈ els) : d'.Descends el :=
  (hd.linked h).descends fun hown ↦ (hd.contains_iff.mp hown).2 hel

theorem below_iff (hd : Cuts d d' els) :
    (∃ c ∈ els, ReflTransGen d'.Contains c x) ↔ ∃ c ∈ els, ReflTransGen d.Contains c x := by
  constructor
  · rintro ⟨c, hc, hb⟩
    exact ⟨c, hc, hb.lift id fun _ _ hstep ↦ (hd.contains_iff.mp hstep).1⟩
  · rintro ⟨c, hc, hb⟩
    induction hb with
    | refl => exact ⟨c, hc, .refl⟩
    | @tail _ y _ hstep ih =>
      by_cases hy : y ∈ els
      · exact ⟨y, hy, .refl⟩
      · obtain ⟨c', hc', hb⟩ := ih
        exact ⟨c', hc', hb.tail (hd.contains_iff.mpr ⟨hstep, hy⟩)⟩

theorem mem_below_iff (hd : Cuts d d' els) (h : d.Linked) :
    x ∈ els.flatMap d'.subtree ↔ ∃ c ∈ els, ReflTransGen d.Contains c x := by
  rw [Descends.mem_flatMap_subtree_iff fun c hc ↦ ⟨hd.size ▸ hd.lt c hc, hd.descends h hc⟩]
  exact hd.below_iff

theorem mem_below_of_mem (hd : Cuts d d' els) (h : d.Linked) (hx : x ∈ els) :
    x ∈ els.flatMap d'.subtree :=
  (hd.mem_below_iff h).mpr ⟨x, hx, .refl⟩

theorem unattached_of_below (hd : Cuts d d' els) (h : d.Linked) (hel : el ∈ els)
    (hx : ReflTransGen d.Contains el x) : d'.isAttached x = false := by
  have hmem := (hd.mem_below_iff h).mpr ⟨el, hel, hx⟩
  rw [hd.isAttached, decide_eq_false (not_not.mpr hmem), Bool.and_false]

theorem isAttached_eq (hd : Cuts d d' els) (h : d.Linked) (hc : d'.Contains p x)
    (ha : d.isAttached x = d.isAttached p) : d'.isAttached x = d'.isAttached p := by
  obtain ⟨hc, hx⟩ := hd.contains_iff.mp hc
  have hiff : x ∈ els.flatMap d'.subtree ↔ p ∈ els.flatMap d'.subtree := by
    rw [hd.mem_below_iff h, hd.mem_below_iff h]
    refine exists_congr fun c ↦ and_congr_right fun hmem ↦ ⟨fun hb ↦ ?_, fun hb ↦ hb.tail hc⟩
    rcases ReflTransGen.cases_tail hb with rfl | ⟨q, hb, hq⟩
    · exact absurd hmem hx
    · exact h.unique hq hc ▸ hb
  rw [hd.isAttached, hd.isAttached, ha, decide_eq_decide.mpr (not_congr hiff)]

theorem of_eq (hs : d'.size = d.size) (hp : d'.parent? = d.parent?)
    (hc : d'.childElements = d.childElements) (hr : d'.roots = d.roots)
    (ha : d'.isAttached = d.isAttached) : Cuts d d' [] where
  lt _ hel := by cases hel
  size := hs
  parent? x := by simp [hp]
  childElements p := by simp [hc]
  roots := by simp [hr]
  isAttached x := by simp [ha]

theorem of_foldl {d₁ : Markup} (hlt : ∀ el ∈ els, el < d.size) (hs : d₁.size = d.size)
    (hp : d₁.parent? = d.parent?) (ha : d₁.isAttached = d.isAttached)
    (hc : ∀ p, d₁.childElements p = (d.childElements p).filter (· ∉ els))
    (hr : d₁.roots = d.roots.filter fun r ↦ r ∉ els ∨ (d.parent? r).isSome) :
    Cuts d (els.foldl (fun d c ↦ (d.orphan c).detach c) d₁) els := by
  rw [foldl_orphan_detach]
  exact ⟨hlt, by rw [size_release, hs], fun x ↦ by rw [parent?_release, hp],
    fun p ↦ by rw [childElements_release, hc], hr,
    fun x ↦ by rw [isAttached_release, subtree_release, ha]⟩

theorem setAttribute (d : Markup) (el : ElementId) (name value : String) :
    Cuts d (d.setAttribute el name value) [] :=
  .of_eq (size_modifyNode d el _) (parent?_modifyNode (fun _ ↦ by rfl) d el)
    (childElements_modifyNode (fun _ ↦ by rfl) d el) rfl
    (isAttached_modifyNode (fun _ ↦ by rfl) d el)

theorem appendText (d : Markup) (p : ElementId) (s : String) : Cuts d (d.appendText p s) [] := by
  refine .of_eq (size_modifyNode d p _) (parent?_modifyNode (fun _ ↦ by rfl) d p) ?_ rfl
    (isAttached_modifyNode (fun _ ↦ by rfl) d p)
  funext x
  rw [Markup.appendText, appendChild, childElements_eq, node?_modifyNode, childElements_eq]
  cases d.node? x with
  | none => simp
  | some node => split <;> simp [Node.childElements, Child.element?, List.filterMap_append]

end Cuts

theorem filter_not_mem_of_forall {l : List ElementId} (h : ∀ x ∈ l, x ∉ els) :
    l.filter (· ∉ els) = l :=
  List.filter_eq_self.mpr fun x hx ↦ decide_eq_true (h x hx)

namespace Linked

theorem takeOut (h : d.Linked) (hels : ∀ c ∈ els, c < d.size ∧ d.parent? c = some p)
    {f : Node → Node} (hp : ∀ node, (f node).parent = node.parent)
    (ha : ∀ node, (f node).attached = node.attached)
    (hf : ∀ node ∈ d.node? p, (f node).childElements = node.childElements.filter (· ∉ els)) :
    Cuts d (els.foldl (fun d c ↦ (d.orphan c).detach c) (d.modifyNode p f)) els := by
  have hchildren (q : ElementId) :
      (d.modifyNode p f).childElements q = (d.childElements q).filter (· ∉ els) := by
    by_cases hq : q = p
    · subst hq
      rw [childElements_eq, node?_modifyNode, if_pos rfl, childElements_eq]
      cases hnode : d.node? q with
      | none => rfl
      | some node => exact hf node hnode
    · rw [childElements_modifyNode_of_ne hq, filter_not_mem_of_forall]
      intro x hx hmem
      exact hq (Option.some.inj ((h q x hx).1.symm.trans (hels x hmem).2))
  have hroots : d.roots = d.roots.filter fun r ↦ r ∉ els ∨ (d.parent? r).isSome := by
    refine (List.filter_eq_self.mpr fun r _ ↦ decide_eq_true ?_).symm
    rw [or_iff_not_imp_left, not_not]
    intro hr
    rw [(hels r hr).2]
    rfl
  exact .of_foldl (fun c hc ↦ (hels c hc).1) (size_modifyNode d p f) (parent?_modifyNode hp d p)
    (isAttached_modifyNode ha d p) hchildren hroots

theorem cuts_setInnerHtml (h : d.Linked) {html : String} (hne : d.innerHtml el ≠ html) :
    Cuts d (d.setInnerHtml el html) (d.childElements el) := by
  rw [Markup.setInnerHtml, if_neg hne]
  refine h.takeOut (fun c hc ↦ ⟨h.lt_size hc, (h el c hc).1⟩) (fun _ ↦ rfl) (fun _ ↦ rfl)
    fun node hnode ↦ ?_
  have hall : d.childElements el = node.childElements := by
    rw [childElements_eq, Option.mem_def.mp hnode]
    rfl
  rw [hall, List.filter_eq_nil_iff.mpr fun x hx ↦ by simpa using hx]
  exact childElements_content html

theorem cuts_remove (h : d.Linked) (hel : el < d.size) : Cuts d (d.remove el) [el] := by
  obtain ⟨node, hnode⟩ := exists_node?_of_lt hel
  have hparent : d.parent? el = node.parent := by
    rw [Markup.parent?, hnode]
    rfl
  rw [Markup.remove, hnode]
  simp only
  cases hp : node.parent with
  | none =>
    rw [hp] at hparent
    have hchildren (q : ElementId) :
        d.childElements q = (d.childElements q).filter (· ∉ [el]) := by
      refine (filter_not_mem_of_forall fun x hx hmem ↦ ?_).symm
      have hx := (h q x hx).1
      rw [List.mem_singleton.mp hmem, hparent] at hx
      cases hx
    have hroots : d.roots.filter (· != el) =
        d.roots.filter fun r ↦ r ∉ [el] ∨ (d.parent? r).isSome := by
      refine List.filter_congr fun r _ ↦ ?_
      by_cases hr : r = el <;> simp [hr, hparent]
    let without : Markup := { d with roots := d.roots.filter (· != el) }
    have hcut : Cuts d ([el].foldl (fun d c ↦ (d.orphan c).detach c) without) [el] :=
      .of_foldl (by simpa using hel) rfl rfl rfl hchildren hroots
    exact hcut
  | some p =>
    have hels : ∀ c ∈ [el], c < d.size ∧ d.parent? c = some p := by
      simpa [hp, hel] using hparent
    exact h.takeOut hels (fun _ ↦ rfl) (fun _ ↦ rfl) fun node _ ↦
      childElements_filter node.children el

end Linked

theorem mem_ite_singleton {c : Prop} [Decidable c] :
    x ∈ (if c then [el] else []) ↔ c ∧ x = el := by
  split <;> simp [*]

inductive Edit where
  | appendElement (parent : Option ElementId) (tag : String) (attrs : List (String × String))
  | appendText (el : ElementId) (s : String)
  | setAttribute (el : ElementId) (name value : String)
  | setInnerHtml (el : ElementId) (html : String)
  | remove (el : ElementId)

def Edit.apply (d : Markup) : Edit → Markup
  | appendElement parent tag attrs => (d.appendElement parent tag attrs).2
  | appendText el s => d.appendText el s
  | setAttribute el name value => d.setAttribute el name value
  | setInnerHtml el html => d.setInnerHtml el html
  | remove el => d.remove el

/-- All that an edit can do. -/
theorem Linked.edit_cases (h : d.Linked) (e : Edit) :
    (∃ parent tag attrs, e = .appendElement parent tag attrs) ∨ ∃ els, Cuts d (e.apply d) els := by
  cases e with
  | appendElement parent tag attrs => exact .inl ⟨parent, tag, attrs, rfl⟩
  | appendText el s => exact .inr ⟨[], .appendText d el s⟩
  | setAttribute el name value => exact .inr ⟨[], .setAttribute d el name value⟩
  | setInnerHtml el html =>
    by_cases hne : d.innerHtml el = html
    · refine .inr ⟨[], ?_⟩
      rw [Edit.apply, Markup.setInnerHtml, if_pos hne]
      exact .of_eq rfl rfl rfl rfl rfl
    · exact .inr ⟨_, h.cuts_setInnerHtml hne⟩
  | remove el =>
    cases hnode : d.node? el with
    | none =>
      refine .inr ⟨[], ?_⟩
      rw [Edit.apply, Markup.remove, hnode]
      exact .of_eq rfl rfl rfl rfl rfl
    | some node => exact .inr ⟨_, h.cuts_remove (lt_size_of_node? hnode)⟩

section AppendElement

variable {parent : Option ElementId} {tag : String} {attrs : List (String × String)}

theorem contains_appendElement_iff : (d.appendElement parent tag attrs).2.Contains p el ↔
    d.Contains p el ∨ (parent = some p ∧ p ≤ d.size) ∧ el = d.size := by
  rw [Contains, childElements_appendElement, List.mem_append, mem_ite_singleton]
  rfl

theorem mem_roots_appendElement_iff : el ∈ (d.appendElement parent tag attrs).2.roots ↔
    el ∈ d.roots ∨ (∀ p ∈ parent, d.size < p) ∧ el = d.size := by
  rw [roots_appendElement, List.mem_append, mem_ite_singleton]

theorem Linked.appendElement (h : d.Linked) : (d.appendElement parent tag attrs).2.Linked := by
  intro p el hc
  rw [parent?_appendElement]
  rcases contains_appendElement_iff.mp hc with hc | ⟨⟨hp, hle⟩, rfl⟩
  · rw [if_neg (Nat.ne_of_lt (h.lt_size hc))]
    exact h p el hc
  · rw [if_pos rfl]
    exact ⟨hp, hle⟩

end AppendElement

theorem Linked.apply (h : d.Linked) (e : Edit) : (e.apply d).Linked := by
  rcases h.edit_cases e with ⟨parent, tag, attrs, rfl⟩ | ⟨els, hcuts⟩
  · exact h.appendElement
  · exact hcuts.linked h

theorem Linked.unattached_apply (h : d.Linked) (hx : x < d.size) (hu : d.isAttached x = false)
    (e : Edit) : x < (e.apply d).size ∧ (e.apply d).isAttached x = false := by
  rcases h.edit_cases e with ⟨parent, tag, attrs, rfl⟩ | ⟨els, hcuts⟩
  · rw [Edit.apply, size_appendElement, isAttached_appendElement, if_neg (Nat.ne_of_lt hx)]
    exact ⟨Nat.lt_succ_of_lt hx, hu⟩
  · rw [hcuts.size, hcuts.isAttached, hu]
    exact ⟨hx, rfl⟩

theorem Linked.unattached_foldl (h : d.Linked) (hx : x < d.size) (hu : d.isAttached x = false)
    (es : List Edit) : (es.foldl Edit.apply d).isAttached x = false := by
  induction es generalizing d with
  | nil => exact hu
  | cons e es ih =>
    obtain ⟨hx, hu⟩ := h.unattached_apply hx hu e
    exact ih (h.apply e) hx hu

end DataBinding.Markup
