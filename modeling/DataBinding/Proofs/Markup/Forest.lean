import DataBinding.Proofs.Markup.Links
import DataBinding.Proofs.Markup.Notation
import Mathlib.Data.List.Nodup

namespace DataBinding.Markup

open Relation

/-- What the links of a document say, one about the other. -/
structure Forest (d : Markup) : Prop where
  mem_childElements : ∀ p el, el ∈ d.childElements p ↔ d.parent? el = some p
  nodup_childElements : ∀ p, (d.childElements p).Nodup
  parent_lt : ∀ el p, d.parent? el = some p → p < el
  mem_roots : ∀ el, el ∈ d.roots ↔ d.parent? el = none ∧ d.isAttached el
  nodup_roots : d.roots.Nodup
  isAttached_eq : ∀ el p, d.parent? el = some p → d.isAttached el = d.isAttached p

namespace Forest

variable {d d' : Markup} {el p : ElementId}

theorem contains_iff (h : d.Forest) : d.Contains p el ↔ d.parent? el = some p :=
  h.mem_childElements p el

theorem lt (h : d.Forest) (hc : d.Contains p el) : p < el := h.parent_lt el p (h.contains_iff.mp hc)

theorem linked (h : d.Forest) : d.Linked :=
  fun _ _ hc ↦ ⟨h.contains_iff.mp hc, Nat.le_of_lt (h.lt hc)⟩

theorem irrefl (h : d.Forest) (el : ElementId) : ¬ TransGen d.Contains el el := by
  intro ht
  obtain ⟨c, hc, hb⟩ := TransGen.head'_iff.mp ht
  exact Nat.lt_irrefl el (Nat.lt_of_lt_of_le (h.lt hc) (h.linked.le_of_below hb))

theorem descends (h : d.Forest) (el : ElementId) : d.Descends el :=
  h.linked.descends fun hc ↦ h.irrefl el (.single hc)

theorem mem_subtree_iff (h : d.Forest) {x : ElementId} (hel : el < d.size) :
    x ∈ d.subtree el ↔ ReflTransGen d.Contains el x :=
  (h.descends el).mem_subtree_iff hel

theorem mem_flatMap_subtree_iff (h : d.Forest) {els : List ElementId} {x : ElementId}
    (hels : ∀ c ∈ els, c < d.size) :
    x ∈ els.flatMap d.subtree ↔ ∃ c ∈ els, ReflTransGen d.Contains c x :=
  Descends.mem_flatMap_subtree_iff fun c hc ↦ ⟨hels c hc, h.descends c⟩

theorem mem_below_iff (h : d.Forest) {x : ElementId} :
    x ∈ (d.childElements el).flatMap d.subtree ↔ TransGen d.Contains el x := by
  rw [h.mem_flatMap_subtree_iff fun c hc ↦ h.linked.lt_size hc, TransGen.head'_iff]
  rfl

theorem isAttached_iff (h : d.Forest) (el : ElementId) :
    d.isAttached el ↔ ∃ r ∈ d.roots, ReflTransGen d.Contains r el := by
  constructor
  · intro ha
    induction el using Nat.strongRecOn with
    | ind el ih =>
      cases hp : d.parent? el with
      | none => exact ⟨el, (h.mem_roots el).mpr ⟨hp, ha⟩, .refl⟩
      | some p =>
        rw [h.isAttached_eq el p hp] at ha
        obtain ⟨r, hr, hb⟩ := ih p (h.parent_lt el p hp) ha
        exact ⟨r, hr, hb.tail (h.contains_iff.mpr hp)⟩
  · rintro ⟨r, hr, hb⟩
    induction hb with
    | refl => exact ((h.mem_roots r).mp hr).2
    | tail _ hc ih => rwa [h.isAttached_eq _ _ (h.contains_iff.mp hc)]

theorem nodup (h : d.Forest) : (d.roots ++ d.nodes.flatMap Node.childElements).Nodup := by
  have hnode (i : Nat) (hi : i < d.nodes.length) :
      d.childElements i = d.nodes[i].childElements := by
    rw [childElements_eq, node?, List.getElem?_eq_getElem hi]
    rfl
  refine List.nodup_append.mpr ⟨h.nodup_roots, List.nodup_flatMap.mpr ⟨?_, ?_⟩, ?_⟩
  · intro node hmem
    obtain ⟨i, hi, rfl⟩ := List.getElem_of_mem hmem
    rw [← hnode i hi]
    exact h.nodup_childElements i
  · rw [List.pairwise_iff_getElem]
    intro i j hi hj hij x hxi hxj
    rw [← hnode i hi] at hxi
    rw [← hnode j hj] at hxj
    have hpi := (h.mem_childElements i x).mp hxi
    rw [(h.mem_childElements j x).mp hxj, Option.some.injEq] at hpi
    exact Nat.ne_of_lt hij hpi.symm
  · intro x hx y hy hxy
    obtain ⟨node, hmem, hy⟩ := List.mem_flatMap.mp hy
    obtain ⟨i, hi, rfl⟩ := List.getElem_of_mem hmem
    rw [← hnode i hi, h.mem_childElements] at hy
    rw [hxy, h.mem_roots, hy] at hx
    cases hx.1

theorem empty : Markup.empty.Forest where
  mem_childElements p el := by simp [childElements, parent?, node?, Markup.empty]
  nodup_childElements p := by simp [childElements, node?, Markup.empty]
  parent_lt el p h := by cases h
  mem_roots el := by simp [isAttached, node?, Markup.empty]
  nodup_roots := List.nodup_nil
  isAttached_eq el p h := by cases h

theorem cuts (h : d.Forest) {els : List ElementId} (hd : Cuts d d' els) : d'.Forest := by
  have hroot {x : ElementId} (hx : x ∈ d.roots) : d.parent? x = none := ((h.mem_roots x).mp hx).1
  constructor
  case mem_childElements =>
    intro p x
    rw [← Contains, hd.contains_iff, hd.parent?, h.contains_iff]
    by_cases hx : x ∈ els <;> simp [hx]
  case nodup_childElements =>
    intro p
    rw [hd.childElements]
    exact (h.nodup_childElements p).filter _
  case parent_lt =>
    intro x p hp
    rw [hd.parent?] at hp
    split at hp
    · cases hp
    · exact h.parent_lt x p hp
  case mem_roots =>
    intro x
    rw [hd.roots, List.mem_filter, decide_eq_true_iff, hd.parent?, hd.isAttached]
    by_cases hx : x ∈ els
    · have hbelow := hd.mem_below_of_mem h.linked hx
      refine iff_of_false ?_ (by simp [hbelow])
      rintro ⟨hr, hx' | hp⟩
      · exact hx' hx
      · rw [hroot hr] at hp
        cases hp
    · -- what has no parent is below a cut only if it is cut off itself
      have htop (hp : d.parent? x = none) : x ∉ els.flatMap d'.subtree := by
        intro hb
        obtain ⟨c, hc, hb⟩ := (hd.mem_below_iff h.linked).mp hb
        rcases ReflTransGen.cases_tail hb with rfl | ⟨q, -, hq⟩
        · exact hx hc
        · rw [h.contains_iff.mp hq] at hp
          cases hp
      rw [h.mem_roots]
      by_cases hp : d.parent? x = none <;> simp [hx, hp, htop]
  case nodup_roots =>
    rw [hd.roots]
    exact h.nodup_roots.filter _
  case isAttached_eq =>
    intro x p hp
    rw [hd.parent?] at hp
    split at hp
    · cases hp
    · rename_i hx
      have hc : d'.Contains p x := hd.contains_iff.mpr ⟨h.contains_iff.mpr hp, hx⟩
      exact hd.isAttached_eq h.linked hc (h.isAttached_eq x p hp)

theorem nodup_append_ite {l : List ElementId} {c : Prop} [Decidable c] (hl : l.Nodup)
    (hel : el ∉ l) : (l ++ if c then [el] else []).Nodup := by
  split
  · exact List.nodup_append.mpr ⟨hl, List.nodup_singleton el, by
      rintro x hx y hy rfl
      exact hel (List.mem_singleton.mp hy ▸ hx)⟩
  · rw [List.append_nil]
    exact hl

theorem appendElement (h : d.Forest) {parent : Option ElementId} (hp : ∀ p ∈ parent, p < d.size)
    (tag : String) (attrs : List (String × String)) :
    (d.appendElement parent tag attrs).2.Forest := by
  -- the new element has the first free number, which no link names yet
  have hnone : d.parent? d.size = none := by
    rw [Markup.parent?, node?_eq_none_of_le (Nat.le_refl _)]
    rfl
  have hfresh (q : ElementId) : d.size ∉ d.childElements q := by
    rw [h.mem_childElements, hnone]
    intro h
    cases h
  have hroots : d.size ∉ d.roots := by
    rw [h.mem_roots]
    exact fun hr ↦ Nat.lt_irrefl _ (lt_size_of_isAttached hr.2)
  constructor
  case mem_childElements =>
    intro q x
    rw [childElements_appendElement_of_lt _ _ _ hp, parent?_appendElement, List.mem_append]
    by_cases hx : x = d.size
    · subst hx
      simp [hfresh q]
    · have hne : x ∉ (if parent = some q then [d.size] else []) := by split <;> simp [hx]
      rw [if_neg hx, h.mem_childElements]
      simp [hne]
  case nodup_childElements =>
    intro q
    rw [childElements_appendElement_of_lt _ _ _ hp]
    exact nodup_append_ite (h.nodup_childElements q) (hfresh q)
  case parent_lt =>
    intro x q hx
    rw [parent?_appendElement] at hx
    split at hx
    · rename_i he
      exact he ▸ hp q hx
    · exact h.parent_lt x q hx
  case mem_roots =>
    intro x
    rw [roots_appendElement_of_lt _ _ hp, parent?_appendElement, isAttached_appendElement,
      List.mem_append]
    by_cases hx : x = d.size
    · subst hx
      cases parent <;> simp [hroots]
    · have hne : x ∉ (if parent = none then [d.size] else []) := by split <;> simp [hx]
      rw [if_neg hx, if_neg hx, h.mem_roots]
      simp [hne]
  case nodup_roots =>
    rw [roots_appendElement_of_lt _ _ hp]
    exact nodup_append_ite h.nodup_roots hroots
  case isAttached_eq =>
    intro x q hx
    rw [parent?_appendElement] at hx
    rw [isAttached_appendElement, isAttached_appendElement]
    by_cases hs : x = d.size
    · rw [if_pos hs] at hx ⊢
      rw [if_neg (Nat.ne_of_lt (hp q hx)), hx]
      rfl
    · rw [if_neg hs] at hx ⊢
      have hq : q ≠ d.size :=
        Nat.ne_of_lt (Nat.lt_trans (h.parent_lt x q hx) (lt_size_of_parent? hx))
      rw [if_neg hq, h.isAttached_eq x q hx]

end Forest

/-- Elements are appended at the top or to elements of the table, those that were removed among
them. -/
def Edit.Proper (d : Markup) : Edit → Prop
  | appendElement parent _ _ => ∀ p ∈ parent, p < d.size
  | _ => True

/-- The documents that are built from JSON or from nothing, and changed from then on. -/
inductive Built : Markup → Prop
  | empty : Built empty
  | ofJson {v : Json} {d : Markup} : ofJson v = .ok d → Built d
  | edit {d : Markup} {e : Edit} : Built d → e.Proper d → Built (e.apply d)

theorem Edit.forest_apply {d : Markup} (h : d.Forest) {e : Edit} (he : e.Proper d) :
    (e.apply d).Forest := by
  rcases h.linked.edit_cases e with ⟨parent, tag, attrs, rfl⟩ | ⟨els, hcuts⟩
  · exact h.appendElement he tag attrs
  · exact h.cuts hcuts

structure Appends (P : Markup → Prop) : Prop where
  element : ∀ d parent tag attrs, P d → (∀ p ∈ parent, p < d.size) →
    P (d.appendElement parent tag attrs).2
  text : ∀ d p s, P d → P (d.appendText p s)

theorem Appends.openElement {P : Markup → Prop} (h : Appends P) {d : Markup}
    {parent : Option ElementId} (hd : P d) (hp : ∀ p ∈ parent, p < d.size) (tag : String)
    (attrs : List (String × String)) :
    P (d.openElement parent tag attrs).2 ∧ d.size ≤ (d.openElement parent tag attrs).2.size ∧
      ∀ p ∈ (d.openElement parent tag attrs).1, p < (d.openElement parent tag attrs).2.size := by
  rw [Markup.openElement]
  split
  · exact ⟨hd, Nat.le_refl _, hp⟩
  · have hs : (d.appendElement parent tag attrs).2.size = d.size + 1 := by
      rw [appendElement_eq_grow hp, size_grow]
      rfl
    refine ⟨h.element d parent tag attrs hd hp, hs ▸ Nat.le_succ _, ?_⟩
    rw [appendElement_eq_grow hp] at hs ⊢
    simp [hs]

def Preserves (P : Markup → Prop) (v : Json) : Prop :=
  ∀ ⦃parent : Option ElementId⦄ ⦃d d' : Markup⦄, P d → (∀ p ∈ parent, p < d.size) →
    build v parent d = .ok d' → P d' ∧ d.size ≤ d'.size

theorem Preserves.all {P : Markup → Prop} {vs : List Json} (h : ∀ v ∈ vs, Preserves P v)
    {parent : Option ElementId} {d d' : Markup} (hd : P d) (hp : ∀ p ∈ parent, p < d.size)
    (hb : buildAll vs parent d = .ok d') : P d' ∧ d.size ≤ d'.size := by
  induction vs generalizing d with
  | nil =>
    cases hb
    exact ⟨hd, Nat.le_refl _⟩
  | cons v vs ih =>
    obtain ⟨hv, hvs⟩ := List.forall_mem_cons.mp h
    obtain ⟨d₁, hb₁, hb⟩ := of_buildAll_cons hb
    obtain ⟨hd₁, hs₁⟩ := hv hd hp hb₁
    obtain ⟨hd', hs'⟩ := ih hvs hd₁ (fun p hm ↦ Nat.lt_of_lt_of_le (hp p hm) hs₁) hb
    exact ⟨hd', Nat.le_trans hs₁ hs'⟩

theorem Appends.preserves {P : Markup → Prop} (h : Appends P) (v : Json) : Preserves P v := by
  induction v using children_induction with
  | array items ih =>
    intro parent d d' hd hp hb
    rw [build_array] at hb
    cases hh : heading? items with
    | none =>
      rw [hh] at hb
      cases hb
    | some heading =>
      obtain ⟨tag, members, children⟩ := heading
      simp only [hh] at hb
      obtain ⟨ho, hs, hlt⟩ := h.openElement hd hp tag (attrsOf members)
      obtain ⟨hd', hs'⟩ := Preserves.all (ih tag members children hh) ho hlt hb
      exact ⟨hd', Nat.le_trans hs hs'⟩
  | leaf v hv =>
    intro parent d d' hd hp hb
    rcases of_build_leaf hv hb with rfl | ⟨p, rfl, rfl⟩
    · exact ⟨hd, Nat.le_refl _⟩
    · refine ⟨h.text d p _ hd, ?_⟩
      rw [appendText_eq_grow, size_grow]
      exact Nat.le_refl _

theorem Built.forest {d : Markup} (h : Built d) : d.Forest := by
  induction h with
  | empty => exact .empty
  | ofJson h =>
    have happends : Appends Forest :=
      ⟨fun _ _ tag attrs hd hp ↦ hd.appendElement hp tag attrs,
        fun d p s hd ↦ hd.cuts (.appendText d p s)⟩
    exact (happends.preserves _ .empty (fun _ hp ↦ by cases hp) h).1
  | edit _ he ih => exact Edit.forest_apply ih he

/-- In every document that is built and changed by any operations, the links of the table agree. No
element stands twice in the lists of children and at the top; an element stands in the list of
another exactly if that is its parent, and comes after it, so that nothing is below itself; the
elements at the top are those that are attached and have no parent; and the attached elements are
those that are reached from the top. -/
theorem Built.links_agree {d : Markup} (h : Built d) :
    (d.roots ++ d.nodes.flatMap Node.childElements).Nodup ∧
      (∀ p el, el ∈ d.childElements p ↔ d.parent? el = some p) ∧
      (∀ p el, d.parent? el = some p → p < el) ∧
      (∀ el, ¬ TransGen d.Contains el el) ∧
      (∀ el, el ∈ d.roots ↔ d.parent? el = none ∧ d.isAttached el) ∧
      ∀ el, d.isAttached el ↔ ∃ r ∈ d.roots, ReflTransGen d.Contains r el :=
  have hf := h.forest
  ⟨hf.nodup, hf.mem_childElements, fun p el ↦ hf.parent_lt el p, hf.irrefl, hf.mem_roots,
    hf.isAttached_iff⟩

namespace Shelf

def items : Json :=
  .array [.string "ul", .array [.string "li"], .array [.string "li", .array [.string "b"]]]

def edits : List Edit :=
  [.remove 1, .appendElement (some 1) "i" [], .setInnerHtml 2 "<u>", .remove 7]

def document : Markup := edits.foldl Edit.apply ((ofJson items).toOption.getD .empty)

theorem built_document : Built document := by
  have h₀ : Built ((ofJson items).toOption.getD .empty) := .ofJson (v := items) rfl
  have h₁ := Built.edit (e := .remove 1) h₀ trivial
  have h₂ := Built.edit (e := .appendElement (some 1) "i" []) h₁ fun p hp ↦ by
    cases hp
    decide +kernel
  have h₃ := Built.edit (e := .setInnerHtml 2 "<u>") h₂ trivial
  exact Built.edit (e := .remove 7) h₃ trivial

theorem links_agree_document :
    Built document ∧ document.parent? 4 = some 1 ∧ document.roots = [0] ∧
      document.isAttached 4 = false ∧ document.parent? 3 = none ∧
      (∀ el, document.isAttached el ↔
        ∃ r ∈ document.roots, ReflTransGen document.Contains r el) := by
  refine ⟨built_document, ?_, ?_, ?_, ?_, (Built.links_agree built_document).2.2.2.2.2⟩
  all_goals decide +kernel

end Shelf

end DataBinding.Markup
