import DataBinding.Proofs.Markup.Tag

namespace DataBinding.Markup

open Relation

variable {d d' : Markup} {el r x : ElementId} {els : List ElementId}

/-- What links, lists and marks say whatever numbers edits are given. -/
structure Grove (d : Markup) : Prop where
  linked : d.Linked
  lt_of_mem_roots : ∀ r ∈ d.roots, r < d.size
  not_contains_root : ∀ r ∈ d.roots, ∀ p, ¬ d.Contains p r
  isAttached_eq : ∀ p el, d.Contains p el → d.isAttached el = d.isAttached p
  own_unattached : ∀ el, d.Contains el el → d.isAttached el = false
  listed : ∀ el, d.isAttached el → el ∈ d.roots ∨ ∃ p, d.Contains p el

theorem Forest.grove (h : d.Forest) : d.Grove where
  linked := h.linked
  lt_of_mem_roots r hr := lt_size_of_isAttached ((h.mem_roots r).mp hr).2
  not_contains_root r hr p hc := by
    have hnone := ((h.mem_roots r).mp hr).1
    rw [h.contains_iff.mp hc] at hnone
    cases hnone
  isAttached_eq p el hc := h.isAttached_eq el p (h.contains_iff.mp hc)
  own_unattached el hc := absurd (.single hc) (h.irrefl el)
  listed el hel := by
    cases hp : d.parent? el with
    | none => exact .inl ((h.mem_roots el).mpr ⟨hp, hel⟩)
    | some p => exact .inr ⟨p, h.contains_iff.mpr hp⟩

namespace Grove

theorem descends_root (h : d.Grove) (hr : r ∈ d.roots) : d.Descends r :=
  h.linked.descends (h.not_contains_root r hr r)

theorem eq_of_above_root (h : d.Grove) (hr : r ∈ d.roots) (hx : ReflTransGen d.Contains x r) :
    x = r := by
  rcases ReflTransGen.cases_tail hx with hxr | ⟨p, -, hp⟩
  · exact hxr.symm
  · exact absurd hp (h.not_contains_root r hr p)

theorem mem_preorder_iff (h : d.Grove) :
    el ∈ d.preorder ↔ ∃ r ∈ d.roots, ReflTransGen d.Contains r el :=
  Descends.mem_flatMap_subtree_iff fun r hr ↦ ⟨h.lt_of_mem_roots r hr, h.descends_root hr⟩

theorem isAttached_iff (h : d.Grove) :
    d.isAttached el ↔ ∃ r ∈ d.roots, d.isAttached r ∧ ReflTransGen d.Contains r el := by
  constructor
  · intro ha
    induction el using Nat.strongRecOn with
    | ind el ih =>
      rcases h.listed el ha with hr | ⟨p, hc⟩
      · exact ⟨el, hr, ha, .refl⟩
      · have hne : p ≠ el := by
          rintro rfl
          rw [h.own_unattached p hc] at ha
          cases ha
        rw [h.isAttached_eq p el hc] at ha
        obtain ⟨r, hr, har, hb⟩ := ih p (Nat.lt_of_le_of_ne (h.linked p el hc).2 hne) ha
        exact ⟨r, hr, har, hb.tail hc⟩
  · rintro ⟨r, -, ha, hb⟩
    induction hb with
    | refl => exact ha
    | tail _ hc ih => rwa [h.isAttached_eq _ _ hc]

theorem cuts (h : d.Grove) (hd : Cuts d d' els) : d'.Grove where
  linked := hd.linked h.linked
  lt_of_mem_roots r hr := by
    rw [hd.roots] at hr
    exact hd.size ▸ h.lt_of_mem_roots r (List.mem_of_mem_filter hr)
  not_contains_root r hr p hc := by
    rw [hd.roots] at hr
    exact h.not_contains_root r (List.mem_of_mem_filter hr) p (hd.contains_iff.mp hc).1
  isAttached_eq p el hc :=
    hd.isAttached_eq h.linked hc (h.isAttached_eq p el (hd.contains_iff.mp hc).1)
  own_unattached el hc := by
    rw [hd.isAttached, h.own_unattached el (hd.contains_iff.mp hc).1]
    rfl
  listed el hel := by
    rw [hd.isAttached, Bool.and_eq_true, decide_eq_true_iff] at hel
    have hnot : el ∉ els := fun hmem ↦ hel.2 (hd.mem_below_of_mem h.linked hmem)
    refine (h.listed el hel.1).imp (fun hr ↦ ?_) fun ⟨p, hc⟩ ↦ ⟨p, hd.contains_iff.mpr ⟨hc, hnot⟩⟩
    rw [hd.roots, List.mem_filter, decide_eq_true_iff]
    exact ⟨hr, .inl hnot⟩

theorem appendElement (h : d.Grove) (parent : Option ElementId) (tag : String)
    (attrs : List (String × String)) : (d.appendElement parent tag attrs).2.Grove where
  linked := h.linked.appendElement
  lt_of_mem_roots r hr := by
    rw [size_appendElement]
    rcases mem_roots_appendElement_iff.mp hr with hr | ⟨-, rfl⟩
    · exact Nat.lt_succ_of_lt (h.lt_of_mem_roots r hr)
    · exact Nat.lt_succ_self _
  not_contains_root r hr p hc := by
    rcases mem_roots_appendElement_iff.mp hr with hr | ⟨hlt, rfl⟩
    · rcases contains_appendElement_iff.mp hc with hc | ⟨-, rfl⟩
      · exact h.not_contains_root r hr p hc
      · exact Nat.lt_irrefl _ (h.lt_of_mem_roots _ hr)
    · rcases contains_appendElement_iff.mp hc with hc | ⟨⟨hp, hle⟩, -⟩
      · exact Nat.lt_irrefl _ (h.linked.lt_size hc)
      · exact Nat.not_lt.mpr hle (hlt p hp)
  isAttached_eq p el hc := by
    rw [isAttached_appendElement, isAttached_appendElement]
    rcases contains_appendElement_iff.mp hc with hc | ⟨⟨rfl, -⟩, rfl⟩
    · have hel := h.linked.lt_size hc
      have hp := Nat.lt_of_le_of_lt (h.linked p el hc).2 hel
      rw [if_neg (Nat.ne_of_lt hel), if_neg (Nat.ne_of_lt hp)]
      exact h.isAttached_eq p el hc
    · rw [if_pos rfl]
      split <;> rfl
  own_unattached el hc := by
    rw [isAttached_appendElement]
    rcases contains_appendElement_iff.mp hc with hc | ⟨⟨rfl, -⟩, rfl⟩
    · rw [if_neg (Nat.ne_of_lt (h.linked.lt_size hc))]
      exact h.own_unattached el hc
    · rw [if_pos rfl]
      exact isAttached_of_le (Nat.le_refl _)
  listed el hel := by
    rw [isAttached_appendElement] at hel
    split at hel
    · rename_i hs
      cases parent with
      | none => exact .inl (mem_roots_appendElement_iff.mpr (.inr ⟨nofun, hs⟩))
      | some p =>
        have hle : p ≤ d.size := Nat.le_of_lt (lt_size_of_isAttached hel)
        exact .inr ⟨p, contains_appendElement_iff.mpr (.inr ⟨⟨rfl, hle⟩, hs⟩)⟩
    · refine (h.listed el hel).imp (fun hr ↦ ?_) fun ⟨p, hc⟩ ↦ ⟨p, ?_⟩
      · exact mem_roots_appendElement_iff.mpr (.inl hr)
      · exact contains_appendElement_iff.mpr (.inl hc)

theorem apply (h : d.Grove) (e : Edit) : (e.apply d).Grove := by
  rcases h.linked.edit_cases e with ⟨parent, tag, attrs, rfl⟩ | ⟨els, hcuts⟩
  · exact h.appendElement parent tag attrs
  · exact h.cuts hcuts

theorem mem_preorder_remove_iff (h : d.Grove) (hel : el < d.size)
    (hx : ReflTransGen d.Contains el x) :
    x ∈ (d.remove el).preorder ↔ el ∈ d.roots ∧ (d.parent? el).isSome := by
  have hcuts := h.linked.cuts_remove hel
  have h' := h.cuts hcuts
  have hmem : el ∈ [el] := List.mem_singleton.mpr rfl
  have hroot : el ∈ (d.remove el).roots ↔ el ∈ d.roots ∧ (d.parent? el).isSome := by
    rw [hcuts.roots, List.mem_filter, decide_eq_true_iff, or_iff_right (not_not.mpr hmem)]
  rw [h'.mem_preorder_iff, ← hroot]
  have hbelow : ReflTransGen (d.remove el).Contains el x := by
    simpa using hcuts.below_iff.mpr ⟨el, hmem, hx⟩
  constructor
  · rintro ⟨r, hr, hrx⟩
    rcases h'.linked.above_total hbelow hrx with hup | hdown
    · exact h'.eq_of_above_root hr hup ▸ hr
    · rcases ReflTransGen.cases_tail hdown with heq | ⟨p, -, hp⟩
      · exact heq ▸ hr
      · exact absurd hmem (hcuts.contains_iff.mp hp).2
  · exact fun hr ↦ ⟨el, hr, hbelow⟩

end Grove

/-- The documents that are reached by edits which are allowed where they are made. Writing content
to an element in its own list is one of the edits, though comparing the content before does not end
there. -/
inductive Reached (allowed : Markup → Edit → Prop) : Markup → Prop
  | empty : Reached allowed empty
  | ofJson {v : Json} {d : Markup} : ofJson v = .ok d → Reached allowed d
  | edit {d : Markup} {e : Edit} : Reached allowed d → allowed d e → Reached allowed (e.apply d)

/-- An element is appended under a number past its own. -/
def Edit.Strays (d : Markup) : Edit → Prop
  | appendElement (some p) _ _ => d.size < p
  | _ => False

section Reached

variable {allowed : Markup → Edit → Prop}

theorem Reached.grove (h : Reached allowed d) : d.Grove := by
  induction h with
  | empty => exact Forest.empty.grove
  | ofJson h => exact (Built.ofJson h).forest.grove
  | edit _ _ ih => exact ih.apply _

theorem Grove.rooted_apply (h : d.Grove) (hr : ∀ r ∈ d.roots, d.parent? r = none ∧ d.isAttached r)
    {e : Edit} (he : ¬ e.Strays d) :
    ∀ r ∈ (e.apply d).roots, (e.apply d).parent? r = none ∧ (e.apply d).isAttached r := by
  intro r hmem
  rcases h.linked.edit_cases e with ⟨parent, tag, attrs, rfl⟩ | ⟨els, hcuts⟩
  · rw [Edit.apply] at hmem ⊢
    rw [parent?_appendElement, isAttached_appendElement]
    rcases mem_roots_appendElement_iff.mp hmem with hold | ⟨hlt, rfl⟩
    · rw [if_neg (Nat.ne_of_lt (h.lt_of_mem_roots r hold)),
        if_neg (Nat.ne_of_lt (h.lt_of_mem_roots r hold))]
      exact hr r hold
    · cases parent with
      | none => simp
      | some p => exact absurd (hlt p rfl) he
  · rw [hcuts.roots, List.mem_filter, decide_eq_true_iff] at hmem
    obtain ⟨hmem, hkept⟩ := hmem
    obtain ⟨hnone, hatt⟩ := hr r hmem
    have hnot : r ∉ els := by simpa [hnone] using hkept
    rw [hcuts.parent?, if_neg hnot, hcuts.isAttached, hatt, Bool.true_and, decide_eq_true_iff,
      hcuts.mem_below_iff h.linked]
    refine ⟨hnone, ?_⟩
    rintro ⟨c, hc, hb⟩
    exact hnot (h.eq_of_above_root hmem hb ▸ hc)

theorem Reached.rooted (h : Reached allowed d) (hallowed : ∀ d e, allowed d e → ¬ e.Strays d) :
    ∀ r ∈ d.roots, d.parent? r = none ∧ d.isAttached r := by
  have hforest {d : Markup} (h : d.Forest) : ∀ r ∈ d.roots, d.parent? r = none ∧ d.isAttached r :=
    fun r ↦ (h.mem_roots r).mp
  induction h with
  | empty => exact hforest .empty
  | ofJson h => exact hforest (Built.ofJson h).forest
  | edit h he ih => exact h.grove.rooted_apply ih (hallowed _ _ he)

/-- No query gives an element, and no start tag in the text is that of the element. -/
structure Unseen (d : Markup) (x : ElementId) : Prop where
  elementsWith : ∀ name, x ∉ d.elementsWith name
  findById? : ∀ id, d.findById? id ≠ some x
  text : ¬ ∃ n, d.TagAt x n

theorem unseen_iff : d.Unseen x ↔ x ∉ d.preorder := by
  refine ⟨fun h hx ↦ h.text (exists_tagAt_iff.mpr hx), fun h ↦ ⟨?_, ?_, ?_⟩⟩
  · exact fun name hx ↦ h (mem_elementsWith_iff.mp hx).1
  · exact fun id hx ↦ h (List.mem_of_find?_eq_some hx)
  · exact fun htag ↦ h (exists_tagAt_iff.mp htag)

/-- What is visited is what is reached from the top, and what is attached is what is reached from
elements at the top that are attached. What is below an element that is removed is not attached any
more, and is unseen unless the element stands at the top for the want of the parent that it names.
If nothing is appended under a number past its own, then all that is visited is attached, and all
below an element that is removed is unseen. -/
theorem Reached.visited_iff (h : Reached allowed d) :
    (∀ out, d.Walks (pushAll d.roots.reverse []) out ↔ out = d.preorder) ∧
      (∀ el, el ∈ d.preorder ↔ ∃ r ∈ d.roots, ReflTransGen d.Contains r el) ∧
      (∀ el, d.isAttached el ↔ ∃ r ∈ d.roots, d.isAttached r ∧ ReflTransGen d.Contains r el) ∧
      (∀ el < d.size, ∀ x, ReflTransGen d.Contains el x →
        (d.remove el).isAttached x = false ∧
          ((d.remove el).Unseen x ↔ ¬ (el ∈ d.roots ∧ (d.parent? el).isSome))) ∧
      ((∀ d e, allowed d e → ¬ e.Strays d) →
        (∀ el, el ∈ d.preorder ↔ d.isAttached el) ∧
          ∀ el < d.size, ∀ x, ReflTransGen d.Contains el x → (d.remove el).Unseen x) := by
  have hg := h.grove
  have hremove (el : ElementId) (hel : el < d.size) (x : ElementId)
      (hx : ReflTransGen d.Contains el x) :
      (d.remove el).Unseen x ↔ ¬ (el ∈ d.roots ∧ (d.parent? el).isSome) := by
    rw [unseen_iff, hg.mem_preorder_remove_iff hel hx]
  refine ⟨fun out ↦ Descends.walks_iff fun r hr ↦ hg.descends_root hr, fun el ↦ hg.mem_preorder_iff,
    fun el ↦ hg.isAttached_iff, fun el hel x hx ↦ ⟨?_, hremove el hel x hx⟩, fun hallowed ↦ ?_⟩
  · exact (hg.linked.cuts_remove hel).unattached_of_below hg.linked (List.mem_singleton.mpr rfl) hx
  · have hrooted := h.rooted hallowed
    refine ⟨fun el ↦ ?_, fun el hel x hx ↦ (hremove el hel x hx).mpr ?_⟩
    · rw [hg.mem_preorder_iff, hg.isAttached_iff]
      exact exists_congr fun r ↦ and_congr_right fun hr ↦ (and_iff_right (hrooted r hr).2).symm
    · rintro ⟨hr, hp⟩
      rw [(hrooted el hr).1] at hp
      cases hp

end Reached

namespace Porch

def edits : List Edit :=
  [.appendElement (some 7) "a" [("id", "guest")], .appendElement (some 0) "b" []]

def document : Markup := edits.foldl Edit.apply empty

theorem reached_document : Reached (fun _ _ ↦ True) document :=
  .edit (e := .appendElement (some 0) "b" [])
    (.edit (e := .appendElement (some 7) "a" [("id", "guest")]) .empty trivial) trivial

theorem visited_iff_porch :
    Reached (fun _ _ ↦ True) document ∧ ¬ (document.remove 0).Unseen 1 ∧
      (document.remove 0).isAttached 1 = false ∧ (document.remove 1).Unseen 1 := by
  have hinner : 1 ∈ document.childElements 0 := by decide +kernel
  have hbelow : ReflTransGen document.Contains 0 1 := .single hinner
  obtain ⟨-, -, -, hremove, -⟩ := Reached.visited_iff reached_document
  obtain ⟨hout, hseen⟩ := hremove 0 (by decide +kernel) 1 hbelow
  obtain ⟨-, hunseen⟩ := hremove 1 (by decide +kernel) 1 .refl
  exact ⟨reached_document, fun h ↦ hseen.mp h (by decide +kernel), hout,
    hunseen.mpr (by decide +kernel)⟩

/-- A guest is visited, found and shown though not attached, and so also after it is removed. -/
theorem guest_stays_visited :
    Reached (fun _ _ ↦ True) document ∧ 0 ∈ document.preorder ∧ document.isAttached 0 = false ∧
      (document.remove 0).findById? "guest" = some 0 ∧
      (document.remove 0).elementsWith "id" = [0] ∧
      (document.remove 0).toHtml = "<a id=\"guest\"><b></b></a>" := by
  refine ⟨reached_document, ?_, ?_, ?_, ?_, ?_⟩
  all_goals decide +kernel

end Porch

end DataBinding.Markup
