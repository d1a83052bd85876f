import DataBinding.Proofs.Markup.Content
import DataBinding.Proofs.Markup.Tag

namespace DataBinding.Markup

open Relation

variable {d d' : Markup} {el x : ElementId}

/-- The element that an edit changes or appends to. -/
def Edit.element? : Edit → Option ElementId
  | appendElement parent _ _ => parent
  | appendText el _ | setAttribute el _ _ | setInnerHtml el _ | remove el => some el

/-- The elements at the top are the same, and the attached ones have the same faces. -/
structure Frames (d d' : Markup) : Prop where
  size_le : d.size ≤ d'.size
  roots : d'.roots = d.roots
  face? : ∀ x, d.isAttached x → d'.face? x = d.face? x

namespace Frames

theorem face?_of_below (hd : Frames d d') (h : d.Forest) {r : ElementId} (hr : r ∈ d.roots)
    (hx : ReflTransGen d.Contains r x) : d'.face? x = d.face? x :=
  hd.face? x ((h.isAttached_iff x).mpr ⟨r, hr, hx⟩)

theorem toHtml_eq (hd : Frames d d') (h : d.Forest) : d'.toHtml = d.toHtml := by
  rw [toHtml, toHtml, hd.roots]
  congr 1
  refine List.flatMap_congr fun r hr ↦ ?_
  rw [outerHtmlTo_congr fun x hx ↦ hd.face?_of_below h hr hx]
  exact (h.descends r).outerHtmlTo_eq (Nat.le_trans hd.size_le (Nat.le_add_right _ _))
    (Nat.le_add_right _ _)

theorem preorder_eq (hd : Frames d d') (h : d.Forest) : d'.preorder = d.preorder := by
  rw [preorder, preorder, hd.roots]
  refine List.flatMap_congr fun r hr ↦ ?_
  rw [subtreeTo_congr fun x hx ↦ hd.face?_of_below h hr hx]
  exact (h.descends r).subtreeTo_eq (Nat.le_trans hd.size_le (Nat.le_add_right _ _))
    (Nat.le_add_right _ _)

theorem isAttached_eq (hd : Frames d d') (h : d.Forest) (h' : d'.Forest) (x : ElementId) :
    d'.isAttached x = d.isAttached x := by
  rw [Bool.eq_iff_iff, ← h'.mem_preorder_iff, hd.preorder_eq h, h.mem_preorder_iff]

theorem attribute?_eq (hd : Frames d d') (h : d.Forest) (hx : x ∈ d.preorder) (name : String) :
    d'.attribute? x name = d.attribute? x name := by
  rw [attribute?_eq_face?, attribute?_eq_face?, hd.face? x (h.mem_preorder_iff.mp hx)]

theorem elementsWith_eq (hd : Frames d d') (h : d.Forest) (name : String) :
    d'.elementsWith name = d.elementsWith name := by
  rw [elementsWith_eq_filter, elementsWith_eq_filter, hd.preorder_eq h]
  exact List.filter_congr fun x hx ↦ by rw [hd.attribute?_eq h hx]

theorem findById?_eq (hd : Frames d d') (h : d.Forest) (id : String) :
    d'.findById? id = d.findById? id := by
  rw [findById?, findById?, hd.preorder_eq h, ← List.head?_filter, ← List.head?_filter]
  congr 1
  exact List.filter_congr fun x hx ↦ by rw [hd.attribute?_eq h hx]

end Frames

theorem face?_remove_of_ne (hne : d.parent? el ≠ some x) : (d.remove el).face? x = d.face? x := by
  rw [remove]
  cases hnode : d.node? el with
  | none => rfl
  | some node =>
    rw [parent?, hnode, Option.bind_some] at hne
    simp only [orphan_eq_release, detach_eq_release, face?_release]
    split
    · rename_i p hp
      rw [face?_modifyNode, if_neg]
      rintro rfl
      exact hne hp
    · rfl

theorem face?_appendText_of_ne (hx : x ≠ el) (d : Markup) (s : String) :
    (d.appendText el s).face? x = d.face? x := by
  rw [appendText, appendChild, face?_modifyNode, if_neg hx]

theorem face?_appendElement_of_ne {parent : Option ElementId} (hx : x < d.size)
    (hne : parent ≠ some x) (tag : String) (attrs : List (String × String)) :
    (d.appendElement parent tag attrs).2.face? x = d.face? x := by
  rw [face?, node?_appendElement, if_neg (Nat.ne_of_lt hx)]
  simp only [if_neg hne, Option.map_id_fun', id]
  rfl

theorem Forest.frames (h : d.Forest) {e : Edit} (he : e.Proper d) (helement : e.element? = some el)
    (hel : d.isAttached el = false) : Frames d (e.apply d) := by
  have hne {y : ElementId} (hy : d.isAttached y) : y ≠ el := by
    rintro rfl
    rw [hel] at hy
    cases hy
  cases e with
  | appendElement parent tag attrs =>
    cases helement
    refine ⟨?_, ?_, fun y hy ↦ ?_⟩
    · rw [Edit.apply, size_appendElement]
      exact Nat.le_succ _
    · rw [Edit.apply, roots_appendElement_of_lt _ _ he, if_neg (Option.some_ne_none el),
        List.append_nil]
    · exact face?_appendElement_of_ne (lt_size_of_isAttached hy)
        (fun heq ↦ hne hy (Option.some.inj heq).symm) tag attrs
  | appendText el' s =>
    cases helement
    exact ⟨Nat.le_of_eq (size_modifyNode d el _).symm, rfl, fun y hy ↦
      face?_appendText_of_ne (hne hy) d s⟩
  | setAttribute el' name value =>
    cases helement
    refine ⟨Nat.le_of_eq (d.size_setAttribute el name value).symm, rfl, fun y hy ↦ ?_⟩
    rw [Edit.apply, face?_setAttribute, if_neg (hne hy)]
  | setInnerHtml el' html =>
    cases helement
    refine ⟨Nat.le_of_eq (d.size_setInnerHtml el html).symm, d.roots_setInnerHtml el html,
      fun y hy ↦ ?_⟩
    rw [Edit.apply, face?_setInnerHtml, if_neg fun heq ↦ hne hy heq.1]
  | remove el' =>
    cases helement
    by_cases hlt : el < d.size
    · -- a parent that is attached would have an attached child
      have hcuts := h.linked.cuts_remove hlt
      refine ⟨Nat.le_of_eq hcuts.size.symm, ?_, fun y hy ↦ face?_remove_of_ne fun hp ↦ ?_⟩
      · rw [Edit.apply, hcuts.roots, List.filter_eq_self]
        intro r hr
        have hr : r ≠ el := hne ((h.mem_roots r).mp hr).2
        simp [hr]
      · rw [← h.isAttached_eq el y hp, hel] at hy
        cases hy
    · have hsame : d.remove el = d := by rw [remove, node?_eq_none_of_le (Nat.not_lt.mp hlt)]
      rw [Edit.apply, hsame]
      exact ⟨Nat.le_refl _, rfl, fun _ _ ↦ rfl⟩

/-- What is done to an element that is not attached, or under it, changes neither the text nor the
top of the document, neither what is found in it nor what is attached. And an element that is not
attached is not attached after any edits of any elements. -/
theorem Built.unattached_isolated (hd : Built d) :
    (∀ (el : ElementId) (e : Edit), d.isAttached el = false → e.Proper d → e.element? = some el →
      (e.apply d).toHtml = d.toHtml ∧ (e.apply d).roots = d.roots ∧
        (∀ name, (e.apply d).elementsWith name = d.elementsWith name) ∧
        (∀ id, (e.apply d).findById? id = d.findById? id) ∧
        ∀ x < d.size, (e.apply d).isAttached x = d.isAttached x) ∧
      ∀ el < d.size, d.isAttached el = false →
        ∀ es : List Edit, (es.foldl Edit.apply d).isAttached el = false := by
  have h := hd.forest
  refine ⟨fun el e hel he helement ↦ ?_, fun el hlt hel ↦ h.linked.unattached_foldl hlt hel⟩
  have hframes := h.frames he helement hel
  have h' := Edit.forest_apply h he
  exact ⟨hframes.toHtml_eq h, hframes.roots, hframes.elementsWith_eq h, hframes.findById?_eq h,
    fun x _ ↦ hframes.isAttached_eq h h' x⟩

namespace Attic

def items : Json :=
  .array [.string "div",
    .array [.string "p", .object [("id", .string "lamp")],
      .array [.string "b", .object [("class", .string "dusty")]]],
    .array [.string "p", .object [("class", .string "dusty")]]]

def document : Markup := (Edit.remove 1).apply ((ofJson items).toOption.getD .empty)

theorem unattached_isolated_attic :
    Built document ∧ document.isAttached 2 = false ∧
      ((Edit.appendElement (some 2) "i" [("id", "lamp"), ("class", "dusty")]).apply
        document).elementsWith "class" = [3] ∧
      ((Edit.appendElement (some 2) "i" [("id", "lamp"), ("class", "dusty")]).apply
        document).findById? "lamp" = none ∧
      ((Edit.setInnerHtml 1 "<b>").apply document).toHtml = "<div><p class=\"dusty\"></p></div>" ∧
      ([.setInnerHtml 1 "<b>", .appendElement (some 9) "i" [], .remove 0].foldl Edit.apply
        document).isAttached 2 = false := by
  have hd : Built document := .edit (e := .remove 1) (.ofJson (v := items) rfl) trivial
  have hout : document.isAttached 2 = false := by decide +kernel
  have hclass : document.elementsWith "class" = [3] := by decide +kernel
  have hlamp : document.findById? "lamp" = none := by decide +kernel
  have hhtml : document.toHtml = "<div><p class=\"dusty\"></p></div>" := by decide +kernel
  obtain ⟨hedit, hlater⟩ := Built.unattached_isolated hd
  obtain ⟨-, -, hlist, hfind, -⟩ := hedit 2
    (.appendElement (some 2) "i" [("id", "lamp"), ("class", "dusty")]) hout
    (fun p hp ↦ by cases hp; decide +kernel) rfl
  obtain ⟨htext, -⟩ := hedit 1 (.setInnerHtml 1 "<b>") (by decide +kernel) trivial rfl
  exact ⟨hd, hout, (hlist "class").trans hclass, (hfind "lamp").trans hlamp, htext.trans hhtml,
    hlater 2 (by decide +kernel) hout _⟩

end Attic

end DataBinding.Markup
