import DataBinding.Proofs.Markup.Face

namespace DataBinding.Markup

open Relation

variable {d d' : Markup} {el x : ElementId} {html : String}

/-- Elements that have the same faces from an element down show the same in it and around it. -/
theorem html_congr (hs : d'.size = d.size)
    (h : ∀ y, ReflTransGen d.Contains x y → d'.face? y = d.face? y) :
    d'.innerHtml x = d.innerHtml x ∧ d'.outerHtml x = d.outerHtml x := by
  have hface := h x .refl
  refine ⟨?_, ?_⟩
  · cases hnode : d.node? x with
    | none =>
      have hnode' : d'.node? x = none := by simpa [face?, hnode] using hface
      rw [innerHtml, innerHtml, hnode, hnode']
    | some node =>
      rw [face?_of_node? hnode] at hface
      obtain ⟨node', hnode', hface⟩ := exists_node?_of_face? hface
      have hchildren : node'.children = node.children := congrArg Face.children hface
      exact innerHtml_congr hnode hnode' hchildren hs fun y hy ↦ h y hy.to_reflTransGen
  · rw [outerHtml, outerHtml, hs, outerHtmlTo_congr h]

theorem innerHtml_setInnerHtml (hel : el < d.size) (html : String) :
    (d.setInnerHtml el html).innerHtml el = html := by
  by_cases h : d.innerHtml el = html
  · rw [setInnerHtml_of_eq h, h]
  · obtain ⟨node, hnode⟩ := exists_node?_of_lt hel
    have hface := face?_setInnerHtml d el el html
    rw [if_pos ⟨rfl, h⟩, face?_of_node? hnode, Option.map_some] at hface
    obtain ⟨node', hnode', hface⟩ := exists_node?_of_face? hface
    exact innerHtml_of_content hnode' (congrArg Face.children hface)

theorem html_setInnerHtml_of_not_above (hx : ¬ ReflTransGen d.Contains x el) (html : String) :
    (d.setInnerHtml el html).innerHtml x = d.innerHtml x ∧
      (d.setInnerHtml el html).outerHtml x = d.outerHtml x := by
  refine html_congr (size_setInnerHtml d el html) fun y hy ↦ ?_
  have hne : y ≠ el := by
    rintro rfl
    exact hx hy
  rw [face?_setInnerHtml, if_neg fun h ↦ hne h.1]

namespace Forest

theorem isAttached_setInnerHtml_of_below (h : d.Forest) (hne : d.innerHtml el ≠ html)
    (hx : TransGen d.Contains el x) : (d.setInnerHtml el html).isAttached x = false := by
  obtain ⟨c, hc, hx⟩ := TransGen.head'_iff.mp hx
  exact (h.linked.cuts_setInnerHtml hne).unattached_of_below h.linked hc hx

theorem not_above_of_below (h : d.Forest) (hx : TransGen d.Contains el x) :
    ¬ ReflTransGen d.Contains x el :=
  fun hback ↦ h.irrefl el (hx.trans_left hback)

end Forest

/-- What is written to an element is its content from then on. Elements that it does not stand in
show what they did before, also those that stood in it and are not attached any more. Writing the
content that is there changes nothing at all. -/
theorem Built.setInnerHtml_spec (hd : Built d) (hel : el < d.size) (html : String) :
    (d.setInnerHtml el html).innerHtml el = html ∧
      (∀ x, ¬ ReflTransGen d.Contains x el →
        (d.setInnerHtml el html).innerHtml x = d.innerHtml x ∧
          (d.setInnerHtml el html).outerHtml x = d.outerHtml x) ∧
      (∀ x, TransGen d.Contains el x → ¬ ReflTransGen d.Contains x el ∧
        (html ≠ d.innerHtml el → (d.setInnerHtml el html).isAttached x = false)) ∧
      (html = d.innerHtml el → d.setInnerHtml el html = d) := by
  have hf := hd.forest
  refine ⟨innerHtml_setInnerHtml hel html, fun x hx ↦ html_setInnerHtml_of_not_above hx html, ?_,
    fun h ↦ setInnerHtml_of_eq h.symm⟩
  intro x hx
  exact ⟨hf.not_above_of_below hx, fun hne ↦ hf.isAttached_setInnerHtml_of_below (Ne.symm hne) hx⟩

namespace Shelf

def stocked : Markup := (ofJson items).toOption.getD .empty

theorem setInnerHtml_spec_stocked :
    Built stocked ∧ (stocked.setInnerHtml 0 "sold <out>").innerHtml 0 = "sold <out>" ∧
      (stocked.setInnerHtml 0 "sold <out>").outerHtml 2 = "<li><b></b></li>" ∧
      (stocked.setInnerHtml 0 "sold <out>").isAttached 3 = false ∧
      stocked.setInnerHtml 2 "<b></b>" = stocked := by
  have hd : Built stocked := .ofJson (v := items) rfl
  have hf : stocked.Forest := hd.forest
  have hsecond : 2 ∈ stocked.childElements 0 := by decide +kernel
  have hinner : 3 ∈ stocked.childElements 2 := by decide +kernel
  have habove : ¬ ReflTransGen stocked.Contains 2 0 := by
    intro h
    exact absurd (hf.linked.le_of_below h) (by decide)
  have hshown : stocked.outerHtml 2 = "<li><b></b></li>" := by decide +kernel
  have hsame : "<b></b>" = stocked.innerHtml 2 := by decide +kernel
  have hnew : "sold <out>" ≠ stocked.innerHtml 0 := by decide +kernel
  obtain ⟨hwritten, hkept, hout, -⟩ :=
    Built.setInnerHtml_spec hd (show 0 < stocked.size by decide +kernel) "sold <out>"
  obtain ⟨-, -, -, hunchanged⟩ :=
    Built.setInnerHtml_spec hd (show 2 < stocked.size by decide +kernel) "<b></b>"
  have hbelow : TransGen stocked.Contains 0 3 := .tail (.single hsecond) hinner
  exact ⟨hd, hwritten, (hkept 2 habove).2.trans hshown, (hout 3 hbelow).2 hnew, hunchanged hsame⟩

end Shelf

end DataBinding.Markup
