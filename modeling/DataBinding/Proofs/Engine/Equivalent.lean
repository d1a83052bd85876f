import DataBinding.Proofs.Binding.Plain
import DataBinding.Proofs.Engine.Render

namespace DataBinding

open Binding

namespace Json

theorem display_orBlank (v : Json) : v.orBlank.display = v.display := by
  cases v <;> rfl

end Json

namespace Engine

section

variable {D : Type} [Document D]

theorem run_render_chain_nil (i : Nat) (el : ElementId) (p : Path) (s : Engine D) :
    (render i el (.chain p [])).run s =
      .ok () (wrote i (.html el (Json.displayOption (s.data.get? p))) s) := by
  have hrun : (applyFilters el [] (s.data.get? p)).run s =
      .ok ((s.data.get? p).getD .null).orBlank s := rfl
  rw [run_render_chain, hrun, ← Json.displayOption_getD]
  simp only [Json.display_orBlank]
  rfl

end

/-- A text without bars and colons is read as a lone path in both styles, or in neither; and either
way it shows the value at the path, by one write of the content. -/
theorem parse_plain_alike {expression : String} (hbar : '|' ∉ expression.toList)
    (hcolon : ':' ∉ expression.toList) :
    (∃ p, parse .filterChain expression = .ok (.chain p []) ∧
      parse .attr expression = .ok (.content p) ∧
      ∀ {D : Type} [Document D] (s : Engine D) (i : Nat) (el : ElementId),
        let shown := wrote i (.html el (Json.displayOption (s.data.get? p))) s
        (render i el (.chain p [])).run s = .ok () shown ∧
          (render i el (.content p)).run s = .ok () shown) ∨
      (∃ e, parse .filterChain expression = .error e) ∧ ∃ e, parse .attr expression = .error e := by
  have hchain {b : Binding} :=
    parse_filterChain_eq_ok.trans (parseChain_iff_of_notMem hbar (b := b))
  have hattr {b : Binding} := parse_attr_eq_ok.trans (parseAttribute_iff_of_notMem hcolon (b := b))
  by_cases h : ∃ p : Path, Grammar.Property (Text.trim expression.toList) p.segments
  · obtain ⟨p, hp⟩ := h
    refine .inl ⟨p, hchain.mpr ⟨p, rfl, hp⟩, hattr.mpr ⟨p, rfl, hp⟩, fun s i el ↦ ?_⟩
    exact ⟨run_render_chain_nil i el p s, run_render_content i el p s⟩
  · refine .inr ⟨exists_parse_error fun b hb ↦ ?_, exists_parse_error fun b hb ↦ ?_⟩
    · obtain ⟨p, -, hp⟩ := hchain.mp hb
      exact h ⟨p, hp⟩
    · obtain ⟨p, -, hp⟩ := hattr.mp hb
      exact h ⟨p, hp⟩

theorem parse_plain_alike_greeting :
    (parse .filterChain "\u3000model.name. " = .ok (.chain Greeting.path []) ∧
      parse .attr "\u3000model.name. " = .ok (.content Greeting.path) ∧
      ∀ (s : Engine Markup) (el : ElementId),
        (render 0 el (.chain Greeting.path [])).run s =
          (render 0 el (.content Greeting.path)).run s) ∧
      (∃ e, parse .filterChain "model name" = .error e) ∧
        ∃ e, parse .attr "model name" = .error e := by
  have hread : parse .attr "\u3000model.name. " = .ok (.content Greeting.path) := rfl
  have hrefused : (parse .attr "model name").toBool = false := rfl
  refine ⟨?_, ?_⟩
  · rcases parse_plain_alike (show '|' ∉ "\u3000model.name. ".toList by decide) (by decide) with
      ⟨p, hchain, hattr, hshown⟩ | ⟨-, e, he⟩
    · rw [hread] at hattr
      cases hattr
      exact ⟨hchain, hread, fun s el ↦ (hshown s 0 el).1.trans (hshown s 0 el).2.symm⟩
    · rw [hread] at he
      cases he
  · rcases parse_plain_alike (show '|' ∉ "model name".toList by decide) (by decide) with
      ⟨p, -, hattr, -⟩ | hfails
    · rw [hattr] at hrefused
      cases hrefused
    · exact hfails

end Engine

end DataBinding
