import DataBinding.Engine.Rendering
import DataBinding.Filter.Builtin
import DataBinding.Markup.Basic
import DataBinding.Proofs.Filter.Chain
import DataBinding.Proofs.Text.Pieces

namespace DataBinding

open Text

namespace Filter

theorem intercalate_pieces (s d : List Char) : d.intercalate (pieces s d) = s := by
  cases d with
  | nil => rw [pieces, nil_intercalate, ← List.flatMap_def, List.flatMap_singleton']
  | cons c d => exact intercalate_split c d s

theorem pieces_intercalate {c : Char} {fs : List (List Char)} (hne : fs ≠ [])
    (h : ∀ f ∈ fs, c ∉ f) : pieces ([c].intercalate fs) [c] = fs := by
  rw [pieces, split_singleton, fields_intercalate hne h]

end Filter

def ofTexts (fs : List (List Char)) : Json := .array (fs.map fun f ↦ .string (String.ofList f))

theorem ofTexts_toList (texts : List String) :
    ofTexts (texts.map String.toList) = .array (texts.map .string) := by
  rw [ofTexts, List.map_map]
  congr 1
  exact List.map_congr_left fun t _ ↦ congrArg Json.string String.ofList_toList

namespace Clause

variable {E : Type} [FilterTarget E]

theorem run_apply_split (s d : String) (b : Option E) :
    (apply .builtin (.string s) ⟨"split", [d]⟩).run b =
      .ok (ofTexts (Filter.pieces s.toList d.toList)) b :=
  run_apply_of_script (f := Filter.split) rfl rfl rfl b

theorem run_apply_join (fs : List (List Char)) (d : String) (b : Option E) :
    (apply .builtin (ofTexts fs) ⟨"join", [d]⟩).run b =
      .ok (.string (String.ofList (d.toList.intercalate fs))) b := by
  have hrender : (fs.map fun f ↦ Json.string (String.ofList f)).map Json.render = fs := by
    rw [List.map_map]
    exact List.map_id'' (fun f ↦ String.toList_ofList) fs
  refine run_apply_of_script (f := Filter.join) rfl rfl ?_ b
  change Script.done (.ok (.string (String.ofList (d.toList.intercalate (List.map _ _))))) = _
  rw [hrender]

theorem run_applyAll_pair {r : Filters} {c₁ c₂ : Clause} {u v w : Json} {b : Option E}
    (h₁ : (apply r u c₁).run b = .ok v b) (h₂ : (apply r v c₂).run b = .ok w b) :
    (applyAll r [c₁, c₂] (some u)).run b = .ok w.orBlank b := by
  rw [run_applyAll, run_foldlM_cons, Option.getD_some, h₁]
  simp only [run_foldlM_cons, h₂]
  rfl

/-- Joining what was split gives the text back, whatever the delimiter is, and splitting what was
joined gives the texts back if there is one at least and the delimiter is a character that is in
none of them. -/
theorem split_join_inverse (b : Option E) :
    (∀ s d : String,
      (applyAll .builtin [⟨"split", [d]⟩, ⟨"join", [d]⟩] (some (.string s))).run b =
        .ok (.string s) b) ∧
    ∀ (c : Char) (texts : List String), texts ≠ [] → (∀ t ∈ texts, c ∉ t.toList) →
      (applyAll .builtin [⟨"join", [String.singleton c]⟩, ⟨"split", [String.singleton c]⟩]
        (some (.array (texts.map .string)))).run b = .ok (.array (texts.map .string)) b := by
  refine ⟨fun s d ↦ ?_, fun c texts hne h ↦ ?_⟩
  · have hjoin := run_apply_join (Filter.pieces s.toList d.toList) d b
    rw [Filter.intercalate_pieces, String.ofList_toList] at hjoin
    exact run_applyAll_pair (run_apply_split s d b) hjoin
  · have hfree : ∀ f ∈ texts.map String.toList, c ∉ f := List.forall_mem_map.mpr h
    have hjoin := run_apply_join (texts.map String.toList) (String.singleton c) b
    have hsplit := run_apply_split (String.ofList ([c].intercalate (texts.map String.toList)))
      (String.singleton c) b
    rw [String.toList_singleton] at hjoin hsplit
    rw [String.toList_ofList,
      Filter.pieces_intercalate (mt List.map_eq_nil_iff.mp hne) hfree] at hsplit
    rw [← ofTexts_toList]
    exact run_applyAll_pair hjoin hsplit

theorem split_join_inverse_commas :
    let run (chain : List Clause) (v : Json) :=
      (applyAll .builtin chain (some v)).run (none : Option (ElementIn Markup))
    run [⟨"split", ["aa"]⟩, ⟨"join", ["aa"]⟩] (.string "aaaba") = .ok (.string "aaaba") none ∧
      run [⟨"split", [""]⟩, ⟨"join", [""]⟩] (.string "") = .ok (.string "") none ∧
      run [⟨"join", [","]⟩, ⟨"split", [","]⟩] (.array [.string "", .string "a b", .string ""]) =
        .ok (.array [.string "", .string "a b", .string ""]) none := by
  intro run
  obtain ⟨hjoined, hsplit⟩ := split_join_inverse (none : Option (ElementIn Markup))
  exact ⟨hjoined "aaaba" "aa", hjoined "" "",
    hsplit ',' ["", "a b", ""] (by decide) (by decide)⟩

end Clause

end DataBinding
