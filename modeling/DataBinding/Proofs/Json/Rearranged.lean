import DataBinding.Json.Basic

namespace DataBinding.Json

/-- The members of objects have changed places, at any depth. -/
inductive Rearranged : Json → Json → Prop
  | refl (v : Json) : Rearranged v v
  | trans {u v w : Json} : Rearranged u v → Rearranged v w → Rearranged u w
  | members {ms ms' : Members} : ms.Perm ms' → Rearranged (object ms) (object ms')
  | member {v w : Json} (before : Members) (key : String) (after : Members) :
      Rearranged v w →
      Rearranged (object (before ++ (key, v) :: after)) (object (before ++ (key, w) :: after))
  | item {v w : Json} (before after : List Json) :
      Rearranged v w → Rearranged (array (before ++ v :: after)) (array (before ++ w :: after))

theorem sizeOf_append_cons {α : Type} [SizeOf α] (before after : List α) (a b : α) :
    sizeOf (before ++ a :: after) + sizeOf b = sizeOf (before ++ b :: after) + sizeOf a := by
  induction before with
  | nil =>
    simp only [List.nil_append, List.cons.sizeOf_spec]
    omega
  | cons c before ih =>
    simp only [List.cons_append, List.cons.sizeOf_spec]
    omega

theorem sizeOf_array_append_cons (before after : List Json) (v w : Json) :
    sizeOf (array (before ++ v :: after)) + sizeOf w =
      sizeOf (array (before ++ w :: after)) + sizeOf v := by
  have h := sizeOf_append_cons before after v w
  simp only [array.sizeOf_spec]
  omega

theorem sizeOf_object_append_cons (before after : Members) (key : String) (v w : Json) :
    sizeOf (object (before ++ (key, v) :: after)) + sizeOf w =
      sizeOf (object (before ++ (key, w) :: after)) + sizeOf v := by
  have h := sizeOf_append_cons before after (key, v) (key, w)
  simp only [object.sizeOf_spec, Prod.mk.sizeOf_spec] at h ⊢
  omega

theorem Rearranged.sizeOf_eq {v w : Json} (h : Rearranged v w) : sizeOf v = sizeOf w := by
  induction h with
  | refl v => rfl
  | trans _ _ ih ih' => exact ih.trans ih'
  | members h => rw [object.sizeOf_spec, object.sizeOf_spec, h.sizeOf_eq_sizeOf]
  | @member v w before key after _ ih =>
    have h := sizeOf_object_append_cons before after key v w
    omega
  | @item v w before after _ ih =>
    have h := sizeOf_array_append_cons before after v w
    omega

end DataBinding.Json
