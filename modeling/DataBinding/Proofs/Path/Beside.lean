import DataBinding.Proofs.Path.Growth

namespace DataBinding.Json

/-- Exactly what a write leaves at an unrelated path: all that was there, unless the paths part at
an array that the write gives up, or one that it makes grow over the item of the other path. The
write ends, as the greatest index addresses no array on its path that has no item there. -/
theorem get?_write_beside (checks : Bool) {root : Json} (value : Json) {p q : Path}
    (h : ¬ p.isRelatedTo q) (hfit : ¬ Overgrows p.segments root) :
    ∃ r, root.write checks p value = .ok r ∧
      ∃ above a b below rest, p.segments = above ++ a :: below ∧
        q.segments = above ++ b :: rest ∧ a ≠ b ∧
        (GivesUp root above a → r.2.get? q = none) ∧
        (Pads root above a b → r.2.get? q = if rest = [] then some null else none) ∧
        (¬ GivesUp root above a → ¬ Pads root above a b → r.2.get? q = root.get? q) := by
  obtain ⟨above, a, b, below, rest, hp, hq, hab⟩ := Path.exists_parting_of_not_isRelatedTo h
  refine ⟨root.set p value, writeAt_of_not_overgrows hfit checks value, above, a, b, below, rest,
    hp, hq, hab, fun hg ↦ ?_, fun hpad ↦ ?_, fun hg hpad ↦ ?_⟩
  · simp only [Json.set, Json.get?, hp, hq]
    exact getAt?_setAt_of_givesUp value below rest hab hg
  · simp only [Json.set, Json.get?, hp, hq]
    rw [getAt?_setAt_of_pads value below rest hab hpad, getAt?_null_eq]
  · simp only [Json.set, Json.get?, hp, hq]
    exact getAt?_setAt_of_not value below rest hab hg hpad

theorem get?_write_beside_grown :
    ¬ thirdItem.isRelatedTo secondItem ∧ ¬ Overgrows thirdItem.segments shortList ∧
      ∃ r, shortList.write true thirdItem (bool false) = .ok r ∧
        r.2.get? secondItem = some null := by
  have hun : ¬ thirdItem.isRelatedTo secondItem := by decide
  have hfit : ¬ Overgrows thirdItem.segments shortList :=
    not_overgrows_of_forall (by decide) shortList
  obtain ⟨r, hr, above, a, b, below, rest, hp, hq, hab, -, hpad, -⟩ :=
    get?_write_beside true (bool false) hun hfit
  obtain ⟨rfl, rfl, rfl, rfl⟩ : above = ["list"] ∧ a = "2" ∧ b = "1" ∧ rest = [] := by
    rcases above with _ | ⟨s, _ | ⟨t, above⟩⟩
    · cases hp
      cases hq
      exact absurd rfl hab
    · cases hp
      cases hq
      exact ⟨rfl, rfl, rfl, rfl⟩
    · simp [thirdItem] at hp
  refine ⟨hun, hfit, r, hr, ?_⟩
  rw [hpad ⟨[bool true], 2, 1, rfl, by decide, by decide, by decide, by decide⟩, if_pos rfl]

/-- A write that the greatest index stops leaves nothing to be read beside it, although the array is
neither given up nor filled up over the other item. -/
theorem last_index_beside :
    ¬ lastFlag.isRelatedTo firstFlag ∧ lastFlag.segments = ["flags"] ++ ["18446744073709551615"] ∧
      firstFlag.segments = ["flags"] ++ ["0"] ∧
      ¬ GivesUp flags ["flags"] "18446744073709551615" ∧
      ¬ Pads flags ["flags"] "18446744073709551615" "0" ∧
      flags.get? firstFlag = some (bool true) ∧
      ∀ checks, ¬ ∃ r, flags.write checks lastFlag null = .ok r ∧
        r.2.get? firstFlag = some (bool true) := by
  have hover : Overgrows lastFlag.segments flags :=
    ⟨["flags"], "18446744073709551615", [], array [bool true], rfl, rfl, [bool true], rfl, rfl,
      by decide⟩
  refine ⟨by decide, rfl, rfl, by decide, ?_, rfl, ?_⟩
  · rintro ⟨items, i, j, hitems, -, hj, hle, -⟩
    cases hitems
    obtain rfl : 0 = j := Option.some.inj hj
    exact Nat.not_succ_le_zero 0 hle
  · rintro checks ⟨r, hr, -⟩
    have hstops : flags.write checks lastFlag null = .error (growthFault checks) :=
      writeAt_of_overgrows hover checks null
    rw [hstops] at hr
    cases hr

end DataBinding.Json
