namespace DataBinding.Text

def breakAt? (d : List Char) (s : List Char) : Option (List Char × List Char) :=
  if d.isPrefixOf s then some ([], s.drop d.length)
  else
    match s with
    | [] => none
    | c :: s => (breakAt? d s).map fun r ↦ (c :: r.1, r.2)

theorem length_of_breakAt? {d s a b : List Char} (h : breakAt? d s = some (a, b)) :
    a.length + d.length + b.length = s.length := by
  induction s generalizing a with
  | nil =>
    unfold breakAt? at h
    split at h <;> simp_all
  | cons c s ih =>
    unfold breakAt? at h
    split at h
    · rename_i hd
      have := (List.isPrefixOf_iff_prefix.1 hd).length_le
      simp only [Option.some.injEq, Prod.mk.injEq] at h
      simp only [← h.1, ← h.2, List.length_drop, List.length_nil]
      omega
    · obtain ⟨x, hx, he⟩ := Option.map_eq_some_iff.1 h
      have := ih (a := x.1) (by rw [hx, ← (Prod.mk.inj he).2])
      simp only [← (Prod.mk.inj he).1, List.length_cons]
      omega

/-- The pieces between occurrences of the delimiter `c :: d`, which do not overlap. -/
def split (c : Char) (d : List Char) (s : List Char) : List (List Char) :=
  match _h : breakAt? (c :: d) s with
  | none => [s]
  | some (a, b) => a :: split c d b
termination_by s.length
decreasing_by
  have := length_of_breakAt? _h
  simp only [List.length_cons] at this
  omega

def replaceFirst (d replacement s : List Char) : List Char :=
  match breakAt? d s with
  | none => s
  | some (a, b) => a ++ (replacement ++ b)

end DataBinding.Text
