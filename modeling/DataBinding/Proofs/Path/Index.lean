import DataBinding.Proofs.Path.Order
import DataBinding.Proofs.Path.Trie

namespace DataBinding

namespace Path

theorem eq_of_isStrictPrefix_cons {k key : String} {p q : List String}
    (h : isStrictPrefix (k :: p) (key :: q)) : k = key :=
  (List.cons_prefix_cons.mp (isStrictPrefix_iff.mp h).1).1

theorem isStrictPrefix_cons_self (key : String) (p q : List String) :
    isStrictPrefix (key :: p) (key :: q) = isStrictPrefix p q := by
  simp [isStrictPrefix]

theorem isStrictPrefix_nil (p : List String) : isStrictPrefix p [] = false := rfl

theorem nil_isStrictPrefix {p : List String} (hp : p ≠ []) : isStrictPrefix [] p := by
  simp [isStrictPrefix, List.length_pos_iff.mpr hp]

end Path

namespace Trie

variable {α : Type}

def nodeAt (path : List String) (t : Trie α) : List α × Trie α := (t.node? path).getD ([], nil)

theorem nodeAt_nil (t : Trie α) : t.nodeAt [] = ([], nil) := by
  simp only [nodeAt, node?, Option.getD_none]

theorem nodeAt_singleton (key : String) (t : Trie α) : t.nodeAt [key] = t.sub key := by
  simp only [nodeAt, node?, sub]

theorem nodeAt_empty (path : List String) : (nil : Trie α).nodeAt path = ([], nil) := by
  rcases path with _ | ⟨key, _ | ⟨k, rest⟩⟩ <;>
    simp only [nodeAt, node?, child?, Option.bind_none, Option.getD_none]

theorem nodeAt_cons (key k : String) (rest : List String) (t : Trie α) :
    t.nodeAt (key :: k :: rest) = (t.sub key).2.nodeAt (k :: rest) := by
  simp only [nodeAt, node?, sub]
  cases t.child? key with
  | none => cases rest <;> rfl
  | some n => rfl

theorem above_cons (key k : String) (rest : List String) (t : Trie α) :
    t.above (key :: k :: rest) = (t.sub key).1 ++ (t.sub key).2.above (k :: rest) := by
  simp only [above, sub]
  cases t.child? key with
  | none => cases rest <;> rfl
  | some n => rfl

section Insert

variable (x : α)

def grown (rest : List String) (n : List α × Trie α) : List α × Trie α :=
  match rest with
  | [] => (n.1 ++ [x], n.2)
  | _ => (n.1, n.2.insert x rest)

theorem singleton_eq (key : String) (rest : List String) :
    singleton x (key :: rest) =
      branch key (grown x rest ([], nil)).1 (grown x rest ([], nil)).2 nil := by
  cases rest <;> rfl

theorem sub_eq_of_notMem {key : String} {t : Trie α} (h : key ∉ t.siblings) :
    t.sub key = ([], nil) := by
  induction t with
  | nil => rfl
  | branch k xs below next _ ih =>
    simp only [siblings, List.mem_cons, not_or] at h
    rw [sub, child?, if_neg h.1]
    exact ih h.2

theorem sub_branch (key k : String) (xs : List α) (below next : Trie α) :
    (branch k xs below next).sub key = if key = k then (xs, below) else next.sub key := by
  simp only [sub, child?]
  split <;> rfl

theorem sub_insert {t : Trie α} (h : t.Ordered) (key k : String) (rest : List String) :
    (t.insert x (key :: rest)).sub k =
      if k = key then grown x rest (t.sub key) else t.sub k := by
  induction t with
  | nil =>
    simp only [insert, singleton_eq, sub_branch]
    rfl
  | branch k' xs below next _ ih =>
    obtain ⟨hk, -, hn⟩ := h
    simp only [insert]
    split
    · rename_i he
      subst he
      cases rest with
      | nil => by_cases hkey : k = key <;> simp [sub_branch, hkey, grown]
      | cons r rest => by_cases hkey : k = key <;> simp [sub_branch, hkey, grown]
    · rename_i hne
      split
      · rename_i hlt
        have hnot : key ∉ (branch k' xs below next).siblings := by
          simp only [siblings, List.mem_cons, not_or]
          exact ⟨hne, fun hmem ↦ String.lt_irrefl key (String.lt_trans hlt (hk key hmem))⟩
        rw [sub_eq_of_notMem hnot, singleton_eq]
        simp only [sub_branch]
      · rw [sub_branch, ih hn, sub_branch, sub_branch, if_neg hne]
        by_cases hkey : k = key
        · rw [if_pos hkey, if_pos hkey, if_neg (hkey ▸ hne)]
        · rw [if_neg hkey, if_neg hkey]

theorem nodeAt_insert {path : List String} (hp : path ≠ []) {t : Trie α} (h : t.Ordered)
    (q : List String) :
    ((t.insert x path).nodeAt q).1 = (t.nodeAt q).1 ++ if path = q then [x] else [] := by
  induction path generalizing t q with
  | nil => exact absurd rfl hp
  | cons key rest ih =>
    rcases q with _ | ⟨k, _ | ⟨r, q⟩⟩
    · simp [nodeAt_nil]
    · rw [nodeAt_singleton, nodeAt_singleton, sub_insert x h]
      by_cases hk : k = key
      · subst hk
        cases rest <;> simp [grown]
      · simp [hk, Ne.symm hk]
    · rw [nodeAt_cons, nodeAt_cons, sub_insert x h]
      by_cases hk : k = key
      · subst hk
        cases rest with
        | nil => simp [grown]
        | cons s rest => simpa [grown] using ih (List.cons_ne_nil s rest) (ordered_sub h k) (r :: q)
      · simp [hk, Ne.symm hk]

end Insert

theorem ne_nil_of_mem_listing {t : Trie α} {e : List String × α} (h : e ∈ t.listing) :
    e.1 ≠ [] := by
  obtain ⟨k, -, rest, he⟩ := exists_of_mem_listing h
  simp [he]

section Listing

variable {t : Trie α} (h : t.Ordered)

include h

theorem sortedOn_listing : SortedOn Prod.fst t.listing := by
  induction t with
  | nil => exact List.Pairwise.nil
  | branch key xs below next ihb ihn =>
    obtain ⟨hk, hb, hn⟩ := h
    have hnext : ∀ p, ∀ e ∈ next.listing, (compare (key :: p) e.1).isLE := by
      intro p e he
      obtain ⟨k, hmem, rest, he⟩ := exists_of_mem_listing he
      have hlt : compare key k = .lt := compareOfLessAndEq_eq_lt.mpr (hk k hmem)
      rw [he, List.compare_cons_cons, hlt]
      rfl
    simp only [SortedOn, listing, List.pairwise_append, List.pairwise_map, List.mem_append,
      List.mem_map]
    refine ⟨?_, ⟨?_, ihn hn, ?_⟩, ?_⟩
    · exact List.pairwise_of_forall_mem_list fun _ _ _ _ ↦ Std.ReflOrd.isLE_rfl
    · refine (ihb hb).imp fun hle ↦ ?_
      rw [List.compare_cons_cons, Std.ReflOrd.compare_self]
      exact hle
    · rintro _ ⟨e, -, rfl⟩ e' he'
      exact hnext e.1 e' he'
    · rintro _ ⟨y, -, rfl⟩ e' (⟨e, -, rfl⟩ | he')
      · rw [List.compare_cons_cons, Std.ReflOrd.compare_self]
        cases e.1 <;> rfl
      · exact hnext [] e' he'

theorem filter_listing_eq (path : List String) :
    t.listing.filter (·.1 = path) = (t.nodeAt path).1.map (path, ·) := by
  induction path generalizing t with
  | nil =>
    rw [nodeAt_nil, List.map_nil, List.filter_eq_nil_iff]
    exact fun e he ↦ by simpa using ne_nil_of_mem_listing he
  | cons key rest ih =>
    rw [filter_listing_of_head h key (R := (· = key :: rest)) (by simp)]
    cases rest with
    | nil =>
      have hnone : (t.sub key).2.listing.filter (fun e ↦ key :: e.1 = [key]) = [] := by
        rw [List.filter_eq_nil_iff]
        exact fun e he ↦ by simpa using ne_nil_of_mem_listing he
      rw [hnone, nodeAt_singleton]
      simp
    | cons k rest =>
      have hsub := ih (ordered_sub h key)
      simp [nodeAt_cons, hsub]

theorem above_eq (path : List String) :
    t.above path = (t.listing.filter fun e ↦ Path.isStrictPrefix e.1 path).map (·.2) := by
  induction path generalizing t with
  | nil => simp [above, Path.isStrictPrefix_nil]
  | cons key rest ih =>
    rw [filter_listing_of_head h key (R := (Path.isStrictPrefix · (key :: rest)))
      fun _ _ ↦ Path.eq_of_isStrictPrefix_cons]
    simp only [Path.isStrictPrefix_cons_self]
    cases rest with
    | nil => simp [above, Path.isStrictPrefix_nil]
    | cons k rest =>
      rw [above_cons, ih (ordered_sub h key), if_pos (Path.nil_isStrictPrefix (by simp))]
      simp only [List.map_append, List.map_map, Function.comp_def, List.map_id']

theorem toList_nodeAt {path : List String} (hp : path ≠ []) :
    (t.nodeAt path).2.toList =
      (t.listing.filter fun e ↦ Path.isStrictPrefix path e.1).map (·.2) := by
  induction path generalizing t with
  | nil => exact absurd rfl hp
  | cons key rest ih =>
    rw [filter_listing_of_head h key (R := (Path.isStrictPrefix (key :: rest) ·))
      fun _ _ hr ↦ (Path.eq_of_isStrictPrefix_cons hr).symm]
    simp only [Path.isStrictPrefix_cons_self, Path.isStrictPrefix_nil, Bool.false_eq_true, if_false,
      List.nil_append, List.map_map, Function.comp_def]
    cases rest with
    | nil =>
      have hall : (t.sub key).2.listing.filter (fun e ↦ Path.isStrictPrefix [] e.1) =
          (t.sub key).2.listing :=
        List.filter_eq_self.mpr fun e he ↦ Path.nil_isStrictPrefix (ne_nil_of_mem_listing he)
      rw [hall, nodeAt_singleton, toList_eq]
    | cons k rest => rw [nodeAt_cons, ih (ordered_sub h key) (by simp)]

end Listing

end Trie

namespace PathMap

variable {α : Type}

theorem exact_eq (t : PathMap α) (p : Path) : t.exact p = (t.trie.nodeAt p.segments).1 := by
  rw [exact, Trie.nodeAt]
  cases t.trie.node? p.segments <;> rfl

theorem descendants_eq (t : PathMap α) (p : Path) :
    t.descendants p = (t.trie.nodeAt p.segments).2.toList := by
  rw [descendants, Trie.nodeAt]
  cases t.trie.node? p.segments <;> rfl

theorem related_eq (t : PathMap α) (p : Path) :
    t.related p = t.ancestors p ++ (t.exact p ++ t.descendants p) := by
  rw [related, exact, descendants]
  cases t.trie.node? p.segments <;> rfl

/-- What an index holds, in order of insertion. -/
structure Holds (t : PathMap α) (L : List (Path × α)) : Prop where
  ordered : t.trie.Ordered
  nodeAt : ∀ path, (t.trie.nodeAt path).1 = (L.filter (·.1.segments = path)).map (·.2)
  size_eq : t.size = L.length

theorem holds_empty : (∅ : PathMap α).Holds [] where
  ordered := trivial
  nodeAt path := congrArg Prod.fst (Trie.nodeAt_empty path)
  size_eq := rfl

theorem Holds.insert {t : PathMap α} {L : List (Path × α)} (h : t.Holds L) (p : Path) (x : α) :
    (t.insert p x).Holds (L ++ [(p, x)]) where
  ordered := Trie.ordered_insert x h.ordered
  nodeAt path := by
    rw [PathMap.insert, Trie.nodeAt_insert x p.nonempty h.ordered, h.nodeAt]
    by_cases hp : p.segments = path <;> simp [hp]
  size_eq := by simp [PathMap.insert, h.size_eq]

/-- The entries whose paths are picked, in the order of the paths; those at one path in order of
insertion. -/
def selected (L : List (Path × α)) (pick : Path → Bool) : List α :=
  (sortOn Prod.fst (L.filter (pick ·.1))).map (·.2)

theorem Holds.filter_listing {t : PathMap α} {L : List (Path × α)} (h : t.Holds L)
    {R : List String → Bool} {pick : Path → Bool} (hR : ∀ q : Path, R q.segments = pick q) :
    (t.trie.listing.filter (R ·.1)).map (·.2) = selected L pick := by
  let f (e : Path × α) : List String × α := (e.1.segments, e.2)
  have hpath (path : List String) : t.trie.listing.filter (·.1 = path) =
      (L.map f).filter (·.1 = path) := by
    rw [Trie.filter_listing_eq h.ordered, h.nodeAt, List.map_map, List.filter_map]
    refine List.map_congr_left fun e he ↦ ?_
    rw [← of_decide_eq_true (List.mem_filter.mp he).2]
    rfl
  have hsorted : t.trie.listing.filter (R ·.1) =
      sortOn Prod.fst ((L.map f).filter (R ·.1)) := by
    refine SortedOn.eq_sortOn ((Trie.sortedOn_listing h.ordered).filter _) fun path ↦ ?_
    rw [List.filter_comm, hpath, List.filter_comm]
  have hsort : sortOn Prod.fst ((L.filter (pick ·.1)).map f) =
      (sortOn Prod.fst (L.filter (pick ·.1))).map f :=
    (List.map_mergeSort (f := f) fun _ _ _ _ ↦ rfl).symm
  have hpick : (L.map f).filter (R ·.1) = (L.filter (pick ·.1)).map f := by
    rw [List.filter_map]
    exact congrArg _ (List.filter_congr fun e _ ↦ hR e.1)
  rw [hsorted, hpick, hsort, List.map_map]
  rfl

/-- What is done to an index. -/
inductive Change (α : Type) where
  | insert (p : Path) (x : α)
  | clear

def Change.apply (t : PathMap α) : Change α → PathMap α
  | .insert p x => t.insert p x
  | .clear => ∅

/-- The insertions since the last time that the index was cleared. -/
def Change.keep (L : List (Path × α)) : Change α → List (Path × α)
  | .insert p x => L ++ [(p, x)]
  | .clear => []

theorem Holds.foldl {t : PathMap α} {L : List (Path × α)} (h : t.Holds L)
    (changes : List (Change α)) :
    (changes.foldl Change.apply t).Holds (changes.foldl Change.keep L) := by
  induction changes generalizing t L with
  | nil => exact h
  | cons c changes ih =>
    cases c with
    | insert p x => exact ih (h.insert p x)
    | clear => exact ih holds_empty

/-- After any insertions and clearings, each look-up of an index finds the entries at the paths that
stand in a relation to the given one, in the order of the paths and with nothing lost or doubled. -/
theorem lookups_eq_selected (changes : List (Change α)) (p : Path) :
    let t := changes.foldl Change.apply ∅
    let L := changes.foldl Change.keep []
    t.exact p = selected L (· = p) ∧
      t.ancestors p = selected L (·.isAncestorOf p) ∧
      t.descendants p = selected L (·.isDescendantOf p) ∧
      t.related p = selected L (·.isRelatedTo p) ∧
      t.related p = t.ancestors p ++ (t.exact p ++ t.descendants p) ∧
      t.size = L.length := by
  intro t L
  have h : t.Holds L := holds_empty.foldl changes
  refine ⟨?_, ?_, ?_, ?_, related_eq t p, h.size_eq⟩
  · have hL : (t.trie.listing.filter (·.1 = p.segments)).map (·.2) = selected L (· = p) :=
      h.filter_listing (R := (· = p.segments)) fun q ↦ decide_eq_decide.mpr Path.segments_inj
    rw [← hL, Trie.filter_listing_eq h.ordered, exact_eq]
    simp only [List.map_map, Function.comp_def, List.map_id']
  · rw [ancestors, Trie.above_eq h.ordered]
    exact h.filter_listing (R := (Path.isStrictPrefix · p.segments)) fun _ ↦ rfl
  · rw [descendants_eq, Trie.toList_nodeAt h.ordered p.nonempty]
    exact h.filter_listing (R := (Path.isStrictPrefix p.segments ·)) fun _ ↦ rfl
  · rw [related_eq_hits, Trie.hits_eq p.nonempty h.ordered]
    exact h.filter_listing (R := (Trie.overlaps · p.segments)) fun q ↦ overlaps_segments q p

end PathMap

end DataBinding
