import DataBinding.Path.Trie
import DataBinding.Proofs.Path.Related
import Mathlib.Data.List.Basic

namespace DataBinding

namespace Trie

variable {α : Type}

/-- The entries with their paths, in preorder. -/
def listing : Trie α → List (List String × α)
  | nil => []
  | branch key xs below next =>
    xs.map ([key], ·) ++ (below.listing.map (fun e ↦ (key :: e.1, e.2)) ++ next.listing)

def siblings : Trie α → List String
  | nil => []
  | branch key _ _ next => key :: next.siblings

/-- The keys of siblings ascend strictly. -/
def Ordered : Trie α → Prop
  | nil => True
  | branch key _ below next => (∀ k ∈ next.siblings, key < k) ∧ below.Ordered ∧ next.Ordered

theorem toList_eq (t : Trie α) : t.toList = t.listing.map (·.2) := by
  induction t with
  | nil => rfl
  | branch key xs below next ihb ihn =>
    simp only [toList, listing, List.map_append, List.map_map, ihb, ihn, Function.comp_def,
      List.map_id']

theorem exists_of_mem_listing {t : Trie α} {e : List String × α} (h : e ∈ t.listing) :
    ∃ k ∈ t.siblings, ∃ rest, e.1 = k :: rest := by
  induction t with
  | nil => simp [listing] at h
  | branch key xs below next ihb ihn =>
    simp only [listing, List.mem_append, List.mem_map] at h
    rcases h with ⟨x, -, rfl⟩ | ⟨e', -, rfl⟩ | h
    · exact ⟨key, List.mem_cons_self, [], rfl⟩
    · exact ⟨key, List.mem_cons_self, e'.1, rfl⟩
    · obtain ⟨k, hk, rest, he⟩ := ihn h
      exact ⟨k, List.mem_cons_of_mem _ hk, rest, he⟩

section Insert

variable (x : α)

theorem singleton_cons (key : String) (rest : List String) :
    ∃ xs below, singleton x (key :: rest) = branch key xs below nil ∧ below.Ordered ∧
      (branch key xs below nil).listing = [(key :: rest, x)] := by
  induction rest generalizing key with
  | nil => exact ⟨[x], nil, rfl, trivial, rfl⟩
  | cons k rest ih =>
    obtain ⟨xs, below, hs, ho, hl⟩ := ih k
    refine ⟨[], singleton x (k :: rest), rfl, ?_, ?_⟩
    · rw [hs]
      exact ⟨by simp [siblings], ho, trivial⟩
    · rw [listing, hs, hl]
      rfl

theorem mem_siblings_insert {key k : String} {rest : List String} {t : Trie α}
    (h : k ∈ (t.insert x (key :: rest)).siblings) : k = key ∨ k ∈ t.siblings := by
  induction t with
  | nil =>
    obtain ⟨xs, below, hs, -⟩ := singleton_cons x key rest
    simp only [insert, hs, siblings, List.mem_singleton] at h
    exact .inl h
  | branch k' xs below next _ ih =>
    simp only [insert] at h
    split at h
    · cases rest with
      | nil => exact .inr h
      | cons r rest => exact .inr h
    · split at h
      · obtain ⟨xs', below', hs, -⟩ := singleton_cons x key rest
        simpa only [hs, siblings, List.mem_cons] using h
      · simp only [siblings, List.mem_cons] at h ⊢
        rcases h with h | h
        · exact .inr (.inl h)
        · exact (ih h).imp_right .inr

theorem ordered_insert {path : List String} {t : Trie α} (h : t.Ordered) :
    (t.insert x path).Ordered := by
  induction path generalizing t with
  | nil => simpa only [insert] using h
  | cons key rest ih =>
    induction t with
    | nil =>
      obtain ⟨xs, below, hs, ho, -⟩ := singleton_cons x key rest
      simp only [insert, hs]
      exact ⟨by simp [siblings], ho, trivial⟩
    | branch k xs below next _ ihn =>
      obtain ⟨hk, hb, hn⟩ := h
      simp only [insert]
      split
      · cases rest with
        | nil => exact ⟨hk, hb, hn⟩
        | cons r rest => exact ⟨hk, ih hb, hn⟩
      · rename_i hne
        split
        · rename_i hlt
          obtain ⟨xs', below', hs, ho, -⟩ := singleton_cons x key rest
          simp only [hs]
          refine ⟨fun k' hk' ↦ ?_, ho, hk, hb, hn⟩
          rcases List.mem_cons.mp hk' with rfl | hk'
          · exact hlt
          · exact String.lt_trans hlt (hk k' hk')
        · rename_i hlt
          refine ⟨fun k' hk' ↦ ?_, hb, ihn hn⟩
          rcases mem_siblings_insert x hk' with rfl | hk'
          · exact Decidable.by_contra fun hle ↦
              hne (String.le_antisymm (String.not_lt.mp hle) (String.not_lt.mp hlt))
          · exact hk k' hk'

theorem listing_insert {path : List String} (hp : path ≠ []) (t : Trie α) :
    (t.insert x path).listing.Perm ((path, x) :: t.listing) := by
  induction path generalizing t with
  | nil => exact absurd rfl hp
  | cons key rest ih =>
    induction t with
    | nil =>
      obtain ⟨xs, below, hs, -, hl⟩ := singleton_cons x key rest
      simp only [insert, hs, hl, listing, List.Perm.refl]
    | branch k xs below next _ ihn =>
      simp only [insert]
      split
      · rename_i hk
        subst hk
        cases rest with
        | nil =>
          simp only [listing, List.map_append, List.map_cons, List.map_nil, List.append_assoc,
            List.singleton_append]
          exact List.perm_middle
        | cons r rest =>
          have hb := (ih (by simp) below).map fun e ↦ (key :: e.1, e.2)
          simp only [listing]
          exact ((hb.append_right _).append_left _).trans List.perm_middle
      · split
        · obtain ⟨xs', below', hs, -, hl⟩ := singleton_cons x key rest
          have hsplit : (branch key xs' below' (branch k xs below next)).listing =
              (branch key xs' below' nil).listing ++ (branch k xs below next).listing := by
            simp [listing]
          rw [hs]
          simp only [hsplit, hl, List.singleton_append, List.Perm.refl]
        · simp only [listing]
          have h := (ihn.append_left (below.listing.map fun e ↦ (k :: e.1, e.2)))
          exact ((h.trans List.perm_middle).append_left _).trans List.perm_middle

end Insert

def overlaps (p q : List String) : Bool := decide (p <+: q ∨ q <+: p)

@[simp] theorem overlaps_nil (p : List String) : overlaps p [] := by simp [overlaps]

@[simp] theorem nil_overlaps (p : List String) : overlaps [] p := by simp [overlaps]

@[simp] theorem overlaps_cons (key : String) (p q : List String) :
    overlaps (key :: p) (key :: q) = overlaps p q := by
  simp only [overlaps, List.prefix_cons_inj]

theorem eq_of_overlaps_cons {k key : String} {p q : List String}
    (h : overlaps (k :: p) (key :: q)) : k = key := by
  rcases of_decide_eq_true h with h | h
  · exact (List.cons_prefix_cons.mp h).1
  · exact (List.cons_prefix_cons.mp h).1.symm

theorem filter_listing {t : Trie α} (h : t.Ordered) (key : String) :
    t.listing.filter (·.1.head? == some key) =
      match t.child? key with
      | some (xs, below) => xs.map ([key], ·) ++ below.listing.map (fun e ↦ (key :: e.1, e.2))
      | none => [] := by
  induction t with
  | nil => rfl
  | branch k xs below next _ ihn =>
    obtain ⟨hk, hb, hn⟩ := h
    simp only [listing, List.filter_append, List.filter_map, Function.comp_def, List.head?_cons,
      child?]
    by_cases he : k = key
    · subst he
      have hnext : next.listing.filter (·.1.head? == some k) = [] := by
        rw [List.filter_eq_nil_iff]
        intro e he
        obtain ⟨k', hk', rest, he⟩ := exists_of_mem_listing he
        have hne : k' ≠ k := fun heq ↦ String.lt_irrefl k (heq ▸ hk k' hk')
        simpa [he] using hne
      simp only [hnext, beq_self_eq_true, List.filter_true, List.append_nil, if_pos]
    · have hne : (some k == some key) = false := by simpa using he
      rw [if_neg (Ne.symm he), ← ihn hn]
      simp only [hne, List.filter_false, List.map_nil, List.nil_append]

theorem ordered_child? {t : Trie α} (h : t.Ordered) {key : String} {n : List α × Trie α}
    (hn : t.child? key = some n) : n.2.Ordered := by
  induction t with
  | nil => simp [child?] at hn
  | branch k xs below next _ ih =>
    obtain ⟨-, hb, ho⟩ := h
    simp only [child?] at hn
    split at hn
    · cases hn
      exact hb
    · exact ih ho hn

def sub (key : String) (t : Trie α) : List α × Trie α := (t.child? key).getD ([], nil)

theorem ordered_sub {t : Trie α} (h : t.Ordered) (key : String) : (t.sub key).2.Ordered := by
  rw [sub]
  cases hc : t.child? key with
  | none => trivial
  | some n => exact ordered_child? h hc

theorem filter_listing_of_head {t : Trie α} (h : t.Ordered) (key : String)
    {R : List String → Bool} (hR : ∀ k q, R (k :: q) → k = key) :
    t.listing.filter (R ·.1) =
      (if R [key] then (t.sub key).1.map ([key], ·) else []) ++
        ((t.sub key).2.listing.filter fun e ↦ R (key :: e.1)).map fun e ↦ (key :: e.1, e.2) := by
  have hhead : t.listing.filter (R ·.1) =
      (t.listing.filter (·.1.head? == some key)).filter (R ·.1) := by
    rw [List.filter_filter]
    refine List.filter_congr fun e he ↦ ?_
    obtain ⟨k, -, rest, he⟩ := exists_of_mem_listing he
    rw [he]
    cases hr : R (k :: rest) with
    | false => rfl
    | true => simp [hR k rest hr]
  rw [hhead, filter_listing h, sub]
  cases t.child? key with
  | none => simp [listing]
  | some n =>
    simp only [List.filter_append, List.filter_map, Function.comp_def, Option.getD_some]
    cases R [key] <;> simp

/-- The entries met on the way to a path, at it and below it. -/
def hits (path : List String) (t : Trie α) : List α :=
  t.above path ++ ((t.node? path).map fun n ↦ n.1 ++ n.2.toList).getD []

theorem hits_singleton (key : String) (t : Trie α) :
    t.hits [key] = (t.sub key).1 ++ (t.sub key).2.toList := by
  simp only [hits, above, node?, sub]
  cases t.child? key <;> rfl

theorem hits_cons (key k : String) (rest : List String) (t : Trie α) :
    t.hits (key :: k :: rest) = (t.sub key).1 ++ (t.sub key).2.hits (k :: rest) := by
  simp only [hits, above, node?, sub]
  cases t.child? key with
  | none => cases rest <;> rfl
  | some n => simp [List.append_assoc]

theorem hits_eq {path : List String} (hp : path ≠ []) {t : Trie α} (h : t.Ordered) :
    t.hits path = (t.listing.filter fun e ↦ overlaps e.1 path).map (·.2) := by
  induction path generalizing t with
  | nil => exact absurd rfl hp
  | cons key rest ih =>
    rw [filter_listing_of_head h key (R := (overlaps · (key :: rest)))
      fun _ _ ↦ eq_of_overlaps_cons]
    simp only [overlaps_cons, nil_overlaps, if_true, List.map_append, List.map_map,
      Function.comp_def, List.map_id']
    cases rest with
    | nil => simp [hits_singleton, toList_eq]
    | cons k rest => rw [hits_cons, ih (by simp) (ordered_sub h key)]

end Trie

theorem map_fst_filter_zipIdx {β : Type} (l : List β) (p : β → Bool) :
    (l.zipIdx.filter fun e ↦ p e.1).map (·.1) = l.filter p := by
  have hf := List.filter_map (f := Prod.fst) (p := p) (l := l.zipIdx)
  rw [List.zipIdx_map_fst] at hf
  exact hf.symm

namespace PathMap

/-- The positions of the paths of a list. -/
structure Indexes (t : PathMap Nat) (paths : List Path) : Prop where
  ordered : t.trie.Ordered
  listed : t.trie.listing.Perm (paths.zipIdx.map fun e ↦ (e.1.segments, e.2))

theorem Indexes.empty : Indexes ∅ [] := ⟨trivial, .nil⟩

theorem Indexes.insert {t : PathMap Nat} {paths : List Path} (h : t.Indexes paths) (p : Path) :
    (t.insert p paths.length).Indexes (paths ++ [p]) where
  ordered := Trie.ordered_insert _ h.ordered
  listed := by
    have hp := (Trie.listing_insert paths.length p.nonempty t.trie).trans (h.listed.cons _)
    simp only [List.zipIdx_append, Nat.zero_add, List.zipIdx_singleton, List.map_append,
      List.map_cons, List.map_nil]
    exact hp.trans (List.perm_append_singleton _ _).symm

theorem overlaps_segments (p q : Path) : Trie.overlaps p.segments q.segments = p.isRelatedTo q := by
  rw [Bool.eq_iff_iff, Path.isRelatedTo_iff, Trie.overlaps, decide_eq_true_iff]

theorem related_eq_hits {α : Type} (t : PathMap α) (p : Path) :
    t.related p = t.trie.hits p.segments := rfl

theorem Indexes.sorted_related {t : PathMap Nat} {paths : List Path} (h : t.Indexes paths)
    (p : Path) :
    ((t.related p).mergeSort fun a b ↦ decide (a ≤ b)) =
      (paths.zipIdx.filter (·.1.isRelatedTo p)).map (·.2) := by
  have hperm : (t.related p).Perm ((paths.zipIdx.filter (·.1.isRelatedTo p)).map (·.2)) := by
    have hf := (h.listed.filter fun e ↦ Trie.overlaps e.1 p.segments).map (·.2)
    rw [← Trie.hits_eq p.nonempty h.ordered, ← related_eq_hits] at hf
    simpa only [List.filter_map, Function.comp_def, overlaps_segments, List.map_map] using hf
  have hsorted : ((paths.zipIdx.filter (·.1.isRelatedTo p)).map (·.2)).Pairwise (· ≤ ·) := by
    have hsub : ((paths.zipIdx.filter (·.1.isRelatedTo p)).map (·.2)).Sublist
        (List.range' 0 paths.length) := by
      rw [← List.zipIdx_map_snd]
      exact List.filter_sublist.map _
    exact (List.Pairwise.sublist hsub List.pairwise_lt_range').imp Nat.le_of_lt
  refine List.Perm.eq_of_pairwise
    (fun a b _ _ (hab : a ≤ b) (hba : b ≤ a) ↦ Nat.le_antisymm hab hba) ?_ hsorted
    ((List.mergeSort_perm _ _).trans hperm)
  refine (List.pairwise_mergeSort (fun a b c hab hbc ↦ ?_) (fun a b ↦ ?_) _).imp of_decide_eq_true
  · exact decide_eq_true (Nat.le_trans (of_decide_eq_true hab) (of_decide_eq_true hbc))
  · simpa using Nat.le_total a b

theorem Indexes.filterMap_related {β γ : Type} {f : β → Path} {l : List β} {t : PathMap Nat}
    (h : t.Indexes (l.map f)) (p : Path) (g : Nat → β → γ) :
    ((t.related p).mergeSort fun a b ↦ decide (a ≤ b)).filterMap (fun i ↦ (l[i]?).map (g i)) =
      (l.zipIdx.filter fun e ↦ (f e.1).isRelatedTo p).map fun e ↦ g e.2 e.1 := by
  rw [h.sorted_related, List.zipIdx_map, List.filter_map, List.map_map, List.filterMap_map,
    ← List.filterMap_eq_map]
  refine List.filterMap_congr fun e he ↦ ?_
  have hget := List.mem_zipIdx_iff_getElem?.mp (List.mem_filter.mp he).1
  simp [hget]

end PathMap

end DataBinding
