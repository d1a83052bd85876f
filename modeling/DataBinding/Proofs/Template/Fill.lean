import DataBinding.Proofs.Engine.Observers
import DataBinding.Proofs.Engine.Sync
import DataBinding.Proofs.Json.Members
import DataBinding.Proofs.Markup.Building
import DataBinding.Proofs.Template.Scan
import DataBinding.Proofs.Text.Blank
import DataBinding.Template

namespace DataBinding

def Path.member (p : Path) : String := p.segments.head p.nonempty

def Path.ofKey (key : String) (h : IsSegment key) : Path :=
  ⟨[key], List.cons_ne_nil _ _, List.forall_mem_singleton.mpr h⟩

/-- A key that is a path of one segment as it stands. -/
def IsKey (key : String) : Prop := IsSegment key ∧ Text.trim key.toList = key.toList

instance (key : String) : Decidable (IsKey key) := inferInstanceAs (Decidable (_ ∧ _))

theorem Path.parse_key {key : String} (h : IsKey key) :
    Path.parse key = .ok (Path.ofKey key h.1) := by
  obtain ⟨⟨hne, hdot⟩, htrim⟩ := h
  have hlast : key.toList.getLast? ≠ some '.' := fun hl ↦ hdot (List.mem_of_getLast? hl)
  have hfields : (Text.fields '.' (dropFinalDot key.toList)).map String.ofList = [key] := by
    rw [dropFinalDot, if_neg hlast, Text.fields_of_notMem hdot]
    simp
  have hsegments : ofSegments? [key] = some (Path.ofKey key ⟨hne, hdot⟩) :=
    dif_pos ⟨List.cons_ne_nil _ _, List.forall_mem_singleton.mpr ⟨hne, hdot⟩⟩
  rw [parse]
  split
  · rename_i hnil
    rw [htrim] at hnil
    exact absurd hnil hne
  · simp only [htrim, hfields, hsegments]

theorem Callback.setText_key {key : String} (h : IsKey key) (v : Json)
    (next : Except Error Unit → Callback Markup) :
    Callback.setText key v next = .set (Path.ofKey key h.1) v next := by
  have hblank : Callback.isBlankText key = false := by
    rw [Callback.isBlankText, h.2]
    simpa using h.1.1
  rw [Callback.setText, hblank, if_neg Bool.false_ne_true, Path.parse_key h]

theorem Path.isRelatedTo_key (p : Path) {key : String} (h : IsSegment key) :
    p.isRelatedTo (Path.ofKey key h) = decide (p.member = key) := by
  rw [Bool.eq_iff_iff, Path.isRelatedTo_iff, decide_eq_true_iff]
  obtain ⟨segments, hne, hp⟩ := p
  cases segments with
  | nil => exact absurd rfl hne
  | cons s segments =>
    simp only [Path.ofKey, List.cons_prefix_cons, Path.member, List.head_cons, List.nil_prefix,
      and_true]
    exact ⟨fun h ↦ h.elim And.left Eq.symm, fun h ↦ .inr h.symm⟩

theorem Json.get?_object (ms : Json.Members) (p : Path) :
    (Json.object ms).get? p =
      (Json.Members.find? p.member ms).bind (Json.getAt? p.segments.tail) := by
  obtain ⟨segments, hne, hp⟩ := p
  cases segments with
  | nil => exact absurd rfl hne
  | cons s segments => rfl

theorem Json.set_key (ms : Json.Members) {key : String} (h : IsSegment key) (v : Json) :
    ((Json.object ms).set (Path.ofKey key h) v).2 = .object (Json.Members.insert key v ms) := by
  simp [Json.set, Json.setAt, Json.membersOrEmpty, Path.ofKey]

theorem Binding.text_object_congr {ms ms' : Json.Members} {b : Binding}
    (h : Json.Members.find? b.property.member ms = Json.Members.find? b.property.member ms') :
    b.text (.object ms) = b.text (.object ms') := by
  refine Binding.text_congr ?_
  rw [Json.get?_object, Json.get?_object, h]

/-- A binding that reads the last member written shows what it does once the rest is written too. -/
theorem Binding.text_object_of_prefix {members before ms : Json.Members} {key : String} {v : Json}
    (hms : members = (before ++ [(key, v)]) ++ ms) (hnodup : (members.map Prod.fst).Nodup)
    {b : Binding} (hb : b.property.member = key) :
    b.text (.object (before ++ [(key, v)])) = b.text (.object members) := by
  have hleft : ((before ++ [(key, v)]).map Prod.fst).Nodup := by
    rw [hms, List.map_append] at hnodup
    exact (List.nodup_append.mp hnodup).1
  have hv : (key, v) ∈ before ++ [(key, v)] := List.mem_append_right _ List.mem_cons_self
  have hv' : (key, v) ∈ members := hms ▸ List.mem_append_left ms hv
  refine Binding.text_object_congr ?_
  rw [hb, (Json.Members.find?_eq_some_iff hnodup).mpr hv',
    (Json.Members.find?_eq_some_iff hleft).mpr hv]

theorem Observers.relatedTo_empty {κ : Type} (p : Path) : (∅ : Observers κ).relatedTo p = [] :=
  Observers.lists_empty.relatedTo_eq p

namespace Engine

variable {d₀ : Markup} {L : List (ElementId × Binding)} {ws : List (ElementId × String)}
  {s : Engine Markup}

structure Ready (L : List (ElementId × Binding)) (root : Json) (s : Engine Markup) : Prop where
  data : s.data = root
  filters : s.filters = .builtin
  observers : s.observers = ∅
  built : s.bindings.built
  bound : s.bindings.bound = L
  indexed : s.bindings.positions.Indexes (L.map fun e ↦ e.2.property)

theorem goes_assign (hi : Markup.Independent d₀ L) (hplain : ∀ e ∈ L, e.2.Plain) {root : Json}
    (hr : Ready L root s) (hs : Markup.Shows d₀ L ws s.document) (n : Nat) (p : Path) (v : Json) :
    Goes (assign (n + 1) p v) s
      (∀ e ∈ L.filter fun e ↦ e.2.property.isRelatedTo p, e.2.Shows (root.set p v).2)
      fun s' ↦ Ready L (root.set p v).2 s' ∧
        Markup.Shows d₀ L
          (ws ++ shown (root.set p v).2 (L.filter fun e ↦ e.2.property.isRelatedTo p))
          s'.document := by
  obtain ⟨rfl, hfilters, hobservers, hbuilt, rfl, hindexed⟩ := hr
  have hsnd := s.bindings.map_snd_affected p
  have hmem : ∀ e ∈ s.bindings.affected p, e.2 ∈ s.bindings.bound ∧ e.2.2.Plain := fun e he ↦ by
    have he' : e.2 ∈ s.bindings.bound :=
      (List.mem_filter.mp (hsnd ▸ List.mem_map_of_mem he : e.2 ∈ _)).1
    exact ⟨he', hplain e.2 he'⟩
  have hloop := goes_forM_render (s := stored p v s) hi hmem hs hfilters
  rw [hsnd] at hloop
  have hrefresh := run_refresh_affected (s := stored p v s) hindexed hbuilt p
  have hobs {u : Unit} {s₁ : Engine Markup} (h : (refresh p).run (stored p v s) = .ok u s₁) :
      s₁.observers.relatedTo p = [] := by
    obtain ⟨_, _, _, rfl⟩ := (hloop.leads u s₁ (hrefresh ▸ h)).1
    exact (congrArg (·.relatedTo p) hobservers).trans (Observers.relatedTo_empty p)
  constructor
  · refine Iff.trans ⟨?_, ?_⟩ hloop.succeeds_iff
    · rintro ⟨u, s', h⟩
      obtain ⟨s₁, s₂, hr, -⟩ := of_run_assign h
      exact ⟨(), s₁, hrefresh ▸ hr⟩
    · rintro ⟨u, s₁, h⟩
      have hr : (refresh p).run (stored p v s) = .ok u s₁ := hrefresh.trans h
      rw [Succeeds, run_assign, hr]
      simp only [hobs hr]
      exact ⟨_, _, rfl⟩
  · intro u s' h
    obtain ⟨s₁, s₂, hr, hf, rfl⟩ := of_run_assign h
    rw [hobs hr] at hf
    cases hf
    obtain ⟨hredraws, hshows⟩ := hloop.leads () _ (hrefresh ▸ hr)
    obtain ⟨_, _, _, rfl⟩ := hredraws
    exact ⟨⟨rfl, hfilters, hobservers, hbuilt, rfl, hindexed⟩, hshows⟩

def reading (L : List (ElementId × Binding)) (key : String) : List (ElementId × Binding) :=
  L.filter fun e ↦ e.2.property.member = key

theorem run_perform_setMembers_cons (write : Path → Json → EngineM Markup Unit) {key : String}
    (h : IsKey key) (v : Json) (ms : Json.Members) :
    (perform write (Template.setMembers ((key, v) :: ms))).run s =
      (do
        write (Path.ofKey key h.1) v
        perform write (Template.setMembers ms) : EngineM Markup Unit).run s := by
  rw [Template.setMembers, Callback.setText_key h, run_perform_set, EStateM.run_bind, outcome,
    after]
  cases (write (Path.ofKey key h.1) v).run s <;> rfl

theorem goes_setMembers (hi : Markup.Independent d₀ L) (hplain : ∀ e ∈ L, e.2.Plain)
    {members before ms : Json.Members} (hms : members = before ++ ms)
    (hnodup : (members.map Prod.fst).Nodup) (hkeys : ∀ m ∈ ms, IsKey m.1)
    (hr : Ready L (.object before) s) (hs : Markup.Shows d₀ L ws s.document) (n : Nat) :
    Goes (perform (assign (n + 1)) (Template.setMembers ms)) s
      (∀ m ∈ ms, ∀ e ∈ reading L m.1, e.2.Shows (.object members))
      fun s' ↦ Markup.Shows d₀ L
        (ws ++ ms.flatMap fun m ↦ shown (.object members) (reading L m.1)) s'.document := by
  induction ms generalizing before s ws with
  | nil =>
    refine (Goes.pure () ?_).mono (by simp) fun _ h ↦ h
    simpa using hs
  | cons m ms ih =>
    obtain ⟨key, v⟩ := m
    obtain ⟨hkey, hkeys⟩ := List.forall_mem_cons.mp hkeys
    have hall : members = (before ++ [(key, v)]) ++ ms := by
      rw [hms, List.append_assoc]
      rfl
    -- no key comes twice, so that a write appends its member to those before
    have hfresh : key ∉ before.map Prod.fst := by
      rw [hms, List.map_append] at hnodup
      exact fun hmem ↦ (List.nodup_append.mp hnodup).2.2 key hmem key List.mem_cons_self rfl
    have hset : ((Json.object before).set (Path.ofKey key hkey.1) v).2 =
        .object (before ++ [(key, v)]) := by
      rw [Json.set_key, Json.Members.insert_of_notMem hfresh]
    have htext : ∀ e ∈ reading L key,
        e.2.text (.object (before ++ [(key, v)])) = e.2.text (.object members) := fun e he ↦
      Binding.text_object_of_prefix hall hnodup (of_decide_eq_true (List.mem_filter.mp he).2)
    have hshown : shown (.object (before ++ [(key, v)])) (reading L key) =
        shown (.object members) (reading L key) :=
      List.map_congr_left fun e he ↦ by rw [Binding.textD, htext e he, Binding.textD]
    have hstep := goes_assign hi hplain hr hs n (Path.ofKey key hkey.1) v
    simp only [Path.isRelatedTo_key, hset] at hstep
    refine .congr (run_perform_setMembers_cons _ hkey v ms) (Goes.mono
      (P := (∀ e ∈ reading L key, e.2.Shows (.object (before ++ [(key, v)]))) ∧
        ∀ m ∈ ms, ∀ e ∈ reading L m.1, e.2.Shows (.object members))
      (hstep.bind fun u s₁ h₁ ↦ (ih hall hkeys h₁.1 h₁.2).mono Iff.rfl fun s' h ↦ ?_)
      ?_ fun _ h ↦ h)
    · rw [List.flatMap_cons, ← List.append_assoc, ← hshown]
      exact h
    · rw [List.forall_mem_cons]
      refine and_congr_left fun _ ↦ forall₂_congr fun e he ↦ ?_
      rw [Binding.Shows, htext e he, Binding.Shows]

def showing (L : List (ElementId × Binding)) (members : Json.Members) :
    List (ElementId × String) :=
  shown (.object []) L ++ members.flatMap fun m ↦ shown (.object members) (reading L m.1)

/-- Every binding can be read and shows something without the data, and with it if it reads one of
the members. -/
structure Fillable (d₀ : Markup) (members : Json.Members) : Prop where
  readable : ∀ el ∈ d₀.elementsWith ({} : Options).bindingAttribute, d₀.Readable {} el
  shows_empty : ∀ e ∈ d₀.bound {}, e.2.Shows (.object [])
  shows_read : ∀ m ∈ members, ∀ e ∈ reading (d₀.bound {}) m.1, e.2.Shows (.object members)

/-- Filling succeeds exactly for templates that can be filled, and shows all texts one after the
other. -/
theorem goes_fill (hd : d₀.Forest) (hi : Markup.Independent d₀ (d₀.bound {}))
    (hplain : ∀ e ∈ d₀.bound {}, e.2.Plain)
    (hels : (d₀.elementsWith ({} : Options).bindingAttribute).Nodup)
    {members : Json.Members} (hnodup : (members.map Prod.fst).Nodup)
    (hkeys : ∀ m ∈ members, IsKey m.1) :
    Goes (run (Template.fill members)) (State.init d₀ {}) (Fillable d₀ members)
      fun s' ↦ Markup.Shows d₀ (d₀.bound {}) (showing (d₀.bound {}) members) s'.document := by
  have hscan := goes_scan (o := {}) (s := State.init d₀ {}) hd hi hplain hels rfl rfl rfl
  have hall := hscan.bind (y := fun _ ↦ perform (assign 64) (Template.setMembers members))
    fun n s₁ h ↦ by
      obtain ⟨hr, ⟨hsynced, hbuilt⟩, hbound, hs⟩ := h
      have hindexed := hbound ▸ hsynced.indexed
      have hready : Ready (d₀.bound {}) (.object []) s₁ := by
        obtain ⟨_, _, _, _, rfl⟩ := hr
        exact ⟨rfl, rfl, rfl, hbuilt, hbound, hindexed⟩
      exact goes_setMembers hi hplain (List.nil_append members).symm hnodup hkeys hready hs 63
  have hrun : (run (Template.fill members)).run (State.init d₀ {}) =
      (do let _ ← scan; perform (assign 64) (Template.setMembers members)).run
        (State.init d₀ {}) := by
    rw [EStateM.run_bind]
    change (perform (assign 64) (Template.fill members)).run (State.init d₀ {}) = _
    rw [Template.fill, run_perform_scan, outcome, after]
    cases scan.run (State.init d₀ {} : Engine Markup) <;> rfl
  refine (Goes.congr hrun hall).mono ⟨fun h ↦ ⟨h.1.1, h.1.2, h.2⟩, fun h ↦ ?_⟩ fun _ h ↦ h
  exact ⟨⟨h.readable, h.shows_empty⟩, h.shows_read⟩

end Engine

end DataBinding
