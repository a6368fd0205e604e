import AttributePins.Index
import AttributePins.Proofs.Text.ByteOrder
import Mathlib.Data.List.Basic
import Mathlib.Data.String.Basic

/-! The order of arrival does not matter. Sources are sorted by name and those of one name
keep their order, which leaves a single result: two lists that agree on each name are
sorted into the same list. What is indexed afterwards is a function of that list. -/
namespace AttributePins

section Sorting

variable {α : Type} (name : α → String)

theorem decide_name_le_trans (a b c : α) (first : decide (name a ≤ name b) = true)
    (second : decide (name b ≤ name c) = true) : decide (name a ≤ name c) = true :=
  decide_eq_true (String.le_trans (of_decide_eq_true first) (of_decide_eq_true second))

theorem decide_name_le_total (a b : α) :
    (decide (name a ≤ name b) || decide (name b ≤ name a)) = true := by
  simpa only [Bool.or_eq_true, decide_eq_true_eq] using String.le_total (name a) (name b)

theorem mergeSort_by_name_ordered (items : List α) :
    (items.mergeSort fun a b => name a ≤ name b).Pairwise fun a b => name a ≤ name b :=
  (List.pairwise_mergeSort (decide_name_le_trans name) (decide_name_le_total name) items).imp
    of_decide_eq_true

/-- Sorting keeps the items of one name as they were. -/
theorem mergeSort_by_name_filter (items : List α) (id : String) :
    (items.mergeSort fun a b => name a ≤ name b).filter (fun a => name a = id) =
      items.filter fun a => name a = id := by
  have level : (items.filter fun a => name a = id).Pairwise fun a b =>
      decide (name a ≤ name b) = true := by
    apply List.pairwise_of_forall_mem_list
    intro a first b second
    have same : name a = name b := by
      rw [of_decide_eq_true (List.mem_filter.mp first).2,
        of_decide_eq_true (List.mem_filter.mp second).2]
    exact decide_eq_true (same ▸ String.le_refl _)
  -- A sublist that is in order already survives the sort, and there is room for no more.
  have kept := List.sublist_mergeSort (decide_name_le_trans name) (decide_name_le_total name)
    level List.filter_sublist
  have within := kept.filter fun a => decide (name a = id)
  simp only [List.filter_filter, Bool.and_self] at within
  have count := ((List.mergeSort_perm items fun a b => name a ≤ name b).filter
    fun a => decide (name a = id)).length_eq
  exact (within.eq_of_length count.symm).symm

theorem mem_iff_of_filter {first second : List α}
    (agree : ∀ id, first.filter (fun a => name a = id) = second.filter fun a => name a = id)
    (item : α) : item ∈ first ↔ item ∈ second := by
  have both := congrArg (item ∈ ·) (agree (name item))
  simpa only [List.mem_filter, decide_true, and_true, eq_iff_iff] using both

/-- Lists in the order of names are equal if they are so name by name. -/
theorem eq_of_ordered_of_filter {first second : List α}
    (ordered : first.Pairwise fun a b => name a ≤ name b)
    (ordered' : second.Pairwise fun a b => name a ≤ name b)
    (agree : ∀ id, first.filter (fun a => name a = id) = second.filter fun a => name a = id) :
    first = second := by
  induction first generalizing second with
  | nil =>
    cases second with
    | nil => rfl
    | cons b rest =>
      have missing := agree (name b)
      simp at missing
  | cons a rest ih =>
    cases second with
    | nil =>
      have missing := agree (name a)
      simp at missing
    | cons b others =>
      obtain ⟨least, tail⟩ := List.pairwise_cons.mp ordered
      obtain ⟨least', tail'⟩ := List.pairwise_cons.mp ordered'
      have member := (mem_iff_of_filter name agree a).mp List.mem_cons_self
      have member' := (mem_iff_of_filter name agree b).mpr List.mem_cons_self
      have same : name a = name b := by
        apply String.le_antisymm
        · rcases List.mem_cons.mp member' with rfl | later
          · exact String.le_refl _
          · exact least b later
        · rcases List.mem_cons.mp member with rfl | later
          · exact String.le_refl _
          · exact least' a later
      -- Both heads are the first item of their common name.
      have heads := agree (name a)
      simp only [List.filter_cons, same, decide_true, if_true] at heads
      obtain ⟨rfl, -⟩ := List.cons.inj heads
      refine congrArg (a :: ·) (ih tail tail' ?_)
      intro id
      have both := agree id
      by_cases named : name a = id
      · simp only [List.filter_cons, named, decide_true, if_true] at both
        exact (List.cons.inj both).2
      · simpa only [List.filter_cons, named, decide_false, Bool.false_eq_true, if_false] using both

end Sorting

theorem filter_eq_of_perm_of_distinct {first second : List SourceUnit}
    (rearranged : first.Perm second) (distinct : (first.map (·.sourceId)).Nodup) (id : String) :
    first.filter (fun unit => unit.sourceId = id) =
      second.filter fun unit => unit.sourceId = id := by
  have perm := rearranged.filter fun unit => decide (unit.sourceId = id)
  have apart := (List.pairwise_map.mp distinct).filter fun unit => decide (unit.sourceId = id)
  have named {unit : SourceUnit} (member : unit ∈ first.filter fun unit => unit.sourceId = id) :
      unit.sourceId = id := of_decide_eq_true (List.mem_filter.mp member).2
  generalize first.filter (fun unit => unit.sourceId = id) = units at *
  cases units with
  | nil => exact perm.nil_eq
  | cons a rest =>
    cases rest with
    | nil => exact List.singleton_perm.mp perm
    | cons b others =>
      have different := (List.pairwise_cons.mp apart).1 b List.mem_cons_self
      have same := (named List.mem_cons_self).trans
        (named (List.mem_cons_of_mem a List.mem_cons_self)).symm
      exact absurd same different

/-- Lists of the same units are loaded alike if units of one name come in the same order,
as they do if no name comes twice. What is loaded are the units in the order of the bytes
of their names, each name's own in the order of arrival. Indexing them leaves an index, or
any other sink, in the same state, counts the same and reports the same. -/
theorem ofUnits_rearranged (table : TypeTable)
    {first second : List SourceUnit} (rearranged : first.Perm second)
    (aligned : (∀ id, first.filter (fun unit => unit.sourceId = id) =
        second.filter fun unit => unit.sourceId = id) ∨
      (first.map (·.sourceId)).Nodup) :
    let loaded := (Sources.ofUnits first).units
    let loaded' := (Sources.ofUnits second).units
    loaded' = loaded ∧
    loaded.Perm first ∧
    (loaded.Pairwise fun a b => ¬ Text.ByteLt b.sourceId a.sourceId) ∧
    (∀ id, loaded.filter (fun unit => unit.sourceId = id) =
      first.filter fun unit => unit.sourceId = id) ∧
    (∀ {σ : Type u} [Sink σ] (sink : σ),
      indexUnits table loaded' sink = indexUnits table loaded sink) ∧
    eventsOf table loaded' = eventsOf table loaded := by
  intro loaded loaded'
  have agree : ∀ id, first.filter (fun unit => unit.sourceId = id) =
      second.filter fun unit => unit.sourceId = id := by
    rcases aligned with agree | distinct
    · exact agree
    · exact filter_eq_of_perm_of_distinct rearranged distinct
  have ordered := mergeSort_by_name_ordered SourceUnit.sourceId
  have kept := mergeSort_by_name_filter SourceUnit.sourceId
  have same : loaded' = loaded := by
    apply eq_of_ordered_of_filter SourceUnit.sourceId (ordered second) (ordered first)
    intro id
    rw [kept, kept, agree]
  refine ⟨same, List.mergeSort_perm first _, ?_, kept first, ?_⟩
  · apply (ordered first).imp
    intro a b before later
    exact String.not_lt.mpr before (Text.byteLt_iff_lt.mp later)
  · rw [same]
    constructor
    · intro σ _ sink
      rfl
    · rfl

/-- Two sources of one name around a third, and the third first. Either way the columns of
the two come in the order of arrival. -/
theorem ofUnits_rearranged_two_of_one_name :
    let a : SourceUnit := ⟨"a.rb", "# id integer\nclass Account < ApplicationRecord\n"⟩
    let a' : SourceUnit := ⟨"a.rb", "# name string\nclass Account < ApplicationRecord\n"⟩
    let b : SourceUnit := ⟨"b.rb", "class Other < ApplicationRecord\n"⟩
    let indexed (units : List SourceUnit) :=
      indexUnits .rails (Sources.ofUnits units).units Index.empty
    [a, b, a'].Perm [b, a, a'] ∧
    (∀ id, [a, b, a'].filter (fun unit => unit.sourceId = id) =
      [b, a, a'].filter fun unit => unit.sourceId = id) ∧
    (Sources.ofUnits [b, a, a']).units = (Sources.ofUnits [a, b, a']).units ∧
    indexed [b, a, a'] = indexed [a, b, a'] ∧
    indexed [a, b, a'] = ⟨⟨[("Account",
        [⟨"id", "Account", .int, ⟨"a.rb", 0, 0, 0, 12⟩, .record, true⟩,
         ⟨"name", "Account", .string, ⟨"a.rb", 0, 0, 0, 13⟩, .record, true⟩]),
      ("Other", [])]⟩, 3⟩ := by
  intro a a' b indexed
  have rearranged : [a, b, a'].Perm [b, a, a'] := .swap b a [a']
  have agree : ∀ id, [a, b, a'].filter (fun unit => unit.sourceId = id) =
      [b, a, a'].filter fun unit => unit.sourceId = id := by
    intro id
    by_cases first : "a.rb" = id
    · subst first
      decide
    · simp [a, a', List.filter_cons, first]
  have level : a.sourceId ≤ a'.sourceId := by decide
  have before : a.sourceId ≤ b.sourceId := by decide
  have later : ¬ b.sourceId ≤ a'.sourceId := by decide
  have order : (Sources.ofUnits [a, b, a']).units = [a, a', b] := by
    simp [Sources.ofUnits, sortUnits, List.mergeSort, level, before, later]
  obtain ⟨same, -, -, -, alike, -⟩ := ofUnits_rearranged .rails rearranged (.inl agree)
  refine ⟨rearranged, agree, same, alike Index.empty, ?_⟩
  simp only [indexed, order]
  decide +kernel

end AttributePins
