import AttributePins.Proofs.Config.Spelling

/-! What known members come to. Each is taken once, with the value that it spells, and what is
missing has its default; so the settings are the same in whatever order the members come. -/
namespace AttributePins.Config

open Json

/-- Settings that have the value of each known member, none of them given twice, and the default
for each other one. -/
structure Holds (config : Config) (known : List (Field × List Char)) : Prop where
  once : (known.map Prod.fst).Nodup
  spelt : ∀ member ∈ known, Spelt config member.1 member.2
  absent : ∀ field ∉ known.map Prod.fst, config.value field = Config.default.value field

variable {config : Config} {known known' : List (Field × List Char)}

/-- The order of the members does not matter. -/
theorem Holds.perm (holds : Holds config known) (perm : known.Perm known') :
    Holds config known' where
  once := (perm.map Prod.fst).nodup_iff.mp holds.once
  spelt member found := holds.spelt member (perm.mem_iff.mpr found)
  absent field other :=
    holds.absent field fun found => other ((perm.map Prod.fst).mem_iff.mp found)

theorem strings_inj {x y : List String}
    (same : Value.array (x.map .string) = .array (y.map .string)) : x = y :=
  (List.map_inj_right fun _ _ => Value.string.inj).mp (Value.array.inj same)

/-- Two settings with the same values are the same. -/
theorem eq_of_value {a b : Config} (same : ∀ field, a.value field = b.value field) : a = b := by
  obtain ⟨ignores, includes, sourceRoot, extensions⟩ := a
  obtain ⟨ignores', includes', sourceRoot', extensions'⟩ := b
  obtain rfl : ignores = ignores' := strings_inj (same .ignores)
  obtain rfl : includes = includes' := strings_inj (same .includes)
  obtain rfl : sourceRoot = sourceRoot' := Value.string.inj (same .sourceRoot)
  obtain rfl : extensions = extensions' := strings_inj (same .extensions)
  rfl

/-- Whether a value spells what settings have depends on what they have for that member. -/
theorem spelt_congr {a b : Config} {field : Field} {v : List Char}
    (same : a.value field = b.value field) : Spelt a field v ↔ Spelt b field v := by
  cases field with
  | sourceRoot => simp only [Spelt, Value.string.inj same]
  | ignores => simp only [Spelt, strings_inj same]
  | includes => simp only [Spelt, strings_inj same]
  | extensions => simp only [Spelt, strings_inj same]

namespace Draft

variable {draft next : Draft} {more : List (Field × List Char)} {field : Field}

/-- What members do to a draft: each takes the value that it spells, if it has not been read yet. -/
def Takes : Draft → List (Field × List Char) → Draft → Prop
  | draft, [], next => next = draft
  | draft, (field, v) :: more, next =>
    draft.has field = false ∧
      ∃ config, Spelt config field v ∧ (draft.take config field).Takes more next

theorem takes_append : draft.Takes (known ++ more) next ↔
    ∃ mid, draft.Takes known mid ∧ mid.Takes more next := by
  induction known generalizing draft with
  | nil => simp [Takes]
  | cons member known ih =>
    obtain ⟨field, v⟩ := member
    simp only [List.cons_append, Takes, ih]
    grind

theorem value_finish_take (other : Field) :
    (draft.take config field).finish.value other =
      if other = field then config.value field else draft.finish.value other := by
  cases field <;> cases other <;> rfl

/-- What members leave of a draft: those that they name were not read before, none is named twice,
each has the value that it spells, and the others are as they were. -/
theorem Takes.spelt (takes : draft.Takes known next) :
    (∀ member ∈ known, draft.has member.1 = false) ∧ (known.map Prod.fst).Nodup ∧
      (∀ member ∈ known, Spelt next.finish member.1 member.2) ∧
        ∀ field ∉ known.map Prod.fst, next.finish.value field = draft.finish.value field := by
  induction known generalizing draft with
  | nil =>
    cases takes
    simp
  | cons member known ih =>
    obtain ⟨field, v⟩ := member
    obtain ⟨fresh, config, spelt, takes⟩ := takes
    obtain ⟨later, once, spelled, kept⟩ := ih takes
    -- What is taken later was not in the draft that has this member already.
    have distinct : ∀ other ∈ known, other.1 ≠ field := by
      intro other member same
      have taken := later other member
      rw [has_take, same, decide_eq_true rfl, Bool.true_or] at taken
      contradiction
    have absent : field ∉ known.map Prod.fst := by
      rintro named
      obtain ⟨other, member, same⟩ := List.mem_map.mp named
      exact distinct other member same
    have value : next.finish.value field = config.value field := by
      rw [kept field absent, value_finish_take, if_pos rfl]
    refine ⟨List.forall_mem_cons.mpr ⟨fresh, fun other member => ?_⟩,
      List.nodup_cons.mpr ⟨absent, once⟩,
      List.forall_mem_cons.mpr ⟨(spelt_congr value).mpr spelt, spelled⟩, fun other outside => ?_⟩
    · have untaken := later other member
      rw [has_take, decide_eq_false (distinct other member), Bool.false_or] at untaken
      exact untaken
    · obtain ⟨different, outside⟩ := not_or.mp (fun found => outside (List.mem_cons.mpr found))
      rw [kept other outside, value_finish_take, if_neg different]

/-- Members whose values settings have are taken from them. -/
theorem takes_of_spelt (once : (known.map Prod.fst).Nodup)
    (fresh : ∀ member ∈ known, draft.has member.1 = false)
    (spelt : ∀ member ∈ known, Spelt config member.1 member.2) :
    draft.Takes known ((known.map Prod.fst).foldl (take config) draft) := by
  induction known generalizing draft with
  | nil => rfl
  | cons member known ih =>
    obtain ⟨field, v⟩ := member
    obtain ⟨here, fresh⟩ := List.forall_mem_cons.mp fresh
    obtain ⟨spells, spelt⟩ := List.forall_mem_cons.mp spelt
    obtain ⟨absent, once⟩ := List.nodup_cons.mp once
    refine ⟨here, config, spells, ih once (fun other member => ?_) spelt⟩
    have distinct : other.1 ≠ field := fun same =>
      absent (List.mem_map.mpr ⟨other, member, same⟩)
    rw [has_take, decide_eq_false distinct, Bool.false_or, fresh other member]

theorem value_finish_foldl (fields : List Field) (other : Field) :
    (fields.foldl (take config) draft).finish.value other =
      if other ∈ fields then config.value other else draft.finish.value other := by
  induction fields generalizing draft with
  | nil => rfl
  | cons field fields ih =>
    rw [List.foldl_cons, ih, value_finish_take]
    grind

/-- The settings of what members leave of an empty draft are those that hold of the members. -/
theorem takes_iff_holds :
    (∃ next, Takes {} known next ∧ next.finish = config) ↔ Holds config known := by
  constructor
  · rintro ⟨next, takes, rfl⟩
    obtain ⟨-, once, spelt, kept⟩ := takes.spelt
    exact ⟨once, spelt, kept⟩
  · rintro ⟨once, spelt, absent⟩
    have empty : ∀ member ∈ known, has {} member.1 = false := by
      intro member _
      cases member.1 <;> rfl
    refine ⟨_, takes_of_spelt once empty spelt, eq_of_value fun field => ?_⟩
    rw [value_finish_foldl]
    split
    · rfl
    · rename_i other
      exact (absent field other).symm

end Draft
end AttributePins.Config
