import AttributePins.Proofs.Index.History

/-! The records of an index. A record leaves out what a pin says of its model, its scope and
its kind, and yet an index is rebuilt from its records alone: the pins of an entry are all
made from attributes under the name of the entry, whatever operations the index has seen.
So records are a normal form, and whoever asks for them learns all that the index holds. -/
namespace AttributePins

theorem pinsOf_ofAttribute_toAttribute (model : String) (history : List Declaration) :
    (pinsOf model history).map (Pin.ofAttribute model ∘ Pin.toAttribute) =
      pinsOf model history := by
  have same : ∀ pin ∈ pinsOf model history,
      (Pin.ofAttribute model ∘ Pin.toAttribute) pin = id pin := by
    intro pin member
    obtain ⟨declaration, _, given⟩ := List.mem_flatMap.mp member
    obtain ⟨column, _, rfl⟩ := List.mem_map.mp given
    rfl
  rw [List.map_congr_left same, List.map_id]

namespace Index

variable {index : Index} {history : List Declaration}

theorem Holds.names_distinct (holds : Holds index history) :
    (index.entries.map (·.1)).Nodup :=
  holds.increasing.imp fun before => String.ne_of_lt before

theorem Holds.pins?_of_mem (holds : Holds index history) {model : String} {pins : List Pin}
    (present : (model, pins) ∈ index.entries) : index.pins? model = some pins := by
  cases search : index.entries.find? fun entry => entry.1 = model with
  | none => simpa using List.find?_eq_none.mp search (model, pins) present
  | some entry =>
    have named : entry.1 = model := by simpa using List.find?_some search
    -- Names do not repeat, so the search ends at this entry.
    have same := List.inj_on_of_nodup_map holds.names_distinct
      (List.mem_of_find?_eq_some search) present named
    rw [pins?, search, same]
    rfl

/-- A model whose name comes behind all others gets the last entry. -/
theorem addPins_last (model : String) (pins : List Pin) {entries : List (String × List Pin)}
    (behind : ∀ name ∈ entries.map (·.1), name < model) :
    addPins model pins entries = entries ++ [(model, pins)] := by
  induction entries with
  | nil => rfl
  | cons entry rest ih =>
    obtain ⟨name, present⟩ := entry
    rw [List.map_cons, List.forall_mem_cons] at behind
    obtain ⟨before, behind⟩ := behind
    rw [addPins, if_neg (String.lt_asymm before), if_neg (Ne.symm (String.ne_of_lt before)),
      ih behind, List.cons_append]

/-- The pins of an entry are those of its attributes, made anew for its model. -/
theorem Holds.owned (holds : Holds index history) {model : String} {pins : List Pin}
    (present : (model, pins) ∈ index.entries) :
    (pins.map Pin.toAttribute).map (Pin.ofAttribute model) = pins := by
  have own := holds.pins model
  rw [attributesOf, holds.pins?_of_mem present, Option.getD_some] at own
  rw [List.map_map, own, pinsOf_ofAttribute_toAttribute]

/-- Records are taken in one by one. Each makes an entry behind those that are there. -/
theorem accept_records_behind {front rest : List (String × List Pin)}
    (increasing : ((front ++ rest).map (·.1)).Pairwise (· < ·))
    (owned : ∀ model pins, (model, pins) ∈ rest →
      (pins.map Pin.toAttribute).map (Pin.ofAttribute model) = pins) :
    accept ⟨front⟩ (records ⟨rest⟩) = ⟨front ++ rest⟩ := by
  induction rest generalizing front with
  | nil =>
    rw [List.append_nil]
    rfl
  | cons entry rest ih =>
    obtain ⟨model, pins⟩ := entry
    have behind : ∀ name ∈ front.map (·.1), name < model := by
      rw [List.map_append] at increasing
      intro name member
      exact (List.pairwise_append.mp increasing).2.2 name member model List.mem_cons_self
    have registered : register ⟨front⟩ ⟨model, pins.map Pin.toAttribute⟩ =
        ⟨front ++ [(model, pins)]⟩ := by
      rw [register, owned model pins List.mem_cons_self, addPins_last model pins behind]
    rw [List.append_cons] at increasing
    calc accept ⟨front⟩ (records ⟨(model, pins) :: rest⟩)
      _ = accept (register ⟨front⟩ ⟨model, pins.map Pin.toAttribute⟩) (records ⟨rest⟩) := rfl
      _ = accept ⟨front ++ [(model, pins)]⟩ (records ⟨rest⟩) := by rw [registered]
      _ = ⟨front ++ [(model, pins)] ++ rest⟩ := ih increasing fun name others member =>
        owned name others (List.mem_cons_of_mem _ member)
      _ = ⟨front ++ (model, pins) :: rest⟩ := by rw [← List.append_cons]

theorem Holds.accept_records (holds : Holds index history) :
    empty.accept index.records = index :=
  @accept_records_behind [] index.entries holds.increasing fun _ _ => holds.owned

/-- After any operations an index is the one that its records give, which come in the order
of the bytes of their models' names. -/
theorem run_records (operations : List Operation) :
    let index := run operations
    empty.accept index.records = index ∧
    (index.records.map (·.model)).Pairwise Text.ByteLt ∧
    (empty.accept index.records).records = index.records := by
  intro index
  have holds : Holds index (operations.flatMap Operation.declarations) := holds_run operations
  refine ⟨holds.accept_records, ?_, congrArg records holds.accept_records⟩
  rw [records, List.map_map]
  exact holds.increasing.imp fun before => Text.byteLt_iff_lt.mpr before

end Index
end AttributePins
