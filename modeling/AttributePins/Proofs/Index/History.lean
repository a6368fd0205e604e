import AttributePins.Index
import AttributePins.Proofs.Text.ByteOrder
import Mathlib.Data.List.Dedup

/-! An index against the declarations it has received. Each operation adds declarations
at the end of that history, and every query is a function of the history alone: of the
names that occur in it and of the attributes under each name, in order. -/
namespace AttributePins

/-- The pins that declarations put on a model, in the order of the declarations. -/
def pinsOf (model : String) (history : List Declaration) : List Pin :=
  (history.filter fun declaration => declaration.model = model).flatMap fun declaration =>
    declaration.attributes.map (Pin.ofAttribute model)

theorem pinsOf_append (model : String) (first second : List Declaration) :
    pinsOf model (first ++ second) = pinsOf model first ++ pinsOf model second := by
  simp only [pinsOf, List.filter_append, List.flatMap_append]

theorem pinsOf_singleton (model : String) (declaration : Declaration) :
    pinsOf model [declaration] =
      if declaration.model = model then declaration.attributes.map (Pin.ofAttribute model)
      else [] := by
  by_cases named : declaration.model = model <;> simp [pinsOf, named]

namespace Index

theorem pins?_cons (name model : String) (pins : List Pin) (rest : List (String × List Pin)) :
    pins? ⟨(name, pins) :: rest⟩ model =
      if name = model then some pins else pins? ⟨rest⟩ model := by
  by_cases named : name = model <;> simp [pins?, named]

theorem pins?_isSome_iff (index : Index) (model : String) :
    (index.pins? model).isSome = true ↔ model ∈ index.modelNames := by
  simp [pins?, modelNames]

theorem mem_addPins_names {name model : String} {pins : List Pin}
    {entries : List (String × List Pin)} :
    name ∈ (addPins model pins entries).map (·.1) ↔ name = model ∨ name ∈ entries.map (·.1) := by
  induction entries with
  | nil => simp [addPins]
  | cons entry rest ih =>
    obtain ⟨head, present⟩ := entry
    unfold addPins
    split
    · simp
    · split
      · rename_i same
        subst same
        simp
      · simp only [List.map_cons, List.mem_cons, ih]
        exact or_left_comm

theorem addPins_increasing (model : String) (pins : List Pin) {entries : List (String × List Pin)}
    (increasing : (entries.map (·.1)).Pairwise (· < ·)) :
    ((addPins model pins entries).map (·.1)).Pairwise (· < ·) := by
  induction entries with
  | nil => exact List.pairwise_singleton _ _
  | cons entry rest ih =>
    obtain ⟨head, present⟩ := entry
    obtain ⟨above, others⟩ := List.pairwise_cons.mp increasing
    unfold addPins
    split
    · rename_i before
      refine List.pairwise_cons.mpr ⟨?_, increasing⟩
      intro name member
      rcases List.mem_cons.mp member with rfl | later
      · exact before
      · exact String.lt_trans before (above name later)
    · rename_i notBefore
      split
      · exact increasing
      · rename_i different
        refine List.pairwise_cons.mpr ⟨?_, ih others⟩
        intro name member
        rcases mem_addPins_names.mp member with rfl | later
        · exact lt_of_le_of_ne (String.not_lt.mp notBefore) (Ne.symm different)
        · exact above name later

theorem pins?_eq_none {entries : List (String × List Pin)} {head model : String}
    (above : ∀ name ∈ entries.map (·.1), head < name) (below : ¬ head < model) :
    pins? ⟨entries⟩ model = none := by
  apply Option.not_isSome_iff_eq_none.mp
  rw [pins?_isSome_iff]
  intro member
  exact below (above model member)

/-- Adding pins changes what is found under one name only. -/
theorem pins?_addPins (model name : String) (pins : List Pin)
    {entries : List (String × List Pin)}
    (increasing : (entries.map (·.1)).Pairwise (· < ·)) :
    pins? ⟨addPins model pins entries⟩ name =
      if model = name then some (attributesOf ⟨entries⟩ name ++ pins)
      else pins? ⟨entries⟩ name := by
  induction entries with
  | nil => rw [addPins, pins?_cons]; rfl
  | cons entry rest ih =>
    obtain ⟨head, present⟩ := entry
    obtain ⟨above, others⟩ := List.pairwise_cons.mp increasing
    unfold addPins
    split
    · rename_i before
      rw [pins?_cons]
      split
      · rename_i same
        subst same
        -- All names of the list come after the new one, so it had no pins.
        have missing : pins? ⟨(head, present) :: rest⟩ model = none := by
          rw [pins?_cons, if_neg (Ne.symm (String.ne_of_lt before))]
          exact pins?_eq_none above (String.lt_asymm before)
        rw [attributesOf, missing]
        rfl
      · rfl
    · split
      · rename_i same
        subst same
        simp only [attributesOf, pins?_cons]
        split <;> rfl
      · rename_i different
        simp only [pins?_cons, ih others, attributesOf]
        by_cases found : head = name
        · have other : model ≠ name := fun same => different (same.trans found.symm)
          simp only [if_pos found, if_neg other]
        · simp only [if_neg found]

theorem pinCount_cons (name : String) (pins : List Pin) (rest : List (String × List Pin)) :
    pinCount ⟨(name, pins) :: rest⟩ = pins.length + pinCount ⟨rest⟩ := rfl

theorem pinCount_addPins (model : String) (pins : List Pin)
    (entries : List (String × List Pin)) :
    pinCount ⟨addPins model pins entries⟩ = pinCount ⟨entries⟩ + pins.length := by
  induction entries with
  | nil => simp [addPins, pinCount]
  | cons entry rest ih =>
    obtain ⟨head, present⟩ := entry
    unfold addPins
    split
    · simp only [pinCount_cons]
      omega
    · split
      · simp only [pinCount_cons, List.length_append]
        omega
      · simp only [pinCount_cons, ih]
        omega

/-- An index holds a history: its names increase and are those of the history, and each
name has the pins that the history puts on it. -/
structure Holds (index : Index) (history : List Declaration) : Prop where
  increasing : index.modelNames.Pairwise (· < ·)
  names : ∀ model, model ∈ index.modelNames ↔ ∃ declaration ∈ history, declaration.model = model
  pins : ∀ model, index.attributesOf model = pinsOf model history
  count : index.pinCount = (history.flatMap (·.attributes)).length

theorem holds_empty : Holds empty [] := by
  refine ⟨.nil, ?_, ?_, rfl⟩
  · simp [modelNames, empty]
  · intro model
    rfl

theorem Holds.register {index : Index} {history : List Declaration} (holds : Holds index history)
    (declaration : Declaration) : Holds (index.register declaration) (history ++ [declaration]) := by
  refine ⟨addPins_increasing _ _ holds.increasing, ?_, ?_, ?_⟩
  · intro model
    rw [modelNames, Index.register, mem_addPins_names, ← modelNames, holds.names]
    simp [or_comm, eq_comm]
  · intro model
    rw [pinsOf_append, ← holds.pins, pinsOf_singleton, attributesOf, Index.register,
      pins?_addPins _ _ _ holds.increasing]
    split
    · rename_i named
      rw [named]
      rfl
    · rw [List.append_nil]
      rfl
  · rw [Index.register, pinCount_addPins, holds.count, List.flatMap_append, List.length_append,
      List.flatMap_singleton, List.length_map]

theorem Holds.accept {index : Index} {history : List Declaration} (holds : Holds index history)
    (declarations : List Declaration) :
    Holds (index.accept declarations) (history ++ declarations) := by
  induction declarations generalizing index history with
  | nil =>
    rw [List.append_nil]
    exact holds
  | cons declaration rest ih =>
    rw [List.append_cons]
    exact ih (holds.register declaration)

inductive Operation where
  | register (declaration : Declaration)
  | accept (declarations : List Declaration)

namespace Operation

def declarations : Operation → List Declaration
  | .register declaration => [declaration]
  | .accept declarations => declarations

def apply (index : Index) : Operation → Index
  | .register declaration => index.register declaration
  | .accept declarations => index.accept declarations

end Operation

def run (operations : List Operation) : Index := operations.foldl Operation.apply empty

theorem Holds.apply {index : Index} {history : List Declaration} (holds : Holds index history)
    (operation : Operation) :
    Holds (operation.apply index) (history ++ operation.declarations) := by
  cases operation with
  | register declaration => exact holds.register declaration
  | accept declarations => exact holds.accept declarations

theorem Holds.foldl {index : Index} {history : List Declaration} (holds : Holds index history)
    (operations : List Operation) :
    Holds (operations.foldl Operation.apply index)
      (history ++ operations.flatMap Operation.declarations) := by
  induction operations generalizing index history with
  | nil =>
    rw [List.flatMap_nil, List.append_nil]
    exact holds
  | cons operation rest ih =>
    rw [List.flatMap_cons, ← List.append_assoc]
    exact ih (holds.apply operation)

theorem holds_run (operations : List Operation) :
    Holds (run operations) (operations.flatMap Operation.declarations) :=
  holds_empty.foldl operations

theorem Holds.modelCount {index : Index} {history : List Declaration}
    (holds : Holds index history) :
    index.modelCount = (history.map (·.model)).dedup.length := by
  have distinct : index.modelNames.Nodup := holds.increasing.imp fun before => String.ne_of_lt before
  have same : index.modelNames.Perm (history.map (·.model)).dedup := by
    apply (List.perm_ext_iff_of_nodup distinct (List.nodup_dedup _)).mpr
    intro model
    rw [holds.names, List.mem_dedup, List.mem_map]
  rw [← same.length_eq, modelNames, List.length_map]
  rfl

theorem Holds.lookup? {index : Index} {history : List Declaration}
    (holds : Holds index history) (model name : String) :
    index.lookup? model name = (pinsOf model history).find? fun pin => pin.name = name := by
  rw [Index.lookup?, holds.pins]

end Index
end AttributePins
