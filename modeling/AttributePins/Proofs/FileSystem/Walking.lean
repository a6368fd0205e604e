import AttributePins.FileSystem.Walk
import AttributePins.Proofs.FileSystem.Names

/-! What a walk visits: everything below its root, under the root's path with the names on the
way joined to it, as far as the paths of the directories entered are not too long. -/
namespace AttributePins

namespace Path

/-- The path of a walk that has gone down some names. -/
def below (path : Path) : List String → Option Path
  | [] => some path
  | name :: rest =>
    if path.text.utf8ByteSize > FileSystem.maxPathBytes then none
    else (path.join ⟨name⟩).below rest

end Path

namespace Node

theorem mem_visitsBelow {path visited : Path} {entries : List (String × Node)} :
    .entry visited ∈ visitsBelow path entries ↔
      ∃ entry ∈ entries, .entry visited ∈ entry.2.visits (path.join ⟨entry.1⟩) := by
  induction entries with
  | nil => simp [visitsBelow]
  | cons entry rest ih => simp [visitsBelow, ih]

theorem Plain.mem_visits {root : Node} (plain : root.Plain) (path visited : Path) :
    .entry visited ∈ root.visits path ↔
      ∃ names, (root.get? names).isSome = true ∧ path.below names = some visited := by
  induction plain generalizing path with
  | file content =>
    rw [visits, List.mem_singleton, Visit.entry.injEq]
    constructor
    · rintro rfl
      exact ⟨[], rfl, rfl⟩
    · rintro ⟨names, present, reached⟩
      cases names with
      | nil => exact (Option.some.inj reached).symm
      | cons => contradiction
  | @dir entries distinct named below ih =>
    rw [visits, List.mem_cons, Visit.entry.injEq]
    constructor
    · rintro (rfl | later)
      · exact ⟨[], rfl, rfl⟩
      · split at later
        · simp at later
        · rename_i short
          obtain ⟨entry, member, inside⟩ := mem_visitsBelow.mp later
          obtain ⟨names, present, reached⟩ := (ih entry member _).mp inside
          refine ⟨entry.1 :: names, ?_, ?_⟩
          · rw [Node.get?, lookup_of_mem distinct member]
            exact present
          · rw [Path.below, if_neg short]
            exact reached
    · rintro ⟨names, present, reached⟩
      cases names with
      | nil => exact .inl (Option.some.inj reached).symm
      | cons name rest =>
        rw [Path.below] at reached
        split at reached
        · contradiction
        · rename_i short
          rw [Node.get?] at present
          split at present
          · rename_i child found
            have member := mem_of_lookup found
            rw [if_neg short]
            exact .inr (mem_visitsBelow.mpr
              ⟨_, member, (ih _ member _).mpr ⟨rest, present, reached⟩⟩)
          · contradiction

end Node

namespace FileSystem

variable {fs : FileSystem}

theorem Plain.mem_walk (plain : fs.Plain) (start visited : Path) :
    .entry visited ∈ fs.walk start ↔
      ∃ place names, fs.leads? start = some place ∧
        (fs.root.kindAt (place ++ names)).isSome = true ∧ start.below names = some visited := by
  rw [walk]
  cases stated : fs.linkStat start with
  | error error =>
    simp only [List.mem_singleton, reduceCtorEq, false_iff]
    rintro ⟨place, names, led, -⟩
    obtain ⟨node, found⟩ := get?_of_leads? led
    have ok := (plain.linkStat_iff start node).mpr ⟨place, led, found⟩
    rw [stated] at ok
    cases ok
  | ok node =>
    obtain ⟨place, led, found⟩ := (plain.linkStat_iff start node).mp stated
    have below := plain.tree.get? found
    have visits : .entry visited ∈ node.visits start ↔
        ∃ place names, fs.leads? start = some place ∧
          (fs.root.kindAt (place ++ names)).isSome = true ∧ start.below names = some visited := by
      simp [below.mem_visits, led, Node.kindAt, Node.get?_append, found]
    cases below with
    | file | dir => exact visits

/-- A visited path leads to what is visited. -/
theorem Plain.leads?_below (plain : fs.Plain) {start visited : Path} (filled : start.text ≠ "")
    {names target : List String} (proper : ∀ name ∈ names, Node.isName name = true)
    (reached : start.below names = some visited) (led : fs.leads? visited = some target) :
    ∃ place, fs.leads? start = some place ∧ target = place ++ names := by
  induction names generalizing start with
  | nil =>
    obtain rfl := Option.some.inj reached
    exact ⟨target, led, (List.append_nil target).symm⟩
  | cons name rest ih =>
    rw [Path.below] at reached
    split at reached
    · contradiction
    · have first := proper name List.mem_cons_self
      obtain ⟨some, -, -, inner⟩ := Node.isName_iff.mp first
      obtain ⟨next, through, same⟩ := ih (Path.join_filled start some inner)
        (fun other member => proper other (List.mem_cons_of_mem name member)) reached
      obtain ⟨place, start, -, last⟩ := plain.leads?_join filled inner through
      refine ⟨place, start, ?_⟩
      rw [same, follow_name first last, List.append_assoc, List.singleton_append]

end FileSystem
end AttributePins
