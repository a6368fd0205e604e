import AttributePins.FileSystem
import Mathlib.Data.List.Basic
import Mathlib.Data.List.Infix

/-! Trees by what stands at each place. Two trees with the same kinds at all places cannot
be told apart by resolving paths, and removing or adding a file changes the kind of one place
only. Trees are plain here: no links, and in each directory distinct names that can stand in
a path. -/
namespace AttributePins

/-- What stands at a place, without what is below it. -/
inductive Kind where
  | file (content : Option ByteArray)
  | link (target : String)
  | dir

namespace Node

def kind : Node → Kind
  | .file content => .file content
  | .link target => .link target
  | .dir _ => .dir

def kindAt (root : Node) (place : List String) : Option Kind := (root.get? place).map kind

/-- Whether a text can stand between slashes for an entry of a directory. -/
def isName (name : String) : Bool :=
  name ≠ "" && name ≠ "." && name ≠ ".." && !name.toList.contains '/'

theorem isName_iff {name : String} :
    isName name = true ↔ name ≠ "" ∧ name ≠ "." ∧ name ≠ ".." ∧ '/' ∉ name.toList := by
  simp [isName, and_assoc]

/-- A tree without links, whose directories tell their entries apart by proper names. -/
inductive Plain : Node → Prop where
  | file (content : Option ByteArray) : Plain (.file content)
  | dir {entries : List (String × Node)} (distinct : (entries.map (·.1)).Nodup)
      (named : ∀ entry ∈ entries, isName entry.1 = true)
      (below : ∀ entry ∈ entries, Plain entry.2) : Plain (.dir entries)

mutual

def isPlain : Node → Bool
  | .file _ => true
  | .link _ => false
  | .dir entries => decide (entries.map (·.1)).Nodup && allPlain entries

def allPlain : List (String × Node) → Bool
  | [] => true
  | (name, node) :: rest => isName name && node.isPlain && allPlain rest

end

mutual

theorem isPlain_iff : (node : Node) → (node.isPlain = true ↔ Plain node)
  | .file content => iff_of_true (by rw [isPlain]) (.file content)
  | .link target => by
    rw [isPlain]
    exact iff_of_false Bool.false_ne_true nofun
  | .dir entries => by
    rw [isPlain, Bool.and_eq_true, decide_eq_true_iff, allPlain_iff entries]
    constructor
    · rintro ⟨distinct, all⟩
      exact .dir distinct (fun entry member => (all entry member).1)
        fun entry member => (all entry member).2
    · rintro ⟨⟩
      rename_i distinct named below
      exact ⟨distinct, fun entry member => ⟨named entry member, below entry member⟩⟩

theorem allPlain_iff : (entries : List (String × Node)) →
    (allPlain entries = true ↔ ∀ entry ∈ entries, isName entry.1 = true ∧ Plain entry.2)
  | [] => by simp [allPlain]
  | (name, node) :: rest => by
    rw [allPlain, Bool.and_eq_true, Bool.and_eq_true, isPlain_iff node, allPlain_iff rest,
      List.forall_mem_cons]

end

instance (node : Node) : Decidable (Plain node) := decidable_of_iff _ (isPlain_iff node)

theorem lookup_cons_eq (name head : String) (node : Node) (rest : List (String × Node)) :
    ((head, node) :: rest).lookup name = if name = head then some node else rest.lookup name := by
  rw [List.lookup_cons]
  by_cases same : name = head
  · simp [same]
  · simp [same, beq_eq_false_iff_ne.mpr same]

theorem lookup_of_mem {entries : List (String × Node)} (distinct : (entries.map (·.1)).Nodup)
    {entry : String × Node} (member : entry ∈ entries) :
    entries.lookup entry.1 = some entry.2 := by
  induction entries with
  | nil => contradiction
  | cons head rest ih =>
    obtain ⟨absent, others⟩ := List.nodup_cons.mp distinct
    rcases List.mem_cons.mp member with rfl | later
    · exact List.lookup_cons_self
    · have different : entry.1 ≠ head.1 := fun same =>
        absent (List.mem_map.mpr ⟨entry, later, same⟩)
      exact (lookup_cons_eq entry.1 head.1 head.2 rest).trans
        ((if_neg different).trans (ih others later))

theorem mem_of_lookup {entries : List (String × Node)} {name : String} {node : Node}
    (found : entries.lookup name = some node) : (name, node) ∈ entries := by
  obtain ⟨front, rest, rfl, -⟩ := List.lookup_eq_some_iff.mp found
  exact List.mem_append_right front List.mem_cons_self

theorem get?_nil (node : Node) : node.get? [] = some node := by
  cases node <;> rfl

theorem get?_append (root : Node) (first second : List String) :
    root.get? (first ++ second) = (root.get? first).bind fun node => node.get? second := by
  induction first generalizing root with
  | nil => rw [List.nil_append, get?_nil, Option.bind_some]
  | cons name rest ih =>
    cases root with
    | file | link => rfl
    | dir entries =>
      rw [List.cons_append, get?, get?]
      cases entries.lookup name with
      | none => rfl
      | some child => exact ih child

theorem get?_snoc_of_dir {root : Node} {place : List String} {entries : List (String × Node)}
    (found : root.get? place = some (.dir entries)) (name : String) :
    root.get? (place ++ [name]) = entries.lookup name := by
  rw [get?_append, found, Option.bind_some, get?]
  cases entries.lookup name with
  | none => rfl
  | some child => exact get?_nil child

theorem get?_of_kindAt {root : Node} {place : List String}
    (present : (root.kindAt place).isSome = true) : ∃ node, root.get? place = some node := by
  rw [kindAt, Option.isSome_map] at present
  exact Option.isSome_iff_exists.mp present

theorem kindAt_eq_dir {root : Node} {place : List String} (found : root.kindAt place = some .dir) :
    ∃ entries, root.get? place = some (.dir entries) := by
  obtain ⟨node, found, same⟩ := Option.map_eq_some_iff.mp found
  cases node with
  | dir entries => exact ⟨entries, found⟩
  | file | link => contradiction

theorem kindAt_eq_file {root : Node} {place : List String} {content : Option ByteArray}
    (found : root.kindAt place = some (.file content)) :
    root.get? place = some (.file content) := by
  obtain ⟨node, found, same⟩ := Option.map_eq_some_iff.mp found
  cases node with
  | file other =>
    rw [found, Kind.file.inj same]
  | dir | link => contradiction

/-- Only directories have something below them. -/
theorem kindAt_dir_of_below {root : Node} {place : List String} {name : String}
    (below : (root.kindAt (place ++ [name])).isSome = true) : root.kindAt place = some .dir := by
  rw [kindAt, get?_append, Option.isSome_map] at below
  rw [kindAt]
  cases found : root.get? place with
  | none => simp [found] at below
  | some node =>
    cases node with
    | dir => rfl
    | file | link => simp [found, get?] at below

theorem kindAt_dropLast {root : Node} {place : List String}
    (found : root.kindAt place = some .dir) : root.kindAt place.dropLast = some .dir := by
  rcases List.eq_nil_or_concat place with rfl | ⟨front, name, rfl⟩
  · exact found
  · rw [List.concat_eq_append] at found ⊢
    rw [List.dropLast_concat]
    exact kindAt_dir_of_below (by rw [found]; rfl)

section Plain

variable {root node : Node} {place : List String}

theorem Plain.get? (plain : Plain root) (found : root.get? place = some node) : Plain node := by
  induction place generalizing root with
  | nil =>
    rw [get?_nil] at found
    exact Option.some.inj found ▸ plain
  | cons name rest ih =>
    cases plain with
    | file => contradiction
    | dir distinct named below =>
      rw [Node.get?] at found
      split at found
      · rename_i child present
        exact ih (below _ (mem_of_lookup present)) found
      · contradiction

theorem Plain.isName_of_mem (plain : Plain root) (present : (root.kindAt place).isSome = true)
    {name : String} (member : name ∈ place) : isName name = true := by
  obtain ⟨node, reached⟩ := get?_of_kindAt present
  clear present
  induction place generalizing root with
  | nil => contradiction
  | cons first rest ih =>
    cases plain with
    | file => contradiction
    | dir distinct named below =>
      rw [Node.get?] at reached
      split at reached
      · rename_i child found
        have known := mem_of_lookup found
        rcases List.mem_cons.mp member with rfl | later
        · exact named _ known
        · exact ih (below _ known) later reached
      · contradiction

theorem Plain.not_link (plain : Plain root) (target : String) :
    root.kindAt place ≠ some (.link target) := by
  intro found
  obtain ⟨node, found, same⟩ := Option.map_eq_some_iff.mp found
  cases plain.get? found with
  | file | dir => contradiction

/-- The entries of a directory are what stands directly below its place. -/
theorem Plain.mem_entries_iff {entries : List (String × Node)} (plain : Plain root)
    (found : root.get? place = some (.dir entries)) {name : String} :
    root.get? (place ++ [name]) = some node ↔ (name, node) ∈ entries := by
  rw [get?_snoc_of_dir found]
  constructor
  · exact mem_of_lookup
  · intro member
    cases plain.get? found with
    | dir distinct => exact lookup_of_mem distinct member

end Plain

section Change

variable {change : Node → Node} {directory place : List String} {name : String}

theorem lookup_filter_ne (name other : String) (entries : List (String × Node)) :
    (entries.filter fun entry => entry.1 ≠ name).lookup other =
      if other = name then none else entries.lookup other := by
  induction entries with
  | nil => simp
  | cons entry rest ih =>
    obtain ⟨head, node⟩ := entry
    by_cases removed : head = name
    · rw [List.filter_cons_of_neg (by simp [removed]), ih, lookup_cons_eq]
      grind
    · rw [List.filter_cons_of_pos (by simp [removed]), lookup_cons_eq, ih, lookup_cons_eq]
      grind

theorem lookup_insertEntry (name other : String) (node : Node) (entries : List (String × Node)) :
    (insertEntry name node entries).lookup other =
      if other = name then some node else entries.lookup other := by
  induction entries with
  | nil => rw [insertEntry, lookup_cons_eq]
  | cons entry rest ih =>
    obtain ⟨head, child⟩ := entry
    rw [insertEntry]
    split
    · rw [lookup_cons_eq]
    split
    · rename_i same
      rw [lookup_cons_eq, lookup_cons_eq]
      grind
    · rw [lookup_cons_eq, ih, lookup_cons_eq]
      grind

theorem lookup_map_at (name other : String) (change : Node → Node)
    (entries : List (String × Node)) :
    (entries.map fun entry => if entry.1 = name then (entry.1, change entry.2) else entry).lookup
        other =
      if other = name then (entries.lookup name).map change else entries.lookup other := by
  induction entries with
  | nil => simp
  | cons entry rest ih =>
    obtain ⟨head, node⟩ := entry
    by_cases changed : head = name
    · rw [List.map_cons, if_pos changed, lookup_cons_eq, ih, lookup_cons_eq, lookup_cons_eq]
      grind
    · rw [List.map_cons, if_neg changed, lookup_cons_eq, ih, lookup_cons_eq, lookup_cons_eq]
      grind

theorem kindAt_cons (entries : List (String × Node)) (name : String) (rest : List String) :
    (Node.dir entries).kindAt (name :: rest) =
      (entries.lookup name).bind fun child => child.kindAt rest := by
  rw [kindAt, get?]
  cases entries.lookup name <;> rfl

/-- At a changed node and below it stands what the change makes of it. -/
theorem kindAt_modify_below (root : Node) (change : Node → Node) (directory rest : List String) :
    (root.modify change directory).kindAt (directory ++ rest) =
      (root.get? directory).bind fun node => (change node).kindAt rest := by
  induction directory generalizing root with
  | nil => rw [modify, List.nil_append, get?_nil, Option.bind_some]
  | cons step below ih =>
    cases root with
    | file | link => rfl
    | dir entries =>
      rw [modify, List.cons_append, kindAt_cons, lookup_map_at, if_pos rfl, get?]
      cases entries.lookup step with
      | none => rfl
      | some child => exact ih child

/-- Elsewhere nothing has changed. -/
theorem kindAt_modify_apart (root : Node) (change : Node → Node) (apart : ¬ directory <+: place) :
    (root.modify change directory).kindAt place = root.kindAt place := by
  induction directory generalizing root place with
  | nil => exact absurd (List.nil_prefix) apart
  | cons step below ih =>
    cases root with
    | file | link => rfl
    | dir entries =>
      cases place with
      | nil => rfl
      | cons other rest =>
        rw [modify, kindAt_cons, lookup_map_at, kindAt_cons]
        split
        · rename_i same
          subst same
          have apart : ¬ below <+: rest := fun within =>
            apart (List.cons_prefix_cons.mpr ⟨rfl, within⟩)
          cases entries.lookup other with
          | none => rfl
          | some child => exact ih child apart
        · rfl

/-- A change of a directory that changes what stands under one name changes the kind of that
place only. -/
theorem kindAt_modify_entry {root : Node} {entries : List (String × Node)} {kind : Option Kind}
    (found : root.get? directory = some (.dir entries))
    (entry : ∀ rest, (change (.dir entries)).kindAt rest =
      if rest = [name] then kind else (Node.dir entries).kindAt rest) (place : List String) :
    (root.modify change directory).kindAt place =
      if place = directory ++ [name] then kind else root.kindAt place := by
  by_cases within : directory <+: place
  · obtain ⟨rest, rfl⟩ := within
    have itself : root.kindAt (directory ++ rest) = (Node.dir entries).kindAt rest := by
      rw [kindAt, get?_append, found, Option.bind_some, kindAt]
    rw [kindAt_modify_below, found, Option.bind_some, entry, itself]
    simp only [List.append_cancel_left_eq]
  · rw [kindAt_modify_apart root change within, if_neg]
    rintro rfl
    exact within (List.prefix_append directory [name])

/-- Removing a file changes what stands at its place, and nothing else. -/
theorem kindAt_modify_remove {root : Node} {directory : List String} {name : String}
    {content : Option ByteArray}
    (present : root.kindAt (directory ++ [name]) = some (.file content)) (place : List String) :
    (root.modify (Node.remove name) directory).kindAt place =
      if place = directory ++ [name] then none else root.kindAt place := by
  obtain ⟨entries, found⟩ := kindAt_eq_dir (kindAt_dir_of_below (by rw [present]; rfl))
  have file : entries.lookup name = some (.file content) := by
    rw [← get?_snoc_of_dir found]
    exact kindAt_eq_file present
  refine kindAt_modify_entry found (fun rest => ?_) place
  cases rest with
  | nil => rfl
  | cons other more =>
    rw [remove, kindAt_cons, lookup_filter_ne, kindAt_cons]
    by_cases same : other = name
    · subst same
      -- Nothing is below a file.
      cases more with
      | nil => simp
      | cons => simp [file, kindAt, get?]
    · simp [same]

/-- Putting a file where there is nothing changes what stands at its place, and nothing else. -/
theorem kindAt_modify_put {root : Node} {directory : List String} {name : String}
    {content : Option ByteArray} (working : root.kindAt directory = some .dir)
    (absent : root.kindAt (directory ++ [name]) = none) (place : List String) :
    (root.modify (Node.put name (.file content)) directory).kindAt place =
      if place = directory ++ [name] then some (.file content) else root.kindAt place := by
  obtain ⟨entries, found⟩ := kindAt_eq_dir working
  have vacant : entries.lookup name = none := by
    rw [← get?_snoc_of_dir found]
    exact Option.map_eq_none_iff.mp absent
  refine kindAt_modify_entry found (fun rest => ?_) place
  cases rest with
  | nil => rfl
  | cons other more =>
    rw [put, kindAt_cons, lookup_insertEntry, kindAt_cons]
    by_cases same : other = name
    · subst same
      cases more with
      | nil => simp [kindAt, get?, kind]
      | cons => simp [vacant, kindAt, get?]
    · simp [same]

/-- A change keeps a tree plain if it does so for the node that is changed. -/
theorem Plain.modify {root : Node} (plain : Plain root)
    (keeps : ∀ node, root.get? directory = some node → Plain node → Plain (change node)) :
    Plain (root.modify change directory) := by
  induction directory generalizing root with
  | nil => exact keeps root (get?_nil root) plain
  | cons step rest ih =>
    cases plain with
    | file content => exact .file content
    | @dir entries distinct named below =>
      have names : (entries.map fun entry => if entry.1 = step then
          (entry.1, Node.modify change rest entry.2) else entry).map (·.1) =
            entries.map (·.1) := by
        rw [List.map_map]
        apply List.map_congr_left
        intro entry _
        by_cases changed : entry.1 = step <;> simp [changed]
      refine .dir (names ▸ distinct) ?_ ?_
      · intro entry member
        obtain ⟨original, known, rfl⟩ := List.mem_map.mp member
        have kept := named original known
        by_cases changed : original.1 = step
        · simpa only [changed, if_true] using changed ▸ kept
        · simpa only [changed, if_false] using kept
      · intro entry member
        obtain ⟨original, known, rfl⟩ := List.mem_map.mp member
        have kept := below original known
        by_cases changed : original.1 = step
        · have child : entries.lookup step = some original.2 :=
            changed ▸ lookup_of_mem distinct known
          have inner := ih kept fun node found => keeps node (by rw [Node.get?, child]; exact found)
          simpa only [changed, if_true] using inner
        · simpa only [changed, if_false] using kept

theorem Plain.modify_remove {root : Node} (plain : Plain root) (name : String)
    (directory : List String) : Plain (root.modify (Node.remove name) directory) := by
  refine plain.modify fun node _ kept => ?_
  cases kept with
  | file content => exact .file content
  | dir distinct named below =>
    refine .dir (distinct.sublist (List.filter_sublist.map _)) ?_ ?_
    · intro entry member
      exact named entry (List.mem_of_mem_filter member)
    · intro entry member
      exact below entry (List.mem_of_mem_filter member)

theorem insertEntry_perm {node : Node} {entries : List (String × Node)}
    (vacant : ∀ entry ∈ entries, entry.1 ≠ name) :
    (insertEntry name node entries).Perm ((name, node) :: entries) := by
  induction entries with
  | nil => exact .refl _
  | cons entry rest ih =>
    obtain ⟨other, vacant⟩ := List.forall_mem_cons.mp vacant
    rw [insertEntry]
    split
    · exact .refl _
    split
    · rename_i same
      exact absurd same.symm other
    · exact ((ih vacant).cons entry).trans (.swap ..)

theorem Plain.modify_put {root : Node} (plain : Plain root) {content : Option ByteArray}
    (proper : isName name = true) (absent : root.kindAt (directory ++ [name]) = none) :
    Plain (root.modify (Node.put name (.file content)) directory) := by
  refine plain.modify fun node found kept => ?_
  cases kept with
  | file content => exact .file content
  | @dir entries distinct named below =>
    have vacant : ∀ entry ∈ entries, entry.1 ≠ name := by
      rintro entry member rfl
      rw [kindAt, get?_snoc_of_dir found, lookup_of_mem distinct member] at absent
      contradiction
    have inserted : (insertEntry name (.file content) entries).Perm
        ((name, .file content) :: entries) := insertEntry_perm vacant
    refine .dir ?_ (fun entry member => ?_) fun entry member => ?_
    · rw [(inserted.map (·.1)).nodup_iff, List.map_cons, List.nodup_cons, List.mem_map]
      exact ⟨fun ⟨entry, member, same⟩ => vacant entry member same, distinct⟩
    · rcases List.mem_cons.mp (inserted.mem_iff.mp member) with rfl | member
      · exact proper
      · exact named entry member
    · rcases List.mem_cons.mp (inserted.mem_iff.mp member) with rfl | member
      · exact .file content
      · exact below entry member

end Change

end Node
end AttributePins
