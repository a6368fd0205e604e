import AttributePins.Proofs.FileSystem.Walking

/-! How the text of a path grows when names are joined to it. What stands in front of a joined
name is the path's stem; the parts of the text that count are its trail. Where a path leads
depends on its trail and on whether it is absolute; its components show a leading `.` as well,
and its text every void part. -/
namespace AttributePins

namespace Path

/-- What stands in front of a name that is joined to a path. -/
def stem (path : Path) : String :=
  if path.text.isEmpty || path.hasEndSlash then path.text else path.text ++ "/"

/-- The parts of a path but for the void ones; `..` is among them. -/
def trail (path : Path) : List String :=
  ((path.text.toList.splitOn '/').filter fun part => !isVoid part).map String.ofList

theorem join_eq_stem {other : Path} (relative : other.isAbsolute = false) (path : Path) :
    path.join other = ⟨path.stem ++ other.text⟩ := by
  rw [join, relative, stem]
  cases empty : path.text.isEmpty with
  | true =>
    have none : path.text = "" := by simpa using empty
    simp [none]
  | false => cases path.hasEndSlash <;> simp

/-- A stem is empty, or it ends with the slash behind the path's text. -/
theorem stem_cases (path : Path) :
    path.text = "" ∧ path.stem = "" ∨ ∃ front, path.stem.toList = front ++ ['/'] ∧
      (path.text.toList = front ∧ front ≠ [] ∧ front.getLast? ≠ some '/' ∨
        path.text.toList = front ++ ['/']) := by
  by_cases empty : path.text = ""
  · exact .inl ⟨empty, by simp [stem, empty]⟩
  · right
    cases slash : path.hasEndSlash with
    | true =>
      have last : path.text.toList.getLast? = some '/' := of_decide_eq_true slash
      obtain ⟨front, split⟩ := List.getLast?_eq_some_iff.mp last
      exact ⟨front, by simp [stem, slash, split], .inr split⟩
    | false =>
      exact ⟨path.text.toList, by simp [stem, slash, empty],
        .inl ⟨rfl, by simpa using empty, of_decide_eq_false slash⟩⟩

theorem stem_closed (path : Path) : path.stem = "" ∨ path.stem.toList.getLast? = some '/' := by
  obtain ⟨-, none⟩ | ⟨front, stem, -⟩ := stem_cases path
  · exact .inl none
  · exact .inr (by rw [stem, List.getLast?_concat])

theorem mem_stem {c : Char} (path : Path) (member : c ∈ path.stem.toList) :
    c = '/' ∨ c ∈ path.text.toList := by
  rw [stem] at member
  split at member
  · exact .inr member
  · simpa [or_comm] using member

theorem mem_stem_of_mem {path : Path} {c : Char} (member : c ∈ path.text.toList) :
    c ∈ path.stem.toList := by
  rw [stem]
  split
  · exact member
  · rw [String.toList_append]
    exact List.mem_append_left _ member

/-- Behind a text that ends with a name there is one slash. -/
theorem stem_of_last {path : Path} {front name : String} (ends : path.text = front ++ name)
    (filled : name ≠ "") (inner : '/' ∉ name.toList) : path.stem = path.text ++ "/" := by
  have unslashed : path.hasEndSlash = false := by
    apply decide_eq_false
    intro slash
    rw [ends, String.toList_append, List.getLast?_append_of_ne_nil _ (by simpa using filled)]
      at slash
    exact inner (List.mem_of_getLast? slash)
  rw [stem, unslashed, if_neg (by simp [ends, filled])]

theorem stem_join {name : String} (filled : name ≠ "") (inner : '/' ∉ name.toList) (path : Path) :
    (path.join ⟨name⟩).stem = path.stem ++ name ++ "/" := by
  have text := join_eq_stem (isAbsolute_of_inner inner) path
  rw [text]
  exact stem_of_last rfl filled inner

theorem size_text_le (path : Path) : path.text.utf8ByteSize ≤ path.stem.utf8ByteSize := by
  rw [stem]
  split
  · exact le_rfl
  · rw [String.utf8ByteSize_append]
    omega

theorem size_stem_le (path : Path) : path.stem.utf8ByteSize ≤ path.text.utf8ByteSize + 1 := by
  rw [stem]
  split
  · omega
  · rw [String.utf8ByteSize_append]
    exact le_rfl

theorem join_filled_left {path other : Path} (relative : other.isAbsolute = false)
    (filled : path.text ≠ "") : (path.join other).text ≠ "" := by
  rw [join_eq_stem relative]
  obtain ⟨empty, -⟩ | ⟨front, stem, -⟩ := stem_cases path
  · exact absurd empty filled
  · intro none
    have both := congrArg String.toList none
    simp [stem] at both

section Trail

theorem trail_stem (path : Path) (text : String) :
    (Path.mk (path.stem ++ text)).trail = path.trail ++ (Path.mk text).trail := by
  obtain ⟨empty, none⟩ | ⟨front, stem, whole⟩ := stem_cases path
  · have nothing : path.trail = [] := by
      rw [trail, empty]
      rfl
    rw [none, nothing, String.empty_append, List.nil_append]
  · have split : (front ++ ['/'] ++ text.toList).splitOn '/' =
        front.splitOn '/' ++ text.toList.splitOn '/' := by
      rw [List.append_assoc]
      exact List.splitOn_append_cons_self front text.toList
    have same : path.trail =
        ((front.splitOn '/').filter fun part => !isVoid part).map String.ofList := by
      rcases whole with ⟨whole, -⟩ | whole
      · rw [trail, whole]
      · rw [trail, whole, List.splitOn_append_cons_self front [], List.filter_append]
        exact congrArg _ (List.append_nil _)
    rw [same, trail, trail, String.toList_append, stem, split, List.filter_append, List.map_append]

theorem trail_join {other : Path} (relative : other.isAbsolute = false) (path : Path) :
    (path.join other).trail = path.trail ++ other.trail := by
  rw [join_eq_stem relative, trail_stem]

theorem trail_of_inner {text : String} (inner : '/' ∉ text.toList) :
    (Path.mk text).trail = if text = "" ∨ text = "." then [] else [text] := by
  have void : isVoid text.toList = true ↔ text = "" ∨ text = "." := by
    have here : text = "." ↔ text.toList = ['.'] := String.toList_inj.symm
    simp [isVoid, here]
  rw [trail, List.splitOn_eq_singleton inner]
  by_cases empty : isVoid text.toList = true
  · simp [empty, void.mp empty]
  · have kept := void.not.mp empty
    simp [empty, kept]

theorem trail_name {name : String} (proper : Node.isName name = true) :
    (Path.mk name).trail = [name] := by
  obtain ⟨filled, notHere, -, inner⟩ := Node.isName_iff.mp proper
  rw [trail_of_inner inner, if_neg (by simp [filled, notHere])]

theorem isName_of_mem_trail {path : Path} {name : String} (member : name ∈ path.trail)
    (notUp : name ≠ "..") : Node.isName name = true := by
  obtain ⟨part, known, rfl⟩ := List.mem_map.mp member
  obtain ⟨known, solid⟩ := List.mem_filter.mp known
  have inner := slash_not_mem_part known
  have here : String.ofList part = "." ↔ part = ['.'] := String.ofList_inj
  simp only [isVoid, Bool.not_eq_true', Bool.or_eq_false_iff, decide_eq_false_iff_not] at solid
  refine Node.isName_iff.mpr ⟨by simpa using solid.1, here.not.mpr solid.2, notUp, ?_⟩
  rwa [String.toList_ofList]

theorem isAbsolute_join_relative {other : Path} (relative : other.isAbsolute = false)
    (path : Path) : (path.join other).isAbsolute = path.isAbsolute := by
  rw [join_eq_stem relative]
  obtain ⟨empty, none⟩ | ⟨front, stem, ⟨whole, some, -⟩ | whole⟩ := stem_cases path
  · rw [none, String.empty_append, relative, isAbsolute, empty]
    rfl
  · rw [isAbsolute, isAbsolute, String.toList_append, stem, whole, List.append_assoc,
      List.head?_append_of_ne_nil _ some]
  · rw [isAbsolute, isAbsolute, String.toList_append, stem, whole,
      List.head?_append_of_ne_nil _ (List.append_ne_nil_of_right_ne_nil front (by simp))]

end Trail

section Components

/-- What a text starts from shows before its first slash. -/
theorem splitAnchor_slash {front : List Char} (some : front ≠ []) (more : List Char) :
    (splitAnchor (front ++ '/' :: more)).1 = (splitAnchor front).1 := by
  obtain ⟨first, rest, rfl⟩ := List.exists_cons_of_ne_nil some
  by_cases slash : first = '/'
  · simp [splitAnchor, slash]
  by_cases dot : first = '.'
  · subst dot
    cases rest with
    | nil => rfl
    | cons second rest => by_cases next : second = '/' <;> simp [splitAnchor, next]
  · simp [splitAnchor, slash, dot]

theorem anchored_join {other : Path} (relative : other.isAbsolute = false) {path : Path}
    (filled : path.text ≠ "") : (path.join other).anchored = path.anchored := by
  rw [join_eq_stem relative, anchored, anchored, String.toList_append]
  obtain ⟨empty, -⟩ | ⟨front, stem, ⟨whole, some, -⟩ | whole⟩ := stem_cases path
  · exact absurd empty filled
  · rw [stem, whole, List.append_assoc, List.singleton_append, splitAnchor_slash some]
  · rw [stem, whole, List.append_assoc, List.singleton_append]
    by_cases none : front = []
    · rw [none]
      rfl
    · rw [splitAnchor_slash none, splitAnchor_slash none]

theorem components_eq_trail (path : Path) :
    path.components = path.anchored ++ path.trail.map fun name => Component.ofPart name.toList := by
  rw [components_eq, trail, List.map_map]
  simp [Function.comp_def]

/-- A path of no names that starts with `.` -/
theorem isHere_iff (path : Path) :
    path.isHere = true ↔ path.anchored = [.here] ∧ path.trail = [] := by
  have only : path.isHere = true ↔ path.components = [.here] := decide_eq_true_iff
  rw [only, components_eq_trail]
  constructor
  · intro one
    rcases List.append_eq_singleton_iff.mp one with ⟨-, names⟩ | ⟨start, names⟩
    · obtain ⟨name, -, same⟩ := List.mem_map.mp (names ▸ List.mem_singleton_self Component.here)
      rw [Component.ofPart] at same
      split at same <;> contradiction
    · exact ⟨start, List.map_eq_nil_iff.mp names⟩
  · rintro ⟨start, none⟩
    rw [start, none]
    rfl

theorem mem_of_splitOn {text : List Char} {c : Char} (member : c ∈ text) :
    c = '/' ∨ ∃ part ∈ text.splitOn '/', c ∈ part := by
  induction text with
  | nil => contradiction
  | cons first rest ih =>
    rw [List.splitOn_cons_eq_if_modifyHead]
    obtain ⟨head, others, parts⟩ := List.exists_cons_of_ne_nil (List.splitOn_ne_nil '/' rest)
    rw [parts] at ih ⊢
    rcases List.mem_cons.mp member with rfl | later
    · by_cases slash : c = '/'
      · exact .inl slash
      · rw [if_neg (by simpa using slash), List.modifyHead_cons]
        exact .inr ⟨c :: head, List.mem_cons_self, List.mem_cons_self⟩
    · refine (ih later).imp_right ?_
      rintro ⟨part, known, inside⟩
      split
      · exact ⟨part, List.mem_cons_of_mem [] known, inside⟩
      · rw [List.modifyHead_cons]
        rcases List.mem_cons.mp known with rfl | known
        · exact ⟨first :: part, List.mem_cons_self, List.mem_cons_of_mem first inside⟩
        · exact ⟨part, List.mem_cons_of_mem _ known, inside⟩

theorem eq_of_mem_isHere {path : Path} (here : path.isHere = true) {c : Char}
    (member : c ∈ path.text.toList) : c = '/' ∨ c = '.' := by
  refine (mem_of_splitOn member).imp_right ?_
  rintro ⟨part, known, inside⟩
  have void := (isHere_parts here).2 part known
  simp only [isVoid, Bool.or_eq_true, decide_eq_true_eq] at void
  rcases void with rfl | rfl
  · contradiction
  · exact List.mem_singleton.mp inside
end Components

/-- A path that goes on from another by names. -/
structure GoesOn (base : Path) (names : List String) (path : Path) : Prop where
  start : path.isAbsolute = base.isAbsolute
  trail : path.trail = base.trail ++ names
  proper : ∀ name ∈ names, Node.isName name = true

namespace GoesOn

variable {base path last : Path} {names more : List String}

theorem refl (base : Path) : GoesOn base [] base :=
  ⟨rfl, (List.append_nil _).symm, by simp⟩

theorem trans (first : GoesOn base names path) (second : GoesOn path more last) :
    GoesOn base (names ++ more) last :=
  ⟨second.start.trans first.start, by rw [second.trail, first.trail, List.append_assoc],
    List.forall_mem_append.mpr ⟨first.proper, second.proper⟩⟩

theorem join {other : Path} (relative : other.isAbsolute = false) (forward : ".." ∉ other.trail)
    (base : Path) : GoesOn base other.trail (base.join other) :=
  ⟨isAbsolute_join_relative relative base, trail_join relative base, fun _ member =>
    isName_of_mem_trail member fun up => forward (up ▸ member)⟩

theorem join_name {name : String} (proper : Node.isName name = true) (base : Path) :
    GoesOn base [name] (base.join ⟨name⟩) := by
  obtain ⟨-, -, notUp, inner⟩ := Node.isName_iff.mp proper
  have one := trail_name proper
  have joined := join (isAbsolute_of_inner inner) (by simpa [one] using notUp.symm) base
  rwa [one] at joined

theorem below (proper : ∀ name ∈ names, Node.isName name = true)
    (reached : base.below names = some path) : GoesOn base names path := by
  induction names generalizing base with
  | nil =>
    obtain rfl := Option.some.inj reached
    exact refl base
  | cons name rest ih =>
    obtain ⟨first, others⟩ := List.forall_mem_cons.mp proper
    rw [Path.below] at reached
    split at reached
    · contradiction
    · exact (join_name first base).trans (ih others reached)

/-- Components show the names that a path goes on by, if both paths start alike. -/
theorem components (goes : GoesOn base names path) (alike : path.anchored = base.anchored) :
    path.components = base.components ++ names.map .name := by
  have spelled : names.map (fun name => Component.ofPart name.toList) = names.map .name := by
    apply List.map_congr_left
    intro name member
    obtain ⟨-, -, notUp, -⟩ := Node.isName_iff.mp (goes.proper name member)
    have other : name.toList ≠ ['.', '.'] := fun same => notUp (String.toList_inj.mp same)
    rw [Component.ofPart, if_neg other, String.ofList_toList]
  rw [components_eq_trail, components_eq_trail, goes.trail, alike, List.map_append, spelled,
    List.append_assoc]

/-- Paths that names are joined to alike lead on alike. -/
theorem of_stem (alike : path.stem = base.stem) : GoesOn base [] path := by
  have same (other : Path) : (Path.mk other.stem).trail = other.trail ∧
      (Path.mk other.stem).isAbsolute = other.isAbsolute := by
    have relative : (Path.mk "").isAbsolute = false := rfl
    have trail := trail_join relative other
    have start := isAbsolute_join_relative relative other
    rw [join_eq_stem relative, String.append_empty] at trail start
    exact ⟨trail.trans (List.append_nil _), start⟩
  refine ⟨?_, ?_, by simp⟩
  · rw [← (same path).2, alike, (same base).2]
  · rw [← (same path).1, alike, (same base).1, List.append_nil]

end GoesOn

/-- A path spelled by names behind a stem, with one slash between any two of them. -/
structure Spells (stem : String) (names : List String) (path : Path) : Prop where
  text : path.text = stem ++ "/".intercalate names
  named : names ≠ []
  proper : ∀ name ∈ names, Node.isName name = true

namespace Spells

variable {front : String} {names more : List String} {path last : Path} {name : String}

theorem intercalate_snoc (named : names ≠ []) (name : String) :
    "/".intercalate (names ++ [name]) = "/".intercalate names ++ "/" ++ name := by
  rw [String.intercalate_append_of_ne_nil named (by simp), String.intercalate_singleton]

theorem unique {other : Path} (spelled : Spells front names path)
    (again : Spells front names other) : path = other := by
  have same : path.text = other.text := spelled.text.trans again.text.symm
  exact congrArg Path.mk same

theorem join_first (proper : Node.isName name = true) (path : Path) :
    Spells path.stem [name] (path.join ⟨name⟩) := by
  refine ⟨?_, by simp, by simpa using proper⟩
  rw [join_eq_stem (isAbsolute_of_inner (Node.isName_iff.mp proper).2.2.2),
    String.intercalate_singleton]

theorem stem_eq (spelled : Spells front names path) : path.stem = path.text ++ "/" := by
  obtain ⟨before, last, rfl⟩ := (List.eq_nil_or_concat names).resolve_left spelled.named
  rw [List.concat_eq_append] at spelled
  obtain ⟨filled, -, -, inner⟩ := Node.isName_iff.mp (spelled.proper last (by simp))
  have ends : ∃ start, path.text = start ++ last := by
    rw [spelled.text]
    cases before with
    | nil => exact ⟨front, by simp⟩
    | cons => exact ⟨_, by rw [intercalate_snoc (by simp), ← String.append_assoc]⟩
  obtain ⟨start, ends⟩ := ends
  exact stem_of_last ends filled inner

theorem join (spelled : Spells front names path) (proper : Node.isName name = true) :
    Spells front (names ++ [name]) (path.join ⟨name⟩) := by
  refine ⟨?_, by simp, List.forall_mem_append.mpr ⟨spelled.proper, by simpa using proper⟩⟩
  rw [(join_first proper path).text, spelled.stem_eq, spelled.text, String.intercalate_singleton,
    intercalate_snoc spelled.named]
  simp only [String.append_assoc]

theorem below (spelled : Spells front names path)
    (proper : ∀ name ∈ more, Node.isName name = true) (reached : path.below more = some last) :
    Spells front (names ++ more) last := by
  induction more generalizing names path with
  | nil =>
    obtain rfl := Option.some.inj reached
    rwa [List.append_nil]
  | cons name rest ih =>
    obtain ⟨first, others⟩ := List.forall_mem_cons.mp proper
    rw [Path.below] at reached
    split at reached
    · contradiction
    · have whole := ih (spelled.join first) others reached
      rwa [List.append_assoc, List.singleton_append] at whole

theorem below_first (named : more ≠ []) (proper : ∀ name ∈ more, Node.isName name = true)
    (reached : path.below more = some last) : Spells path.stem more last := by
  obtain ⟨name, rest, rfl⟩ := List.exists_cons_of_ne_nil named
  obtain ⟨first, others⟩ := List.forall_mem_cons.mp proper
  rw [Path.below] at reached
  split at reached
  · contradiction
  · exact (join_first first path).below others reached

theorem trail_intercalate (named : names ≠ []) (proper : ∀ name ∈ names, Node.isName name = true) :
    (Path.mk ("/".intercalate names)).isAbsolute = false ∧
      (Path.mk ("/".intercalate names)).trail = names := by
  have inner : ∀ part ∈ names.map String.toList, '/' ∉ part := by
    intro part member
    obtain ⟨name, known, rfl⟩ := List.mem_map.mp member
    exact (Node.isName_iff.mp (proper name known)).2.2.2
  have parts : ("/".intercalate names).toList.splitOn '/' = names.map String.toList := by
    rw [String.toList_intercalate]
    exact List.splitOn_intercalate '/' inner (by simpa using named)
  have solid : ∀ part ∈ names.map String.toList, isVoid part = false := by
    intro part member
    obtain ⟨name, known, rfl⟩ := List.mem_map.mp member
    obtain ⟨filled, notHere, -, -⟩ := Node.isName_iff.mp (proper name known)
    have here : name.toList ≠ ['.'] := fun same => notHere (String.toList_inj.mp same)
    simp [isVoid, filled, here]
  constructor
  · apply decide_eq_false
    intro slash
    obtain ⟨rest, text⟩ := List.head?_eq_some_iff.mp slash
    rw [show ("/".intercalate names).toList = '/' :: rest from text,
      List.splitOn_cons_eq_if_modifyHead] at parts
    exact absurd (solid [] (parts ▸ List.mem_cons_self)) (by decide)
  · rw [trail, parts, List.filter_eq_self.mpr fun part member => by rw [solid part member]; rfl]
    simp

/-- A path spelled behind the stem of another goes on from it. -/
theorem goesOn (spelled : Spells path.stem names last) : GoesOn path names last := by
  obtain ⟨relative, trail⟩ := trail_intercalate spelled.named spelled.proper
  have joined : last = path.join ⟨"/".intercalate names⟩ := by
    rw [join_eq_stem relative, ← spelled.text]
  have goes := isAbsolute_join_relative relative path
  have behind := trail_join relative path
  rw [← joined] at goes behind
  exact ⟨goes, by rw [behind, trail], spelled.proper⟩

end Spells

end Path

end AttributePins
