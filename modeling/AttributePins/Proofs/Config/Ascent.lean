import AttributePins.Config.Search
import AttributePins.Proofs.FileSystem.Descent
import AttributePins.Proofs.Path.Ancestors
import Mathlib.Data.List.Infix

/-! Which settings a search finds. From a directory it climbs the directories that the text of the
path names: up to the root if the path is absolute, and else up to the working directory, even if
the directory has others above it. Among those the nearest with settings counts, unless a nearer
one is the top of a repository. -/
namespace AttributePins

namespace FileSystem

/-- A directory, by the names of a path. An empty path stands for the working directory, where
names can be joined to it as to any other. -/
structure StandsAt (fs : FileSystem) (path : Path) (place : List String) : Prop where
  followed : follow fs.root.kindAt (fs.startOf path) path.trail = some place
  kind : fs.root.kindAt place = some .dir

variable {fs : FileSystem} {path above : Path} {place target : List String} {name : String}

theorem DirAt.stands (directory : fs.DirAt path place) : fs.StandsAt path place :=
  ⟨follow_trail directory.led, directory.kind⟩

theorem follow_name_iff {root : Node} (plain : root.Plain) (proper : Node.isName name = true)
    (short : name.utf8ByteSize ≤ maxNameBytes) :
    follow root.kindAt place [name] = some target ↔
      target = place ++ [name] ∧ (root.kindAt target).isSome = true := by
  obtain ⟨filled, notHere, notUp, -⟩ := Node.isName_iff.mp proper
  have unlinked (text : String) : root.kindAt (place ++ [name]) ≠ some (.link text) :=
    plain.not_link text
  rw [follow, if_neg (by simp [filled, notHere]), if_neg notUp, if_neg (Nat.not_lt.mpr short)]
  cases found : root.kindAt (place ++ [name]) with
  | none => grind
  | some kind =>
    cases kind with
    | link text => exact absurd found (unlinked text)
    | dir | file => simp only [follow]; grind

namespace StandsAt

variable (plain : fs.Plain) (stands : fs.StandsAt path place)

include stands

theorem place_eq (forward : ".." ∉ path.trail) : place = fs.startOf path ++ path.trail :=
  follow_names (fun _ member => Path.isName_of_mem_trail member fun up => forward (up ▸ member))
    stands.followed

include plain

theorem leads? (accepted : checkText path.text = .ok ()) : fs.leads? path = some place := by
  refine leads?_eq_some_iff.mpr ⟨accepted, ?_⟩
  refine follow_of_solid (plain.start_dir path) ?_ stands.kind
  rw [filter_namesOf]
  exact stands.followed

/-- A name joined to a directory's path leads to the entry of that name. -/
theorem leads?_join (proper : Node.isName name = true) (short : name.utf8ByteSize ≤ maxNameBytes)
    (accepted : checkText (path.join ⟨name⟩).text = .ok ()) :
    fs.leads? (path.join ⟨name⟩) = some target ↔
      target = place ++ [name] ∧ (fs.root.kindAt target).isSome = true := by
  obtain ⟨named, -, -, inner⟩ := Node.isName_iff.mp proper
  by_cases filled : path.text = ""
  · have here : place = fs.cwd := by
      have followed := stands.followed
      rw [Path.trail, startOf, Path.isAbsolute, filled] at followed
      exact follow_void (by simp) followed
    rw [Path.join_of_empty filled] at accepted ⊢
    rw [leads?_inner named inner, follow_name_iff plain.tree proper short, here]
    exact and_iff_right accepted
  · rw [plain.leads?_join_iff filled inner,
      stands.leads? plain (checkText_of_join filled inner accepted)]
    simp only [Option.some.injEq, exists_eq_left', accepted, stands.kind, true_and]
    exact follow_name_iff plain.tree proper short

theorem exists?_join (proper : Node.isName name = true) (short : name.utf8ByteSize ≤ maxNameBytes)
    (accepted : checkText (path.join ⟨name⟩).text = .ok ()) :
    fs.exists? (path.join ⟨name⟩) = true ↔ (fs.root.kindAt (place ++ [name])).isSome = true := by
  simp only [plain.exists?_iff, kindOf?_eq_some_iff, stands.leads?_join plain proper short accepted,
    Option.isSome_iff_exists]
  grind

/-- The parent of a path stands at the directory above, or at the same one if it has no names. -/
theorem parent (forward : ".." ∉ path.trail) (found : path.parent? = some above) :
    fs.StandsAt above (fs.startOf path ++ path.trail.dropLast) := by
  obtain ⟨-, start, trail⟩ := Path.parent?_eq_some found
  have same : fs.startOf above = fs.startOf path := by rw [startOf, startOf, start]
  rcases List.eq_nil_or_concat path.trail with none | ⟨front, last, split⟩
  · obtain rfl : place = fs.startOf path := by
      have here := stands.place_eq forward
      rwa [none, List.append_nil] at here
    have followed := stands.followed
    rw [none] at followed
    rw [none, List.dropLast_nil, List.append_nil]
    exact ⟨by rwa [same, trail, none], stands.kind⟩
  · rw [List.concat_eq_append] at split
    have followed := stands.followed
    rw [split, follow_append_iff (plain.start_dir path)] at followed
    obtain ⟨directory, through, kind, -⟩ := followed
    have proper : ∀ name ∈ front, Node.isName name = true := by
      intro name member
      have known : name ∈ path.trail := by
        rw [split]
        exact List.mem_append_left _ member
      exact Path.isName_of_mem_trail known fun up => forward (up ▸ known)
    have place := follow_names proper through
    rw [split, List.dropLast_concat, ← place]
    refine ⟨?_, kind⟩
    rw [same, trail, split, List.dropLast_concat]
    exact through

end StandsAt

end FileSystem

namespace Config

open FileSystem

def Has (root : Node) (directory : List String) (name : String) : Prop :=
  (root.kindAt (directory ++ [name])).isSome = true

instance (root : Node) (directory : List String) (name : String) :
    Decidable (Has root directory name) :=
  inferInstanceAs (Decidable ((root.kindAt (directory ++ [name])).isSome = true))

/-- A directory below another by some names, and those between the two, the nearest first. -/
def climb (floor names : List String) : List (List String) :=
  (names.inits.map (floor ++ ·)).reverse

/-- The directory of a chain whose settings count: the first that has any, unless one before it is
the top of a repository. -/
structure Nearest (root : Node) (chain : List (List String)) (directory : List String) : Prop where
  settings : Has root directory fileName
  first : ∃ nearer farther, chain = nearer ++ directory :: farther ∧
    ∀ other ∈ nearer, ¬ Has root other fileName ∧ ¬ Has root other ".git"

section Chains

variable {root : Node} {directory found other : List String} {chain : List (List String)}

theorem not_nearest_nil : ¬ Nearest root [] found := by
  rintro ⟨-, nearer, farther, same, -⟩
  simp at same

theorem nearest_cons : Nearest root (directory :: chain) found ↔
    found = directory ∧ Has root directory fileName ∨
      ¬ Has root directory fileName ∧ ¬ Has root directory ".git" ∧ Nearest root chain found := by
  constructor
  · rintro ⟨settings, nearer, farther, same, before⟩
    cases nearer with
    | nil =>
      obtain ⟨rfl, -⟩ := List.cons.inj same
      exact .inl ⟨rfl, settings⟩
    | cons first more =>
      obtain ⟨rfl, rfl⟩ := List.cons.inj same
      obtain ⟨⟨plainly, unmarked⟩, before⟩ := List.forall_mem_cons.mp before
      exact .inr ⟨plainly, unmarked, settings, more, farther, rfl, before⟩
  · rintro (⟨rfl, settings⟩ | ⟨plainly, unmarked, settings, nearer, farther, rfl, before⟩)
    · exact ⟨settings, [], chain, rfl, by simp⟩
    · exact ⟨settings, directory :: nearer, farther, rfl,
        List.forall_mem_cons.mpr ⟨⟨plainly, unmarked⟩, before⟩⟩

theorem Nearest.unique (first : Nearest root chain found) (second : Nearest root chain other) :
    found = other := by
  induction chain with
  | nil => exact absurd first not_nearest_nil
  | cons directory rest ih =>
    rcases nearest_cons.mp first with ⟨rfl, settings⟩ | ⟨plainly, -, later⟩ <;>
      rcases nearest_cons.mp second with ⟨rfl, settings'⟩ | ⟨plainly', -, later'⟩
    · rfl
    · exact absurd settings plainly'
    · exact absurd settings' plainly
    · exact ih later later'

theorem climb_nil (floor : List String) : climb floor [] = [floor] := by
  simp [climb]

theorem climb_snoc (floor names : List String) (name : String) :
    climb floor (names ++ [name]) = (floor ++ (names ++ [name])) :: climb floor names := by
  rw [climb, List.inits_append]
  simp [climb]

end Chains

section Search

variable {fs : FileSystem} {path above : Path} {place : List String}

/-- A path that is short enough for settings to be looked for behind it. -/
structure Fits (path : Path) : Prop where
  clean : '\x00' ∉ path.text.toList
  short : path.text.utf8ByteSize + fileName.utf8ByteSize < maxPathBytes

theorem Fits.parent (fits : Fits path) (found : path.parent? = some above) : Fits above := by
  obtain ⟨⟨more, same⟩, -⟩ := Path.parent?_eq_some found
  have text : path.text = above.text ++ String.ofList more := by
    rw [← String.toList_inj, String.toList_append, String.toList_ofList, same]
  obtain ⟨clean, short⟩ := fits
  rw [text] at clean short
  rw [String.utf8ByteSize_append] at short
  exact ⟨fun nul => clean (by simp [nul]), by omega⟩

theorem Fits.accepted (fits : Fits path) {name : String} (proper : Node.isName name = true)
    (clean : '\x00' ∉ name.toList) (short : name.utf8ByteSize ≤ fileName.utf8ByteSize) :
    checkText (path.join ⟨name⟩).text = .ok () := by
  obtain ⟨filled, -, -, inner⟩ := Node.isName_iff.mp proper
  have size := path.size_stem_le
  have whole := fits.short
  refine (checkText_eq_ok_iff _).mpr ⟨?_, Path.join_filled path filled inner, ?_⟩
  · rw [Path.join_eq_stem (Path.isAbsolute_of_inner inner), String.toList_append, List.mem_append]
    rintro (nul | nul)
    · rcases Path.mem_stem path nul with slash | nul
      · exact absurd slash (by decide)
      · exact fits.clean nul
    · exact clean nul
  · rw [Path.join_eq_stem (Path.isAbsolute_of_inner inner), String.utf8ByteSize_append]
    dsimp only
    omega

/-- A directory without settings that is no repository leaves the search to its parent's chain. -/
theorem nearest_parent_iff (stands : fs.StandsAt path place) (forward : ".." ∉ path.trail)
    (found : path.parent? = some above) (plainly : ¬ Has fs.root place fileName)
    (unmarked : ¬ Has fs.root place ".git") (directory : List String) :
    Nearest fs.root (climb (fs.startOf path) path.trail) directory ↔
      Nearest fs.root (climb (fs.startOf above) above.trail) directory := by
  obtain ⟨-, start, trail⟩ := Path.parent?_eq_some found
  have same : fs.startOf above = fs.startOf path := by rw [startOf, startOf, start]
  have here := stands.place_eq forward
  rw [same, trail]
  rcases List.eq_nil_or_concat path.trail with none | ⟨front, last, split⟩
  · rw [none, List.dropLast_nil]
  · rw [List.concat_eq_append] at split
    rw [split] at here
    rw [split, List.dropLast_concat, climb_snoc, ← here, nearest_cons]
    simp [plainly, unmarked]

theorem climb_eq_cons (stands : fs.StandsAt path place) (forward : ".." ∉ path.trail) :
    ∃ farther, climb (fs.startOf path) path.trail = place :: farther ∧
      (path.trail = [] → farther = []) := by
  rw [stands.place_eq forward]
  rcases List.eq_nil_or_concat path.trail with none | ⟨front, last, split⟩
  · rw [none, climb_nil, List.append_nil]
    exact ⟨[], rfl, fun _ => rfl⟩
  · rw [List.concat_eq_append] at split
    rw [split, climb_snoc]
    exact ⟨_, rfl, fun none => by simp at none⟩

/-- What a search finds in a directory and those above it, as far as the path names them. -/
theorem searchIn_ancestors (plain : fs.Plain) (stands : fs.StandsAt path place) (fits : Fits path)
    (forward : ".." ∉ path.trail) :
    (∀ file, searchIn fs path.ancestors = some file →
      ∃ directory, Nearest fs.root (climb (fs.startOf path) path.trail) directory ∧
        fs.leads? file = some (directory ++ [fileName])) ∧
    (searchIn fs path.ancestors = none →
      ∀ directory, ¬ Nearest fs.root (climb (fs.startOf path) path.trail) directory) := by
  induction path using Path.ancestors.induct generalizing place with
  | _ path ih =>
    have named : Node.isName fileName = true := by decide
    have known := fits.accepted named (by decide) le_rfl
    have settings : fs.exists? (fileIn path) = true ↔ Has fs.root place fileName :=
      stands.exists?_join plain named (by decide) known
    have marked : fs.exists? (repositoryIn path) = true ↔ Has fs.root place ".git" :=
      stands.exists?_join plain (by decide) (by decide)
        (fits.accepted (by decide) (by decide) (by decide))
    obtain ⟨farther, chain, last⟩ := climb_eq_cons stands forward
    obtain ⟨rest, ancestors⟩ := path.ancestors_eq_cons
    by_cases here : Has fs.root place fileName
    · rw [ancestors, searchIn, if_pos (settings.mpr here)]
      refine ⟨fun file same => ⟨place, ?_, ?_⟩, fun none => by cases none⟩
      · rw [chain]
        exact nearest_cons.mpr (.inl ⟨rfl, here⟩)
      · obtain rfl := Option.some.inj same
        exact (stands.leads?_join plain named (by decide) known).mpr ⟨rfl, here⟩
    by_cases top : Has fs.root place ".git"
    · rw [ancestors, searchIn, if_neg (settings.not.mpr here), if_pos (marked.mpr top), chain]
      refine ⟨fun file same => (by cases same), fun _ directory nearest => ?_⟩
      rcases nearest_cons.mp nearest with ⟨-, settled⟩ | ⟨-, unmarked, -⟩
      · exact here settled
      · exact unmarked top
    have onward : searchIn fs path.ancestors = searchIn fs rest := by
      rw [ancestors, searchIn, if_neg (settings.not.mpr here), if_neg (marked.not.mpr top)]
    cases found : path.parent? with
    | none =>
      obtain rfl : rest = [] := by
        simpa [ancestors] using Path.ancestors_of_none found
      rw [onward, chain, last (Path.trail_of_parent?_eq_none found)]
      refine ⟨fun file same => (by cases same), fun _ directory nearest => ?_⟩
      rcases nearest_cons.mp nearest with ⟨-, settled⟩ | ⟨-, -, beyond⟩
      · exact here settled
      · exact not_nearest_nil beyond
    | some above =>
      obtain rfl : rest = above.ancestors := by
        simpa [ancestors] using Path.ancestors_of_some found
      obtain ⟨-, -, trail⟩ := Path.parent?_eq_some found
      have forward' : ".." ∉ above.trail := by
        rw [trail]
        exact fun up => forward (List.mem_of_mem_dropLast up)
      simp only [onward, nearest_parent_iff stands forward found here top]
      exact ih above found (stands.parent plain forward found) (fits.parent found) forward'

/-- A search finds the nearest settings of its directory and those above it, as far up as the path
goes: to the root if it is absolute, and to the working directory if it is not. -/
theorem find?_nearest (plain : fs.Plain) {start : Path} (directory : fs.DirAt start place)
    (forward : ".." ∉ start.trail)
    (short : start.text.utf8ByteSize + fileName.utf8ByteSize < maxPathBytes) :
    (∀ above, Nearest fs.root (climb (fs.startOf start) start.trail) above ↔
      ∃ file, find? fs start = some file ∧ fs.leads? file = some (above ++ [fileName])) ∧
    (find? fs start = none ↔
      ∀ above, ¬ Nearest fs.root (climb (fs.startOf start) start.trail) above) ∧
    place = fs.startOf start ++ start.trail ∧
    (start.isAbsolute = true ∨ fs.cwd = [] →
      climb (fs.startOf start) start.trail = climb [] place) := by
  have stands := directory.stands
  have whole := stands.place_eq forward
  have fits : Fits start := ⟨nul_not_mem_of_leads? directory.led, short⟩
  obtain ⟨hit, miss⟩ := searchIn_ancestors plain stands fits forward
  refine ⟨fun above => ⟨fun nearest => ?_, ?_⟩, ⟨miss, fun nowhere => ?_⟩, whole, fun top => ?_⟩
  · cases found : find? fs start with
    | none => exact absurd nearest (miss found above)
    | some file =>
      obtain ⟨other, counts, led⟩ := hit file found
      obtain rfl := nearest.unique counts
      exact ⟨file, rfl, led⟩
  · rintro ⟨file, found, led⟩
    obtain ⟨other, counts, led'⟩ := hit file found
    obtain rfl := List.append_cancel_right (Option.some.inj (led.symm.trans led'))
    exact counts
  · cases found : find? fs start with
    | none => rfl
    | some file =>
      obtain ⟨other, counts, -⟩ := hit file found
      exact absurd counts (nowhere other)
  · have floor : fs.startOf start = [] := by
      rw [startOf]
      split
      · rfl
      · rename_i relative
        exact top.resolve_left relative
    rw [whole, floor, List.nil_append]

/-- Below the working directory the search climbs up to it, past an entry without settings. -/
theorem find?_nearest_below_here :
    let file : Node := .file (some .empty)
    let fs : FileSystem := ⟨.dir [("shop", .dir [(".annopinrc.json", file),
      ("app", .dir [("models", .dir [("a.rb", file)])])])], ["shop"]⟩
    let start : Path := ⟨"./app//models/."⟩
    let chain := climb (fs.startOf start) start.trail
    fs.Plain ∧ fs.DirAt start ["shop", "app", "models"] ∧ ".." ∉ start.trail ∧
      start.text.utf8ByteSize + fileName.utf8ByteSize < maxPathBytes ∧
      find? fs start = some ⟨"./.annopinrc.json"⟩ ∧
      chain = [["shop", "app", "models"], ["shop", "app"], ["shop"]] ∧
      (∀ above, Nearest fs.root chain above ↔
        ∃ file, find? fs start = some file ∧ fs.leads? file = some (above ++ [fileName])) ∧
      (find? fs start = none ↔ ∀ above, ¬ Nearest fs.root chain above) := by
  intro file fs start chain
  have plain : fs.Plain := ⟨by decide +kernel, rfl⟩
  have directory : fs.DirAt start ["shop", "app", "models"] := ⟨by decide +kernel, rfl⟩
  have forward : ".." ∉ start.trail := by decide +kernel
  obtain ⟨counts, misses, -, -⟩ := find?_nearest plain directory forward (by decide)
  exact ⟨plain, directory, forward, by decide, by decide +kernel, by decide +kernel, counts, misses⟩

/-- From `.` the search does not leave the working directory, though another with settings is
above it. -/
theorem settings_above_here_missed :
    ¬ ∀ (fs : FileSystem) (start : Path) (place : List String), fs.Plain → fs.DirAt start place →
      ".." ∉ start.trail → ∀ above, Nearest fs.root (climb [] place) above ↔
        ∃ file, find? fs start = some file ∧ fs.leads? file = some (above ++ [fileName]) := by
  intro climbs
  let fs : FileSystem := ⟨.dir [("shop", .dir [(".annopinrc.json", .file (some .empty)),
    ("app", .dir [])])], ["shop", "app"]⟩
  have plain : fs.Plain := ⟨by decide +kernel, rfl⟩
  have missed : find? fs ⟨"."⟩ = none := by decide +kernel
  have counts : Nearest fs.root (climb [] ["shop", "app"]) ["shop"] := by
    refine ⟨by decide +kernel, [["shop", "app"]], [[]], by decide +kernel, ?_⟩
    rw [List.forall_mem_singleton]
    exact ⟨by decide +kernel, by decide +kernel⟩
  obtain ⟨file, found, -⟩ := (climbs fs ⟨"."⟩ _ plain plain.dirAt_here (by decide +kernel) _).mp counts
  rw [missed] at found
  cases found

end Search

end Config
end AttributePins
