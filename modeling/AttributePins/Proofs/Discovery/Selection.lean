import AttributePins.Discovery
import AttributePins.Proofs.Discovery.Expansion
import AttributePins.Proofs.FileSystem.Walking
import Mathlib.Data.String.Basic

/-! The files that a search finds after some files have been deleted: those of the search
before, without the deleted ones. An include that was a deleted file drops out, patterns keep
their directories, and a walk still reaches whatever is left. -/
namespace AttributePins

section Sorting

theorem sortedSet.mem_insert {text other : String} {texts : List String} :
    other ∈ insert text texts ↔ other = text ∨ other ∈ texts := by
  induction texts with
  | nil => simp [insert]
  | cons first rest ih =>
    rw [insert]
    split
    · simp
    split
    · rename_i same
      simp [same]
    · simp only [List.mem_cons, ih]
      exact or_left_comm

theorem mem_sortedSet {text : String} {texts : List String} :
    text ∈ sortedSet texts ↔ text ∈ texts := by
  induction texts with
  | nil => rfl
  | cons first rest ih =>
    rw [List.mem_cons, ← ih]
    exact sortedSet.mem_insert

theorem sortedSet.insert_increasing (text : String) {texts : List String}
    (increasing : texts.Pairwise (· < ·)) : (insert text texts).Pairwise (· < ·) := by
  induction texts with
  | nil => simp [insert]
  | cons first rest ih =>
    obtain ⟨least, later⟩ := List.pairwise_cons.mp increasing
    rw [insert]
    split
    · rename_i less
      refine List.pairwise_cons.mpr ⟨?_, increasing⟩
      intro other member
      rcases List.mem_cons.mp member with rfl | member
      · exact less
      · exact less.trans (least other member)
    split
    · exact increasing
    · rename_i notLess other
      refine List.pairwise_cons.mpr ⟨?_, ih later⟩
      intro next member
      rcases mem_insert.mp member with rfl | member
      · exact lt_of_le_of_ne (not_lt.mp notLess) (Ne.symm other)
      · exact least next member

theorem sortedSet_increasing (texts : List String) : (sortedSet texts).Pairwise (· < ·) := by
  induction texts with
  | nil => exact List.Pairwise.nil
  | cons first rest ih => exact sortedSet.insert_increasing first ih

/-- A list in strictly increasing order is determined by its members. -/
theorem eq_of_increasing {first second : List String} (increasing : first.Pairwise (· < ·))
    (increasing' : second.Pairwise (· < ·)) (same : ∀ text, text ∈ first ↔ text ∈ second) :
    first = second := by
  have perm : first.Perm second :=
    (List.perm_ext_iff_of_nodup (increasing.imp ne_of_lt) (increasing'.imp ne_of_lt)).mpr same
  exact perm.eq_of_pairwise (fun _ _ _ _ less greater => absurd less (lt_asymm greater)) increasing
    increasing'

end Sorting

namespace Discovery

/-- The paths that a search walks from. -/
def roots (fs : FileSystem) (base : Path) (includes : List String) : List Path :=
  if includes.isEmpty then [base] else (outcomes (includes.map (rootsOf fs base))).1.flatten

theorem mem_outcomes_ok {α β : Type} {items : List β} {f : β → Except Log.Record α} {value : α} :
    value ∈ (outcomes (items.map f)).1 ↔ ∃ item ∈ items, f item = .ok value := by
  simp only [outcomes, List.mem_filterMap, List.mem_map]
  constructor
  · rintro ⟨result, ⟨item, member, rfl⟩, same⟩
    split at same
    · rename_i found
      exact ⟨item, member, Option.some.inj same ▸ found⟩
    · contradiction
  · rintro ⟨item, member, found⟩
    exact ⟨.ok value, ⟨item, member, found⟩, rfl⟩

theorem mem_roots {fs : FileSystem} {base root : Path} {includes : List String} :
    root ∈ roots fs base includes ↔ includes = [] ∧ root = base ∨
      ∃ text ∈ includes, ∃ paths, rootsOf fs base text = .ok paths ∧ root ∈ paths := by
  rw [roots]
  cases includes with
  | nil => simp
  | cons text rest =>
    rw [if_neg (by simp), List.mem_flatten]
    simp only [mem_outcomes_ok]
    grind

/-- An include without wildcards stands for itself, if it exists. -/
theorem mem_rootsOf_path {fs : FileSystem} {base root : Path} {text : String}
    (plainText : ¬ Pattern.isWild text = true) :
    (∃ paths, rootsOf fs base text = .ok paths ∧ root ∈ paths) ↔
      fs.exists? (base.join ⟨text⟩) = true ∧ root = base.join ⟨text⟩ := by
  simp only [rootsOf, if_neg plainText]
  cases fs.exists? (base.join ⟨text⟩) <;> simp

def keptIgnores (base : Path) (ignores : List String) : List Ignore :=
  (outcomes (ignores.map (Ignore.ofText base))).1

theorem mem_files {fs : FileSystem} {base : Path} {includes ignores extensions : List String}
    {name : String} :
    name ∈ (search fs base includes ignores extensions).files ↔
      selects fs (keptIgnores base ignores) extensions ⟨name⟩ = true ∧
        ∃ root ∈ roots fs base includes, .entry ⟨name⟩ ∈ fs.walk root := by
  rw [search]
  dsimp only
  rw [mem_sortedSet, List.mem_filterMap]
  have walked : List.flatMap fs.walk (List.flatten
      (if includes.isEmpty then ([[base]], []) else outcomes (includes.map (rootsOf fs base))).1) =
        (roots fs base includes).flatMap fs.walk := by
    rw [roots]
    cases includes <;> rfl
  rw [walked]
  constructor
  · rintro ⟨visit, member, found⟩
    cases visit with
    | failure => contradiction
    | entry path =>
      dsimp only at found
      split at found
      · rename_i selected
        obtain rfl := Option.some.inj found
        exact ⟨selected, List.mem_flatMap.mp member⟩
      · contradiction
  · rintro ⟨selected, member⟩
    exact ⟨.entry ⟨name⟩, List.mem_flatMap.mpr member, if_pos selected⟩

section Deletion

variable {gone : List String → Prop} {before after : FileSystem}

theorem mem_rootsOf_iff (plain : before.Plain) (pruned : FileSystem.Pruned gone before after)
    {base root : Path} {text : String} {place : List String}
    (led : after.leads? root = some place) :
    (∃ paths, rootsOf before base text = .ok paths ∧ root ∈ paths) ↔
      ∃ paths, rootsOf after base text = .ok paths ∧ root ∈ paths := by
  by_cases wild : Pattern.isWild text = true
  · simp only [rootsOf, if_pos wild]
    rcases Glob.expand_directories plain pruned (base.join ⟨text⟩).text with
      ⟨error, early, late⟩ | ⟨earlier, later, early, late, same⟩
    · simp [early, late]
    · simpa only [early, late, Except.ok.injEq, exists_eq_left'] using same root
  · rw [mem_rootsOf_path wild, mem_rootsOf_path wild]
    refine and_congr_left fun same => ?_
    rw [← same]
    exact iff_of_true (plain.exists?_of_leads? ((pruned.leads?_iff root place).mp led).1)
      (pruned.plain.exists?_of_leads? led)

theorem mem_roots_iff (plain : before.Plain) (pruned : FileSystem.Pruned gone before after)
    {base root : Path} (includes : List String) {place : List String}
    (led : after.leads? root = some place) :
    root ∈ roots before base includes ↔ root ∈ roots after base includes := by
  simp only [mem_roots, mem_rootsOf_iff plain pruned led]

theorem leads?_of_selects (plain : before.Plain) {ignores : List Ignore} {extensions : List String}
    {path : Path} (selected : selects before ignores extensions path = true) :
    ∃ place, before.leads? path = some place := by
  simp only [selects, Bool.and_eq_true] at selected
  obtain ⟨content, found⟩ := (plain.isFile_iff path).mp selected.1.2
  obtain ⟨place, led, -⟩ := FileSystem.kindOf?_eq_some_iff.mp found
  exact ⟨place, led⟩

theorem selects_iff (plain : before.Plain) (pruned : FileSystem.Pruned gone before after)
    (ignores : List Ignore) (extensions : List String) (path : Path) :
    selects after ignores extensions path = true ↔
      selects before ignores extensions path = true ∧
        ∀ place, before.leads? path = some place → ¬ gone place := by
  simp only [selects, Bool.and_eq_true, plain.isFile_iff, pruned.plain.isFile_iff,
    pruned.kindOf?_iff]
  grind

/-- Deleting files takes them out of what a search finds, and nothing else. -/
theorem mem_files_iff (plain : before.Plain) (pruned : FileSystem.Pruned gone before after)
    {base : Path} {includes ignores extensions : List String} {name : String} :
    name ∈ (search after base includes ignores extensions).files ↔
      name ∈ (search before base includes ignores extensions).files ∧
        ∀ place, before.leads? ⟨name⟩ = some place → ¬ gone place := by
  simp only [mem_files, plain.mem_walk, pruned.plain.mem_walk, selects_iff plain pruned]
  constructor
  · rintro ⟨⟨selected, present⟩, root, known, place, names, led, below, reached⟩
    refine ⟨⟨selected, root, ?_, place, names, ?_, ?_, reached⟩, present⟩
    · exact (mem_roots_iff plain pruned includes led).mpr known
    · exact ((pruned.leads?_iff root place).mp led).1
    · exact pruned.isSome_kindAt below
  · rintro ⟨⟨selected, root, known, place, names, led, below, reached⟩, present⟩
    have named : ∀ name ∈ names, Node.isName name = true := fun name member =>
      plain.tree.isName_of_mem below (List.mem_append_right place member)
    obtain ⟨target, found⟩ := leads?_of_selects plain selected
    obtain ⟨place', led', rfl⟩ := plain.leads?_below (FileSystem.filled_of_leads? led) named reached
      found
    obtain rfl := Option.some.inj (led.symm.trans led')
    -- The file is at the root's place with the names behind it, so the root stays if it does.
    have stays := present _ found
    have later := (pruned.leads?_iff root place).mpr ⟨led, pruned.not_gone_of_below below stays⟩
    refine ⟨⟨selected, present⟩, root, ?_, place, names, later, ?_, reached⟩
    · exact (mem_roots_iff plain pruned includes later).mp known
    · rw [pruned.kept _ stays]
      exact below

end Deletion

end Discovery
end AttributePins
