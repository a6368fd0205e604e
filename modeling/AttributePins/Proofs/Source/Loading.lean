import AttributePins.Loading
import AttributePins.Proofs.Source.Order
import Mathlib.Data.List.Forall2

/-! Where the files of a list end up. A list may name a file more than once, so it is read by its
occurrences, each a name with its position. Loading sorts the occurrences once, by name and then
by position: the readable ones are the units and all others are the failures, in this order. -/
namespace AttributePins

namespace FileSystem

def Holds (fs : FileSystem) (path : Path) (text : String) : Prop :=
  fs.stat path = .ok (.file (some text.toUTF8))

def hasText (fs : FileSystem) (path : Path) : Bool := (fs.readText path).isOk

variable {fs : FileSystem} {path : Path} {text : String}

theorem fromUTF8?_eq_some_iff {content : ByteArray} :
    String.fromUTF8? content = some text ↔ content = text.toUTF8 := by
  constructor
  · intro decoded
    obtain ⟨valid, same⟩ := Option.dite_none_right_eq_some.mp decoded
    rw [← Option.some.inj same]
    rfl
  · rintro rfl
    exact dif_pos text.isValidUTF8

theorem readText_eq_ok_iff : fs.readText path = .ok text ↔ fs.Holds path text := by
  rw [readText, Holds]
  cases fs.stat path with
  | error => simp
  | ok node =>
    cases node with
    | link | dir => simp
    | file content =>
      cases content with
      | none => simp
      | some content =>
        simp only [Except.ok.injEq, Node.file.injEq, Option.some.injEq, ← fromUTF8?_eq_some_iff]
        cases String.fromUTF8? content <;> simp

theorem hasText_iff : fs.hasText path = true ↔ ∃ text, fs.Holds path text := by
  simp only [hasText, ← readText_eq_ok_iff]
  cases fs.readText path <;> simp [Except.isOk, Except.toBool]

end FileSystem

section Occurrences

/-- One occurrence comes before another: by the bytes of its name, and by its position if the names
are the same. -/
def Before (first second : String × Nat) : Prop :=
  Text.ByteLt first.1 second.1 ∨ first.1 = second.1 ∧ first.2 < second.2

/-- The occurrences of a list of names, each name's own in the order of the list. -/
def occurrences (names : List String) : List (String × Nat) :=
  names.zipIdx.mergeSort fun a b => a.1 ≤ b.1

theorem occurrences_perm (names : List String) : (occurrences names).Perm names.zipIdx :=
  List.mergeSort_perm _ _

theorem pairwise_of_ordered {α : Type} {name : α → String} {rule : α → α → Prop} {items : List α}
    (ordered : items.Pairwise fun a b => name a ≤ name b)
    (alike : ∀ id, (items.filter fun a => name a = id).Pairwise rule) :
    items.Pairwise fun a b => name a < name b ∨ name a = name b ∧ rule a b := by
  induction items with
  | nil => exact .nil
  | cons a rest ih =>
    obtain ⟨least, tail⟩ := List.pairwise_cons.mp ordered
    refine List.pairwise_cons.mpr ⟨fun b member => ?_, ih tail fun id => ?_⟩
    · refine (lt_or_eq_of_le (least b member)).imp_right fun same => ⟨same, ?_⟩
      have own := alike (name a)
      rw [List.filter_cons_of_pos (by simp)] at own
      exact (List.pairwise_cons.mp own).1 b (List.mem_filter.mpr ⟨member, by simp [same]⟩)
    · exact (alike id).sublist ((List.sublist_cons_self a rest).filter _)

theorem occurrences_ordered (names : List String) : (occurrences names).Pairwise Before := by
  have positions : names.zipIdx.Pairwise fun a b => a.2 < b.2 := by
    rw [← List.pairwise_map, List.zipIdx_map_snd]
    exact List.pairwise_lt_range'
  have ordered := mergeSort_by_name_ordered Prod.fst names.zipIdx
  have alike (id : String) : ((occurrences names).filter fun a => a.1 = id).Pairwise
      fun a b => a.2 < b.2 := by
    rw [occurrences, mergeSort_by_name_filter]
    exact positions.filter _
  exact (pairwise_of_ordered ordered alike).imp fun before => before.imp_left Text.byteLt_of_lt

/-- What a list of names gives, item by item, is sorted as the occurrences are. -/
theorem filterMap_occurrences {α : Type} (item? : String → Option α) (name : α → String)
    (named : ∀ id item, item? id = some item → name item = id) (names : List String) :
    (occurrences names).filterMap (fun occurrence => item? occurrence.1) =
      (names.filterMap item?).mergeSort fun a b => name a ≤ name b := by
  have split (list : List (String × Nat)) (id : String) :
      (list.filterMap fun occurrence => item? occurrence.1).filter (fun item => name item = id) =
        (list.filter fun occurrence => occurrence.1 = id).filterMap
          fun occurrence => item? occurrence.1 := by
    rw [List.filter_filterMap, List.filterMap_filter]
    refine List.filterMap_congr fun occurrence _ => ?_
    cases found : item? occurrence.1 with
    | none => simp
    | some item => simp [Option.filter, named _ _ found]
  have whole : (names.zipIdx.filterMap fun occurrence => item? occurrence.1) =
      names.filterMap item? := by
    conv_rhs => rw [← List.zipIdx_map_fst 0 names, List.filterMap_map]
    rfl
  apply eq_of_ordered_of_filter name
  · refine List.pairwise_filterMap.mpr ((mergeSort_by_name_ordered Prod.fst names.zipIdx).imp ?_)
    intro a b before item found item' found'
    rw [named _ _ found, named _ _ found']
    exact before
  · exact mergeSort_by_name_ordered name _
  · intro id
    rw [mergeSort_by_name_filter, split, occurrences, mergeSort_by_name_filter, ← whole, split]

theorem forall₂_filterMap {α β : Type} {item? : α → Option β} {gives : α → Bool}
    (known : ∀ a, gives a = (item? a).isSome) (list : List α) :
    List.Forall₂ (fun a item => item? a = some item) (list.filter gives)
      (list.filterMap item?) := by
  induction list with
  | nil => exact .nil
  | cons a rest ih =>
    cases found : item? a with
    | none =>
      rw [List.filter_cons_of_neg (by simp [known, found]), List.filterMap_cons_none found]
      exact ih
    | some item =>
      rw [List.filter_cons_of_pos (by simp [known, found]), List.filterMap_cons_some found]
      exact .cons found ih

end Occurrences

namespace Loading

variable {fs : FileSystem} {name : String}

theorem readUnit_toOption_iff {unit : SourceUnit} :
    (readUnit fs name).toOption = some unit ↔
      unit.sourceId = name ∧ fs.Holds ⟨name⟩ unit.text := by
  obtain ⟨sourceId, text⟩ := unit
  rw [← FileSystem.readText_eq_ok_iff, readUnit]
  cases fs.readText ⟨name⟩ <;> simp [Except.toOption, eq_comm]

theorem isSome_readUnit : fs.hasText ⟨name⟩ = (readUnit fs name).toOption.isSome := by
  rw [FileSystem.hasText, readUnit]
  cases fs.readText ⟨name⟩ <;> rfl

theorem isSome_failure? : (!fs.hasText ⟨name⟩) = (failure? fs name).isSome := by
  rw [FileSystem.hasText, failure?, readUnit]
  cases fs.readText ⟨name⟩ <;> rfl

theorem sourceId_of_failure? {failure : LoadFailure} (failed : failure? fs name = some failure) :
    failure.sourceId = name := by
  rw [failure?, readUnit] at failed
  cases text : fs.readText ⟨name⟩ with
  | ok => simp [text] at failed
  | error =>
    simp only [text, Option.some.injEq] at failed
    exact failed ▸ rfl

/-- How the occurrences of names are divided into those that are read and those that are not. -/
structure Divides (fs : FileSystem) (names : List String) (loaded : Sources)
    (read unread : List (String × Nat)) : Prop where
  once : (read ++ unread).Perm names.zipIdx
  units : List.Forall₂ (fun occurrence unit =>
    unit.sourceId = occurrence.1 ∧ fs.Holds ⟨occurrence.1⟩ unit.text) read loaded.units
  failures : List.Forall₂ (fun occurrence failure =>
    failure.sourceId = occurrence.1 ∧ ∀ text, ¬ fs.Holds ⟨occurrence.1⟩ text) unread loaded.failures
  unitsOrdered : read.Pairwise Before
  failuresOrdered : unread.Pairwise Before

theorem divides_ofFiles (fs : FileSystem) (names : List String) :
    Divides fs names (ofFiles fs names).sources
      ((occurrences names).filter fun occurrence => fs.hasText ⟨occurrence.1⟩)
      ((occurrences names).filter fun occurrence => !fs.hasText ⟨occurrence.1⟩) where
  once := (List.filter_append_perm _ _).trans (occurrences_perm names)
  units := by
    have sorted := filterMap_occurrences (fun id => (readUnit fs id).toOption)
      SourceUnit.sourceId (fun _ _ found => (readUnit_toOption_iff.mp found).1) names
    rw [ofFiles, sortUnits, unitsOf, ← sorted]
    refine (forall₂_filterMap (fun _ => isSome_readUnit) _).imp fun occurrence unit found => ?_
    exact readUnit_toOption_iff.mp found
  failures := by
    have sorted := filterMap_occurrences (failure? fs) LoadFailure.sourceId
      (fun _ _ => sourceId_of_failure?) names
    rw [ofFiles, sortFailures, failuresOf, ← sorted]
    refine (forall₂_filterMap (fun _ => isSome_failure?) _).imp fun occurrence failure failed => ?_
    have unreadable : (!fs.hasText ⟨occurrence.1⟩) = true := by rw [isSome_failure?, failed]; rfl
    refine ⟨sourceId_of_failure? failed, fun text holds => ?_⟩
    simp [FileSystem.hasText_iff.mpr ⟨text, holds⟩] at unreadable
  unitsOrdered := (occurrences_ordered names).filter _
  failuresOrdered := (occurrences_ordered names).filter _

/-- A name that cannot be read gives no unit, wherever it stands. -/
theorem unitsOf_filter (fs : FileSystem) (names : List String) :
    unitsOf fs (names.filter fun name => fs.hasText ⟨name⟩) = unitsOf fs names := by
  rw [unitsOf, unitsOf, List.filterMap_filter]
  refine List.filterMap_congr fun name _ => ?_
  rw [isSome_readUnit]
  cases (readUnit fs name).toOption <;> rfl

/-- Every occurrence of a name is a unit with the text of the file or a failure, and is only one of
the two and only once. Lists that differ in names that cannot be read have the same units, however
many of those one has more or fewer and wherever they stand. -/
theorem ofFiles_divided (fs : FileSystem) (names : List String) :
    (∃ read unread, Divides fs names (ofFiles fs names).sources read unread) ∧
    (∀ name, fs.hasText ⟨name⟩ = true ↔ ∃ text, fs.Holds ⟨name⟩ text) ∧
    (ofFiles fs (names.filter fun name => fs.hasText ⟨name⟩)).sources.units =
      (ofFiles fs names).sources.units ∧
    ∀ others : List String,
      (others.filter fun name => fs.hasText ⟨name⟩) = (names.filter fun name => fs.hasText ⟨name⟩) →
      (ofFiles fs others).sources.units = (ofFiles fs names).sources.units := by
  refine ⟨⟨_, _, divides_ofFiles fs names⟩, fun name => FileSystem.hasText_iff, ?_, ?_⟩
  · simp only [ofFiles, unitsOf_filter]
  · intro others same
    simp only [ofFiles, ← unitsOf_filter fs others, same, unitsOf_filter fs names]

/-- A file named twice, around one that is no text and one that is missing. -/
theorem ofFiles_divided_with_gaps :
    let fs : FileSystem := ⟨.dir [("a.rb", .file (some "# id integer\n".toUTF8)),
      ("b.rb", .file (some ⟨#[255, 254]⟩))], []⟩
    let names := ["b.rb", "a.rb", "missing.rb", "a.rb"]
    (names.filter fun name => fs.hasText ⟨name⟩) = ["a.rb", "a.rb"] ∧
      (ofFiles fs ["a.rb", "a.rb"]).sources.units = (ofFiles fs names).sources.units := by
  intro fs names
  have readable : (names.filter fun name => fs.hasText ⟨name⟩) = ["a.rb", "a.rb"] := by
    decide +kernel
  have same : (["a.rb", "a.rb"].filter fun name => fs.hasText ⟨name⟩) =
      names.filter fun name => fs.hasText ⟨name⟩ := by decide +kernel
  obtain ⟨-, -, -, units⟩ := ofFiles_divided fs names
  exact ⟨readable, units _ same⟩

end Loading
end AttributePins
