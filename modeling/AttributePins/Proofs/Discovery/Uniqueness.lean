import AttributePins.Proofs.Discovery.Origin
import AttributePins.Proofs.Discovery.Selection

/-! How often a search lists a file. The list is free of equal texts, so a file is listed twice
only under two spellings. Walks spell what they visit by the names on the way behind their
root's stem, and so do patterns of steady components, behind the origin of the directory in front
of them. If every include is spelled from one and the same path, each file has one spelling.
The origin of `.` is empty, while a literal include keeps the `.` in front. -/
namespace AttributePins

namespace Path

/-- A path that names are joined to as to another, or one spelled by names behind the other. -/
def SpelledFrom (above path : Path) : Prop :=
  path.stem = above.stem ∨ ∃ names, Spells above.stem names path

namespace SpelledFrom

variable {above path : Path} {names : List String}

theorem below {last : Path} (spelled : above.SpelledFrom path)
    (proper : ∀ name ∈ names, Node.isName name = true) (reached : path.below names = some last) :
    above.SpelledFrom last := by
  rcases spelled with same | ⟨first, spelled⟩
  · by_cases none : names = []
    · subst none
      obtain rfl := Option.some.inj reached
      exact .inl same
    · exact .inr ⟨names, same ▸ Spells.below_first none proper reached⟩
  · exact .inr ⟨first ++ names, spelled.below proper reached⟩

theorem goesOn (spelled : above.SpelledFrom path) :
    ∃ names, GoesOn above names path ∧
      (names = [] ∧ path.stem = above.stem ∨ Spells above.stem names path) := by
  rcases spelled with same | ⟨names, spelled⟩
  · exact ⟨[], .of_stem same, .inl ⟨rfl, same⟩⟩
  · exact ⟨names, spelled.goesOn, .inr spelled⟩

end SpelledFrom

/-- The text of a path without a slash at its end shows in its stem. -/
theorem text_eq_of_stem {path other : Path} (filled : path.text ≠ "") (filled' : other.text ≠ "")
    (unslashed : path.hasEndSlash = false) (unslashed' : other.hasEndSlash = false)
    (same : path.stem = other.stem) : path = other := by
  rw [stem, stem, unslashed, unslashed', if_neg (by simpa using filled), if_neg (by simpa using filled')]
    at same
  have texts : path.text = other.text := by simpa using same
  exact congrArg Path.mk texts

end Path

namespace FileSystem

variable {fs : FileSystem}

/-- No slash stands behind a file. -/
theorem Plain.hasEndSlash_of_file (plain : fs.Plain) {path : Path} {place : List String}
    (led : fs.leads? path = some place) {content : Option ByteArray}
    (file : fs.root.kindAt place = some (.file content)) : path.hasEndSlash = false := by
  obtain ⟨front, name, -, names, -, filled, -⟩ :=
    follow_file (plain.start_dir path) (leads?_eq_some_iff.mp led).2 file
  cases slash : path.hasEndSlash with
  | false => rfl
  | true =>
    rw [namesOf, slash, if_pos rfl, List.map_append] at names
    exact absurd (List.append_inj_right' names rfl) (by simpa using filled.symm)

/-- Of the paths spelled from one path, at most one leads to a file. -/
theorem Plain.eq_of_spelledFrom (plain : fs.Plain) {above first second : Path}
    (spelled : above.SpelledFrom first) (spelled' : above.SpelledFrom second)
    {place : List String} (led : fs.leads? first = some place)
    (led' : fs.leads? second = some place) {content : Option ByteArray}
    (file : fs.root.kindAt place = some (.file content)) : first = second := by
  obtain ⟨names, goes, shape⟩ := spelled.goesOn
  obtain ⟨names', goes', shape'⟩ := spelled'.goesOn
  obtain ⟨home, known, same⟩ := plain.follow_goesOn goes led
  obtain ⟨home', known', same'⟩ := plain.follow_goesOn goes' led'
  obtain rfl : home = home' := Option.some.inj (known.symm.trans known')
  obtain rfl : names = names' := List.append_cancel_left (same.symm.trans same')
  rcases shape with ⟨none, stem⟩ | spelled
  · have stem' : second.stem = above.stem := by
      rcases shape' with ⟨-, stem'⟩ | spelled'
      · exact stem'
      · exact absurd none spelled'.named
    exact Path.text_eq_of_stem (filled_of_leads? led) (filled_of_leads? led')
      (plain.hasEndSlash_of_file led file) (plain.hasEndSlash_of_file led' file)
      (stem.trans stem'.symm)
  · rcases shape' with ⟨none, -⟩ | spelled'
    · exact absurd none spelled.named
    · exact spelled.unique spelled'

end FileSystem

namespace Glob

/-- A pattern as a directory without wildcards and steady components below it. -/
structure Cut (pattern directory : Path) (text : String) : Prop where
  whole : directory.join ⟨text⟩ = pattern
  verbatim : Pattern.isVerbatim directory.text = true
  relative : (Path.mk text).isAbsolute = false
  filled : text ≠ ""
  steady : ∀ part ∈ componentTexts text.toList, ∀ component,
    Pattern.parse (String.ofList part) = .ok component → Steady component

theorem componentTexts_ne_nil {text : List Char} (filled : text ≠ [])
    (relative : text.head? ≠ some '/') : componentTexts text ≠ [] := by
  obtain ⟨first, others, parts⟩ := List.exists_cons_of_ne_nil (List.splitOn_ne_nil '/' text)
  have some : first ≠ [] := by
    rintro rfl
    rcases first_part parts with whole | ⟨more, whole⟩
    · exact filled whole
    · exact relative (by rw [whole]; rfl)
  obtain ⟨rest, closed⟩ := closedParts_cons parts some
  rw [componentTexts_eq, body_relative relative, closed]
  exact List.cons_ne_nil first rest

/-- What a cut pattern stands for is spelled behind the origin of its directory. -/
theorem Cut.spells {fs : FileSystem} (plain : fs.Plain) {pattern directory path : Path}
    {text : String} (cut : Cut pattern directory text) {paths : List Path}
    (expanded : expand fs pattern.text = .ok paths) (member : path ∈ paths) :
    ∃ names, Path.Spells (origin directory) names path := by
  obtain ⟨rfl, verbatim, relative, filled, steady⟩ := cut
  obtain ⟨parts, parsed, run⟩ := run_of_mem_expand verbatim relative filled expanded member
  have head : text.toList.head? ≠ some '/' := of_decide_eq_false relative
  have nonempty : parts ≠ [] := by
    rintro rfl
    have none := (mapM_eq_ok_iff.mp parsed).length_eq
    exact componentTexts_ne_nil (by simpa using filled) head (List.length_eq_zero_iff.mp none)
  exact run.spells plain nonempty (forall_parsed steady parsed) (inner_of_parsed parsed)

end Glob

namespace Discovery

/-- What an include stands for is spelled from a path. -/
def IncludeFrom (above base : Path) (text : String) : Prop :=
  if Pattern.isWild text then
    ∃ directory rest, Glob.Cut (base.join ⟨text⟩) directory rest ∧
      Glob.origin directory = above.stem
  else above.SpelledFrom (base.join ⟨text⟩)

variable {fs : FileSystem} {base root : Path}

theorem mem_rootsOf_wild {text : String} (wild : Pattern.isWild text = true) :
    (∃ paths, rootsOf fs base text = .ok paths ∧ root ∈ paths) ↔
      fs.isDir root = true ∧
        ∃ paths, Glob.expand fs (base.join ⟨text⟩).text = .ok paths ∧ root ∈ paths := by
  simp only [rootsOf, if_pos wild]
  cases Glob.expand fs (base.join ⟨text⟩).text <;> simp [List.mem_filter, and_comm]

theorem IncludeFrom.spelledFrom (plain : fs.Plain) {above : Path} {text : String}
    (spelled : IncludeFrom above base text) {paths : List Path}
    (found : rootsOf fs base text = .ok paths) (member : root ∈ paths) :
    above.SpelledFrom root := by
  rw [IncludeFrom] at spelled
  split at spelled
  · rename_i wild
    obtain ⟨directory, rest, cut, origin⟩ := spelled
    obtain ⟨-, all, expanded, known⟩ := (mem_rootsOf_wild wild).mp ⟨paths, found, member⟩
    obtain ⟨names, spelled⟩ := cut.spells plain expanded known
    exact .inr ⟨names, origin ▸ spelled⟩
  · rename_i literal
    obtain ⟨-, rfl⟩ := (mem_rootsOf_path literal).mp ⟨paths, found, member⟩
    exact spelled

/-- A listed file: where it leads, and the walk that visits it. -/
theorem visited_of_mem_files (plain : fs.Plain) {includes ignores extensions : List String}
    {name : String} (listed : name ∈ (search fs base includes ignores extensions).files) :
    ∃ place content, fs.leads? ⟨name⟩ = some place ∧
      fs.root.kindAt place = some (.file content) ∧
      ∃ root ∈ roots fs base includes, root.text ≠ "" ∧
        ∃ names, (∀ part ∈ names, Node.isName part = true) ∧ root.below names = some ⟨name⟩ := by
  obtain ⟨selected, root, known, visited⟩ := mem_files.mp listed
  simp only [selects, Bool.and_eq_true] at selected
  obtain ⟨content, kind⟩ := (plain.isFile_iff _).mp selected.1.2
  obtain ⟨place, led, file⟩ := FileSystem.kindOf?_eq_some_iff.mp kind
  obtain ⟨start, names, walked, present, reached⟩ := (plain.mem_walk root _).mp visited
  have proper : ∀ part ∈ names, Node.isName part = true := fun part member =>
    plain.tree.isName_of_mem present (List.mem_append_right start member)
  exact ⟨place, content, led, file, root, known, FileSystem.filled_of_leads? walked, names, proper,
    reached⟩

/-- What the walks start from is spelled from one path if the includes are. Without includes the
base is the one root, so all is spelled from the base. -/
theorem exists_spelledFrom (plain : fs.Plain) {above : Path} {includes : List String}
    (spelled : ∀ text ∈ includes, IncludeFrom above base text) :
    ∃ above : Path, ∀ root ∈ roots fs base includes, above.SpelledFrom root := by
  by_cases none : includes = []
  · refine ⟨base, fun root known => ?_⟩
    rcases mem_roots.mp known with ⟨-, rfl⟩ | ⟨text, member, -⟩
    · exact .inl rfl
    · simp [none] at member
  · refine ⟨above, fun root known => ?_⟩
    rcases mem_roots.mp known with ⟨empty, -⟩ | ⟨text, member, paths, found, known⟩
    · exact absurd empty none
    · exact (spelled text member).spelledFrom plain found known

theorem eq_of_mem_files (plain : fs.Plain) {above : Path}
    {includes ignores extensions : List String}
    (common : ∀ root ∈ roots fs base includes, above.SpelledFrom root) {first second : String}
    (listed : first ∈ (search fs base includes ignores extensions).files)
    (listed' : second ∈ (search fs base includes ignores extensions).files)
    (same : fs.leads? ⟨first⟩ = fs.leads? ⟨second⟩) : first = second := by
  obtain ⟨place, content, led, file, root, known, -, names, proper, reached⟩ :=
    visited_of_mem_files plain listed
  obtain ⟨place', -, led', -, root', known', -, names', proper', reached'⟩ :=
    visited_of_mem_files plain listed'
  obtain rfl : place = place' := Option.some.inj (led.symm.trans (same.trans led'))
  have one := plain.eq_of_spelledFrom ((common root known).below proper reached)
    ((common root' known').below proper' reached') led led' file
  exact congrArg Path.text one

/-- If all includes are spelled from one path, no file is listed twice. -/
theorem files_distinct (plain : fs.Plain) {above : Path} {includes : List String}
    (spelled : ∀ text ∈ includes, IncludeFrom above base text) (ignores extensions : List String) :
    ∀ first ∈ (search fs base includes ignores extensions).files,
      ∀ second ∈ (search fs base includes ignores extensions).files,
        fs.leads? ⟨first⟩ = fs.leads? ⟨second⟩ → first = second := by
  obtain ⟨above, common⟩ := exists_spelledFrom plain spelled
  intro first listed second listed' same
  exact eq_of_mem_files plain common listed listed' same

/-- Both the literal include and the pattern reach the file below the absolute base, under one
spelling. -/
theorem files_distinct_absolute :
    let fs : FileSystem := ⟨.dir [("shop", .dir [("app", .dir [("models", .dir
      [("a.rb", .file (some .empty))])])])], []⟩
    let files := (search fs ⟨"/shop"⟩ ["app/models", "app/*"] [] ["rb"]).files
    fs.Plain ∧ (∀ text ∈ ["app/models", "app/*"], IncludeFrom ⟨"/shop"⟩ ⟨"/shop"⟩ text) ∧
      files = ["/shop/app/models/a.rb"] ∧
      ∀ first ∈ files, ∀ second ∈ files, fs.leads? ⟨first⟩ = fs.leads? ⟨second⟩ →
        first = second := by
  intro fs files
  have plain : fs.Plain := ⟨by decide +kernel, rfl⟩
  have models : IncludeFrom ⟨"/shop"⟩ ⟨"/shop"⟩ "app/models" :=
    .inr ⟨["app", "models"], rfl, by simp, by decide⟩
  have below : IncludeFrom ⟨"/shop"⟩ ⟨"/shop"⟩ "app/*" :=
    ⟨⟨"/shop"⟩, "app/*", ⟨rfl, by decide, by decide, by decide, by decide +kernel⟩, rfl⟩
  have spelled : ∀ text ∈ ["app/models", "app/*"], IncludeFrom ⟨"/shop"⟩ ⟨"/shop"⟩ text := by
    simp only [List.forall_mem_cons]
    exact ⟨models, below, fun _ member => absurd member List.not_mem_nil⟩
  exact ⟨plain, spelled, by decide +kernel, files_distinct plain spelled [] ["rb"]⟩

/-- Below the base `.` a literal include and a pattern list one file under two spellings. -/
theorem file_listed_under_two_spellings :
    ¬ ∀ (fs : FileSystem) (base : Path) (includes ignores extensions : List String), fs.Plain →
      ∀ first ∈ (search fs base includes ignores extensions).files,
        ∀ second ∈ (search fs base includes ignores extensions).files,
          fs.leads? ⟨first⟩ = fs.leads? ⟨second⟩ → first = second := by
  intro distinct
  let fs : FileSystem := ⟨.dir [("app", .dir [("models", .dir
    [("a.rb", .file (some .empty))])])], []⟩
  have plain : fs.Plain := ⟨by decide +kernel, rfl⟩
  have files : (search fs ⟨"."⟩ ["app/models", "app/*"] [] ["rb"]).files =
      ["./app/models/a.rb", "app/models/a.rb"] := by
    decide +kernel
  have equal := distinct fs ⟨"."⟩ ["app/models", "app/*"] [] ["rb"] plain
  rw [files] at equal
  have same := equal "./app/models/a.rb" (by simp) "app/models/a.rb" (by simp) (by decide +kernel)
  exact absurd same (by decide)

end Discovery

end AttributePins
