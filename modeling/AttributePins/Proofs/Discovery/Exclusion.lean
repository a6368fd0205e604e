import AttributePins.Proofs.Discovery.Uniqueness

/-! What ignores keep out of a search. A path is compared by components, and a pattern with the
whole text of what is visited; either sees how the walk was led there. A path below the base is
kept out if the visited paths start from what the base starts from, and a pattern relative to
the base keeps its files out if nothing stands in front of their texts or the pattern passes over
it. -/
namespace AttributePins

namespace Path

theorem below_anchored {path last : Path} (filled : path.text ≠ "") {names : List String}
    (proper : ∀ name ∈ names, Node.isName name = true) (reached : path.below names = some last) :
    last.anchored = path.anchored := by
  induction names generalizing path with
  | nil =>
    obtain rfl := Option.some.inj reached
    rfl
  | cons name rest ih =>
    obtain ⟨first, others⟩ := List.forall_mem_cons.mp proper
    have relative := isAbsolute_of_inner (Node.isName_iff.mp first).2.2.2
    rw [Path.below] at reached
    split at reached
    · contradiction
    · rw [ih (join_filled_left relative filled) others reached, anchored_join relative filled]

end Path

namespace Pattern

/-- Whether a pattern starts with a wildcard for any run of characters or of components. -/
def startsWithRun (pattern : Pattern) : Bool :=
  pattern.tokens.head? = some .anyRun || pattern.tokens.head? = some .anyDirectories

section Verdicts

theorem verdicts_nil (tokens : List Token) : ∃ verdict, verdicts tokens [] = [verdict] := by
  induction tokens with
  | nil => exact ⟨true, rfl⟩
  | cons token rest ih =>
    obtain ⟨verdict, only⟩ := ih
    cases token <;> rw [verdicts, only] <;> exact ⟨_, rfl⟩

/-- The verdicts on the later suffixes do not depend on the first character. -/
theorem verdicts_cons (tokens : List Token) (c : Char) (text : List Char) :
    ∃ verdict, verdicts tokens (c :: text) = verdict :: verdicts tokens text := by
  induction tokens generalizing c text with
  | nil => exact ⟨false, rfl⟩
  | cons token rest ih =>
    obtain ⟨verdict, later⟩ := ih c text
    have some : ∃ next others, verdicts rest text = next :: others := by
      cases text with
      | nil =>
        obtain ⟨next, only⟩ := verdicts_nil rest
        exact ⟨next, [], only⟩
      | cons c text =>
        obtain ⟨next, others⟩ := ih c text
        exact ⟨next, _, others⟩
    obtain ⟨next, others, known⟩ := some
    cases token <;> rw [verdicts, verdicts, later, known] <;> exact ⟨_, rfl⟩

theorem any_verdicts_append (tokens : List Token) (front : List Char) {text : List Char}
    (found : (verdicts tokens text).any id = true) :
    (verdicts tokens (front ++ text)).any id = true := by
  induction front with
  | nil => exact found
  | cons c front ih =>
    obtain ⟨verdict, later⟩ := verdicts_cons tokens c (front ++ text)
    rw [List.cons_append, later, List.any_cons, ih, Bool.or_true]

theorem afterSlash_append (tokens : List Token) (front : List Char) {c : Char} {text : List Char}
    (found : verdicts.afterSlash (c :: text) (verdicts tokens text) = true) :
    verdicts.afterSlash (front ++ c :: text) (verdicts tokens (front ++ c :: text).tail) = true := by
  induction front with
  | nil => exact found
  | cons first front ih =>
    have more : ∃ next others, front ++ c :: text = next :: others := by
      cases front <;> exact ⟨_, _, rfl⟩
    obtain ⟨next, others, whole⟩ := more
    obtain ⟨verdict, later⟩ := verdicts_cons tokens next others
    rw [whole] at ih
    rw [List.cons_append, List.tail_cons, whole, later, verdicts.afterSlash, Bool.or_eq_true]
    exact .inr ih

theorem headD_reachLater (later : List Bool) :
    (verdicts.reachLater later).headD false = later.any id := by
  cases later <;> rfl

theorem afterSlash_of_reachComponent (tokens : List Token) {text : List Char}
    (found : (verdicts.reachComponent text (verdicts tokens text)).headD false = true) :
    verdicts.afterSlash ('/' :: text) (verdicts tokens text) = true := by
  cases text with
  | nil =>
    obtain ⟨verdict, only⟩ := verdicts_nil tokens
    rw [only] at found ⊢
    obtain rfl : verdict = true := found
    rfl
  | cons c text =>
    obtain ⟨verdict, later⟩ := verdicts_cons tokens c text
    rw [later] at found ⊢
    rw [verdicts.afterSlash, decide_eq_true rfl, Bool.true_or, Bool.true_and]
    exact found

end Verdicts

/-- A pattern that starts with a run passes over what ends with a slash. -/
theorem accepts_append {pattern : Pattern} (runs : pattern.startsWithRun = true)
    {front text : String} (closed : front = "" ∨ front.toList.getLast? = some '/')
    (accepted : pattern.accepts text = true) : pattern.accepts (front ++ text) = true := by
  rcases closed with rfl | slash
  · rwa [String.empty_append]
  · obtain ⟨tokens⟩ := pattern
    obtain ⟨start, split⟩ := List.getLast?_eq_some_iff.mp slash
    simp only [startsWithRun, Bool.or_eq_true, decide_eq_true_eq, List.head?_eq_some_iff] at runs
    rw [accepts] at accepted ⊢
    rw [String.toList_append, split, List.append_assoc, List.singleton_append]
    rcases runs with ⟨rest, rfl⟩ | ⟨rest, rfl⟩
    · rw [verdicts, headD_reachLater] at accepted ⊢
      rw [List.append_cons]
      exact any_verdicts_append rest _ accepted
    · rw [verdicts] at accepted ⊢
      have passed := afterSlash_append rest start (afterSlash_of_reachComponent rest accepted)
      have more : ∃ c others, start ++ '/' :: text.toList = c :: others := by
        cases start <;> exact ⟨_, _, rfl⟩
      obtain ⟨c, others, whole⟩ := more
      obtain ⟨verdict, later⟩ := verdicts_cons rest c others
      rw [whole, List.tail_cons] at passed
      rw [whole, later, verdicts.reachComponent, List.headD_cons, passed, Bool.or_true]

end Pattern

namespace Discovery

variable {fs : FileSystem} {base : Path} {includes ignores extensions : List String}

/-- An include that goes on from the base. -/
def Forward (text : String) : Prop :=
  (Path.mk text).isAbsolute = false ∧
    if Pattern.isWild text then
      ∀ part ∈ Glob.componentTexts text.toList, ∀ component,
        Pattern.parse (String.ofList part) = .ok component → Glob.Straight component
    else ".." ∉ (Path.mk text).trail

instance : DecidablePred Forward := fun _ => inferInstanceAs (Decidable (_ ∧ ite _ _ _))

theorem drops_eq_false_of_mem_files {name : String}
    (listed : name ∈ (search fs base includes ignores extensions).files) {ignored : String}
    (member : ignored ∈ ignores) {ignore : Ignore}
    (read : Ignore.ofText base ignored = .ok ignore) : ignore.drops ⟨name⟩ = false := by
  obtain ⟨selected, -⟩ := mem_files.mp listed
  simp only [selects, Bool.and_eq_true, Bool.not_eq_true', List.any_eq_false] at selected
  have kept : ignore ∈ keptIgnores base ignores := mem_outcomes_ok.mpr ⟨ignored, member, read⟩
  exact Bool.eq_false_iff.mpr (selected.1.1 ignore kept)

/-- A root goes on from the base, and starts from what the base starts from. -/
theorem Forward.root (plain : fs.Plain) (filled : base.text ≠ "") {text : String}
    (forward : Forward text)
    (shown : Pattern.isWild text = true → Pattern.isVerbatim base.text = true ∧
      base.components.head? ≠ some .here)
    {root : Path} {paths : List Path} (found : rootsOf fs base text = .ok paths)
    (known : root ∈ paths) :
    (∃ names, Path.GoesOn base names root) ∧ root.anchored = base.anchored := by
  obtain ⟨relative, straight⟩ := forward
  split at straight
  · rename_i wild
    obtain ⟨verbatim, undotted⟩ := shown wild
    have some : text ≠ "" := by
      rintro rfl
      exact absurd wild (by decide)
    obtain ⟨-, all, expanded, known⟩ := (mem_rootsOf_wild wild).mp ⟨paths, found, known⟩
    obtain ⟨parts, parsed, run⟩ := Glob.run_of_mem_expand verbatim relative some expanded known
    have inner := Glob.inner_of_parsed parsed
    obtain ⟨names, goes⟩ := run.goesOn plain (Glob.forall_parsed straight parsed) inner
    obtain ⟨alike, reached, elsewhere⟩ := Glob.reach_anchored filled undotted
    exact ⟨⟨names, (Glob.reach_goesOn base).trans goes⟩,
      (run.anchored plain inner reached elsewhere).trans alike⟩
  · rename_i literal
    obtain ⟨-, rfl⟩ := (mem_rootsOf_path literal).mp ⟨paths, found, known⟩
    exact ⟨⟨_, .join relative straight base⟩, Path.anchored_join relative filled⟩

theorem listed_components (plain : fs.Plain) (filled : base.text ≠ "")
    (forward : ∀ text ∈ includes, Forward text)
    (shown : ∀ text ∈ includes, Pattern.isWild text = true →
      Pattern.isVerbatim base.text = true ∧ base.components.head? ≠ some .here)
    {name : String} (listed : name ∈ (search fs base includes ignores extensions).files) :
    ∃ names, Path.GoesOn base names ⟨name⟩ ∧
      (Path.mk name).components = base.components ++ names.map .name := by
  obtain ⟨-, -, -, -, root, known, some, below, proper, reached⟩ :=
    visited_of_mem_files plain listed
  have start : (∃ names, Path.GoesOn base names root) ∧ root.anchored = base.anchored := by
    rcases mem_roots.mp known with ⟨-, rfl⟩ | ⟨text, member, paths, found, known⟩
    · exact ⟨⟨[], .refl root⟩, rfl⟩
    · exact (forward text member).root plain filled (shown text member) found known
  obtain ⟨⟨names, goes⟩, alike⟩ := start
  have whole := goes.trans (Path.GoesOn.below proper reached)
  exact ⟨_, whole, whole.components ((Path.below_anchored some proper reached).trans alike)⟩

/-- If the includes go on from the base, and with a pattern among them the base is spelled
without wildcards and without a `.` in front, an ignored path keeps out what is below it. -/
theorem ignored_path_unlisted (plain : fs.Plain) {home : List String}
    (led : fs.leads? base = some home) (forward : ∀ text ∈ includes, Forward text)
    (shown : ∀ text ∈ includes, Pattern.isWild text = true →
      Pattern.isVerbatim base.text = true ∧ base.components.head? ≠ some .here)
    {ignored : String} (member : ignored ∈ ignores) (literal : Pattern.isWild ignored = false)
    (relative : (Path.mk ignored).isAbsolute = false) (straight : ".." ∉ (Path.mk ignored).trail) :
    ∀ name ∈ (search fs base includes ignores extensions).files, ∀ place,
      fs.leads? ⟨name⟩ = some place → ¬ home ++ (Path.mk ignored).trail <+: place := by
  intro name listed place there within
  have filled := FileSystem.filled_of_leads? led
  have top := Path.GoesOn.join relative straight base
  have topShown := top.components (Path.anchored_join relative filled)
  obtain ⟨names, goes, components⟩ := listed_components plain filled forward shown listed
  have read : Ignore.ofText base ignored = .ok (.below (base.join ⟨ignored⟩)) := by
    rw [Ignore.ofText, literal]
    rfl
  have kept := drops_eq_false_of_mem_files listed member read
  rw [plain.leads?_goesOn goes led there, List.prefix_append_right_inj] at within
  rw [Ignore.drops, Path.startsWith, topShown, components, Bool.eq_false_iff, ne_eq,
    List.isPrefixOf_iff_prefix, List.prefix_append_right_inj] at kept
  exact kept (within.map _)

/-- Below an absolute base both an include with a pattern and one without leave the ignored
directory out. -/
theorem ignored_path_unlisted_absolute :
    let fs : FileSystem := ⟨.dir [("shop", .dir [("app", .dir [("models", .dir
      [("b.rb", .file (some .empty)), ("concerns", .dir [("a.rb", .file (some .empty))])])])])], []⟩
    let files := (search fs ⟨"/shop"⟩ ["app/*", "app"] ["app/models/concerns"] ["rb"]).files
    fs.Plain ∧ (∀ text ∈ ["app/*", "app"], Forward text) ∧ files = ["/shop/app/models/b.rb"] ∧
      ∀ name ∈ files, ∀ place, fs.leads? ⟨name⟩ = some place →
        ¬ ["shop", "app", "models", "concerns"] <+: place := by
  intro fs files
  have plain : fs.Plain := ⟨by decide +kernel, rfl⟩
  have forward : ∀ text ∈ ["app/*", "app"], Forward text := by decide +kernel
  have home : fs.leads? ⟨"/shop"⟩ = some ["shop"] := by decide +kernel
  refine ⟨plain, forward, by decide +kernel, ?_⟩
  exact ignored_path_unlisted plain home forward (fun _ _ _ => by decide +kernel)
    List.mem_cons_self (by decide) (by decide) (by decide)

/-- Below the base `.` a pattern finds files under an ignored path. -/
theorem ignored_path_listed_by_pattern :
    ¬ ∀ (fs : FileSystem) (base : Path) (home : List String)
      (includes ignores extensions : List String) (ignored : String), fs.Plain →
      fs.leads? base = some home → (∀ text ∈ includes, Forward text) → ignored ∈ ignores →
      Pattern.isWild ignored = false → (Path.mk ignored).isAbsolute = false →
      ".." ∉ (Path.mk ignored).trail →
      ∀ name ∈ (search fs base includes ignores extensions).files, ∀ place,
        fs.leads? ⟨name⟩ = some place → ¬ home ++ (Path.mk ignored).trail <+: place := by
  intro unlisted
  let fs : FileSystem := ⟨.dir [("app", .dir [("models", .dir [("b.rb", .file (some .empty)),
    ("concerns", .dir [("a.rb", .file (some .empty))])])])], []⟩
  have plain : fs.Plain := ⟨by decide +kernel, rfl⟩
  have files : "app/models/concerns/a.rb" ∈
      (search fs ⟨"."⟩ ["app/*"] ["app/models/concerns"] ["rb"]).files := by
    decide +kernel
  have home : fs.leads? ⟨"."⟩ = some [] := by decide +kernel
  have forward : ∀ text ∈ ["app/*"], Forward text := by decide +kernel
  have place : fs.leads? ⟨"app/models/concerns/a.rb"⟩ =
      some ["app", "models", "concerns", "a.rb"] := by
    decide +kernel
  refine unlisted fs ⟨"."⟩ [] ["app/*"] ["app/models/concerns"] ["rb"] "app/models/concerns" plain
    home forward List.mem_cons_self (by decide) (by decide) (by decide) _ files _ place ?_
  exact ⟨["a.rb"], by decide⟩

section Matching

variable {home : List String} {pattern : Pattern}

theorem spelled_of_mem_files (plain : fs.Plain)
    (placed : ∀ text ∈ includes, ∃ above, Path.GoesOn base [] above ∧ IncludeFrom above base text ∧
      (pattern.startsWithRun = true ∨ above.stem = ""))
    (walked : includes = [] → pattern.startsWithRun = true) {name : String}
    (listed : name ∈ (search fs base includes ignores extensions).files) :
    ∃ above, Path.GoesOn base [] above ∧ above.SpelledFrom ⟨name⟩ ∧
      (pattern.startsWithRun = true ∨ above.stem = "") := by
  obtain ⟨-, -, -, -, root, known, -, below, proper, reached⟩ := visited_of_mem_files plain listed
  rcases mem_roots.mp known with ⟨none, rfl⟩ | ⟨text, member, paths, found, known⟩
  · have start : root.SpelledFrom root := .inl rfl
    exact ⟨root, .refl root, start.below proper reached, .inl (walked none)⟩
  · obtain ⟨above, goes, included, passed⟩ := placed text member
    have start := included.spelledFrom plain found known
    exact ⟨above, goes, start.below proper reached, passed⟩

/-- If every include is spelled from a path to the base, with nothing in front or with a pattern
that passes over it, an ignored pattern keeps out the files whose paths below the base match it. -/
theorem ignored_pattern_unlisted (plain : fs.Plain) (led : fs.leads? base = some home)
    (directory : fs.root.kindAt home = some .dir)
    (placed : ∀ text ∈ includes, ∃ above, Path.GoesOn base [] above ∧ IncludeFrom above base text ∧
      (pattern.startsWithRun = true ∨ above.stem = ""))
    (walked : includes = [] → pattern.startsWithRun = true) {ignored : String}
    (member : ignored ∈ ignores) (wild : Pattern.isWild ignored = true)
    (read : Pattern.parse ignored = .ok pattern) :
    ∀ name ∈ (search fs base includes ignores extensions).files, ∀ names,
      fs.leads? ⟨name⟩ = some (home ++ names) →
        pattern.accepts ("/".intercalate names) = false := by
  intro name listed names there
  obtain ⟨above, goes, spelled, passed⟩ := spelled_of_mem_files plain placed walked listed
  obtain ⟨place, content, found, file, -⟩ := visited_of_mem_files plain listed
  obtain ⟨own, on, shape⟩ := spelled.goesOn
  have below := plain.leads?_goesOn (goes.trans on) led there
  obtain rfl : names = own := List.append_cancel_left below
  have text : name = above.stem ++ "/".intercalate names := by
    rcases shape with ⟨rfl, -⟩ | spelled
    · rw [List.append_nil] at there
      rw [Option.some.inj (found.symm.trans there), directory] at file
      cases file
    · exact spelled.text
  have matching : Ignore.ofText base ignored = .ok (.matching pattern) := by
    rw [Ignore.ofText, if_pos wild, read]
  have kept := drops_eq_false_of_mem_files listed member matching
  rw [Ignore.drops, text] at kept
  rw [Bool.eq_false_iff] at kept ⊢
  intro accepted
  apply kept
  rcases passed with runs | none
  · exact Pattern.accepts_append runs above.stem_closed accepted
  · rwa [none, String.empty_append]

/-- Nothing stands in front of what a pattern finds below `.`, and a pattern that starts with a
run passes over what stands in front of a literal include. -/
theorem ignored_pattern_unlisted_here :
    let fs : FileSystem := ⟨.dir [("app", .dir [("models", .dir
      [("a.rb", .file (some .empty)), ("a_spec.rb", .file (some .empty))])])], []⟩
    let files (text ignored : String) := (search fs ⟨"."⟩ [text] [ignored] ["rb"]).files
    let spec : List Pattern.Token := .anyRun :: "_spec.rb".toList.map .char
    let exact : Pattern := ⟨"app/models/".toList.map .char ++ spec⟩
    let anywhere : Pattern := ⟨.anyDirectories :: spec⟩
    files "app/*" "app/models/*_spec.rb" = ["app/models/a.rb"] ∧
    files "app/models" "**/*_spec.rb" = ["./app/models/a.rb"] ∧
    (∀ name ∈ files "app/*" "app/models/*_spec.rb", ∀ names,
      fs.leads? ⟨name⟩ = some ([] ++ names) → exact.accepts ("/".intercalate names) = false) ∧
    ∀ name ∈ files "app/models" "**/*_spec.rb", ∀ names,
      fs.leads? ⟨name⟩ = some ([] ++ names) → anywhere.accepts ("/".intercalate names) = false := by
  intro fs files spec exact anywhere
  have plain : fs.Plain := ⟨by decide +kernel, rfl⟩
  have home : fs.leads? ⟨"."⟩ = some [] := by decide +kernel
  have found : IncludeFrom ⟨""⟩ ⟨"."⟩ "app/*" :=
    ⟨⟨"."⟩, "app/*", ⟨rfl, by decide, by decide, by decide, by decide +kernel⟩, rfl⟩
  have literal : IncludeFrom ⟨"."⟩ ⟨"."⟩ "app/models" :=
    .inr ⟨["app", "models"], rfl, by simp, by decide⟩
  refine ⟨by decide +kernel, by decide +kernel, ?_, ?_⟩
  · refine ignored_pattern_unlisted plain home rfl ?_ (by simp) List.mem_cons_self (by decide)
      (by decide +kernel)
    exact List.forall_mem_singleton.mpr ⟨⟨""⟩, ⟨rfl, rfl, by simp⟩, found, .inr rfl⟩
  · refine ignored_pattern_unlisted plain home rfl ?_ (by simp) List.mem_cons_self (by decide)
      (by decide +kernel)
    exact List.forall_mem_singleton.mpr ⟨⟨"."⟩, .refl _, literal, .inl (by decide)⟩

/-- A pattern is compared with the `./` in front of what a literal include finds. -/
theorem ignored_pattern_listed_by_path :
    ¬ ∀ (fs : FileSystem) (base : Path) (home : List String)
      (includes ignores extensions : List String) (ignored : String) (pattern : Pattern),
      fs.Plain → fs.leads? base = some home → fs.root.kindAt home = some .dir →
      ignored ∈ ignores → Pattern.isWild ignored = true →
      (Path.mk ignored).isAbsolute = false → Pattern.parse ignored = .ok pattern →
      ∀ name ∈ (search fs base includes ignores extensions).files, ∀ names,
        fs.leads? ⟨name⟩ = some (home ++ names) →
          pattern.accepts ("/".intercalate names) = false := by
  intro unlisted
  let fs : FileSystem := ⟨.dir [("app", .dir [("models", .dir
    [("a.rb", .file (some .empty)), ("a_spec.rb", .file (some .empty))])])], []⟩
  have plain : fs.Plain := ⟨by decide +kernel, rfl⟩
  have files : "./app/models/a_spec.rb" ∈
      (search fs ⟨"."⟩ ["app/models"] ["app/models/*_spec.rb"] ["rb"]).files := by
    decide +kernel
  have home : fs.leads? ⟨"."⟩ = some [] := by decide +kernel
  have place : fs.leads? ⟨"./app/models/a_spec.rb"⟩ =
      some ([] ++ ["app", "models", "a_spec.rb"]) := by
    decide +kernel
  have kept := unlisted fs ⟨"."⟩ [] ["app/models"] ["app/models/*_spec.rb"] ["rb"]
    "app/models/*_spec.rb"
    ⟨"app/models/".toList.map .char ++ .anyRun :: "_spec.rb".toList.map .char⟩ plain home rfl
    List.mem_cons_self (by decide) (by decide) (by decide +kernel) _ files _ place
  exact absurd kept (by decide +kernel)

end Matching

end Discovery

end AttributePins
