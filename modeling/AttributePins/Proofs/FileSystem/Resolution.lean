import AttributePins.Proofs.FileSystem.Tree

/-! Where paths lead in a plain tree. Without links a path leads to at most one place, which
the kinds on the way decide, and every request that reads is a function of the kind there. -/
namespace AttributePins.FileSystem

/-- The place that names lead to from a place. -/
def follow (kinds : List String → Option Kind) (place : List String) :
    List String → Option (List String)
  | [] => if (kinds place).isSome then some place else none
  | name :: rest =>
    if name = "" ∨ name = "." then follow kinds place rest
    else if name = ".." then follow kinds place.dropLast rest
    else if name.utf8ByteSize > maxNameBytes then none
    else
      match kinds (place ++ [name]) with
      | some .dir => follow kinds (place ++ [name]) rest
      | some (.file _) => if rest = [] then some (place ++ [name]) else none
      | _ => none

def startOf (fs : FileSystem) (path : Path) : List String :=
  if path.isAbsolute then [] else fs.cwd

/-- The place that a path leads to. -/
def leads? (fs : FileSystem) (path : Path) : Option (List String) :=
  match checkText path.text with
  | .ok _ => follow fs.root.kindAt (fs.startOf path) (namesOf path)
  | .error _ => none

/-- What stands where a path leads to. -/
def kindOf? (fs : FileSystem) (path : Path) : Option Kind :=
  (fs.leads? path).bind fs.root.kindAt

/-- A tree without links, in which the working directory is a directory. -/
structure Plain (fs : FileSystem) : Prop where
  tree : fs.root.Plain
  working : fs.root.kindAt fs.cwd = some .dir

section Walking

variable {root : Node} {ending : Ending}

/-- Where a walk arrives in a plain tree, and that it meets no link. -/
theorem walkNames_plain (plain : root.Plain) (reads : ending ≠ .written)
    (names place : List String) :
    (∀ target node, walkNames root ending place names = .ok (.arrived (.found target node)) ↔
      follow root.kindAt place names = some target ∧ root.get? target = some node) ∧
    ∀ directory link rest,
      walkNames root ending place names ≠ .ok (.atLink directory link rest) := by
  induction names generalizing place with
  | nil =>
    rw [walkNames, follow, Node.kindAt, Option.isSome_map]
    cases found : root.get? place with
    | none => simp
    | some node =>
      simp only [Except.ok.injEq, Progress.arrived.injEq, Target.found.injEq, Option.isSome_some,
        if_true, Option.some.injEq, reduceCtorEq, not_false_eq_true, implies_true, ne_eq, and_true]
      grind
  | cons name rest ih =>
    rw [walkNames, follow]
    split
    · exact ih place
    split
    · exact ih place.dropLast
    rw [if_neg (by simp [reads])]
    split
    · simp
    cases found : root.get? place with
    | none => simp [Node.kindAt, Node.get?_append, found]
    | some node =>
      cases node with
      | file | link => simp [Node.kindAt, Node.get?_append, found, Node.get?]
      | dir entries =>
        have child := Node.get?_snoc_of_dir found name
        have unlinked (target : String) : root.kindAt (place ++ [name]) ≠ some (.link target) :=
          plain.not_link target
        simp only [Node.kindAt, child] at unlinked ⊢
        cases present : entries.lookup name with
        | none => cases rest <;> simp
        | some node =>
          cases node with
          | link target => exact absurd (by rw [present]; rfl) (unlinked target)
          | dir => exact ih (place ++ [name])
          | file content =>
            cases rest with
            | nil =>
              simp [Node.kind]
              grind
            | cons => simp [Node.kind]

theorem resolveFrom_plain (plain : root.Plain) (reads : ending ≠ .written)
    (links : Nat) (place names target : List String) (node : Node) :
    resolveFrom root ending links place names = .ok (.found target node) ↔
      follow root.kindAt place names = some target ∧ root.get? target = some node := by
  obtain ⟨arrives, unlinked⟩ := walkNames_plain plain reads names place
  rw [← arrives, resolveFrom]
  split
  · rename_i failed
    simp [failed]
  · rename_i reached
    simp [reached]
  · rename_i directory link rest stopped
    exact absurd stopped (unlinked directory link rest)

end Walking

theorem isSome_of_follow {kinds : List String → Option Kind} {place names target : List String}
    (found : follow kinds place names = some target) : (kinds target).isSome = true := by
  fun_induction follow kinds place names <;> grind

section Requests

variable {fs : FileSystem}

theorem Plain.root_dir (plain : fs.Plain) : fs.root.kindAt [] = some .dir := by
  have working := plain.working
  cases found : fs.root with
  | dir => rfl
  | file | link =>
    cases place : fs.cwd <;>
      simp [found, place, Node.kindAt, Node.get?, Node.kind] at working

theorem Plain.start_dir (plain : fs.Plain) (path : Path) :
    fs.root.kindAt (fs.startOf path) = some .dir := by
  rw [startOf]
  split
  · exact plain.root_dir
  · exact plain.working

theorem Plain.resolve_iff (plain : fs.Plain) {ending : Ending} (reads : ending ≠ .written)
    (path : Path) (target : List String) (node : Node) :
    fs.resolve ending path = .ok (.found target node) ↔
      fs.leads? path = some target ∧ fs.root.get? target = some node := by
  rw [resolve, leads?]
  cases checkText path.text with
  | error error => simp [bind, Except.bind]
  | ok => exact resolveFrom_plain plain.tree reads _ _ _ _ _

theorem isSome_of_leads? {path : Path} {target : List String}
    (led : fs.leads? path = some target) : (fs.root.kindAt target).isSome = true := by
  rw [leads?] at led
  split at led
  · exact isSome_of_follow led
  · contradiction

theorem get?_of_leads? {path : Path} {target : List String} (led : fs.leads? path = some target) :
    ∃ node, fs.root.get? target = some node :=
  Node.get?_of_kindAt (isSome_of_leads? led)

/-- What a request finds that only reads, whether or not it follows a link at the end. -/
theorem Plain.node_iff (plain : fs.Plain) {ending : Ending} (reads : ending ≠ .written)
    (path : Path) (node : Node) :
    (fs.resolve ending path >>= fun target => target.node) = .ok node ↔
      ∃ target, fs.leads? path = some target ∧ fs.root.get? target = some node := by
  simp only [← plain.resolve_iff reads]
  cases fs.resolve ending path with
  | error error => simp [bind, Except.bind]
  | ok target => cases target <;> simp [bind, Except.bind, Target.node]

theorem Plain.stat_iff (plain : fs.Plain) (path : Path) (node : Node) :
    fs.stat path = .ok node ↔
      ∃ target, fs.leads? path = some target ∧ fs.root.get? target = some node :=
  plain.node_iff (by decide) path node

theorem Plain.linkStat_iff (plain : fs.Plain) (path : Path) (node : Node) :
    fs.linkStat path = .ok node ↔
      ∃ target, fs.leads? path = some target ∧ fs.root.get? target = some node :=
  plain.node_iff (by decide) path node

theorem kindOf?_eq_some_iff {path : Path} {kind : Kind} :
    fs.kindOf? path = some kind ↔
      ∃ target, fs.leads? path = some target ∧ fs.root.kindAt target = some kind := by
  rw [kindOf?, Option.bind_eq_some_iff]

/-- What a request for the node at a path answers, by its kind. -/
theorem Plain.kindOf?_iff (plain : fs.Plain) (path : Path) (kind : Kind) :
    fs.kindOf? path = some kind ↔ ∃ node, fs.stat path = .ok node ∧ node.kind = kind := by
  simp only [kindOf?_eq_some_iff, plain.stat_iff, Node.kindAt, Option.map_eq_some_iff]
  grind

theorem Plain.isDir_iff (plain : fs.Plain) (path : Path) :
    fs.isDir path = true ↔ fs.kindOf? path = some .dir := by
  rw [plain.kindOf?_iff, isDir]
  cases fs.stat path with
  | error => simp
  | ok node => cases node <;> simp [Node.isDir, Node.kind]

theorem Plain.isDir_iff_leads? (plain : fs.Plain) (path : Path) :
    fs.isDir path = true ↔
      ∃ place, fs.leads? path = some place ∧ fs.root.kindAt place = some .dir :=
  (plain.isDir_iff path).trans kindOf?_eq_some_iff

theorem Plain.isFile_iff (plain : fs.Plain) (path : Path) :
    fs.isFile path = true ↔ ∃ content, fs.kindOf? path = some (.file content) := by
  simp only [plain.kindOf?_iff, isFile]
  cases fs.stat path with
  | error => simp
  | ok node => cases node <;> simp [Node.isFile, Node.kind]

theorem Plain.exists?_iff (plain : fs.Plain) (path : Path) :
    fs.exists? path = true ↔ ∃ kind, fs.kindOf? path = some kind := by
  simp only [plain.kindOf?_iff, exists?]
  cases fs.stat path <;> simp [Except.isOk, Except.toBool]

theorem Plain.exists?_of_leads? (plain : fs.Plain) {path : Path} {target : List String}
    (led : fs.leads? path = some target) : fs.exists? path = true := by
  obtain ⟨kind, present⟩ := Option.isSome_iff_exists.mp (isSome_of_leads? led)
  exact (plain.exists?_iff path).mpr ⟨kind, kindOf?_eq_some_iff.mpr ⟨target, led, present⟩⟩

theorem Plain.readText_iff (plain : fs.Plain) (path : Path) (text : String) :
    fs.readText path = .ok text ↔ ∃ content, fs.kindOf? path = some (.file (some content)) ∧
      String.fromUTF8? content = some text := by
  simp only [plain.kindOf?_iff, readText]
  cases fs.stat path with
  | error => simp
  | ok node =>
    cases node with
    | link | dir => simp [Node.kind]
    | file content =>
      cases content with
      | none => simp [Node.kind]
      | some content =>
        cases decoded : String.fromUTF8? content <;> simp [Node.kind, decoded]

end Requests

end AttributePins.FileSystem
