/-! Paths as texts. A path is read by its components: repeated slashes and inner or
trailing `.` do not count, a leading `.` does, and `..` stays as it is, because a
text cannot tell where a link leads. -/
namespace AttributePins

structure Path where
  text : String
deriving DecidableEq, Repr

inductive Path.Component where
  | root
  /-- A leading `.` -/
  | here
  /-- `..` -/
  | up
  | name (text : String)
deriving DecidableEq, Repr

namespace Path

/-- What a path starts from, and the rest of its text. -/
def splitAnchor : List Char → List Char × List Char
  | '/' :: rest => (['/'], rest)
  | ['.'] => (['.'], [])
  | '.' :: '/' :: rest => (['.'], '/' :: rest)
  | text => ([], text)

theorem splitAnchor_append (text : List Char) :
    (splitAnchor text).1 ++ (splitAnchor text).2 = text := by
  unfold splitAnchor
  split <;> rfl

/-- Whether a part between slashes is no component. -/
def isVoid (part : List Char) : Bool := part = [] || part = ['.']

def Component.ofPart (part : List Char) : Component :=
  if part = ['.', '.'] then .up else .name (String.ofList part)

def components (path : Path) : List Component :=
  let (anchor, body) := splitAnchor path.text.toList
  let start : List Component :=
    match anchor with
    | ['/'] => [.root]
    | ['.'] => [.here]
    | _ => []
  start ++ ((body.splitOn '/').filter fun part => !isVoid part).map Component.ofPart

def isAbsolute (path : Path) : Bool := path.text.toList.head? = some '/'

def hasEndSlash (path : Path) : Bool := path.text.toList.getLast? = some '/'

/-- A path below another: an absolute path stands for itself, any other is set off by
one slash. -/
def join (path other : Path) : Path :=
  if other.isAbsolute || path.text.isEmpty then other
  else if path.hasEndSlash then ⟨path.text ++ other.text⟩
  else ⟨path.text ++ "/" ++ other.text⟩

/-- A path without the slashes at its end. The root stays. -/
def withoutEndSlashes (path : Path) : Path :=
  match path.text.toList.reverse.dropWhile (· = '/') with
  | [] => if path.isAbsolute then ⟨"/"⟩ else path
  | kept => ⟨String.ofList kept.reverse⟩

/-- Whether the components of a path start with those of another. -/
def startsWith (path other : Path) : Bool := other.components.isPrefixOf path.components

/-- A reversed text without the slashes and single dots at its end. -/
def trimVoid : List Char → List Char
  | '/' :: rest => trimVoid rest
  | ['.'] => []
  | '.' :: '/' :: rest => trimVoid rest
  | text => text

theorem length_trimVoid_le (text : List Char) : (trimVoid text).length ≤ text.length := by
  fun_induction trimVoid text <;> simp_all <;> omega

theorem head?_trimVoid_ne (text : List Char) : (trimVoid text).head? ≠ some '/' := by
  fun_induction trimVoid text with
  | case1 rest ih => exact ih
  | case2 => simp
  | case3 rest ih => exact ih
  | case4 text slash dot dotSlash =>
    cases text with
    | nil => simp
    | cons c rest =>
      intro same
      simp only [List.head?_cons, Option.some.injEq] at same
      exact slash rest (by rw [same])

/-- The text of a path without its last component, if it has one besides the root. -/
def parentText? (text : List Char) : Option (List Char) :=
  let (anchor, body) := splitAnchor text
  let kept := trimVoid body.reverse
  if kept.isEmpty then if anchor = ['.'] then some [] else none
  else some (anchor ++ (trimVoid (kept.dropWhile (· ≠ '/'))).reverse)

theorem length_of_parentText? {text parent : List Char} (h : parentText? text = some parent) :
    parent.length < text.length := by
  have total := congrArg List.length (splitAnchor_append text)
  simp only [List.length_append] at total
  unfold parentText? at h
  generalize hs : splitAnchor text = pair at h total
  obtain ⟨anchor, body⟩ := pair
  simp only at h total
  split at h
  · split at h
    · grind
    · simp at h
  · rename_i full
    have bodyLe := length_trimVoid_le body.reverse
    have slash := head?_trimVoid_ne body.reverse
    cases kept : trimVoid body.reverse with
    | nil => simp [kept] at full
    | cons c rest =>
      have dropped := (List.dropWhile_suffix (l := rest) (· ≠ '/')).length_le
      have parentLe := length_trimVoid_le ((c :: rest).dropWhile (· ≠ '/'))
      have notSlash : c ≠ '/' := by
        rintro rfl
        simp [kept] at slash
      rw [List.dropWhile_cons_of_pos (by simpa using notSlash)] at parentLe
      simp only [kept, Option.some.injEq] at h
      rw [List.dropWhile_cons_of_pos (by simpa using notSlash)] at h
      have := congrArg List.length h
      simp only [List.length_append, List.length_reverse] at this
      simp only [kept, List.length_cons, List.length_reverse] at bodyLe
      omega

def parent? (path : Path) : Option Path :=
  (parentText? path.text.toList).map fun text => ⟨String.ofList text⟩

theorem length_of_parent? {path parent : Path} (h : path.parent? = some parent) :
    parent.text.toList.length < path.text.toList.length := by
  obtain ⟨text, found, same⟩ := Option.map_eq_some_iff.1 h
  have := length_of_parentText? found
  simpa [← same] using this

/-- A path, its parent, the parent's parent, and so on. -/
def ancestors (path : Path) : List Path :=
  path ::
    match h : path.parent? with
    | none => []
    | some parent =>
      have := length_of_parent? h
      parent.ancestors
termination_by path.text.toList.length

/-- The last component of a path, if it is a name. -/
def fileName? (path : Path) : Option String :=
  match path.components.getLast? with
  | some (.name text) => some text
  | _ => none

/-- What follows the last dot of a name, unless that dot is its first character. -/
def nameExtension? (name : List Char) : Option (List Char) :=
  match name.reverse.dropWhile (· ≠ '.') with
  | [] => none
  | [_] => none
  | _ :: _ :: _ => some (name.reverse.takeWhile (· ≠ '.')).reverse

def extension? (path : Path) : Option String :=
  (path.fileName?.bind fun name => nameExtension? name.toList).map String.ofList

/-- Whether a path has no component but a leading `.`. -/
def isHere (path : Path) : Bool := path.components = [.here]

/-- A path without a leading `.`; if it has one, what surrounds its components goes
too. -/
def withoutHere (path : Path) : Path :=
  let (anchor, body) := splitAnchor path.text.toList
  if anchor = ['.'] then
    let parts := ((body.splitOn '/').dropWhile isVoid).reverse.dropWhile isVoid |>.reverse
    ⟨String.ofList (['/'].intercalate parts)⟩
  else path

end Path
end AttributePins
