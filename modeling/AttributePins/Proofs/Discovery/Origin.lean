import AttributePins.Discovery
import AttributePins.Proofs.Discovery.Moves
import Mathlib.Data.List.Forall2

/-! Patterns below a base directory. A base directory and a pattern below it are one pattern, so
the expansion first takes the components of the base. If the base has no wildcards these are
literal, and lead to one path; that path need not be spelled as the base is, since the names in
the directory `.` stand for themselves. -/
namespace AttributePins

namespace Pattern

/-- Whether a text stands for itself when it is read as a pattern. -/
def isVerbatim (text : String) : Bool := text.toList.all fun c => c ≠ '*' && c ≠ '?' && c ≠ '['

/-- The pattern of a text that is taken as it is. -/
def verbatim (text : List Char) : Pattern := ⟨text.map .char⟩

theorem parseFrom_char {c : Char} (plain : c ≠ '*' ∧ c ≠ '?' ∧ c ≠ '[') (position : Nat)
    (before : Option Char) (rest : List Char) :
    parseFrom position before (c :: rest) =
      (parseFrom (position + 1) (some c) rest).map (.char c :: ·) := by
  obtain ⟨star, question, bracket⟩ := plain
  rw [parseFrom]
  · exact question
  · intro _ same
    exact absurd same star
  · intro _ same
    exact absurd same star
  · exact star
  · exact bracket

theorem isVerbatim_iff {text : String} :
    isVerbatim text = true ↔ ∀ c ∈ text.toList, c ≠ '*' ∧ c ≠ '?' ∧ c ≠ '[' := by
  simp [isVerbatim, and_assoc]

theorem parseFrom_verbatim {text : List Char} (plain : ∀ c ∈ text, c ≠ '*' ∧ c ≠ '?' ∧ c ≠ '[')
    (position : Nat) (before : Option Char) :
    parseFrom position before text = .ok (text.map .char) := by
  induction text generalizing position before with
  | nil => rw [parseFrom, List.map_nil]
  | cons c rest ih =>
    obtain ⟨first, others⟩ := List.forall_mem_cons.mp plain
    rw [parseFrom_char first, ih others]
    rfl

theorem parse_verbatim {text : List Char} (plain : ∀ c ∈ text, c ≠ '*' ∧ c ≠ '?' ∧ c ≠ '[') :
    parse (String.ofList text) = .ok (verbatim text) := by
  rw [parse, String.toList_ofList, parseFrom_verbatim plain]
  rfl

theorem literal?_verbatim (text : List Char) :
    (verbatim text).literal? = some (String.ofList text) := by
  have all : (text.map Token.char).mapM Token.char? = some text := by
    induction text with
    | nil => rfl
    | cons c rest ih => simp [Token.char?, ih]
  rw [literal?, verbatim, all]
  rfl

theorem map_cons_mono {first second : Except Error (List Token)} {token : Token}
    {tokens : List Token} (mono : ∀ rest, first = .ok rest → second = .ok rest)
    (read : first.map (token :: ·) = .ok tokens) : second.map (token :: ·) = .ok tokens := by
  cases first with
  | error => contradiction
  | ok rest =>
    rw [mono rest rfl]
    exact read

/-- What is read does not depend on the position, and on the character in front only as far as a
component may start behind it. -/
theorem parseFrom_shift {position : Nat} {before : Option Char} {s : List Char}
    {tokens : List Token} (read : parseFrom position before s = .ok tokens) (position' : Nat)
    {before' : Option Char}
    (alike : before' = none ∨ before' = some '/' ↔ before = none ∨ before = some '/') :
    parseFrom position' before' s = .ok tokens := by
  fun_induction parseFrom position before s generalizing tokens position' before' with
  | case1 => rwa [parseFrom]
  | case2 position before rest ih =>
    rw [parseFrom]
    exact map_cons_mono (fun _ read => ih read (position' + 1) Iff.rfl) read
  | case3 | case6 | case7 | case10 => contradiction
  | case4 position before first _ =>
    rw [parseFrom, if_pos (alike.mpr first)]
    exact read
  | case5 position before first _ rest ih =>
    rw [parseFrom, if_pos (alike.mpr first)]
    exact map_cons_mono (fun _ read => ih read (position' + 3) Iff.rfl) read
  | case8 position before rest noRun noDirectories ih =>
    rw [parseFrom]
    · exact map_cons_mono (fun _ read => ih read (position' + 1) Iff.rfl) read
    · exact noRun
    · exact noDirectories
  | case9 position before rest token after found _ ih =>
    rw [parseFrom]
    split
    · rename_i same
      rw [found] at same
      obtain ⟨rfl, rfl⟩ := Prod.mk.inj (Option.some.inj same)
      exact map_cons_mono (fun _ read => ih read _ Iff.rfl) read
    · rename_i none
      rw [found] at none
      contradiction
  | case11 position before c rest noAny noRuns noDirectories noRun noClass ih =>
    rw [parseFrom]
    · exact map_cons_mono (fun _ read => ih read (position' + 1) Iff.rfl) read
    all_goals assumption

/-- A pattern behind a text without wildcards that ends with a slash. -/
theorem parseFrom_behind {front s : List Char} {tokens : List Token}
    (plain : ∀ c ∈ front, c ≠ '*' ∧ c ≠ '?' ∧ c ≠ '[') (slash : front.getLast? = some '/')
    (read : parseFrom 0 none s = .ok tokens) (position : Nat) (before : Option Char) :
    parseFrom position before (front ++ s) = .ok (front.map .char ++ tokens) := by
  induction front generalizing position before with
  | nil => exact absurd slash (by simp)
  | cons c rest ih =>
    obtain ⟨first, others⟩ := List.forall_mem_cons.mp plain
    rw [List.cons_append, parseFrom_char first]
    cases rest with
    | nil =>
      obtain rfl : c = '/' := Option.some.inj slash
      rw [List.nil_append, parseFrom_shift read (position + 1) (by simp)]
      rfl
    | cons next rest =>
      rw [List.getLast?_cons_cons] at slash
      rw [ih others slash]
      rfl

theorem eq_nil_of_parseFrom {position : Nat} {before : Option Char} {s : List Char}
    (read : parseFrom position before s = .ok []) : s = [] := by
  have filled (result : Except Error (List Token)) (token : Token) :
      result.map (token :: ·) ≠ .ok [] := by
    cases result <;> simp [Except.map]
  fun_induction parseFrom position before s with
  | case1 => rfl
  | case3 | case4 | case6 | case7 | case10 => contradiction
  | case2 | case5 | case8 | case9 | case11 => exact absurd read (filled _ _)

theorem parse_eq_ok_iff {text : String} {pattern : Pattern} :
    parse text = .ok pattern ↔ parseFrom 0 none text.toList = .ok pattern.tokens := by
  rw [parse]
  cases parseFrom 0 none text.toList with
  | error => simp [Except.map]
  | ok tokens =>
    obtain ⟨own⟩ := pattern
    simp [Except.map]

theorem literal?_ne_empty {part : List Char} (filled : part ≠ []) {component : Pattern}
    (read : parse (String.ofList part) = .ok component) : component.literal? ≠ some "" := by
  intro empty
  obtain ⟨characters, all, same⟩ := Option.map_eq_some_iff.mp empty
  obtain rfl : characters = [] := by simpa using same
  have nothing : component.tokens = [] := eq_map_char_of_mapM all
  rw [parse_eq_ok_iff, String.toList_ofList, nothing] at read
  exact filled (eq_nil_of_parseFrom read)

end Pattern

namespace Glob

section Texts

/-- Only a text that is empty or ends with a slash has an empty last part. -/
theorem getLast?_splitOn {text : List Char} (empty : (text.splitOn '/').getLast? = some []) :
    text = [] ∨ text.getLast? = some '/' := by
  induction text with
  | nil => exact .inl rfl
  | cons c rest ih =>
    right
    obtain ⟨first, others, parts⟩ := List.exists_cons_of_ne_nil (List.splitOn_ne_nil '/' rest)
    rw [List.splitOn_cons_eq_if_modifyHead, parts] at empty
    rw [parts] at ih
    have later (empty : (first :: others).getLast? = some []) (slash : c = '/' ∨ rest ≠ []) :
        (c :: rest).getLast? = some '/' := by
      rcases ih empty with rfl | last
      · rw [slash.resolve_right (by simp)]
        rfl
      · rw [List.getLast?_cons, last]
        rfl
    split at empty
    · rename_i slash
      exact later (by rwa [List.getLast?_cons_cons] at empty) (.inl (beq_iff_eq.mp slash))
    · rw [List.modifyHead_cons] at empty
      cases others with
      | nil => simp at empty
      | cons second others =>
        refine later (by simpa using empty) (.inr ?_)
        rintro rfl
        simp at parts

theorem getLast?_splitOn_iff (text : List Char) :
    (text.splitOn '/').getLast? = some [] ↔ text = [] ∨ text.getLast? = some '/' := by
  refine ⟨getLast?_splitOn, ?_⟩
  rintro (rfl | slash)
  · rfl
  · obtain ⟨front, rfl⟩ := List.getLast?_eq_some_iff.mp slash
    rw [List.splitOn_append_cons_self]
    exact List.getLast?_concat

theorem mem_of_mem_part {text part : List Char} (member : part ∈ text.splitOn '/') {c : Char}
    (inside : c ∈ part) : c ∈ text := by
  induction text generalizing part with
  | nil =>
    obtain rfl := List.mem_singleton.mp member
    exact inside
  | cons first rest ih =>
    rw [List.splitOn_cons_eq_if_modifyHead] at member
    split at member
    · rcases List.mem_cons.mp member with rfl | later
      · contradiction
      · exact List.mem_cons_of_mem first (ih later inside)
    · obtain ⟨head, others, parts⟩ := List.exists_cons_of_ne_nil (List.splitOn_ne_nil '/' rest)
      rw [parts, List.modifyHead_cons] at member
      rw [parts] at ih
      rcases List.mem_cons.mp member with rfl | later
      · rcases List.mem_cons.mp inside with rfl | inside
        · exact List.mem_cons_self
        · exact List.mem_cons_of_mem first (ih List.mem_cons_self inside)
      · exact List.mem_cons_of_mem first (ih (List.mem_cons_of_mem head later) inside)

/-- A text without the slash of an absolute path. -/
def body : List Char → List Char
  | '/' :: rest => rest
  | rest => rest

/-- The parts of a text, without an empty one at the end. -/
def closedParts (text : List Char) : List (List Char) :=
  if (text.splitOn '/').getLast? = some [] then (text.splitOn '/').dropLast else text.splitOn '/'

theorem body_relative {text : List Char} (relative : text.head? ≠ some '/') : body text = text := by
  unfold body
  split
  · exact absurd rfl relative
  · rfl

theorem componentTexts_eq (text : List Char) : componentTexts text = closedParts (body text) := by
  by_cases slash : text.head? = some '/'
  · obtain ⟨rest, rfl⟩ := List.head?_eq_some_iff.mp slash
    rfl
  · rw [body_relative slash, componentTexts]
    · rfl
    · rintro rest rfl
      exact slash rfl

theorem body_append {front : List Char} (filled : front ≠ []) (more : List Char) :
    body (front ++ more) = body front ++ more := by
  obtain ⟨c, rest, rfl⟩ := List.exists_cons_of_ne_nil filled
  by_cases slash : c = '/' <;> simp [body, slash]

theorem closedParts_slash (front text : List Char) :
    closedParts (front ++ '/' :: text) = front.splitOn '/' ++ closedParts text := by
  have parts := List.splitOn_ne_nil '/' text
  rw [closedParts, closedParts, List.splitOn_append_cons_self,
    List.getLast?_append_of_ne_nil _ parts]
  split
  · rw [List.dropLast_append_of_ne_nil parts]
  · rfl

theorem closedParts_body {text : List Char} (filled : text ≠ [])
    (last : text.getLast? ≠ some '/') : closedParts (body text) = (body text).splitOn '/' := by
  rw [closedParts, if_neg]
  intro empty
  obtain ⟨c, rest, rfl⟩ := List.exists_cons_of_ne_nil filled
  by_cases slash : c = '/'
  · subst slash
    rcases getLast?_splitOn empty with none | slash
    · exact last (by rw [show rest = [] from none]; rfl)
    · exact last (by rw [List.getLast?_cons, show rest.getLast? = some '/' from slash]; rfl)
  · rw [body_relative (by simpa using slash)] at empty
    exact (getLast?_splitOn empty).elim filled last

/-- The components of a directory come before those of what is joined to it. -/
theorem componentTexts_join (base : Path) {text : String}
    (relative : (Path.mk text).isAbsolute = false) :
    componentTexts (base.join ⟨text⟩).text.toList =
      componentTexts base.text.toList ++ componentTexts text.toList := by
  have head : text.toList.head? ≠ some '/' := of_decide_eq_false relative
  simp only [componentTexts_eq, body_relative head]
  rw [Path.join_eq_stem relative, String.toList_append]
  obtain ⟨empty, none⟩ | ⟨front, stem, whole⟩ := Path.stem_cases base
  · rw [none, empty]
    exact congrArg closedParts (body_relative head)
  · rw [stem, List.append_assoc, List.singleton_append]
    rcases whole with ⟨whole, filled, last⟩ | whole
    · rw [whole, body_append filled, closedParts_slash, closedParts_body filled last]
    · rw [whole]
      by_cases empty : front = []
      · rw [empty]
        rfl
      · rw [body_append empty, body_append empty, closedParts_slash, closedParts_slash _ [],
          List.append_assoc]
        rfl

theorem mem_of_mem_componentTexts {text part : List Char} (member : part ∈ componentTexts text)
    {c : Char} (inside : c ∈ part) : c ∈ text := by
  rw [componentTexts_eq, closedParts] at member
  have known : part ∈ (body text).splitOn '/' := by
    split at member
    · exact List.mem_of_mem_dropLast member
    · exact member
  have within := mem_of_mem_part known inside
  unfold body at within
  split at within
  · exact List.mem_cons_of_mem '/' within
  · exact within

end Texts

section Base

def startOf (path : Path) : Path := if path.isAbsolute then ⟨"/"⟩ else ⟨"."⟩

/-- The path that literal components lead to. -/
def descend (path : Path) (parts : List (List Char)) : Path :=
  parts.foldl (fun path part => child path (String.ofList part)) path

/-- The path that the components of a directory lead to. -/
def reach (base : Path) : Path := descend (startOf base) (componentTexts base.text.toList)

/-- The spelling of a directory in front of what a pattern below it stands for. -/
def origin (base : Path) : String := (settled (reach base)).stem

theorem trail_child {name : String} (inner : '/' ∉ name.toList) (path : Path) :
    (child path name).trail = path.trail ++ (Path.mk name).trail := by
  rw [child_eq_join, Path.trail_join (Path.isAbsolute_of_inner inner), (settled_goesOn path).trail,
    List.append_nil]

theorem isAbsolute_child {name : String} (inner : '/' ∉ name.toList) (path : Path) :
    (child path name).isAbsolute = path.isAbsolute := by
  rw [child_eq_join, Path.isAbsolute_join_relative (Path.isAbsolute_of_inner inner),
    (settled_goesOn path).start]

theorem trail_descend {parts : List (List Char)} (inner : ∀ part ∈ parts, '/' ∉ part)
    (path : Path) :
    (descend path parts).isAbsolute = path.isAbsolute ∧
      (descend path parts).trail =
        path.trail ++ (parts.filter fun part => !Path.isVoid part).map String.ofList := by
  induction parts generalizing path with
  | nil => exact ⟨rfl, (List.append_nil _).symm⟩
  | cons part rest ih =>
    obtain ⟨first, others⟩ := List.forall_mem_cons.mp inner
    have slashless : '/' ∉ (String.ofList part).toList := by rwa [String.toList_ofList]
    obtain ⟨start, trail⟩ := ih others (child path (String.ofList part))
    refine ⟨start.trans (isAbsolute_child slashless path), ?_⟩
    have here : String.ofList part = "." ↔ part = ['.'] := String.ofList_inj
    rw [descend, List.foldl_cons, ← descend, trail, trail_child slashless,
      Path.trail_of_inner slashless, List.append_assoc]
    by_cases void : part = [] ∨ part = ['.']
    · have solid : Path.isVoid part = true := by simpa [Path.isVoid] using void
      rw [if_pos (by simpa [here] using void), List.filter_cons_of_neg (by simpa using solid)]
      rfl
    · have solid : Path.isVoid part = false := by simpa [Path.isVoid] using void
      rw [if_neg (by simpa [here] using void), List.filter_cons_of_pos (by simpa using solid)]
      rfl

theorem filter_componentTexts (text : List Char) :
    ((componentTexts text).filter fun part => !Path.isVoid part) =
      (text.splitOn '/').filter fun part => !Path.isVoid part := by
  have closed (text : List Char) : ((closedParts text).filter fun part => !Path.isVoid part) =
      (text.splitOn '/').filter fun part => !Path.isVoid part := by
    rw [closedParts]
    split
    · rename_i last
      obtain ⟨front, parts⟩ := List.getLast?_eq_some_iff.mp last
      rw [parts, List.dropLast_concat, List.filter_append]
      exact (List.append_nil _).symm
    · rfl
  rw [componentTexts_eq, closed]
  unfold body
  split
  · rw [List.splitOn_cons_eq_if_modifyHead]
    rfl
  · rfl

/-- The components of a directory lead to the directory, however they are spelled. -/
theorem reach_goesOn (base : Path) : Path.GoesOn base [] (reach base) := by
  have inner : ∀ part ∈ componentTexts base.text.toList, '/' ∉ part := fun part member =>
    slash_not_mem_componentTexts member
  obtain ⟨start, trail⟩ := trail_descend inner (startOf base)
  refine ⟨?_, ?_, by simp⟩
  · rw [reach, start, startOf]
    cases base.isAbsolute <;> rfl
  · have none : (startOf base).trail = [] := by
      rw [startOf]
      cases base.isAbsolute <;> rfl
    rw [reach, trail, none, filter_componentTexts, List.nil_append, List.append_nil, Path.trail]

/-- Literal components keep what a path elsewhere than `.` starts from. -/
theorem descend_anchored {parts : List (List Char)} (inner : ∀ part ∈ parts, '/' ∉ part)
    {path : Path} (filled : path.text ≠ "") (elsewhere : path.isHere = false) :
    (descend path parts).anchored = path.anchored ∧ (descend path parts).text ≠ "" ∧
      (descend path parts).isHere = false := by
  induction parts generalizing path with
  | nil => exact ⟨rfl, filled, elsewhere⟩
  | cons part rest ih =>
    obtain ⟨first, others⟩ := List.forall_mem_cons.mp inner
    have relative : (Path.mk (String.ofList part)).isAbsolute = false :=
      Path.isAbsolute_of_inner (by rwa [String.toList_ofList])
    rw [descend, List.foldl_cons, child_eq_join, settled_of_elsewhere elsewhere, ← descend,
      ← Path.anchored_join relative filled]
    exact ih others (Path.join_filled_left relative filled)
      (elsewhere_join relative filled elsewhere)

theorem first_part {text first : List Char} {others : List (List Char)}
    (parts : text.splitOn '/' = first :: others) :
    text = first ∨ ∃ more, text = first ++ '/' :: more := by
  have whole : ['/'].intercalate (text.splitOn '/') = text := List.intercalate_splitOn '/'
  rw [parts] at whole
  cases others with
  | nil => exact .inl (by rw [← whole, List.intercalate_singleton])
  | cons second others =>
    rw [List.intercalate_cons_cons, List.append_assoc] at whole
    exact .inr ⟨_, whole.symm⟩

theorem closedParts_cons {text first : List Char} {others : List (List Char)}
    (parts : text.splitOn '/' = first :: others) (filled : first ≠ []) :
    ∃ rest, closedParts text = first :: rest := by
  rw [closedParts, parts]
  split
  · rename_i last
    cases others with
    | nil => exact absurd (Option.some.inj last) filled
    | cons second others => exact ⟨_, List.dropLast_cons_cons⟩
  · exact ⟨others, rfl⟩

theorem reach_anchored {base : Path} (filled : base.text ≠ "")
    (undotted : base.components.head? ≠ some .here) :
    (reach base).anchored = base.anchored ∧ (reach base).text ≠ "" ∧
      (reach base).isHere = false := by
  have inner : ∀ part ∈ componentTexts base.text.toList, '/' ∉ part := fun part member =>
    slash_not_mem_componentTexts member
  cases absolute : base.isAbsolute with
  | true =>
    have start : startOf base = ⟨"/"⟩ := by rw [startOf, absolute]; rfl
    rw [reach, start]
    obtain ⟨rest, text⟩ := List.head?_eq_some_iff.mp (of_decide_eq_true absolute)
    have root : base.anchored = [.root] := by rw [Path.anchored, text]; rfl
    rw [root]
    exact descend_anchored inner (by decide) (by decide)
  | false =>
    -- The first part stands for itself, and shows what the base starts from.
    have head : base.text.toList.head? ≠ some '/' := of_decide_eq_false absolute
    obtain ⟨first, others, parts⟩ :=
      List.exists_cons_of_ne_nil (List.splitOn_ne_nil '/' base.text.toList)
    have whole := first_part parts
    have some : first ≠ [] := by
      rintro rfl
      rcases whole with whole | ⟨more, whole⟩
      · exact filled (by simpa using whole)
      · exact head (by rw [whole]; rfl)
    have anchor : (Path.mk (String.ofList first)).anchored = base.anchored := by
      rw [Path.anchored, Path.anchored, String.toList_ofList]
      rcases whole with whole | ⟨more, whole⟩
      · rw [whole]
      · rw [whole, Path.splitAnchor_slash some]
    have elsewhere : (Path.mk (String.ofList first)).isHere = false := by
      rw [Bool.eq_false_iff, ne_eq, Path.isHere_iff, anchor]
      rintro ⟨here, -⟩
      rw [Path.components_eq_trail, here] at undotted
      exact undotted rfl
    obtain ⟨rest, closed⟩ := closedParts_cons parts some
    rw [componentTexts_eq, body_relative head, closed] at inner
    have reached : reach base = descend ⟨String.ofList first⟩ rest := by
      rw [reach, startOf, absolute, componentTexts_eq, body_relative head, closed]
      rfl
    rw [reached, ← anchor]
    exact descend_anchored (List.forall_mem_cons.mp inner).2 (by simpa using some) elsewhere

variable {fs : FileSystem}

theorem run_literals {steps : Nat} {parts : List (List Char)} {components : List Pattern}
    {path last : Path}
    (run : Run fs (steps + parts.length) (parts.map Pattern.verbatim ++ components) path last) :
    Run fs steps components (descend path parts) last := by
  induction parts generalizing path with
  | nil => exact run
  | cons part rest ih =>
    cases run with
    | step move run =>
      have spelled := Pattern.literal?_verbatim part
      cases move with
      | literal same taken =>
        obtain rfl := Option.some.inj (spelled.symm.trans same)
        exact ih run
      | special wild | entry wild | final wild | next wild | deeper wild =>
        rw [spelled] at wild
        contradiction

theorem mapM_eq_ok_iff {α β ε : Type} {f : α → Except ε β} {items : List α} {results : List β} :
    items.mapM f = .ok results ↔ List.Forall₂ (fun item result => f item = .ok result) items
      results := by
  induction items generalizing results with
  | nil => cases results <;> simp [pure, Except.pure]
  | cons item rest ih =>
    rw [List.mapM_cons]
    cases first : f item with
    | error => cases results <;> simp [first, bind, Except.bind]
    | ok value =>
      cases others : rest.mapM f with
      | error => cases results <;> simp [others, ← ih, bind, Except.bind]
      | ok values =>
        cases results <;> simp [first, others, ← ih, bind, Except.bind, pure, Except.pure]

theorem exists_mapM_ok {α β ε : Type} {f : α → Except ε β} {items : List α}
    (all : ∀ item ∈ items, ∃ result, f item = .ok result) :
    ∃ results, items.mapM f = .ok results := by
  induction items with
  | nil => exact ⟨[], rfl⟩
  | cons item rest ih =>
    obtain ⟨⟨first, one⟩, others⟩ := List.forall_mem_cons.mp all
    obtain ⟨results, more⟩ := ih others
    exact ⟨first :: results, mapM_eq_ok_iff.mpr (.cons one (mapM_eq_ok_iff.mp more))⟩

/-- What holds of every component that can be read holds of the components. -/
theorem forall_parsed {text : List Char} {parts : List Pattern} {p : Pattern → Prop}
    (all : ∀ part ∈ componentTexts text, ∀ component,
      Pattern.parse (String.ofList part) = .ok component → p component)
    (parsed : (componentTexts text).mapM (fun part => Pattern.parse (String.ofList part)) =
      .ok parts) : ∀ component ∈ parts, p component := by
  intro component known
  obtain ⟨part, known, read⟩ := mem_of_mapM_eq_ok parsed known
  exact all part known component read

theorem inner_of_parsed {text : List Char} {parts : List Pattern}
    (parsed : (componentTexts text).mapM (fun part => Pattern.parse (String.ofList part)) =
      .ok parts) : ∀ component ∈ parts, component.Inner :=
  forall_parsed (fun _ known _ read =>
    Pattern.inner_of_parse (slash_not_mem_componentTexts known) read) parsed

theorem mapM_verbatim {parts : List (List Char)}
    (plain : ∀ part ∈ parts, ∀ c ∈ part, c ≠ '*' ∧ c ≠ '?' ∧ c ≠ '[') :
    parts.mapM (fun part => Pattern.parse (String.ofList part)) =
      .ok (parts.map Pattern.verbatim) := by
  induction parts with
  | nil => rfl
  | cons part rest ih =>
    obtain ⟨first, others⟩ := List.forall_mem_cons.mp plain
    rw [List.mapM_cons, Pattern.parse_verbatim first, ih others]
    rfl

theorem join_text_ne_slash (base : Path) {text : String}
    (relative : (Path.mk text).isAbsolute = false) (filled : text ≠ "") :
    (base.join ⟨text⟩).text ≠ "/" := by
  rw [Path.join_eq_stem relative]
  intro slash
  have one : base.stem.toList ++ text.toList = ['/'] := by
    rw [← String.toList_append]
    exact congrArg String.toList slash
  rcases List.append_eq_singleton_iff.mp one with ⟨-, whole⟩ | ⟨-, none⟩
  · exact of_decide_eq_false relative (by simp [whole])
  · exact filled (by simpa using none)

/-- A pattern that can be read can be read below a directory without wildcards. -/
theorem parse_join {base : Path} {text : String} (verbatim : Pattern.isVerbatim base.text = true)
    (relative : (Path.mk text).isAbsolute = false) {pattern : Pattern}
    (read : Pattern.parse text = .ok pattern) :
    ∃ whole, Pattern.parse (base.join ⟨text⟩).text = .ok whole := by
  rw [Path.join_eq_stem relative, Pattern.parse, String.toList_append]
  rcases base.stem_closed with none | slash
  · rw [none]
    exact ⟨pattern, read⟩
  · have plain : ∀ c ∈ base.stem.toList, c ≠ '*' ∧ c ≠ '?' ∧ c ≠ '[' := by
      intro c member
      rcases base.mem_stem member with rfl | member
      · decide
      · exact Pattern.isVerbatim_iff.mp verbatim c member
    rw [Pattern.parseFrom_behind plain slash (Pattern.parse_eq_ok_iff.mp read)]
    exact ⟨_, rfl⟩

/-- A pattern below a directory without wildcards has the components of the directory in front
of its own. -/
theorem components_join {base : Path} {text : String}
    (verbatim : Pattern.isVerbatim base.text = true)
    (relative : (Path.mk text).isAbsolute = false) (filled : text ≠ "") {all : List Pattern} :
    components (base.join ⟨text⟩).text = .ok all ↔
      (∃ pattern, Pattern.parse (base.join ⟨text⟩).text = .ok pattern) ∧
      ∃ parts, (componentTexts text.toList).mapM
          (fun part => Pattern.parse (String.ofList part)) = .ok parts ∧
        all = (componentTexts base.text.toList).map Pattern.verbatim ++ parts := by
  have above : (componentTexts base.text.toList).mapM
      (fun part => Pattern.parse (String.ofList part)) =
        .ok ((componentTexts base.text.toList).map Pattern.verbatim) :=
    mapM_verbatim fun part member c inside =>
      Pattern.isVerbatim_iff.mp verbatim c (mem_of_mem_componentTexts member inside)
  have longer := join_text_ne_slash base relative filled
  rw [components, componentTexts_join base relative, List.mapM_append, above]
  cases Pattern.parse (base.join ⟨text⟩).text with
  | error => simp [bind, Except.bind]
  | ok pattern =>
    cases (componentTexts text.toList).mapM fun part => Pattern.parse (String.ofList part) with
    | error => simp [bind, Except.bind]
    | ok parts =>
      simp only [bind, Except.bind, pure, Except.pure, Except.ok.injEq, exists_eq', true_and,
        exists_eq_left', if_neg longer]
      exact eq_comm

theorem mem_expand_join {base path : Path} {text : String}
    (relative : (Path.mk text).isAbsolute = false) {front parts : List Pattern} {paths : List Path}
    (read : components (base.join ⟨text⟩).text = .ok (front ++ parts))
    (expanded : expand fs (base.join ⟨text⟩).text = .ok paths) :
    path ∈ paths ↔
      Run fs (FileSystem.maxPathBytes + parts.length + 2 + front.length) (front ++ parts)
          (startOf base) path ∧
        ((base.join ⟨text⟩).text.toList.getLast? = some '/' → fs.isDir path = true) := by
  have start : (Path.mk (base.join ⟨text⟩).text).isAbsolute = base.isAbsolute :=
    Path.isAbsolute_join_relative relative base
  have steps : FileSystem.maxPathBytes + (front ++ parts).length + 2 =
      FileSystem.maxPathBytes + parts.length + 2 + front.length := by
    rw [List.length_append]
    omega
  simp only [expand, read, bind, Except.bind, Except.ok.injEq, start] at expanded
  rw [← expanded, mem_expandFrom_iff_run, steps, decide_eq_true_iff]
  rfl

/-- What a pattern below a directory without wildcards stands for is found by a run of the
pattern's own components, from the path that the directory's components lead to. -/
theorem run_of_mem_expand {base path : Path} {text : String} {paths : List Path}
    (verbatim : Pattern.isVerbatim base.text = true)
    (relative : (Path.mk text).isAbsolute = false) (filled : text ≠ "")
    (expanded : expand fs (base.join ⟨text⟩).text = .ok paths) (member : path ∈ paths) :
    ∃ parts, (componentTexts text.toList).mapM (fun part => Pattern.parse (String.ofList part)) =
        .ok parts ∧
      Run fs (FileSystem.maxPathBytes + parts.length + 2) parts (reach base) path := by
  cases read : components (base.join ⟨text⟩).text with
  | error => simp [expand, read, bind, Except.bind] at expanded
  | ok all =>
    obtain ⟨-, parts, parsed, rfl⟩ := (components_join verbatim relative filled).mp read
    obtain ⟨run, -⟩ := (mem_expand_join relative read expanded).mp member
    rw [List.length_map] at run
    exact ⟨parts, parsed, run_literals run⟩

end Base

end Glob

end AttributePins
