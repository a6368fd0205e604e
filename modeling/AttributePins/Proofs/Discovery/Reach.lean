import AttributePins.Proofs.Discovery.Origin

/-! How an expansion gets to a base directory. The components of a base without wildcards spell it
again, but for a `.` in front, so the path that they lead to is no longer than the base and leads
to the same directory. Each of them is taken on the way, unless one is empty: names in the directory
`.` stand for themselves, and an empty name stands for nothing. -/
namespace AttributePins.Glob

section Base

variable {fs : FileSystem} {base path last : Path} {home : List String}

/-- What literal components spell, with a slash behind each. -/
def slashed (parts : List (List Char)) : List Char := parts.flatMap (· ++ ['/'])

theorem slashed_cons (part : List Char) (rest : List (List Char)) :
    slashed (part :: rest) = (part ++ ['/']) ++ slashed rest := List.flatMap_cons

theorem slashed_splitOn (text : List Char) : slashed (text.splitOn '/') = text ++ ['/'] := by
  induction text with
  | nil => rfl
  | cons c rest ih =>
    rw [List.splitOn_cons_eq_if_modifyHead]
    obtain ⟨first, others, parts⟩ := List.exists_cons_of_ne_nil (List.splitOn_ne_nil '/' rest)
    rw [parts] at ih ⊢
    rw [slashed_cons] at ih
    split
    · rename_i slash
      rw [beq_iff_eq.mp slash, List.cons_append, ← ih, slashed_cons, slashed_cons]
      rfl
    · rw [List.modifyHead_cons, List.cons_append, ← ih, slashed_cons]
      rfl

theorem slashed_closedParts (text : List Char) :
    slashed (closedParts text) =
      if text = [] ∨ text.getLast? = some '/' then text else text ++ ['/'] := by
  have whole := slashed_splitOn text
  simp only [closedParts, getLast?_splitOn_iff]
  split
  · rename_i last
    obtain ⟨front, parts⟩ := List.getLast?_eq_some_iff.mp ((getLast?_splitOn_iff text).mpr last)
    rw [parts, slashed, List.flatMap_append] at whole
    rw [parts, List.dropLast_concat]
    exact List.append_cancel_right whole
  · exact whole

/-- The stem of a directory is what its components spell, one slash behind each. -/
theorem stem_eq_slashed (filled : base.text ≠ "") :
    base.stem.toList =
      (settled (startOf base)).stem.toList ++ slashed (componentTexts base.text.toList) := by
  have stem : base.stem.toList =
      if base.text.toList.getLast? = some '/' then base.text.toList
      else base.text.toList ++ ['/'] := by
    rw [Path.stem, Path.hasEndSlash]
    by_cases slash : base.text.toList.getLast? = some '/'
    · simp [slash]
    · simp [slash, filled]
  rw [stem, componentTexts_eq, slashed_closedParts]
  cases absolute : base.isAbsolute with
  | true =>
    obtain ⟨rest, text⟩ := List.head?_eq_some_iff.mp (of_decide_eq_true absolute)
    rw [startOf, absolute, text]
    cases rest with
    | nil => rfl
    | cons c rest =>
      rw [List.getLast?_cons_cons]
      simp only [body, List.cons_ne_nil, false_or]
      split <;> rfl
  | false =>
    have head : base.text.toList.head? ≠ some '/' := of_decide_eq_false absolute
    have none : base.text.toList ≠ [] := by simpa using filled
    rw [startOf, absolute, body_relative head]
    simp only [none, false_or]
    rfl

theorem descend_cons (path : Path) (part : List Char) (rest : List (List Char)) :
    descend path (part :: rest) = descend (child path (String.ofList part)) rest := rfl

theorem child_filled_of_solid {part : List Char} (solid : part ≠ []) (inner : '/' ∉ part)
    (path : Path) : (child path (String.ofList part)).text ≠ "" := by
  rw [child_eq_join]
  exact Path.join_filled _ (by simpa using solid) (by rwa [String.toList_ofList])

/-- A path with a text, which is `.` if the path is the directory `.` at all. -/
def Rooted (path : Path) : Prop := path.text ≠ "" ∧ (path.isHere = true → path = ⟨"."⟩)

theorem rooted_startOf (base : Path) : Rooted (startOf base) := by
  rw [startOf]
  split
  · exact ⟨by decide, fun here => absurd here (by decide)⟩
  · exact ⟨by decide, fun _ => rfl⟩

theorem Rooted.child {part : List Char} (rooted : Rooted path) (solid : part ≠ [])
    (inner : '/' ∉ part) : Rooted (child path (String.ofList part)) := by
  have slashless : '/' ∉ (String.ofList part).toList := by rwa [String.toList_ofList]
  have relative := Path.isAbsolute_of_inner slashless
  refine ⟨child_filled_of_solid solid inner path, fun here => ?_⟩
  cases before : path.isHere with
  | false =>
    rw [child_eq_join, settled_of_elsewhere before, elsewhere_join relative rooted.1 before] at here
    contradiction
  | true =>
    rw [Glob.child, before, if_pos rfl] at here ⊢
    have trail := ((Path.isHere_iff _).mp here).2
    rw [Path.trail_of_inner slashless] at trail
    split at trail
    · rename_i void
      rw [void.resolve_left (by simpa using solid)]
    · contradiction

section Parts

variable {parts : List (List Char)} (solid : ∀ part ∈ parts, part ≠ [] ∧ '/' ∉ part)
include solid

theorem Rooted.descend (rooted : Rooted path) : Rooted (descend path parts) := by
  induction parts generalizing path with
  | nil => exact rooted
  | cons part rest ih =>
    obtain ⟨first, others⟩ := List.forall_mem_cons.mp solid
    exact ih others (rooted.child first.1 first.2)

/-- The text that literal components lead to ends what they spell. -/
theorem descend_suffix (path : Path) :
    (settled (Glob.descend path parts)).stem.toList <:+
      (settled path).stem.toList ++ slashed parts := by
  induction parts generalizing path with
  | nil =>
    rw [Glob.descend, List.foldl_nil, slashed, List.flatMap_nil, List.append_nil]
  | cons part rest ih =>
    obtain ⟨⟨first, inner⟩, others⟩ := List.forall_mem_cons.mp solid
    have stem : (child path (String.ofList part)).stem.toList =
        (settled path).stem.toList ++ (part ++ ['/']) := by
      rw [child_eq_join, Path.stem_join (by simpa using first) (by rwa [String.toList_ofList])]
      simp
    have own (path : Path) : (settled path).stem.toList <:+ path.stem.toList := by
      rw [settled]
      split
      · exact List.nil_suffix
      · exact List.suffix_refl _
    obtain ⟨front, whole⟩ := own (child path (String.ofList part))
    have below := ih others (child path (String.ofList part))
    rw [descend_cons, slashed_cons, ← List.append_assoc, ← stem, ← whole, List.append_assoc]
    exact below.trans (List.suffix_append front _)

theorem isDir_of_descend (plain : fs.Plain) (rooted : Rooted path)
    (directory : fs.isDir (Glob.descend path parts) = true) : fs.isDir path = true := by
  induction parts generalizing path with
  | nil => exact directory
  | cons part rest ih =>
    obtain ⟨⟨first, inner⟩, others⟩ := List.forall_mem_cons.mp solid
    have below := ih others (rooted.child first inner) directory
    cases here : path.isHere with
    | true =>
      rw [rooted.2 here]
      exact (plain.isDir_iff_dirAt _).mpr ⟨fs.cwd, plain.dirAt_here⟩
    | false =>
      obtain ⟨target, led, -⟩ := (plain.isDir_iff_leads? _).mp below
      rw [child_eq_join, settled_of_elsewhere here] at led
      obtain ⟨place, led, kind, -⟩ := plain.leads?_join rooted.1 (by rwa [String.toList_ofList]) led
      exact (plain.isDir_iff_leads? path).mpr ⟨place, led, kind⟩

/-- Literal components are taken on the way to a directory. -/
theorem run_descend (plain : fs.Plain) {steps : Nat} {components : List Pattern}
    (rooted : Rooted path) (directory : fs.isDir (Glob.descend path parts) = true)
    (run : Run fs steps components (Glob.descend path parts) last) :
    Run fs (steps + parts.length) (parts.map Pattern.verbatim ++ components) path last := by
  induction parts generalizing path with
  | nil => exact run
  | cons part rest ih =>
    obtain ⟨⟨first, inner⟩, others⟩ := List.forall_mem_cons.mp solid
    have next := rooted.child first inner
    have taken : takesLiteral fs path (String.ofList part) = true := by
      rw [takesLiteral_iff plain]
      split
      · exact isDir_of_descend solid plain rooted directory
      · have below := isDir_of_descend others plain next directory
        obtain ⟨target, led, -⟩ := (plain.isDir_iff_leads? _).mp below
        exact ⟨target, led⟩
    exact .step (.literal (Pattern.literal?_verbatim part) taken) (ih others next directory run)

end Parts

section Reach

variable (solid : ∀ part ∈ componentTexts base.text.toList, part ≠ [])
include solid

theorem solid_inner : ∀ part ∈ componentTexts base.text.toList, part ≠ [] ∧ '/' ∉ part :=
  fun part member => ⟨solid part member, slash_not_mem_componentTexts member⟩

theorem rooted_reach : Rooted (reach base) := (rooted_startOf base).descend (solid_inner solid)

theorem reach_suffix (filled : base.text ≠ "") :
    (settled (reach base)).stem.toList <:+ base.stem.toList := by
  rw [stem_eq_slashed filled]
  exact descend_suffix (solid_inner solid) _

theorem size_reach (filled : base.text ≠ "") (elsewhere : (reach base).isHere = false) :
    (reach base).stem.utf8ByteSize ≤ base.stem.utf8ByteSize := by
  obtain ⟨front, whole⟩ := reach_suffix solid filled
  rw [settled_of_elsewhere elsewhere] at whole
  have text : String.ofList front ++ (reach base).stem = base.stem := by
    rw [← String.toList_inj, String.toList_append, String.toList_ofList, whole]
  rw [← text, String.utf8ByteSize_append]
  exact Nat.le_add_left _ _

/-- The components of a directory lead to the directory. -/
theorem dirAt_reach (plain : fs.Plain) (dir : fs.DirAt base home)
    (short : base.text.utf8ByteSize < FileSystem.maxPathBytes) : fs.DirAt (reach base) home := by
  refine dir.goesOn plain (reach_goesOn base) ?_
  cases here : (reach base).isHere with
  | true =>
    rw [(rooted_reach solid).2 here]
    rfl
  | false =>
    have filled := FileSystem.filled_of_leads? dir.led
    refine (FileSystem.checkText_eq_ok_iff _).mpr ⟨?_, (rooted_reach solid).1, ?_⟩
    · intro nul
      have suffix := reach_suffix solid filled
      rw [settled_of_elsewhere here] at suffix
      rcases base.mem_stem (suffix.subset (Path.mem_stem_of_mem nul)) with slash | nul
      · exact absurd slash (by decide)
      · exact FileSystem.nul_not_mem_of_leads? dir.led nul
    · have := size_reach solid filled here
      have := (reach base).size_text_le
      have := base.size_stem_le
      omega

end Reach

end Base
end AttributePins.Glob
