import AttributePins.Proofs.Path.Spelling

/-! The parents of a path, read off its text. A parent is a shorter piece of the same text, it
starts where the path starts, and its trail lacks the last part. What has no parent has no trail,
so a relative path is followed up to where it starts and no further. -/
namespace AttributePins.Path

/-- The parts of a text that are not void. -/
def parts (text : List Char) : List (List Char) :=
  (text.splitOn '/').filter fun part => !isVoid part

theorem trail_eq_parts (path : Path) :
    path.trail = (parts path.text.toList).map String.ofList := rfl

theorem parts_slash (front rest : List Char) :
    parts (front ++ '/' :: rest) = parts front ++ parts rest := by
  rw [parts, List.splitOn_append_cons_self, List.filter_append]
  rfl

theorem parts_behind_slash (rest : List Char) : parts ('/' :: rest) = parts rest :=
  parts_slash [] rest

theorem parts_closed (front : List Char) : parts (front ++ ['/']) = parts front := by
  rw [parts_slash]
  exact List.append_nil _

theorem parts_solid {part : List Char} (inner : '/' ∉ part) (solid : isVoid part = false) :
    parts part = [part] := by
  rw [parts, List.splitOn_eq_singleton inner, List.filter_cons_of_pos (by simp [solid]),
    List.filter_nil]

section Trimming

theorem trimVoid_suffix (text : List Char) : trimVoid text <:+ text := by
  fun_induction trimVoid text with
  | case1 rest ih => exact ih.trans (List.suffix_cons '/' rest)
  | case2 => exact List.nil_suffix
  | case3 rest ih => exact ih.trans ((List.suffix_cons '/' rest).trans (List.suffix_cons '.' _))
  | case4 => exact List.suffix_rfl

theorem parts_trimVoid (text : List Char) : parts (trimVoid text).reverse = parts text.reverse := by
  fun_induction trimVoid text with
  | case1 rest ih => rw [ih, List.reverse_cons, parts_closed]
  | case2 => rfl
  | case3 rest ih =>
    rw [ih, List.reverse_cons, List.reverse_cons, List.append_assoc, List.singleton_append,
      parts_slash]
    exact (List.append_nil _).symm
  | case4 => rfl

/-- The last part of a trimmed text counts. -/
theorem last_part_solid {text : List Char} (some : trimVoid text ≠ []) :
    isVoid ((trimVoid text).takeWhile (· ≠ '/')).reverse = false := by
  fun_induction trimVoid text with
  | case1 rest ih => exact ih some
  | case2 => contradiction
  | case3 rest ih => exact ih some
  | case4 text slash dot dotSlash =>
    obtain ⟨first, rest, rfl⟩ := List.exists_cons_of_ne_nil some
    have notSlash : first ≠ '/' := fun same => slash rest (by rw [same])
    rw [List.takeWhile_cons_of_pos (by simpa using notSlash), List.reverse_cons]
    have single : ¬ (first = '.' ∧ rest.takeWhile (· ≠ '/') = []) := by
      rintro ⟨rfl, none⟩
      cases rest with
      | nil => exact dot rfl
      | cons second more =>
        by_cases next : second = '/'
        · exact dotSlash more (by rw [next])
        · rw [List.takeWhile_cons_of_pos (by simpa using next)] at none
          cases none
    simp only [isVoid, Bool.or_eq_false_iff, decide_eq_false_iff_not]
    refine ⟨by simp, fun same => single ?_⟩
    obtain ⟨none, last⟩ := List.append_eq_singleton_iff.mp same |>.resolve_right (by simp)
    exact ⟨List.singleton_inj.mp last, List.reverse_eq_nil_iff.mp none⟩

/-- Cutting a trimmed text at its last slash and trimming it again takes the last part away. -/
theorem parts_cut {text : List Char} (some : trimVoid text ≠ []) :
    ∃ part, parts (trimVoid text).reverse =
      parts (trimVoid ((trimVoid text).dropWhile (· ≠ '/'))).reverse ++ [part] := by
  have solid := last_part_solid some
  have inner : '/' ∉ ((trimVoid text).takeWhile (· ≠ '/')).reverse := by
    rw [List.mem_reverse]
    intro member
    simpa using List.all_eq_true.mp (List.all_takeWhile (p := (· ≠ '/'))) '/' member
  have last := parts_solid inner solid
  refine ⟨((trimVoid text).takeWhile (· ≠ '/')).reverse, ?_⟩
  rw [parts_trimVoid ((trimVoid text).dropWhile (· ≠ '/'))]
  conv_lhs => rw [← List.takeWhile_append_dropWhile (p := (· ≠ '/')) (l := trimVoid text)]
  cases cut : (trimVoid text).dropWhile (· ≠ '/') with
  | nil =>
    rw [List.append_nil, last]
    rfl
  | cons c more =>
    obtain rfl : c = '/' := by
      have head := List.head?_dropWhile_not (· ≠ '/') (trimVoid text)
      rw [cut] at head
      simpa using head
    rw [List.reverse_append, List.reverse_cons, parts_closed, List.append_assoc,
      List.singleton_append, parts_slash, last]

theorem trimVoid_ne_here (text : List Char) : trimVoid text ≠ ['.'] := by
  fun_induction trimVoid text with
  | case1 rest ih => exact ih
  | case2 => simp
  | case3 rest ih => exact ih
  | case4 text slash dot dotSlash => exact dot

end Trimming

/-- What a text starts from is no part, and says alone whether the text is absolute. -/
theorem parts_anchor (text : List Char) {kept : List Char} (within : kept <+: (splitAnchor text).2) :
    parts ((splitAnchor text).1 ++ kept) = parts kept ∧
      (((splitAnchor text).1 ++ kept).head? = some '/' ↔ text.head? = some '/') := by
  unfold splitAnchor at within ⊢
  split at within
  · exact ⟨parts_behind_slash kept, by simp⟩
  · obtain rfl := List.prefix_nil.mp within
    exact ⟨rfl, .rfl⟩
  · rename_i rest
    refine ⟨?_, by simp⟩
    cases kept with
    | nil => rfl
    | cons c more =>
      obtain ⟨rfl, -⟩ := List.cons_prefix_cons.mp within
      rw [parts_slash, parts_behind_slash]
      rfl
  · rename_i slash _ _
    refine ⟨by rw [List.nil_append], ?_⟩
    have relative : text.head? ≠ some '/' := by
      intro head
      obtain ⟨rest, rfl⟩ := List.head?_eq_some_iff.mp head
      exact slash rest rfl
    refine iff_of_false (fun head => relative ?_) relative
    obtain ⟨rest, rfl⟩ := List.head?_eq_some_iff.mp head
    obtain ⟨more, rfl⟩ := within
    rfl

theorem parts_body (text : List Char) : parts (splitAnchor text).2 = parts text := by
  have whole := (parts_anchor text (List.prefix_refl _)).1
  rw [splitAnchor_append] at whole
  exact whole.symm

theorem splitAnchor_within (text : List Char) {kept : List Char}
    (within : kept <+: (splitAnchor text).2) (notHere : kept ≠ ['.']) :
    (splitAnchor ((splitAnchor text).1 ++ kept)).1 = (splitAnchor text).1 := by
  unfold splitAnchor at within ⊢
  split at within
  · rfl
  · obtain rfl := List.prefix_nil.mp within
    rfl
  · cases kept with
    | nil => rfl
    | cons c more =>
      obtain ⟨rfl, -⟩ := List.cons_prefix_cons.mp within
      rfl
  · rename_i slash _ dotSlash
    obtain ⟨rest, rfl⟩ := within
    rw [List.nil_append]
    split
    · exact absurd rfl (slash _)
    · contradiction
    · exact absurd rfl (dotSlash _)
    · rfl

theorem parentText?_eq (text : List Char) :
    parentText? text =
      if (trimVoid (splitAnchor text).2.reverse).isEmpty then
        if (splitAnchor text).1 = ['.'] then some [] else none
      else some ((splitAnchor text).1 ++
        (trimVoid ((trimVoid (splitAnchor text).2.reverse).dropWhile (· ≠ '/'))).reverse) := rfl

theorem parts_trimmed_body (text : List Char) :
    parts (trimVoid (splitAnchor text).2.reverse).reverse = parts text := by
  rw [parts_trimVoid, List.reverse_reverse, parts_body]

/-- A text without parts has a parent only if it starts with a `.`, and then the parent is empty.
Any other parent keeps the start and all parts but the last. -/
theorem parentText?_cases {text parent : List Char} (found : parentText? text = some parent) :
    (splitAnchor text).1 = ['.'] ∧ parts text = [] ∧ parent = [] ∨
      ∃ kept part, parent = (splitAnchor text).1 ++ kept ∧ kept <+: (splitAnchor text).2 ∧
        kept ≠ ['.'] ∧ parts text = parts kept ++ [part] := by
  rw [parentText?_eq] at found
  split at found
  · rename_i none
    split at found
    · rename_i here
      refine .inl ⟨here, ?_, (Option.some.inj found).symm⟩
      rw [← parts_trimmed_body, List.isEmpty_iff.mp none]
      rfl
    · contradiction
  · rename_i some
    obtain ⟨part, cut⟩ := parts_cut (by simpa using some)
    rw [parts_trimmed_body] at cut
    refine .inr ⟨_, part, (Option.some.inj found).symm, ?_, ?_, cut⟩
    · rw [← List.reverse_suffix, List.reverse_reverse]
      exact (trimVoid_suffix _).trans ((List.dropWhile_suffix _).trans (trimVoid_suffix _))
    · rw [Ne, List.reverse_eq_iff]
      exact trimVoid_ne_here _

variable {path parent : Path}

/-- A parent is a piece of the text that starts alike, and its trail lacks the last part. -/
theorem parent?_eq_some (found : path.parent? = some parent) :
    parent.text.toList <+: path.text.toList ∧ parent.isAbsolute = path.isAbsolute ∧
      parent.trail = path.trail.dropLast := by
  obtain ⟨text, read, rfl⟩ := Option.map_eq_some_iff.mp found
  simp only [isAbsolute, trail_eq_parts, String.toList_ofList, ← List.map_dropLast, decide_eq_decide]
  obtain ⟨here, none, rfl⟩ | ⟨kept, part, rfl, within, -, cut⟩ := parentText?_cases read
  · have start := (parts_anchor path.text.toList List.nil_prefix).2
    rw [here] at start
    refine ⟨List.nil_prefix, iff_of_false (by simp) (start.not.mp (by decide)), ?_⟩
    rw [none]
    rfl
  · obtain ⟨same, start⟩ := parts_anchor path.text.toList within
    refine ⟨?_, start, by rw [same, cut, List.dropLast_concat]⟩
    conv_rhs => rw [← splitAnchor_append path.text.toList]
    exact (List.prefix_append_right_inj _).mpr within

/-- A parent has all components but the last, which is never the root. -/
theorem components_of_parent? (found : path.parent? = some parent) :
    ∃ last, last ≠ Component.root ∧ path.components = parent.components ++ [last] := by
  obtain ⟨text, read, rfl⟩ := Option.map_eq_some_iff.mp found
  simp only [components_eq_trail, trail_eq_parts, anchored, String.toList_ofList]
  obtain ⟨here, none, rfl⟩ | ⟨kept, part, rfl, within, notHere, cut⟩ := parentText?_cases read
  · refine ⟨.here, by decide, ?_⟩
    rw [here, none]
    rfl
  · refine ⟨Component.ofPart part, ?_, ?_⟩
    · rw [Component.ofPart]
      split <;> simp
    · rw [splitAnchor_within _ within notHere, (parts_anchor _ within).1, cut]
      simp

theorem trail_of_parent?_eq_none (found : path.parent? = none) : path.trail = [] := by
  have none := Option.map_eq_none_iff.mp found
  rw [parentText?_eq] at none
  split at none
  · rename_i empty
    rw [trail_eq_parts, ← parts_trimmed_body, List.isEmpty_iff.mp empty]
    rfl
  · contradiction

/-- Without a parent there is no component, unless it is the root. -/
theorem components_of_parent?_eq_none (found : path.parent? = none) :
    ∀ component ∈ path.components, component = .root := by
  have none := Option.map_eq_none_iff.mp found
  rw [parentText?_eq] at none
  have relative : (splitAnchor path.text.toList).1 ≠ ['.'] := by
    intro here
    rw [if_pos here] at none
    split at none <;> contradiction
  rw [components_eq_trail, trail_of_parent?_eq_none found, anchored]
  split <;> simp_all

theorem ancestors_eq_cons (path : Path) : ∃ above, path.ancestors = path :: above := by
  rw [ancestors]
  exact ⟨_, rfl⟩

theorem ancestors_of_none (found : path.parent? = none) : path.ancestors = [path] := by
  rw [ancestors]
  split
  · rfl
  · rename_i other
    rw [found] at other
    cases other

theorem ancestors_of_some (found : path.parent? = some parent) :
    path.ancestors = path :: parent.ancestors := by
  rw [ancestors]
  split
  · rename_i none
    rw [found] at none
    cases none
  · rename_i other same
    rw [found] at same
    rw [Option.some.inj same]

/-- The path that is so many parents up, if there is one. -/
def ancestor? (path : Path) : Nat → Option Path
  | 0 => some path
  | n + 1 => (path.ancestor? n).bind parent?

theorem ancestor?_succ (path : Path) (n : Nat) :
    path.ancestor? (n + 1) = path.parent?.bind fun parent => parent.ancestor? n := by
  induction n with
  | zero => cases found : path.parent? <;> simp [ancestor?, found]
  | succ n ih =>
    rw [ancestor?, ih, Option.bind_assoc]
    rfl

theorem getElem?_ancestors (path : Path) (n : Nat) : path.ancestors[n]? = path.ancestor? n := by
  induction path using ancestors.induct generalizing n with
  | _ path ih =>
    cases found : path.parent? with
    | none =>
      rw [ancestors_of_none found]
      cases n with
      | zero => rfl
      | succ n => simp [ancestor?_succ, found]
    | some parent =>
      rw [ancestors_of_some found]
      cases n with
      | zero => rfl
      | succ n =>
        rw [List.getElem?_cons_succ, ih parent found, ancestor?_succ, found, Option.bind_some]

/-- How many components can be taken off a path: all but the root. -/
def height (path : Path) : Nat := (path.components.filter (· ≠ .root)).length

theorem isSome_ancestor?_iff (path : Path) (n : Nat) :
    (path.ancestor? n).isSome = true ↔ n ≤ path.height := by
  induction n generalizing path with
  | zero => simp [ancestor?]
  | succ n ih =>
    rw [ancestor?_succ]
    cases found : path.parent? with
    | none =>
      have level : path.height = 0 := by
        simpa [height] using components_of_parent?_eq_none found
      simp [level]
    | some parent =>
      obtain ⟨last, notRoot, components⟩ := components_of_parent? found
      have step : path.height = parent.height + 1 := by
        rw [height, components, List.filter_append, List.filter_singleton, height]
        simp [notRoot]
      rw [Option.bind_some, ih, step, Nat.add_le_add_iff_right]

/-- So many parents up, as many components are gone from the end. -/
theorem components_of_ancestor? {n : Nat} {directory : Path}
    (found : path.ancestor? n = some directory) :
    ∃ names, names.length = n ∧ path.components = directory.components ++ names := by
  induction n generalizing directory with
  | zero =>
    obtain rfl := Option.some.inj found
    exact ⟨[], rfl, (List.append_nil _).symm⟩
  | succ n ih =>
    obtain ⟨below, known, parent⟩ := Option.bind_eq_some_iff.mp found
    obtain ⟨names, rfl, whole⟩ := ih known
    obtain ⟨last, -, components⟩ := components_of_parent? parent
    exact ⟨last :: names, rfl, by simp [whole, components]⟩

/-- Void parts are no steps on the way up, and `..` is one. -/
example : (List.range 4).map (Path.mk "shop//./..").ancestor? =
    [some ⟨"shop//./.."⟩, some ⟨"shop"⟩, some ⟨""⟩, none] := by decide +kernel

end AttributePins.Path
