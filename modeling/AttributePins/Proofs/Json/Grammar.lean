import AttributePins.Proofs.Json.Tokens

/-! The grammar of values, and that skipping follows it. A value is skipped from in front of it to
behind it whatever containers are open and however deep it is nested, and nothing but a value is:
the grammar knows nothing of the stack that the skipping keeps. -/
namespace AttributePins.Json

section Grammar

def Frame.opener : Frame → Char
  | .array => '['
  | .object => '{'

/-- What stands in front of a value within a container: nothing in an array, the name and its
colon in an object. -/
inductive Frame.Label : Frame → List Char → Prop where
  | item : Label .array []
  | member {lead name gap : List Char} (space : IsSpace lead) (text : StringText name)
      (behind : IsSpace gap) : Label .object (lead ++ '"' :: (name ++ '"' :: (gap ++ [':'])))

theorem Frame.Label.eq_nil {label : List Char} (labelled : Frame.array.Label label) :
    label = [] := by
  cases labelled
  rfl

/-- A value within a container, with what stands in front of it and the space around it. -/
structure Part where
  label : List Char
  before : List Char
  value : List Char
  after : List Char

def Part.text (part : Part) : List Char :=
  part.label ++ (part.before ++ (part.value ++ part.after))

/-- Whether a part may stand in a container, if its value is one. -/
structure Part.Fits (frame : Frame) (part : Part) : Prop where
  label : frame.Label part.label
  before : IsSpace part.before
  after : IsSpace part.after

/-- A value: one without parts, or a container with commas between its parts. -/
inductive IsValue : List Char → Prop where
  | scalar {s : List Char} (scalar : IsScalar s) : IsValue s
  | container {frame : Frame} {inside : List Char} {parts : List Part} (space : IsSpace inside)
      (fits : ∀ part ∈ parts, part.Fits frame) (values : ∀ part ∈ parts, IsValue part.value) :
      IsValue (frame.opener ::
        (inside ++ ([','].intercalate (parts.map Part.text) ++ [frame.closer])))

/-- The parts of a container that are still to come and its end, in front of a text. The first part
of all has no comma. -/
def following (first : Bool) (frame : Frame) (parts : List Part) (rest : List Char) : List Char :=
  (if first then [','].intercalate (parts.map Part.text)
    else (parts.map Part.text).flatMap (',' :: ·)) ++ frame.closer :: rest

/-- What stands in front of a part. -/
def comma (first : Bool) : List Char := if first then [] else [',']

theorem comma_append_first (rest : List Char) : comma true ++ rest = rest := rfl

theorem comma_append_next (rest : List Char) : comma false ++ rest = ',' :: rest := rfl

variable {value value' before before' gap rest rest' : List Char}

theorem intercalate_cons (text : List Char) (texts : List (List Char)) :
    [','].intercalate (text :: texts) = text ++ texts.flatMap (',' :: ·) := by
  induction texts generalizing text with
  | nil => simp [List.intercalate]
  | cons next texts ih =>
    have step : [','].intercalate (text :: next :: texts) =
        text ++ ',' :: [','].intercalate (next :: texts) := rfl
    rw [step, ih next, List.flatMap_cons, List.cons_append]

theorem following_nil (first : Bool) (frame : Frame) (rest : List Char) :
    following first frame [] rest = frame.closer :: rest := by
  cases first <;> rfl

theorem following_cons (first : Bool) (frame : Frame) (part : Part) (parts : List Part)
    (rest : List Char) :
    following first frame (part :: parts) rest =
      comma first ++ (part.label ++ (part.before ++
        (part.value ++ (part.after ++ following false frame parts rest)))) := by
  cases first <;> simp [following, comma, Part.text, intercalate_cons]

/-- A container in front of a text. -/
theorem container_append (frame : Frame) (inside : List Char) (parts : List Part)
    (rest : List Char) :
    frame.opener ::
        (inside ++ ([','].intercalate (parts.map Part.text) ++ [frame.closer])) ++ rest =
      frame.opener :: (inside ++ following true frame parts rest) := by
  simp [following]

theorem isValue_empty (frame : Frame) : IsValue [frame.opener, frame.closer] :=
  @IsValue.container frame [] [] isSpace_nil (by simp) (by simp)

theorem isValue_text (text : List Char) (bare : text.all isBare = true) :
    IsValue ('"' :: (text ++ ['"'])) :=
  .scalar (.string (spells_self bare).stringText)

/-- An array of one value. -/
theorem isValue_single (valid : IsValue value) :
    IsValue (Frame.array.opener :: (value ++ [Frame.array.closer])) := by
  have around := @IsValue.container .array [] [⟨[], [], value, []⟩] isSpace_nil
    (by simpa using ⟨.item, isSpace_nil, isSpace_nil⟩) (by simpa using valid)
  simpa [List.intercalate, Part.text] using around

/-- What a value starts with. -/
theorem IsValue.exists_cons (valid : IsValue value) :
    ∃ c more, value = c :: more ∧ startsValue c = true := by
  cases valid with
  | scalar scalar =>
    obtain ⟨c, more, same, starts, -⟩ := scalar.exists_cons
    exact ⟨c, more, same, starts⟩
  | container => exact ⟨_, _, rfl, by cases ‹Frame› <;> rfl⟩

theorem startsValue_iff {c : Char} :
    startsValue c = true ↔ isSpace c = false ∧ c ≠ ']' ∧ c ≠ '}' := by
  simp [startsValue, and_assoc]

theorem endsNumber_gap (space : IsSpace gap) (ends : endsNumber rest = true) :
    endsNumber (gap ++ rest) = true := by
  cases gap with
  | nil => exact ends
  | cons c gap =>
    have blank := space c List.mem_cons_self
    simp only [isSpace, Bool.or_eq_true, decide_eq_true_eq] at blank
    obtain ((rfl | rfl) | rfl) | rfl := blank <;> rfl

end Grammar

section Skipping

variable {stack outer : List Frame} {frame : Frame} {s rest more gap inside label after : List Char}
  {c : Char}

theorem skipValue_gap (space : IsSpace gap) (s : List Char) :
    skipValue stack (gap ++ s) = skipValue stack s := by
  have same := skipSpace_gap space s
  rw [skipValue, skipValue]
  split
  all_goals split
  all_goals grind

theorem skipName_label (labelled : Frame.object.Label label) (rest : List Char) :
    skipName (label ++ rest) = .ok rest := by
  cases labelled with
  | member space text behind =>
    simp only [List.append_assoc, List.cons_append, List.nil_append, skipName,
      skipSpace_to space (c := '"') rfl, skipString_of_text text, Except.bind, afterColon,
      skipSpace_to behind (c := ':') rfl]

theorem exists_of_skipName (skipped : skipName s = .ok rest) :
    ∃ label, Frame.object.Label label ∧ s = label ++ rest := by
  obtain ⟨lead, space, same⟩ := exists_skipSpace s
  unfold skipName at skipped
  split at skipped
  · rename_i tail starts
    cases found : skipString tail with
    | error fault => simp [found, Except.bind] at skipped
    | ok behind =>
      obtain ⟨name, text, rfl⟩ := text_of_skipString found
      obtain ⟨gap, blank, after⟩ := exists_skipSpace behind
      simp only [found, Except.bind, afterColon] at skipped
      split at skipped
      · rename_i colon
        cases skipped
        refine ⟨_, .member space text blank, ?_⟩
        rw [same, starts, after, colon]
        simp
      · contradiction
      · contradiction
  · contradiction
  · contradiction

theorem skipValue_empty (starts : skipSpace s = frame.opener :: rest)
    (ends : skipSpace rest = frame.closer :: more) : skipValue stack s = skipRest stack more := by
  cases frame with
  | array => exact skipValue_emptyArray starts ends
  | object => exact skipValue_emptyObject starts ends

/-- The first part of a container is entered behind its label. -/
theorem skipValue_first
    (starts : skipSpace s = frame.opener :: (inside ++ (label ++ (gap ++ c :: more))))
    (space : IsSpace inside) (labelled : frame.Label label) (blank : IsSpace gap)
    (value : startsValue c = true) :
    skipValue stack s = skipValue (frame :: stack) (gap ++ c :: more) := by
  obtain ⟨solid, item, -⟩ := startsValue_iff.mp value
  cases labelled with
  | item =>
    have next : skipSpace (inside ++ ([] ++ (gap ++ c :: more))) = c :: more := by
      rw [skipSpace_gap space, List.nil_append, skipSpace_to blank solid]
    rw [skipValue_array starts next item, skipValue_gap blank]
  | @member lead name behind led text between =>
    have next : skipSpace (inside ++ (lead ++ '"' :: (name ++ '"' :: (behind ++ [':'])) ++
        (gap ++ c :: more))) = [] ++ '"' :: (name ++ '"' :: (behind ++ [':'])) ++
          (gap ++ c :: more) := by
      rw [skipSpace_gap space, List.append_assoc, List.cons_append, skipSpace_to led rfl]
      rfl
    exact skipValue_object starts next (by decide)
      (skipName_label (.member isSpace_nil text between) _)

/-- The next part of a container is entered behind its label. -/
theorem skipRest_next (starts : skipSpace s = ',' :: (label ++ rest))
    (labelled : frame.Label label) :
    skipRest (frame :: outer) s = skipValue (frame :: outer) rest := by
  cases labelled with
  | item => exact skipRest_item starts
  | member space text behind =>
    exact skipRest_member starts (skipName_label (.member space text behind) rest)

/-- How a value is skipped: from any place, to where what follows it starts. -/
def Skips (value : List Char) : Prop :=
  ∀ {stack : List Frame} {before rest : List Char}, IsSpace before →
    (IsNumber value → endsNumber rest = true) →
      skipValue stack (before ++ (value ++ rest)) = skipRest stack rest

theorem skipSpace_end (first : Bool) (frame : Frame) (space : IsSpace gap) (rest : List Char) :
    skipSpace (gap ++ following first frame [] rest) = frame.closer :: rest := by
  rw [following_nil, skipSpace_to space (by cases frame <;> rfl)]

theorem endsNumber_following (frame : Frame) (parts : List Part) (rest : List Char) :
    endsNumber (following false frame parts rest) = true := by
  cases parts with
  | nil => cases frame <;> rfl
  | cons part parts => rw [following_cons]; rfl

/-- No number goes on behind a part of a container. -/
theorem Part.Fits.ends {part : Part} (fit : part.Fits frame) (parts : List Part)
    (rest : List Char) : endsNumber (part.after ++ following false frame parts rest) = true :=
  endsNumber_gap fit.after (endsNumber_following frame parts rest)

theorem skipRest_following {parts : List Part} (fits : ∀ part ∈ parts, part.Fits frame)
    (skips : ∀ part ∈ parts, Skips part.value) (space : IsSpace gap) :
    skipRest (frame :: outer) (gap ++ following false frame parts rest) = skipRest outer rest := by
  induction parts generalizing gap with
  | nil => exact skipRest_close (skipSpace_end false frame space rest)
  | cons part parts ih =>
    obtain ⟨fit, fits⟩ := List.forall_mem_cons.mp fits
    obtain ⟨skip, skips⟩ := List.forall_mem_cons.mp skips
    rw [following_cons, comma_append_next, skipRest_next (skipSpace_to space rfl _) fit.label,
      skip fit.before fun _ => fit.ends parts rest, ih fits skips fit.after]

/-- Every value is skipped, whatever is open and whatever follows. The induction is on the value,
with one on the parts of a container inside it. -/
theorem skips_of_isValue (valid : IsValue value) : Skips value := by
  induction valid with
  | scalar scalar =>
    intro stack before rest space ends
    obtain ⟨c, more, rfl, starts, array, object⟩ := scalar.exists_cons
    obtain ⟨solid, -, -⟩ := startsValue_iff.mp starts
    exact skipValue_scalar (skipSpace_to space solid _) array object (skipScalar_scalar scalar ends)
  | @container frame inside parts blank fits values ih =>
    intro stack before rest space ends
    have opens : isSpace frame.opener = false := by cases frame <;> rfl
    rw [container_append]
    cases parts with
    | nil =>
      exact skipValue_empty (skipSpace_to space opens _) (skipSpace_end true frame blank rest)
    | cons part parts =>
      obtain ⟨fit, fits⟩ := List.forall_mem_cons.mp fits
      obtain ⟨skip, skips⟩ := List.forall_mem_cons.mp ih
      obtain ⟨c, more, same, starts⟩ := (values part List.mem_cons_self).exists_cons
      have entered : skipValue stack (before ++ (frame.opener :: (inside ++ (part.label ++
          (part.before ++ (part.value ++ (part.after ++ following false frame parts rest))))))) =
            skipValue (frame :: stack) (part.before ++ (part.value ++
              (part.after ++ following false frame parts rest))) := by
        rw [same, List.cons_append]
        exact skipValue_first (skipSpace_to space opens _) blank fit.label fit.before starts
      rw [following_cons, comma_append_first, entered,
        skip fit.before fun _ => fit.ends parts rest, skipRest_following fits skips fit.after]

/-- Two values at one place are the same, and end at the same place, unless one is a number that
goes on behind it. -/
theorem IsValue.unique (valid : IsValue value) (valid' : IsValue value') (space : IsSpace before)
    (space' : IsSpace before') (ends : IsNumber value → endsNumber rest = true)
    (ends' : IsNumber value' → endsNumber rest' = true)
    (same : before ++ (value ++ rest) = before' ++ (value' ++ rest')) :
    value = value' ∧ rest = rest' := by
  have after : skipValue [] (before ++ (value ++ rest)) = .ok rest := by
    rw [skips_of_isValue valid space ends, skipRest_nil]
  rw [same, skips_of_isValue valid' space' ends', skipRest_nil] at after
  obtain rfl := Except.ok.inj after
  obtain ⟨c, more, rfl, starts⟩ := valid.exists_cons
  obtain ⟨c', more', rfl, starts'⟩ := valid'.exists_cons
  have front := congrArg skipSpace same
  rw [List.cons_append, List.cons_append, skipSpace_to space (startsValue_iff.mp starts).1,
    skipSpace_to space' (startsValue_iff.mp starts').1] at front
  exact ⟨List.append_cancel_right front, rfl⟩

end Skipping

section Skipped

variable {stack outer : List Frame} {frame : Frame} {s rest : List Char}

/-- How a text starts from which a value has been skipped, and how the skipping went on. -/
inductive ValueStart (stack : List Frame) (rest : List Char) : List Char → Prop where
  | scalar {before value after : List Char} (space : IsSpace before) (scalar : IsScalar value)
      (skipped : skipRest stack after = .ok rest) :
      ValueStart stack rest (before ++ (value ++ after))
  | empty (frame : Frame) {before inside after : List Char} (space : IsSpace before)
      (blank : IsSpace inside) (skipped : skipRest stack after = .ok rest) :
      ValueStart stack rest (before ++ frame.opener :: (inside ++ frame.closer :: after))
  | first (frame : Frame) {before inside label after : List Char} (space : IsSpace before)
      (blank : IsSpace inside) (labelled : frame.Label label)
      (skipped : skipValue (frame :: stack) after = .ok rest) :
      ValueStart stack rest (before ++ frame.opener :: (inside ++ (label ++ after)))

/-- How a text starts in which the parts of an open container have been skipped. -/
inductive RestStart (frame : Frame) (outer : List Frame) (rest : List Char) : List Char → Prop where
  | close {gap after : List Char} (space : IsSpace gap)
      (skipped : skipRest outer after = .ok rest) :
      RestStart frame outer rest (gap ++ frame.closer :: after)
  | next {gap label after : List Char} (space : IsSpace gap) (labelled : frame.Label label)
      (skipped : skipValue (frame :: outer) after = .ok rest) :
      RestStart frame outer rest (gap ++ ',' :: (label ++ after))

theorem valueStart_of_skipValue (skipped : skipValue stack s = .ok rest) :
    ValueStart stack rest s := by
  obtain ⟨before, space, same⟩ := exists_skipSpace s
  rw [skipValue] at skipped
  split at skipped
  · contradiction
  · rename_i tail starts
    obtain ⟨inside, blank, after⟩ := exists_skipSpace tail
    split at skipped
    · contradiction
    · rename_i ends
      rw [same, starts, after, ends]
      exact .empty .array space blank skipped
    · rename_i next
      rw [same, starts, after, next]
      exact .first .array space blank .item skipped
  · rename_i tail starts
    obtain ⟨inside, blank, after⟩ := exists_skipSpace tail
    split at skipped
    · contradiction
    · rename_i ends
      rw [same, starts, after, ends]
      exact .empty .object space blank skipped
    · rename_i next
      split at skipped
      · contradiction
      · rename_i named
        obtain ⟨label, labelled, parts⟩ := exists_of_skipName named
        rw [same, starts, after, next, parts]
        exact .first .object space blank labelled skipped
  · rename_i starts
    split at skipped
    · contradiction
    · rename_i found
      obtain ⟨value, scalar, parts⟩ := exists_of_skipScalar found
      rw [same, starts, parts]
      exact .scalar space scalar skipped

theorem restStart_of_skipRest (skipped : skipRest (frame :: outer) s = .ok rest) :
    RestStart frame outer rest s := by
  obtain ⟨gap, space, same⟩ := exists_skipSpace s
  rw [skipRest] at skipped
  split at skipped
  · contradiction
  · rename_i starts
    rw [same, starts]
    split at skipped
    · rename_i closes
      exact closes ▸ .close space skipped
    · split at skipped
      · rename_i comma
        subst comma
        split at skipped
        · exact .next space .item skipped
        · split at skipped
          · contradiction
          · rename_i named
            obtain ⟨label, labelled, rfl⟩ := exists_of_skipName named
            exact .next space labelled skipped
      · contradiction

/-- Whether a text has a value in front, from behind which the skipping went on. -/
def Leads (stack : List Frame) (s rest : List Char) : Prop :=
  ∃ before value after, IsSpace before ∧ IsValue value ∧ s = before ++ (value ++ after) ∧
    skipRest stack after = .ok rest

/-- The parts behind one that has been skipped, where shorter texts have values in front. -/
theorem following_of_skipRest {n : Nat}
    (leads : ∀ s, s.length < n → ∀ stack, skipValue stack s = .ok rest → Leads stack s rest)
    (short : s.length < n) (skipped : skipRest (frame :: outer) s = .ok rest) :
    ∃ gap parts after, IsSpace gap ∧ (∀ part ∈ parts, part.Fits frame ∧ IsValue part.value) ∧
      s = gap ++ following false frame parts after ∧ skipRest outer after = .ok rest := by
  induction length : s.length using Nat.strongRecOn generalizing s with
  | ind m ih =>
    cases restStart_of_skipRest skipped with
    | @close gap after space closed =>
      exact ⟨gap, [], after, space, fun _ member => absurd member List.not_mem_nil,
        by rw [following_nil], closed⟩
    | @next gap label tail space labelled entered =>
      simp only [List.length_append, List.length_cons] at length short
      obtain ⟨before, value, behind, blank, valid, rfl, left⟩ := leads tail (by omega) _ entered
      simp only [List.length_append] at length short
      obtain ⟨after, parts, last, space', all, rfl, closed⟩ :=
        ih behind.length (by omega) (by omega) left rfl
      refine ⟨gap, ⟨label, before, value, after⟩ :: parts, last, space, ?_, ?_, closed⟩
      · exact List.forall_mem_cons.mpr ⟨⟨⟨labelled, blank, space'⟩, valid⟩, all⟩
      · rw [following_cons, comma_append_next]

/-- Nothing but a value is skipped. The induction is on the length of the text: what stands in a
container is shorter than the container. -/
theorem leads_of_skipValue (skipped : skipValue stack s = .ok rest) : Leads stack s rest := by
  induction length : s.length using Nat.strongRecOn generalizing s stack with
  | ind n ih =>
    cases valueStart_of_skipValue skipped with
    | scalar space scalar left => exact ⟨_, _, _, space, .scalar scalar, rfl, left⟩
    | @empty frame before inside after space blank left =>
      have none : ∀ part ∈ ([] : List Part), part.Fits frame ∧ IsValue part.value :=
        fun _ member => absurd member List.not_mem_nil
      exact ⟨before, _, after, space, .container blank (fun part member => (none part member).1)
        (fun part member => (none part member).2), by rw [container_append, following_nil], left⟩
    | @first frame before inside label tail space blank labelled entered =>
      simp only [List.length_append, List.length_cons] at length
      obtain ⟨lead, value, behind, led, valid, rfl, left⟩ := ih tail.length (by omega) entered rfl
      simp only [List.length_append] at length
      obtain ⟨gap, parts, after, space', all, rfl, closed⟩ :=
        following_of_skipRest (fun s short stack skipped => ih s.length short skipped rfl)
          (by omega) left
      have fit : ∀ part ∈ (⟨label, lead, value, gap⟩ : Part) :: parts,
          part.Fits frame ∧ IsValue part.value :=
        List.forall_mem_cons.mpr ⟨⟨⟨labelled, led, space'⟩, valid⟩, all⟩
      refine ⟨before, _, after, space, .container blank (fun part member => (fit part member).1)
        (fun part member => (fit part member).2), ?_, closed⟩
      rw [container_append, following_cons, comma_append_first]

theorem exists_of_skipValue (skipped : skipValue [] s = .ok rest) :
    ∃ before value, IsSpace before ∧ IsValue value ∧ s = before ++ (value ++ rest) := by
  obtain ⟨before, value, after, space, valid, parts, left⟩ := leads_of_skipValue skipped
  rw [skipRest_nil] at left
  cases left
  exact ⟨before, value, space, valid, parts⟩

/-- The documents are the values of the grammar, with white space around them. -/
theorem isDocument_iff {text : String} :
    isDocument text = true ↔
      ∃ before value after, IsSpace before ∧ IsValue value ∧ IsSpace after ∧
        text.toList = before ++ (value ++ after) := by
  constructor
  · intro document
    unfold isDocument at document
    split at document
    · rename_i rest skipped
      obtain ⟨before, value, space, valid, parts⟩ := exists_of_skipValue skipped
      exact ⟨before, value, rest, space, valid, isEmpty_skipSpace_iff.mp document, parts⟩
    · contradiction
  · rintro ⟨before, value, after, space, valid, behind, parts⟩
    have ends : endsNumber after = true := by
      rw [← List.append_nil after]
      exact endsNumber_gap behind rfl
    rw [isDocument, parts, skips_of_isValue valid space fun _ => ends, skipRest_nil]
    exact isEmpty_skipSpace_iff.mpr behind

end Skipped
end AttributePins.Json
