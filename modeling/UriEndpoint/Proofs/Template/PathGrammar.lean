import UriEndpoint.Template.Segment

/-! # The grammar of paths

A path of the template language is a run of slots, each a literal with the placeholder after it, and
a last literal. The scanner accepts exactly the texts of this form (`Segment.scan_eq_ok_iff`) and
refuses every other text with the rule that its first bad placeholder breaks
(`Segment.scan_eq_error_iff`): after a run of slots and a literal, a brace opens and either no brace
closes or one closes at once.
-/

namespace UriEndpoint

/-- A name between braces. -/
def Text.braced (name : Text) : Text := '\x7b' :: (name ++ ['\x7d'])

theorem Text.not_mem_braced {mark : Char} {name : Text} (braces : mark ≠ '\x7b' ∧ mark ≠ '\x7d')
    (plain : mark ∉ name) : mark ∉ name.braced := by
  simp [braced, braces, plain]

/-- A literal and the placeholder that follows it. -/
structure Slot where
  text : Text
  name : Text
  text_plain : '\x7b' ∉ text
  name_ne : name ≠ []
  name_plain : '\x7d' ∉ name

namespace Slot

/-- A slot as it stands in a path. -/
def written (slot : Slot) : Text := slot.text ++ slot.name.braced

/-- A run of slots as it stands in a path. -/
def spelled (slots : List Slot) : Text := slots.flatMap written

/-- The two segments of a slot. -/
def segments (slot : Slot) : List Segment := [.literal slot.text, .placeholder slot.name]

theorem spelled_nil : spelled [] = [] := rfl

theorem spelled_cons (slot : Slot) (slots : List Slot) :
    spelled (slot :: slots) = slot.text ++ '\x7b' :: (slot.name ++ '\x7d' :: spelled slots) := by
  simp [spelled, written, Text.braced]

end Slot

/-- A path as the grammar has it: slots, and the literal after the last of them. -/
structure PathForm where
  slots : List Slot
  last : Text
  last_plain : '\x7b' ∉ last

namespace PathForm

/-- The text of a path. -/
def written (form : PathForm) : Text := Slot.spelled form.slots ++ form.last

/-- The names of a path, in order. -/
def names (form : PathForm) : List Text := form.slots.map Slot.name

/-- The segments of a path; an empty literal at the end is left out. -/
def segments (form : PathForm) : List Segment :=
  form.slots.flatMap Slot.segments ++ if form.last = [] then [] else [.literal form.last]

theorem filterMap_segments (form : PathForm) :
    form.segments.filterMap Segment.variableName? = form.names := by
  have slots : (form.slots.flatMap Slot.segments).filterMap Segment.variableName? =
      form.slots.map Slot.name := by
    induction form.slots with
    | nil => rfl
    | cons slot slots ih =>
        rw [List.flatMap_cons, List.filterMap_append, ih]
        rfl
  have last : (if form.last = [] then [] else [Segment.literal form.last]).filterMap
      Segment.variableName? = [] := by
    split <;> rfl
  rw [segments, List.filterMap_append, slots, last, List.append_nil, names]

end PathForm

/-- The rule that the first bad placeholder of a path breaks. -/
inductive PathBreaks : Text → TemplateFault → Prop
  /-- A brace opens, and no brace closes. -/
  | unbalanced (slots : List Slot) {text inner : Text} (plain : '\x7b' ∉ text)
      (unclosed : '\x7d' ∉ inner) :
      PathBreaks (Slot.spelled slots ++ (text ++ '\x7b' :: inner)) .unbalancedBraces
  /-- A brace opens, and closes at once. -/
  | empty (slots : List Slot) {text : Text} (plain : '\x7b' ∉ text) (rest : Text) :
      PathBreaks (Slot.spelled slots ++ (text ++ '\x7b' :: '\x7d' :: rest)) .emptyVariableName

namespace Segment

theorem scan_nil : scan [] = .ok [] := by
  rw [scan, if_pos rfl]

theorem scan_of_not_mem {text : Text} (present : text ≠ []) (plain : '\x7b' ∉ text) :
    scan text = .ok [.literal text] := by
  have outer : text.cut '\x7b' = (text, none) :=
    Text.cut_eq_iff.mpr ⟨plain, (List.append_nil text).symm⟩
  rw [scan, if_neg present]
  split
  · next found => cases outer.symm.trans found; rfl
  · next found => cases outer.symm.trans found

/-- After a literal and an opening brace, the text up to the closing brace decides. -/
theorem scan_opened {text : Text} (plain : '\x7b' ∉ text) (inner : Text) :
    scan (text ++ '\x7b' :: inner) =
      match inner.cut '\x7d' with
      | (_, none) => .error .unbalancedBraces
      | ([], some _) => .error .emptyVariableName
      | (letter :: more, some rest) =>
          (scan rest).map ([.literal text, .placeholder (letter :: more)] ++ ·) := by
  have outer : (text ++ '\x7b' :: inner).cut '\x7b' = (text, some inner) :=
    Text.cut_append plain (some inner)
  rw [scan, if_neg (by simp)]
  split
  · next found => cases outer.symm.trans found
  · next found =>
      cases outer.symm.trans found
      split
      · next closing => rw [closing]
      · next closing => rw [closing]
      · next closing =>
          rw [closing]
          rfl

/-- An opening brace that nothing closes is at fault. -/
theorem scan_unbalanced {text inner : Text} (plain : '\x7b' ∉ text) (unclosed : '\x7d' ∉ inner) :
    scan (text ++ '\x7b' :: inner) = .error .unbalancedBraces := by
  have closing : inner.cut '\x7d' = (inner, none) :=
    Text.cut_eq_iff.mpr ⟨unclosed, (List.append_nil inner).symm⟩
  rw [scan_opened plain, closing]

/-- A brace that is closed at once is at fault. -/
theorem scan_empty {text : Text} (plain : '\x7b' ∉ text) (rest : Text) :
    scan (text ++ '\x7b' :: '\x7d' :: rest) = .error .emptyVariableName := by
  have closing : Text.cut '\x7d' ('\x7d' :: rest) = ([], some rest) := Text.cut_cons_same _ _
  rw [scan_opened plain, closing]

/-- A slot gives its two segments, whatever follows it. -/
theorem scan_slot (slot : Slot) (rest : Text) :
    scan (slot.text ++ '\x7b' :: (slot.name ++ '\x7d' :: rest)) =
      (scan rest).map (slot.segments ++ ·) := by
  have closing : (slot.name ++ '\x7d' :: rest).cut '\x7d' = (slot.name, some rest) :=
    Text.cut_append slot.name_plain (some rest)
  obtain ⟨letter, more, named⟩ := List.exists_cons_of_ne_nil slot.name_ne
  rw [scan_opened slot.text_plain, closing, Slot.segments, named]

/-- A run of slots gives its segments, whatever follows it. -/
theorem scan_spelled_append (slots : List Slot) (rest : Text) :
    scan (Slot.spelled slots ++ rest) = (scan rest).map (slots.flatMap Slot.segments ++ ·) := by
  induction slots with
  | nil =>
      rw [Slot.spelled_nil, List.nil_append]
      cases scan rest <;> rfl
  | cons slot slots ih =>
      rw [Slot.spelled_cons, List.append_assoc, List.cons_append, List.append_assoc,
        List.cons_append, scan_slot, ih]
      cases scan rest with
      | error fault => rfl
      | ok segments => simp [Except.map]

/-- A path in its form is read as its segments. -/
theorem scan_written (form : PathForm) : scan form.written = .ok form.segments := by
  rw [PathForm.written, scan_spelled_append, PathForm.segments]
  by_cases empty : form.last = []
  · rw [empty, scan_nil]
    rfl
  · rw [scan_of_not_mem empty form.last_plain, if_neg empty]
    rfl

theorem scan_of_breaks {path : Text} {fault : TemplateFault} (breaks : PathBreaks path fault) :
    scan path = .error fault := by
  cases breaks with
  | unbalanced slots plain unclosed =>
      rw [scan_spelled_append, scan_unbalanced plain unclosed]
      rfl
  | empty slots plain rest =>
      rw [scan_spelled_append, scan_empty plain rest]
      rfl

/-- A slot in front of a path of the grammar, or of one that breaks a rule, changes neither. -/
private theorem written_or_breaks_of_slot (slot : Slot) {rest : Text}
    (known : (∃ form : PathForm, form.written = rest) ∨ ∃ fault, PathBreaks rest fault) :
    (∃ form : PathForm, form.written = slot.text ++ '\x7b' :: (slot.name ++ '\x7d' :: rest)) ∨
      ∃ fault, PathBreaks (slot.text ++ '\x7b' :: (slot.name ++ '\x7d' :: rest)) fault := by
  have joined (slots : List Slot) (tail : Text) :
      slot.text ++ '\x7b' :: (slot.name ++ '\x7d' :: (Slot.spelled slots ++ tail)) =
        Slot.spelled (slot :: slots) ++ tail := by
    simp [Slot.spelled_cons]
  rcases known with ⟨form, rfl⟩ | ⟨fault, breaks⟩
  · exact .inl ⟨⟨slot :: form.slots, form.last, form.last_plain⟩, (joined ..).symm⟩
  · refine .inr ⟨fault, ?_⟩
    cases breaks with
    | unbalanced slots plain unclosed =>
        rw [joined]
        exact .unbalanced (slot :: slots) plain unclosed
    | empty slots plain rest =>
        rw [joined]
        exact .empty (slot :: slots) plain rest

/-- Every text is a path of the grammar or breaks one of its rules. -/
theorem written_or_breaks (path : Text) :
    (∃ form : PathForm, form.written = path) ∨ ∃ fault, PathBreaks path fault := by
  -- What follows a slot is a tail of the path, not its tail by one letter: induct on the length.
  induction measured : path.length using Nat.strongRecOn generalizing path with
  | ind size ih =>
      rcases outer : path.cut '\x7b' with ⟨text, _ | inner⟩
      · obtain ⟨plain, whole⟩ := Text.cut_eq_iff.mp outer
        exact .inl ⟨⟨[], text, plain⟩, by rw [whole]; exact (List.append_nil text).symm⟩
      · obtain ⟨plain, whole⟩ := Text.cut_eq_iff.mp outer
        rcases closing : inner.cut '\x7d' with ⟨name, _ | rest⟩
        · obtain ⟨unclosed, innerEq⟩ := Text.cut_eq_iff.mp closing
          rw [whole, innerEq]
          exact .inr ⟨_, .unbalanced [] plain (by simpa [Text.opened] using unclosed)⟩
        · obtain ⟨namePlain, innerEq⟩ := Text.cut_eq_iff.mp closing
          have shorter : rest.length < size :=
            measured ▸ Nat.lt_trans (Text.length_of_cut closing) (Text.length_of_cut outer)
          rw [whole, innerEq]
          by_cases named : name = []
          · subst named
            exact .inr ⟨_, .empty [] plain rest⟩
          · exact written_or_breaks_of_slot ⟨text, name, plain, named, namePlain⟩
              (ih rest.length shorter rest rfl)

/-- The scanner accepts the paths of the grammar, and gives the segments of their form. -/
theorem scan_eq_ok_iff {path : Text} {segments : List Segment} :
    scan path = .ok segments ↔
      ∃ form : PathForm, form.written = path ∧ form.segments = segments := by
  constructor
  · intro scanned
    rcases written_or_breaks path with ⟨form, rfl⟩ | ⟨fault, breaks⟩
    · exact ⟨form, rfl, Except.ok.inj ((scan_written form).symm.trans scanned)⟩
    · cases (scan_of_breaks breaks).symm.trans scanned
  · rintro ⟨form, rfl, rfl⟩
    exact scan_written form

/-- The scanner refuses the other texts, for the rule that they break. -/
theorem scan_eq_error_iff {path : Text} {fault : TemplateFault} :
    scan path = .error fault ↔ PathBreaks path fault := by
  constructor
  · intro scanned
    rcases written_or_breaks path with ⟨form, rfl⟩ | ⟨other, breaks⟩
    · cases (scan_written form).symm.trans scanned
    · cases (scan_of_breaks breaks).symm.trans scanned
      exact breaks
  · exact scan_of_breaks

theorem not_isBlank_of_mem {text : Text} (member : '\x7b' ∈ text) : text.isBlank = false :=
  Text.isBlank_eq_false_of_mem member (by decide)

theorem not_isBlank_of_breaks {path : Text} {fault : TemplateFault}
    (breaks : PathBreaks path fault) : path.isBlank = false := by
  cases breaks with
  | unbalanced slots plain unclosed => exact not_isBlank_of_mem (by simp)
  | empty slots plain rest => exact not_isBlank_of_mem (by simp)

end Segment

/-- The segments that a path stands for: none if it is blank, else those of its form. -/
inductive PathReads : Text → List Segment → Prop
  | blank {path : Text} (blank : path.isBlank = true) : PathReads path []
  | form (form : PathForm) (present : form.written.isBlank = false) :
      PathReads form.written form.segments

/-- A blank path has no slots, since a slot has an opening brace. -/
theorem PathForm.slots_eq_nil_of_isBlank {form : PathForm} (blank : form.written.isBlank = true) :
    form.slots = [] := by
  rcases form with ⟨_ | ⟨slot, slots⟩, last, plain⟩
  · rfl
  · have present : (PathForm.mk (slot :: slots) last plain).written.isBlank = false :=
      Segment.not_isBlank_of_mem (by simp [PathForm.written, Slot.spelled_cons])
    rw [present] at blank
    cases blank

namespace PathReads

/-- The names that the segments of a path ask for are the names of its form, blank or not. -/
theorem names_eq {path : Text} {segments : List Segment} (reads : PathReads path segments)
    {form : PathForm} (written : form.written = path) :
    segments.filterMap Segment.variableName? = form.names := by
  cases reads with
  | blank blank =>
      rw [PathForm.names, PathForm.slots_eq_nil_of_isBlank (written ▸ blank)]
      rfl
  | form other present =>
      have scanned := Segment.scan_written form
      rw [written, Segment.scan_written other] at scanned
      rw [Except.ok.inj scanned, form.filterMap_segments]

/-- A path that has segments has a form; that of a blank path is its text as a last literal. -/
theorem exists_form {path : Text} {segments : List Segment} (reads : PathReads path segments) :
    ∃ form : PathForm, form.written = path := by
  cases reads with
  | blank blank =>
      have plain : '\x7b' ∉ path := by
        intro member
        rw [Segment.not_isBlank_of_mem member] at blank
        cases blank
      exact ⟨⟨[], path, plain⟩, List.nil_append path⟩
  | form form present => exact ⟨form, rfl⟩

/-- A path of the grammar stands for its segments, unless they are a blank literal alone. -/
theorem of_form {form : PathForm}
    (present : ∀ text, form.segments = [.literal text] → text.isBlank = false) :
    PathReads form.written form.segments := by
  cases blank : form.written.isBlank with
  | false => exact .form form blank
  | true =>
      have slots := PathForm.slots_eq_nil_of_isBlank blank
      obtain ⟨_, last, plain⟩ := form
      cases slots
      by_cases empty : last = []
      · rw [PathForm.segments, if_pos empty]
        exact .blank blank
      · have visible := present last (by rw [PathForm.segments, if_neg empty]; rfl)
        cases visible.symm.trans blank

theorem isBlank_of_literal {path text : Text} (reads : PathReads path [.literal text]) :
    text.isBlank = false := by
  generalize shape : [Segment.literal text] = segments at reads
  cases reads with
  | blank blank => cases shape
  | form form present =>
      obtain ⟨_ | ⟨slot, slots⟩, last, plain⟩ := form
      · by_cases empty : last = []
        · rw [PathForm.segments, if_pos empty] at shape
          cases shape
        · rw [PathForm.segments, if_neg empty] at shape
          cases shape
          exact present
      · cases shape

/-- A path can be read exactly if it is blank or has the form of slots and a last literal. -/
theorem exists_iff {path : Text} :
    (∃ segments, PathReads path segments) ↔
      path.isBlank = true ∨ ∃ form : PathForm, form.written = path := by
  constructor
  · rintro ⟨segments, reads⟩
    exact .inr reads.exists_form
  · intro formed
    cases blank : path.isBlank with
    | true => exact ⟨[], .blank blank⟩
    | false =>
        rw [blank] at formed
        obtain ⟨form, rfl⟩ := formed.resolve_left Bool.false_ne_true
        exact ⟨form.segments, .form form blank⟩

end PathReads

namespace Segment

/-- The parser of paths accepts what the grammar reads, with the same segments. -/
theorem readPath_eq_ok_iff {path : Text} {segments : List Segment} :
    readPath path = .ok segments ↔ PathReads path segments := by
  constructor
  · intro found
    cases blank : path.isBlank with
    | true =>
        rw [readPath, if_pos blank] at found
        cases found
        exact .blank blank
    | false =>
        rw [readPath, blank] at found
        obtain ⟨form, rfl, rfl⟩ := scan_eq_ok_iff.mp found
        exact .form form blank
  · intro reads
    cases reads with
    | blank blank => rw [readPath, if_pos blank]
    | form form present =>
        rw [readPath, present]
        exact scan_written form

theorem readPath_eq_error_iff {path : Text} {fault : TemplateFault} :
    readPath path = .error fault ↔ PathBreaks path fault := by
  constructor
  · intro found
    cases blank : path.isBlank with
    | true =>
        rw [readPath, if_pos blank] at found
        cases found
    | false =>
        rw [readPath, blank] at found
        exact scan_eq_error_iff.mp found
  · intro breaks
    rw [readPath, not_isBlank_of_breaks breaks]
    exact scan_of_breaks breaks

end Segment

end UriEndpoint
