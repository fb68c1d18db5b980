import UriEndpoint.Proofs.Template.Rendering

/-! # Paths lose no text

What a path is read into gives its text back once every name stands in its braces again
(`Segment.renderPath_of_read`). A path that is refused has one opening brace at fault: all before it
is closed, and what follows it opens no placeholder (`Segment.readPath_eq_error_iff_splits`). No
other brace of the path stands so (`PathSplit.unique`).
-/

namespace UriEndpoint

/-- A part of a path that opens no brace, or closes the one it opens after a name. -/
inductive PathPart : Text → Prop
  | literal {text : Text} (plain : '\x7b' ∉ text) : PathPart text
  | placeholder {name : Text} (present : name ≠ []) (plain : '\x7d' ∉ name) :
      PathPart name.braced

/-- A text made of such parts, in any order and number. -/
def Text.Closed (text : Text) : Prop :=
  ∃ parts : List Text, (∀ part ∈ parts, PathPart part) ∧ parts.flatten = text

/-- After an opening brace, such a text gives no placeholder. -/
inductive Text.Dangles : Text → TemplateFault → Prop
  | unclosed {inner : Text} (plain : '\x7d' ∉ inner) : Dangles inner .unbalancedBraces
  | unnamed (rest : Text) : Dangles ('\x7d' :: rest) .emptyVariableName

/-- A path divided at the opening brace that is at fault. -/
structure PathSplit (path : Text) (split : Text × Text) (fault : TemplateFault) : Prop where
  whole : path = split.1 ++ '\x7b' :: split.2
  closed : split.1.Closed
  dangles : split.2.Dangles fault

namespace Text

theorem Closed.append {front back : Text} (frontClosed : front.Closed)
    (backClosed : back.Closed) : Closed (front ++ back) := by
  obtain ⟨frontParts, frontEach, rfl⟩ := frontClosed
  obtain ⟨backParts, backEach, rfl⟩ := backClosed
  refine ⟨frontParts ++ backParts, ?_, List.flatten_append⟩
  intro part member
  rcases List.mem_append.mp member with member | member
  · exact frontEach part member
  · exact backEach part member

theorem closed_of_part {text : Text} (part : PathPart text) : text.Closed :=
  ⟨[text], by simpa using part, by simp⟩

theorem closed_spelled (slots : List Slot) : Closed (Slot.spelled slots) := by
  induction slots with
  | nil => exact ⟨[], by simp, rfl⟩
  | cons slot slots ih =>
      have first : Closed slot.written :=
        (closed_of_part (.literal slot.text_plain)).append
          (closed_of_part (.placeholder slot.name_ne slot.name_plain))
      exact first.append ih

/-- A literal in front of a path of the grammar belongs to its first literal. -/
theorem exists_form_of_literal {text : Text} (plain : '\x7b' ∉ text) (form : PathForm) :
    ∃ longer : PathForm, longer.written = text ++ form.written := by
  obtain ⟨_ | ⟨slot, slots⟩, last, lastPlain⟩ := form
  · refine ⟨⟨[], text ++ last, ?_⟩, rfl⟩
    simp [plain, lastPlain]
  · have textPlain : '\x7b' ∉ text ++ slot.text := by simp [plain, slot.text_plain]
    refine ⟨⟨⟨_, slot.name, textPlain, slot.name_ne, slot.name_plain⟩ :: slots, last, lastPlain⟩, ?_⟩
    simp [PathForm.written, Slot.spelled_cons]

/-- The closed texts are the paths of the grammar, however they are divided into parts. -/
theorem closed_iff_exists_form {text : Text} :
    text.Closed ↔ ∃ form : PathForm, form.written = text := by
  constructor
  · rintro ⟨parts, each, rfl⟩
    induction parts with
    | nil => exact ⟨⟨[], [], List.not_mem_nil⟩, rfl⟩
    | cons part parts ih =>
        obtain ⟨first, others⟩ := List.forall_mem_cons.mp each
        obtain ⟨form, written⟩ := ih others
        rw [List.flatten_cons, ← written]
        cases first with
        | literal plain => exact exists_form_of_literal plain form
        | placeholder present plain =>
            refine ⟨⟨⟨[], _, List.not_mem_nil, present, plain⟩ :: form.slots, form.last,
              form.last_plain⟩, ?_⟩
            simp [PathForm.written, Slot.spelled_cons, braced]
  · rintro ⟨form, rfl⟩
    exact (closed_spelled form.slots).append (closed_of_part (.literal form.last_plain))

/-- No placeholder closes after the brace at fault. -/
theorem Dangles.ne_closed {inner name rest : Text} {fault : TemplateFault}
    (dangles : inner.Dangles fault) (present : name ≠ []) (plain : '\x7d' ∉ name) :
    inner ≠ name ++ '\x7d' :: rest := by
  rintro rfl
  cases named : name with
  | nil => exact present named
  | cons letter more =>
      subst named
      generalize shape : letter :: more ++ '\x7d' :: rest = inner at dangles
      cases dangles with
      | unclosed unclosed =>
          apply unclosed
          simp [← shape]
      | unnamed others =>
          cases shape
          exact plain (List.mem_cons_self ..)

end Text

namespace PathSplit

/-- Two slot runs, each followed by a literal and the brace at fault, are the same. -/
private theorem eq_of_spelled {first second : List Slot} {text other inner outer : Text}
    {fault blamed : TemplateFault} (plain : '\x7b' ∉ text) (otherPlain : '\x7b' ∉ other)
    (dangles : inner.Dangles fault) (otherDangles : outer.Dangles blamed)
    (same : Slot.spelled first ++ (text ++ '\x7b' :: inner) =
      Slot.spelled second ++ (other ++ '\x7b' :: outer)) :
    Slot.spelled first ++ text = Slot.spelled second ++ other ∧ inner = outer := by
  -- The first opening brace of both sides is the same, so their first slots are, one by one.
  induction first generalizing second with
  | nil =>
      cases second with
      | nil =>
          obtain ⟨rfl, inners⟩ := Text.eq_of_append_mark plain otherPlain same
          exact ⟨rfl, inners⟩
      | cons slot slots =>
          simp only [Slot.spelled_nil, Slot.spelled_cons, List.nil_append, List.append_assoc,
            List.cons_append] at same
          obtain ⟨_, closes⟩ := Text.eq_of_append_mark plain slot.text_plain same
          exact absurd closes (dangles.ne_closed slot.name_ne slot.name_plain)
  | cons slot slots ih =>
      rw [Slot.spelled_cons] at same
      cases second with
      | nil =>
          simp only [Slot.spelled_nil, List.nil_append, List.append_assoc,
            List.cons_append] at same
          obtain ⟨_, closes⟩ := Text.eq_of_append_mark slot.text_plain otherPlain same
          exact absurd closes.symm (otherDangles.ne_closed slot.name_ne slot.name_plain)
      | cons next more =>
          simp only [Slot.spelled_cons, List.append_assoc, List.cons_append] at same ⊢
          obtain ⟨texts, inside⟩ := Text.eq_of_append_mark slot.text_plain next.text_plain same
          obtain ⟨names, after⟩ := Text.eq_of_append_mark slot.name_plain next.name_plain inside
          obtain ⟨befores, inners⟩ := ih after
          rw [texts, names, befores]
          exact ⟨rfl, inners⟩

/-- Only one brace of a path is at fault. -/
theorem unique {path : Text} {first second : Text × Text} {fault blamed : TemplateFault}
    (firstSplit : PathSplit path first fault) (secondSplit : PathSplit path second blamed) :
    first = second := by
  obtain ⟨before, inner⟩ := first
  obtain ⟨other, outer⟩ := second
  obtain ⟨rfl, closed, dangles⟩ := firstSplit
  obtain ⟨same, otherClosed, otherDangles⟩ := secondSplit
  obtain ⟨form, rfl⟩ := Text.closed_iff_exists_form.mp closed
  obtain ⟨otherForm, rfl⟩ := Text.closed_iff_exists_form.mp otherClosed
  simp only [PathForm.written, List.append_assoc] at same
  obtain ⟨befores, inners⟩ :=
    eq_of_spelled form.last_plain otherForm.last_plain dangles otherDangles same
  exact Prod.ext befores inners

end PathSplit

/-- A path breaks a rule exactly if it splits at the brace at fault. -/
theorem pathBreaks_iff_splits {path : Text} {fault : TemplateFault} :
    PathBreaks path fault ↔ ∃ split, PathSplit path split fault := by
  constructor
  · have closed (slots : List Slot) {text : Text} (plain : '\x7b' ∉ text) :
        Text.Closed (Slot.spelled slots ++ text) :=
      Text.closed_iff_exists_form.mpr ⟨⟨slots, text, plain⟩, rfl⟩
    rintro (⟨slots, plain, unclosed⟩ | ⟨slots, plain, rest⟩)
    · exact ⟨(_, _), (List.append_assoc ..).symm, closed slots plain, .unclosed unclosed⟩
    · exact ⟨(_, _), (List.append_assoc ..).symm, closed slots plain, .unnamed rest⟩
  · rintro ⟨⟨before, inner⟩, rfl, closed, dangles⟩
    obtain ⟨form, rfl⟩ := Text.closed_iff_exists_form.mp closed
    rw [PathForm.written, List.append_assoc]
    cases dangles with
    | unclosed unclosed => exact .unbalanced form.slots form.last_plain unclosed
    | unnamed rest => exact .empty form.slots form.last_plain rest

namespace Segment

/-- With every name for itself in braces the segments render the path again. -/
theorem renderPath_of_read {path : Text} {segments : List Segment} {values : Assignment}
    (visible : path.isBlank = false) (accepted : readPath path = .ok segments)
    (own : ∀ name ∈ segments.filterMap variableName?, values name = some name.braced) :
    renderPath segments values = path := by
  cases readPath_eq_ok_iff.mp accepted with
  | blank blank =>
      rw [visible] at blank
      cases blank
  | form form present =>
      rw [form.filterMap_segments] at own
      rw [form.renderPath_segments, form.filled_braced own]

theorem readPath_eq_error_iff_splits {path : Text} {fault : TemplateFault} :
    readPath path = .error fault ↔ ∃ split, PathSplit path split fault := by
  rw [readPath_eq_error_iff, pathBreaks_iff_splits]

/-- **A path loses no text.** If a path that is not blank is read, its segments render to it with
every name in its braces again. It is refused exactly when one of its opening braces, with closed
text before it, opens no placeholder; no second brace stands so, and the fault says whether the
brace does not close or closes at once. -/
theorem readPath_loses_no_text (path : Text) :
    (∀ segments values, path.isBlank = false → readPath path = .ok segments →
      (∀ name ∈ segments.filterMap variableName?, values name = some name.braced) →
      renderPath segments values = path) ∧
    ∀ fault, readPath path = .error fault ↔
      ∃ split, PathSplit path split fault ∧
        ∀ other blamed, PathSplit path other blamed → other = split := by
  constructor
  · intro segments values visible accepted own
    exact renderPath_of_read visible accepted own
  · intro fault
    rw [readPath_eq_error_iff_splits]
    constructor
    · rintro ⟨split, splits⟩
      exact ⟨split, splits, fun other blamed others => others.unique splits⟩
    · rintro ⟨split, splits, _⟩
      exact ⟨split, splits⟩

/-- Stray braces stand in a literal and in a name, placeholders touch, and of two opening braces that
open no placeholder only the first is at fault. -/
theorem readPath_loses_no_text_of_stray_braces :
    readPath "x\x7d\x7ba\x7bb\x7d\x7bc\x7d".toList = .ok
        [.literal "x\x7d".toList, .placeholder "a\x7bb".toList, .literal [], .placeholder ['c']] ∧
      renderPath
        [.literal "x\x7d".toList, .placeholder "a\x7bb".toList, .literal [], .placeholder ['c']]
        (fun name => some name.braced) = "x\x7d\x7ba\x7bb\x7d\x7bc\x7d".toList ∧
      readPath "\x7ba\x7bb\x7d\x7d\x7b\x7d\x7b".toList = .error .emptyVariableName ∧
      PathSplit "\x7ba\x7bb\x7d\x7d\x7b\x7d\x7b".toList
        ("\x7ba\x7bb\x7d\x7d".toList, "\x7d\x7b".toList) .emptyVariableName ∧
      ∀ other blamed, PathSplit "\x7ba\x7bb\x7d\x7d\x7b\x7d\x7b".toList other blamed →
        other = ("\x7ba\x7bb\x7d\x7d".toList, "\x7d\x7b".toList) := by
  have accepted : readPath "x\x7d\x7ba\x7bb\x7d\x7bc\x7d".toList = .ok
      [.literal "x\x7d".toList, .placeholder "a\x7bb".toList, .literal [],
        .placeholder ['c']] := by decide +kernel
  have refused : readPath "\x7ba\x7bb\x7d\x7d\x7b\x7d\x7b".toList =
      .error .emptyVariableName := by decide +kernel
  have expected : PathSplit "\x7ba\x7bb\x7d\x7d\x7b\x7d\x7b".toList
      ("\x7ba\x7bb\x7d\x7d".toList, "\x7d\x7b".toList) .emptyVariableName := by
    refine ⟨rfl, ⟨[Text.braced "a\x7bb".toList, ['\x7d']], ?_, rfl⟩, .unnamed _⟩
    intro part member
    rcases List.mem_cons.mp member with rfl | member
    · exact .placeholder (by decide) (by decide)
    · cases List.mem_singleton.mp member
      exact .literal (by decide)
  obtain ⟨split, _, only⟩ := ((readPath_loses_no_text _).2 _).mp refused
  refine ⟨accepted, (readPath_loses_no_text _).1 _ _ (by decide) accepted (fun _ _ => rfl),
    refused, expected, ?_⟩
  intro other blamed splits
  rw [only other blamed splits, only _ _ expected]

end Segment

end UriEndpoint
