import Mathlib.Data.List.Basic
import UriEndpoint.Proofs.Template.PathGrammar
import UriEndpoint.Proofs.Template.Regions

/-! # What templates render to

Rendering puts values into the slots of a path and writes the entries of the params that have one.
The built text divides into exactly these two and the fragment when the path holds no delimiter and
the query no number sign; what they hold is what the tokens and the values hold.
-/

namespace UriEndpoint

theorem Segment.renderPath_append (front back : List Segment) (values : Assignment) :
    renderPath (front ++ back) values = renderPath front values ++ renderPath back values :=
  List.flatMap_append

namespace PathForm

/-- The text of a path with values in place of its placeholders. -/
def filled (form : PathForm) (values : Assignment) : Text :=
  (form.slots.flatMap fun slot => slot.text ++ (values slot.name).getD []) ++ form.last

/-- The segments of a path render to its text with the values filled in. -/
theorem renderPath_segments (form : PathForm) (values : Assignment) :
    Segment.renderPath form.segments values = form.filled values := by
  have slots : Segment.renderPath (form.slots.flatMap Slot.segments) values =
      form.slots.flatMap fun slot => slot.text ++ (values slot.name).getD [] := by
    rw [Segment.renderPath, List.flatMap_assoc]
    simp only [Slot.segments, List.flatMap_cons, List.flatMap_nil, Segment.render,
      List.append_nil]
  have last : Segment.renderPath (if form.last = [] then [] else [.literal form.last]) values =
      form.last := by
    by_cases empty : form.last = []
    · rw [if_pos empty, empty, Segment.renderPath_nil]
    · rw [if_neg empty, Segment.renderPath_cons, Segment.renderPath_nil, List.append_nil]
      rfl
  rw [segments, Segment.renderPath_append, slots, last, filled]

/-- Filled with its own placeholders, a path is its text. -/
theorem filled_braced (form : PathForm) {values : Assignment}
    (own : ∀ name ∈ form.names, values name = some name.braced) :
    form.filled values = form.written := by
  rw [filled, written, Slot.spelled]
  congr 1
  apply List.flatMap_congr
  intro slot member
  rw [own slot.name (List.mem_map_of_mem member), Slot.written, Option.getD_some]

end PathForm

theorem Segment.not_mem_renderPath {mark : Char} {segments : List Segment} {values : Assignment}
    (literals : ∀ text, literal text ∈ segments → mark ∉ text)
    (present : ∀ name, placeholder name ∈ segments → ∀ value, values name = some value →
      mark ∉ value) : mark ∉ renderPath segments values := by
  intro member
  obtain ⟨segment, among, inside⟩ := List.mem_flatMap.mp member
  cases segment with
  | literal text => exact literals text among inside
  | placeholder name =>
      rw [render] at inside
      cases found : values name with
      | none =>
          rw [found] at inside
          cases inside
      | some value =>
          rw [found] at inside
          exact present name among value found inside

namespace Param

/-- A name and a value as the query shows them. -/
def entryText (entry : Text × Text) : Text := entry.1 ++ '=' :: entry.2

theorem not_mem_entryText {mark : Char} {entry : Text × Text} (separator : mark ≠ '=')
    (name : mark ∉ entry.1) (value : mark ∉ entry.2) : mark ∉ entryText entry := by
  rw [entryText, List.mem_append, List.mem_cons, not_or, not_or]
  exact ⟨name, separator, value⟩

/-- The entries written hold no mark but the equals sign that neither names nor values hold. -/
theorem not_mem_of_mem_entries {mark : Char} {params : List Param} {values : Assignment}
    {entry : Text} (separator : mark ≠ '=') (wires : ∀ param ∈ params, mark ∉ param.wireName)
    (present : ∀ param ∈ params, ∀ value, values param.varName = some value → mark ∉ value)
    (member : entry ∈ params.filterMap (written? values)) : mark ∉ entry := by
  obtain ⟨param, among, writtenEq⟩ := List.mem_filterMap.mp member
  obtain ⟨value, found, rfl⟩ := Option.map_eq_some_iff.mp writtenEq
  exact @not_mem_entryText mark (param.wireName, value) separator (wires param among)
    (present param among value found)

theorem not_mem_renderQuery {mark : Char} {params : List Param} {values : Assignment}
    (separators : mark ≠ '&' ∧ mark ≠ '=') (wires : ∀ param ∈ params, mark ∉ param.wireName)
    (present : ∀ param ∈ params, ∀ value, values param.varName = some value → mark ∉ value) :
    mark ∉ renderQuery params values := by
  intro member
  rcases Text.mem_of_mem_joined member with same | ⟨entry, among, inside⟩
  · exact separators.1 same
  · exact not_mem_of_mem_entries separators.2 wires present among inside

end Param

/-- A built text is the path, a question mark, the query, and what the fragment opens. -/
theorem buildUri_eq_opened (segments : List Segment) (params : List Param) (fragment : Text)
    (values : Assignment) :
    buildUri segments params fragment values =
      Segment.renderPath segments values ++ '?' :: (Param.renderQuery params values ++
        Text.opened '#' (if fragment = [] then none else some fragment)) := by
  by_cases empty : fragment = []
  · simp [buildUri, Text.opened, empty]
  · simp [buildUri, Text.opened, empty]

/-- A built URI is divided into what was rendered if that holds no mark that would divide it. -/
theorem Regions.divides_buildUri {segments : List Segment} {params : List Param}
    {values : Assignment} (fragment : Text)
    (pathPlain : '?' ∉ Segment.renderPath segments values ∧
      '#' ∉ Segment.renderPath segments values)
    (queryPlain : '#' ∉ Param.renderQuery params values) :
    Divides ⟨Segment.renderPath segments values, Param.renderQuery params values, fragment⟩
      ('/' :: buildUri segments params fragment values) := by
  refine ⟨pathPlain, queryPlain, some (Param.renderQuery params values),
    if fragment = [] then none else some fragment, ?_, rfl, ?_⟩
  · rw [unslashed_iff]
    change buildUri segments params fragment values = _
    rw [buildUri_eq_opened, List.append_assoc]
    rfl
  · by_cases empty : fragment = []
    · rw [if_pos empty]
      exact empty
    · rw [if_neg empty]
      rfl

end UriEndpoint
