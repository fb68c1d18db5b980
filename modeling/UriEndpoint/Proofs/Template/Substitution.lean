import Mathlib.Data.List.Nodup
import Mathlib.Logic.Function.Basic
import UriEndpoint.Proofs.Template.Acceptance
import UriEndpoint.Proofs.Template.Rendering

/-! # Building as one substitution in the text

What a template builds is its text copied once from left to right, each placeholder replaced by its
value where it stands (`Template.build_eq_substituted`). No value is looked at again, so a value
lands where its placeholder was and changes nothing around it (`Template.exists_around`).
-/

namespace UriEndpoint

/-- Copies a path letter by letter. In a placeholder, whose name up to now is kept, nothing is
copied; where the placeholder closes stands the value of its name, or nothing. -/
def Text.substituted (values : Assignment) : Option Text → Text → Text
  | _, [] => []
  | none, letter :: rest =>
      if letter = '\x7b' then substituted values (some []) rest
      else letter :: substituted values none rest
  | some name, letter :: rest =>
      if letter = '\x7d' then (values name).getD [] ++ substituted values none rest
      else substituted values (some (name ++ [letter])) rest

/-- The entry that a clause becomes: its wire name and the value of its variable, if it has one. -/
def Param.substituted? (values : Assignment) (clause : Text) : Option Text :=
  let sides := clause.cut '='
  (values ((sides.2.getD []).trimmed ['\x7b', '\x7d', ' '])).map fun value =>
    sides.1.trimmed ['\x7b', '\x7d', ' '] ++ '=' :: value

/-- The text of a template with values put in: the path copied, a question mark, the entries of the
clauses whose variable has a value, and the fragment after a number sign if it is not empty. -/
def Regions.substituted (regions : Regions) (values : Assignment) : Text :=
  (if regions.path.isBlank then [] else Text.substituted values none regions.path) ++
    '?' :: Text.joined '&'
      ((Param.clauses regions.query).filterMap (Param.substituted? values)) ++
    if regions.fragment = [] then [] else '#' :: regions.fragment

namespace Text

/-- Outside a placeholder the text up to the next opening brace is kept. -/
theorem substituted_none_append {text : Text} (values : Assignment) (plain : '\x7b' ∉ text)
    (rest : Text) :
    substituted values none (text ++ rest) = text ++ substituted values none rest := by
  induction text with
  | nil => rfl
  | cons letter text ih =>
      rw [List.mem_cons, not_or] at plain
      rw [List.cons_append, substituted, if_neg (Ne.symm plain.1), ih plain.2, List.cons_append]

/-- Inside a placeholder the text up to the next closing brace goes into the name. -/
theorem substituted_some_append {more : Text} (values : Assignment) (plain : '\x7d' ∉ more)
    (name rest : Text) :
    substituted values (some name) (more ++ rest) =
      substituted values (some (name ++ more)) rest := by
  induction more generalizing name with
  | nil => rw [List.nil_append, List.append_nil]
  | cons letter more ih =>
      rw [List.mem_cons, not_or] at plain
      rw [List.cons_append, substituted, if_neg (Ne.symm plain.1), ih plain.2, List.append_assoc,
        List.singleton_append]

/-- Copying passes over a slot and leaves its literal and its value. -/
theorem substituted_slot (values : Assignment) (slot : Slot) (rest : Text) :
    substituted values none (slot.text ++ '\x7b' :: (slot.name ++ '\x7d' :: rest)) =
      slot.text ++ (values slot.name).getD [] ++ substituted values none rest := by
  rw [substituted_none_append values slot.text_plain, substituted, if_pos rfl,
    substituted_some_append values slot.name_plain, substituted, if_pos rfl, List.nil_append,
    List.append_assoc]

/-- Copying a path of the grammar fills it in. -/
theorem substituted_written (values : Assignment) (form : PathForm) :
    substituted values none form.written = form.filled values := by
  obtain ⟨slots, last, plain⟩ := form
  rw [PathForm.written, PathForm.filled]
  induction slots with
  | nil => simpa [Slot.spelled_nil, substituted] using substituted_none_append values plain []
  | cons slot slots ih =>
      rw [Slot.spelled_cons, List.append_assoc, List.cons_append, List.append_assoc,
        List.cons_append, substituted_slot, ih, List.flatMap_cons, List.append_assoc,
        List.append_assoc, List.append_assoc]

end Text

namespace Param

/-- A well spelled clause becomes the entry of its param. -/
theorem substituted?_of_spells {clause : Text} {param : Param} (values : Assignment)
    (spells : Spells clause param) : substituted? values clause = written? values param := by
  obtain ⟨left, right, rfl, plain, wire, name, _, _⟩ := spells
  have sides : (left ++ '=' :: right).cut '=' = (left, some right) :=
    Text.cut_append plain (some right)
  rw [substituted?, sides, written?, ← Text.trimmed_of_padded wire,
    ← Text.trimmed_of_padded name]
  rfl

/-- What is put in for the clauses is what is written of the params that they spell. -/
theorem filterMap_substituted? {clauses : List Text} {params : List Param} (values : Assignment)
    (each : List.Forall₂ Spells clauses params) :
    clauses.filterMap (substituted? values) = params.filterMap (written? values) := by
  induction each with
  | nil => rfl
  | cons spells others ih =>
      rw [List.filterMap_cons, List.filterMap_cons, substituted?_of_spells values spells, ih]

end Param

/-- The segments of a path render to the path copied, or to nothing if it is blank. -/
theorem PathReads.renderPath_eq {path : Text} {segments : List Segment}
    (reads : PathReads path segments) (values : Assignment) :
    Segment.renderPath segments values =
      if path.isBlank then [] else Text.substituted values none path := by
  cases reads with
  | blank blank => rw [if_pos blank, Segment.renderPath_nil]
  | form form present =>
      rw [present, if_neg Bool.false_ne_true, Text.substituted_written, form.renderPath_segments]

/-- What a value assignment gives does not depend on the value of a name. -/
def Ignores {α : Type} (name : Text) (part : Assignment → α) : Prop :=
  ∀ first second : Assignment, (∀ other, other ≠ name → first other = second other) →
    part first = part second

theorem Ignores.update {α : Type} {name : Text} {part : Assignment → α}
    (ignores : Ignores name part) (values : Assignment) (value : Option Text) :
    part (Function.update values name value) = part values :=
  ignores _ _ fun _ different => Function.update_of_ne different ..

namespace Segment

/-- A rendered path depends on the values of its own variables. -/
theorem renderPath_congr {segments : List Segment} {first second : Assignment}
    (agree : ∀ name ∈ segments.filterMap variableName?, first name = second name) :
    renderPath segments first = renderPath segments second := by
  apply List.flatMap_congr
  intro segment member
  cases segment with
  | literal text => rfl
  | placeholder name => rw [render, render, agree name (List.mem_filterMap.mpr ⟨_, member, rfl⟩)]

theorem renderPath_ignores {segments : List Segment} {name : Text}
    (absent : name ∉ segments.filterMap variableName?) : Ignores name (renderPath segments) :=
  fun _ _ agree => renderPath_congr fun other member => agree other fun same =>
    absent (same ▸ member)

end Segment

namespace Param

theorem filterMap_written?_congr {params : List Param} {first second : Assignment}
    (agree : ∀ name ∈ params.map varName, first name = second name) :
    params.filterMap (written? first) = params.filterMap (written? second) := by
  apply List.filterMap_congr
  intro param member
  rw [written?, written?, agree param.varName (List.mem_map_of_mem member)]

theorem entries_ignores {params : List Param} {name : Text} (absent : name ∉ params.map varName) :
    Ignores name fun values => params.filterMap (written? values) :=
  fun _ _ agree => filterMap_written?_congr fun other member => agree other fun same =>
    absent (same ▸ member)

end Param

namespace Template

/-- A template builds the text of its regions with the values put in. -/
theorem build_eq_substituted {regions : Regions} {template : Template}
    (standFor : regions.StandFor template) (values : Assignment) :
    template.build values = regions.substituted values := by
  obtain ⟨path, query, fragment, _⟩ := standFor
  rw [build, buildUri, Regions.substituted, path.renderPath_eq, Param.renderQuery,
    Param.filterMap_substituted? values query, fragment]

/-- A built URI depends on the values of the template's own variables. -/
theorem build_congr {template : Template} {first second : Assignment}
    (agree : ∀ name ∈ template.names, first name = second name) :
    template.build first = template.build second := by
  have path := Segment.renderPath_congr fun name member =>
    agree name (List.mem_append_left _ member)
  have query := Param.filterMap_written?_congr fun name member =>
    agree name (List.mem_append_right _ member)
  rw [build, build, buildUri, buildUri, path, Param.renderQuery, Param.renderQuery, query]

/-- The value of a name of the path stands between two parts that ignore it. -/
theorem exists_around_of_path {segments : List Segment} {params : List Param} {name : Text}
    (fragment : Text) (distinct : (variableNames segments params).Nodup)
    (member : name ∈ segments.filterMap Segment.variableName?) :
    ∃ before after : Assignment → Text, Ignores name before ∧ Ignores name after ∧
      ∀ values value, buildUri segments params fragment (Function.update values name (some value)) =
        before values ++ value ++ after values := by
  obtain ⟨segment, among, asks⟩ := List.mem_filterMap.mp member
  obtain ⟨front, back, rfl⟩ := List.append_of_mem among
  cases segment with
  | literal text => cases asks
  | placeholder other =>
      cases asks
      have names : (Segment.placeholder name :: back).filterMap Segment.variableName? =
          name :: back.filterMap Segment.variableName? := List.filterMap_cons_some rfl
      rw [variableNames, List.filterMap_append, names, List.append_assoc, List.cons_append,
        List.nodup_middle, List.nodup_cons, List.mem_append, List.mem_append, not_or,
        not_or] at distinct
      obtain ⟨⟨frontAbsent, backAbsent, queryAbsent⟩, _⟩ := distinct
      have frontIgnores := Segment.renderPath_ignores frontAbsent
      have backIgnores := Segment.renderPath_ignores backAbsent
      have queryIgnores := Param.entries_ignores queryAbsent
      refine ⟨Segment.renderPath front, fun values => Segment.renderPath back values ++
        '?' :: Param.renderQuery params values ++ if fragment = [] then [] else '#' :: fragment,
        frontIgnores, ?_, ?_⟩
      · intro first second agree
        simp only [backIgnores first second agree, Param.renderQuery,
          queryIgnores first second agree]
      · intro values value
        have entries := queryIgnores.update values (some value)
        simp only [buildUri, Segment.renderPath_append, Segment.renderPath_cons, Segment.render,
          Function.update_self, Option.getD_some, frontIgnores.update, backIgnores.update,
          Param.renderQuery, entries, List.append_assoc]

/-- The value of a variable of the query stands between two parts that ignore it. -/
theorem exists_around_of_query {segments : List Segment} {params : List Param} {name : Text}
    (fragment : Text) (distinct : (variableNames segments params).Nodup)
    (member : name ∈ params.map Param.varName) :
    ∃ before after : Assignment → Text, Ignores name before ∧ Ignores name after ∧
      ∀ values value, buildUri segments params fragment (Function.update values name (some value)) =
        before values ++ value ++ after values := by
  obtain ⟨param, among, rfl⟩ := List.mem_map.mp member
  obtain ⟨front, back, rfl⟩ := List.append_of_mem among
  rw [variableNames, List.map_append, List.map_cons, ← List.append_assoc, List.nodup_middle,
    List.nodup_cons, List.mem_append, List.mem_append, not_or, not_or] at distinct
  obtain ⟨⟨⟨pathAbsent, frontAbsent⟩, backAbsent⟩, _⟩ := distinct
  have pathIgnores := Segment.renderPath_ignores pathAbsent
  have frontIgnores := Param.entries_ignores frontAbsent
  have backIgnores := Param.entries_ignores backAbsent
  refine ⟨fun values => Segment.renderPath segments values ++
      '?' :: (front.filterMap (Param.written? values)).flatMap (· ++ ['&']) ++
        param.wireName ++ ['='],
    fun values => (back.filterMap (Param.written? values)).flatMap ('&' :: ·) ++
      if fragment = [] then [] else '#' :: fragment, ?_, ?_, ?_⟩
  · intro first second agree
    simp only [pathIgnores first second agree, frontIgnores first second agree]
  · intro first second agree
    simp only [backIgnores first second agree]
  · intro values value
    have frontEntries := frontIgnores.update values (some value)
    have backEntries := backIgnores.update values (some value)
    have entry : Param.written? (Function.update values param.varName (some value)) param =
        some (param.wireName ++ '=' :: value) := by
      rw [Param.written?, Function.update_self]
      rfl
    simp only [buildUri, pathIgnores.update, Param.renderQuery, List.filterMap_append,
      List.filterMap_cons_some entry, Text.joined_append_cons, frontEntries, backEntries,
      List.append_assoc, List.cons_append, List.nil_append]

/-- The value of a name lands once, where its placeholder was: what a template builds is that value
between two parts that ignore it. -/
theorem exists_around {template : Template} {name : Text} (distinct : template.names.Nodup)
    (member : name ∈ template.names) :
    ∃ before after : Assignment → Text, Ignores name before ∧ Ignores name after ∧
      ∀ values value, template.build (Function.update values name (some value)) =
        before values ++ value ++ after values := by
  rcases List.mem_append.mp member with path | query
  · exact exists_around_of_path template.fragment distinct path
  · exact exists_around_of_query template.fragment distinct query

/-- **Building is one substitution in the text.** A template that has been read builds its text
copied once with the values put in, whatever characters the values hold; names that it does not have
do not matter, and each value of its own stands once between two parts that ignore it. -/
theorem build_is_one_substitution {source : Text} {template : Template}
    (accepted : read source = .ok template) :
    (∀ regions : Regions, regions.Divides source → ∀ values : Assignment,
      template.build values = regions.substituted values) ∧
    (∀ first second : Assignment, (∀ name ∈ template.names, first name = second name) →
      template.build first = template.build second) ∧
    ∀ name ∈ template.names, ∃ before after : Assignment → Text,
      Ignores name before ∧ Ignores name after ∧
      ∀ (values : Assignment) (value : Text),
        template.build (Function.update values name (some value)) =
          before values ++ value ++ after values := by
  obtain ⟨_, standFor⟩ := read_eq_ok_iff.mp accepted
  refine ⟨?_, fun _ _ => build_congr, fun name => exists_around standFor.distinct⟩
  intro regions divides values
  rw [Regions.ofText_eq_of_divides divides] at standFor
  exact build_eq_substituted standFor values

/-- A value that looks like a placeholder and holds every delimiter is put in as it is. -/
theorem build_is_one_substitution_of_delimiters :
    ∃ template, read "/\x7ba\x7d/\x7bb\x7d?x=\x7bc\x7d&y=\x7bd\x7d".toList = .ok template ∧
      Regions.Divides ⟨"\x7ba\x7d/\x7bb\x7d".toList, "x=\x7bc\x7d&y=\x7bd\x7d".toList, []⟩
        "/\x7ba\x7d/\x7bb\x7d?x=\x7bc\x7d&y=\x7bd\x7d".toList ∧
      template.build (fun name => if name = ['c'] then none else some "\x7bb\x7d?&=#".toList) =
        "\x7bb\x7d?&=#/\x7bb\x7d?&=#?y=\x7bb\x7d?&=#".toList := by
  have accepted : read "/\x7ba\x7d/\x7bb\x7d?x=\x7bc\x7d&y=\x7bd\x7d".toList =
      .ok ⟨"/\x7ba\x7d/\x7bb\x7d?x=\x7bc\x7d&y=\x7bd\x7d".toList,
        [.literal [], .placeholder ['a'], .literal ['/'], .placeholder ['b']],
        [⟨['x'], ['c']⟩, ⟨['y'], ['d']⟩], []⟩ := by decide +kernel
  have divides : Regions.Divides ⟨"\x7ba\x7d/\x7bb\x7d".toList,
      "x=\x7bc\x7d&y=\x7bd\x7d".toList, []⟩
      "/\x7ba\x7d/\x7bb\x7d?x=\x7bc\x7d&y=\x7bd\x7d".toList :=
    Regions.divides_iff.mpr (by decide)
  refine ⟨_, accepted, divides, ?_⟩
  rw [(build_is_one_substitution accepted).1 _ divides]
  decide +kernel

end Template

end UriEndpoint
