import UriEndpoint.Proofs.Template.Canonical

/-! # Dividing a built text

Where no value holds a delimiter of the region that it stands in, a built text divides into the
path, the query and the fragment that were rendered. Cutting that query at its ampersands, and each
piece at its first equals sign, gives the params that have a value and nothing else.
-/

namespace UriEndpoint

/-- No value that these names have holds the mark. -/
def PlainOn (mark : Char) (names : List Text) (values : Assignment) : Prop :=
  ∀ name ∈ names, ∀ value ∈ values name, mark ∉ value

instance (mark : Char) (names : List Text) (values : Assignment) :
    Decidable (PlainOn mark names values) :=
  inferInstanceAs (Decidable (∀ name ∈ names, ∀ value ∈ values name, mark ∉ value))

theorem PlainOn.of_placeholder {mark : Char} {segments : List Segment} {values : Assignment}
    (plain : PlainOn mark (segments.filterMap Segment.variableName?) values) (name : Text)
    (member : .placeholder name ∈ segments) (value : Text) (found : values name = some value) :
    mark ∉ value :=
  plain name (List.mem_filterMap.mpr ⟨_, member, rfl⟩) value found

theorem PlainOn.of_param {mark : Char} {params : List Param} {values : Assignment}
    (plain : PlainOn mark (params.map Param.varName) values) (param : Param)
    (member : param ∈ params) (value : Text) (found : values param.varName = some value) :
    mark ∉ value :=
  plain param.varName (List.mem_map_of_mem member) value found

namespace Param

/-- The params that have a value, each as its wire name and that value. -/
def given (params : List Param) (values : Assignment) : List (Text × Text) :=
  params.filterMap fun param => (values param.varName).map fun value => (param.wireName, value)

theorem filterMap_written?_eq_map_given (params : List Param) (values : Assignment) :
    params.filterMap (written? values) = (given params values).map entryText := by
  rw [given, List.map_filterMap]
  apply List.filterMap_congr
  intro param _
  rw [written?, Option.map_map]
  rfl

/-- Every entry given comes from a param and its value. -/
theorem exists_param_of_mem_given {params : List Param} {values : Assignment}
    {entry : Text × Text} (member : entry ∈ given params values) :
    ∃ param ∈ params, values param.varName = some entry.2 ∧ param.wireName = entry.1 := by
  obtain ⟨param, among, found⟩ := List.mem_filterMap.mp member
  obtain ⟨value, present, rfl⟩ := Option.map_eq_some_iff.mp found
  exact ⟨param, among, present, rfl⟩

/-- Each entry is cut at its first equals sign into a wire name and its value. -/
theorem cut_entries {params : List Param} (values : Assignment)
    (wires : ∀ param ∈ params, '=' ∉ param.wireName) :
    (params.filterMap (written? values)).map (Text.cut '=') =
      (given params values).map fun entry => (entry.1, some entry.2) := by
  rw [filterMap_written?_eq_map_given, List.map_map]
  apply List.map_congr_left
  intro entry member
  obtain ⟨param, among, _, wire⟩ := exists_param_of_mem_given member
  have plain : '=' ∉ entry.1 := wire ▸ wires param among
  exact Text.cut_append plain (some entry.2)

/-- A rendered query is cut at its ampersands into its entries. -/
theorem pieces_renderQuery {params : List Param} {values : Assignment}
    (wires : ∀ param ∈ params, '&' ∉ param.wireName)
    (plain : PlainOn '&' (params.map varName) values)
    (present : params.filterMap (written? values) ≠ []) :
    (renderQuery params values).pieces '&' = params.filterMap (written? values) :=
  Text.pieces_joined present fun _ member =>
    not_mem_of_mem_entries (by decide) wires plain.of_param member

/-- Nothing is written exactly if no param has a value. -/
theorem entries_eq_nil_iff {params : List Param} {values : Assignment} :
    params.filterMap (written? values) = [] ↔ ∀ param ∈ params, values param.varName = none := by
  rw [List.filterMap_eq_nil_iff]
  simp only [written?, Option.map_eq_none_iff]

end Param

namespace Canonical

variable {segments : List Segment} {params : List Param} {values : Assignment}

/-- A rendered path holds no question mark if no value brings one. -/
theorem question_not_mem_path (canonical : Canonical segments params)
    (plain : PlainOn '?' (segments.filterMap Segment.variableName?) values) :
    '?' ∉ Segment.renderPath segments values :=
  Segment.not_mem_renderPath (fun text member => (canonical.path.literal_plain text member).2.1)
    plain.of_placeholder

theorem number_not_mem_path (canonical : Canonical segments params)
    (plain : PlainOn '#' (segments.filterMap Segment.variableName?) values) :
    '#' ∉ Segment.renderPath segments values :=
  Segment.not_mem_renderPath (fun text member => (canonical.path.literal_plain text member).2.2)
    plain.of_placeholder

theorem number_not_mem_query (canonical : Canonical segments params)
    (plain : PlainOn '#' (params.map Param.varName) values) :
    '#' ∉ Param.renderQuery params values :=
  Param.not_mem_renderQuery (by decide)
    (fun param member => (canonical.query param member).wire_plain.2.2) plain.of_param

end Canonical

namespace Template

/-- The variable names of the path. -/
def pathNames (template : Template) : List Text :=
  template.segments.filterMap Segment.variableName?

/-- The variable names of the query. -/
def queryNames (template : Template) : List Text := template.params.map Param.varName

/-- **A built text divides into what was rendered.** If the values in the path hold neither a
question mark nor a number sign, and those in the query neither a number sign nor an ampersand, the
regions of the built text are the rendered path, the rendered query and the fragment. The query is
cut into the params that have a value, in order; it is empty if there are none. -/
theorem build_divides_back {source : Text} {template : Template} {values : Assignment}
    (accepted : read source = .ok template)
    (pathPlain : PlainOn '?' template.pathNames values ∧ PlainOn '#' template.pathNames values)
    (queryPlain : PlainOn '#' template.queryNames values ∧
      PlainOn '&' template.queryNames values) :
    Regions.ofText ('/' :: template.build values) =
      { path := Segment.renderPath template.segments values
        query := Param.renderQuery template.params values
        fragment := template.fragment } ∧
    ((∃ param ∈ template.params, ∃ value, values param.varName = some value) →
      ((Param.renderQuery template.params values).pieces '&').map (Text.cut '=') =
        (Param.given template.params values).map fun entry => (entry.1, some entry.2)) ∧
    ((∀ param ∈ template.params, values param.varName = none) →
      Param.renderQuery template.params values = []) := by
  have canonical := canonical_of_read accepted
  refine ⟨?_, ?_, ?_⟩
  · have path := And.intro (canonical.question_not_mem_path pathPlain.1)
      (canonical.number_not_mem_path pathPlain.2)
    exact Regions.ofText_eq_of_divides (Regions.divides_buildUri template.fragment path
      (canonical.number_not_mem_query queryPlain.1))
  · rintro ⟨param, member, value, found⟩
    have present : template.params.filterMap (Param.written? values) ≠ [] := by
      intro empty
      rw [Param.entries_eq_nil_iff.mp empty param member] at found
      cases found
    rw [Param.pieces_renderQuery
      (fun param member => (canonical.query param member).wire_plain.2.1) queryPlain.2 present]
    exact Param.cut_entries values fun param member => (canonical.query param member).wire_plain.1
  · intro absent
    rw [Param.renderQuery, Param.entries_eq_nil_iff.mpr absent, Text.joined]

/-- The first param is absent, a wire name holds a question mark, values hold an equals sign or
nothing, and the path begins with a slash of its own. -/
theorem build_divides_back_of_gaps :
    ∃ template, read "/\x7ba\x7d?w=\x7bb\x7d&x?=\x7bc\x7d&y=\x7bd\x7d#?&".toList = .ok template ∧
      Regions.ofText ('/' :: template.build (ofEntries
        [("a".toList, "/=&".toList), ("c".toList, "1=?".toList), ("d".toList, [])])) =
        ⟨"/=&".toList, "x?=1=?&y=".toList, "?&".toList⟩ ∧
      (Text.pieces '&' "x?=1=?&y=".toList).map (Text.cut '=') =
        [("x?".toList, some "1=?".toList), ("y".toList, some [])] := by
  have accepted : read "/\x7ba\x7d?w=\x7bb\x7d&x?=\x7bc\x7d&y=\x7bd\x7d#?&".toList =
      .ok ⟨"/\x7ba\x7d?w=\x7bb\x7d&x?=\x7bc\x7d&y=\x7bd\x7d#?&".toList,
        [.literal [], .placeholder ['a']],
        [⟨['w'], ['b']⟩, ⟨['x', '?'], ['c']⟩, ⟨['y'], ['d']⟩], ['?', '&']⟩ := by decide +kernel
  obtain ⟨divided, cutting, _⟩ := @build_divides_back _ _ (ofEntries
    [("a".toList, "/=&".toList), ("c".toList, "1=?".toList), ("d".toList, [])]) accepted
    ⟨by decide, by decide⟩ ⟨by decide, by decide⟩
  exact ⟨_, accepted, divided, cutting ⟨⟨['x', '?'], ['c']⟩, by decide, "1=?".toList, rfl⟩⟩

end Template

end UriEndpoint
