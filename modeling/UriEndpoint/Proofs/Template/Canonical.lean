import UriEndpoint.Proofs.Template.Acceptance
import UriEndpoint.Proofs.Template.Rendering
import UriEndpoint.Proofs.Template.Wrapping

/-! # Canonical tokens

The tokens of the templates that can be read are exactly the canonical ones: reading gives nothing
else (`Template.canonical_of_read`), and canonical tokens, built with every name in braces as its
own value, are read again as they are (`Template.read_buildUri`).
-/

namespace UriEndpoint

/-- Literals and placeholders take turns, hold no character that would end them, and no literal that
could be left out stands at the end. -/
structure CanonicalPath (segments : List Segment) : Prop where
  literal_even : ∀ (index : Nat) (text : Text),
    segments[index]? = some (.literal text) → index % 2 = 0
  placeholder_odd : ∀ (index : Nat) (name : Text),
    segments[index]? = some (.placeholder name) → index % 2 = 1
  literal_plain : ∀ text, .literal text ∈ segments → '\x7b' ∉ text ∧ '?' ∉ text ∧ '#' ∉ text
  name_plain : ∀ name, .placeholder name ∈ segments →
    name ≠ [] ∧ '\x7d' ∉ name ∧ '?' ∉ name ∧ '#' ∉ name
  last_present : segments.getLast? ≠ some (.literal [])

/-- Both names are there, hold no character that would end them, and have bare ends. -/
structure CanonicalParam (param : Param) : Prop where
  wire_present : param.wireName ≠ []
  wire_plain : '=' ∉ param.wireName ∧ '&' ∉ param.wireName ∧ '#' ∉ param.wireName
  wire_bare : Text.BareEnds ['\x7b', '\x7d', ' '] param.wireName
  var_present : param.varName ≠ []
  var_plain : '&' ∉ param.varName ∧ '#' ∉ param.varName
  var_bare : Text.BareEnds ['\x7b', '\x7d', ' '] param.varName

/-- Tokens in the form that reading gives them. -/
structure Canonical (segments : List Segment) (params : List Param) : Prop where
  path : CanonicalPath segments
  path_present : ∀ text, segments = [.literal text] → text.isBlank = false
  query : ∀ param ∈ params, CanonicalParam param
  distinct : (variableNames segments params).Nodup

namespace CanonicalPath

theorem nil : CanonicalPath [] := by
  constructor <;> simp

theorem literal {text : Text} (plain : '\x7b' ∉ text ∧ '?' ∉ text ∧ '#' ∉ text)
    (present : text ≠ []) : CanonicalPath [.literal text] where
  literal_even index other found := by
    cases index with
    | zero => rfl
    | succ index => cases found
  placeholder_odd index name found := by
    cases index with
    | zero => cases found
    | succ index => cases found
  literal_plain other member := by
    cases List.mem_singleton.mp member
    exact plain
  name_plain name member := by cases List.mem_singleton.mp member
  last_present last := by
    cases last
    exact present rfl

/-- A slot in front of a path is canonical by itself. -/
theorem cons_iff {text name : Text} {rest : List Segment} :
    CanonicalPath (.literal text :: .placeholder name :: rest) ↔
      ('\x7b' ∉ text ∧ '?' ∉ text ∧ '#' ∉ text) ∧
      (name ≠ [] ∧ '\x7d' ∉ name ∧ '?' ∉ name ∧ '#' ∉ name) ∧ CanonicalPath rest := by
  constructor
  · intro canonical
    refine ⟨canonical.literal_plain text (by simp), canonical.name_plain name (by simp), ?_⟩
    constructor
    · intro index other found
      have even := canonical.literal_even (index + 2) other found
      omega
    · intro index other found
      have odd := canonical.placeholder_odd (index + 2) other found
      omega
    · exact fun other member => canonical.literal_plain other (by simp [member])
    · exact fun other member => canonical.name_plain other (by simp [member])
    · intro last
      apply canonical.last_present
      cases rest with
      | nil => cases last
      | cons segment more => simpa using last
  · rintro ⟨textPlain, namePlain, canonical⟩
    constructor
    · intro index other found
      rcases index with _ | _ | index
      · rfl
      · cases found
      · have even := canonical.literal_even index other found
        omega
    · intro index other found
      rcases index with _ | _ | index
      · cases found
      · rfl
      · have odd := canonical.placeholder_odd index other found
        omega
    · intro other member
      rcases List.mem_cons.mp member with same | member
      · cases same
        exact textPlain
      · rcases List.mem_cons.mp member with same | member
        · cases same
        · exact canonical.literal_plain other member
    · intro other member
      rcases List.mem_cons.mp member with same | member
      · cases same
      · rcases List.mem_cons.mp member with same | member
        · cases same
          exact namePlain
        · exact canonical.name_plain other member
    · intro last
      cases rest with
      | nil => cases last
      | cons segment more => exact canonical.last_present (by simpa using last)

/-- Canonical segments are those of a path of the grammar. -/
theorem exists_form : ∀ {segments : List Segment}, CanonicalPath segments →
    ∃ form : PathForm, form.segments = segments
  | [], _ => ⟨⟨[], [], List.not_mem_nil⟩, rfl⟩
  | .placeholder name :: _, canonical => by
      have odd := canonical.placeholder_odd 0 name rfl
      omega
  | [.literal text], canonical => by
      have present : text ≠ [] := fun empty => canonical.last_present (by rw [empty]; rfl)
      refine ⟨⟨[], text, (canonical.literal_plain text (by simp)).1⟩, ?_⟩
      rw [PathForm.segments, if_neg present]
      rfl
  | .literal _ :: .literal second :: _, canonical => by
      have even := canonical.literal_even 1 second rfl
      omega
  | .literal text :: .placeholder name :: rest, canonical => by
      obtain ⟨textPlain, namePlain, canonical⟩ := cons_iff.mp canonical
      obtain ⟨form, rfl⟩ := exists_form canonical
      exact ⟨⟨⟨text, name, textPlain.1, namePlain.1, namePlain.2.1⟩ :: form.slots, form.last,
        form.last_plain⟩, rfl⟩

/-- The segments of a path of the grammar that holds no delimiter are canonical. -/
theorem of_form (form : PathForm) (question : '?' ∉ form.written) (number : '#' ∉ form.written) :
    CanonicalPath form.segments := by
  obtain ⟨slots, last, lastPlain⟩ := form
  rw [PathForm.written] at question number
  induction slots with
  | nil =>
      by_cases empty : last = []
      · rw [PathForm.segments, if_pos empty]
        exact nil
      · rw [PathForm.segments, if_neg empty]
        exact literal ⟨lastPlain, question, number⟩ empty
  | cons slot slots ih =>
      simp only [Slot.spelled_cons, List.append_assoc, List.cons_append, List.mem_append,
        List.mem_cons, not_or] at question number
      obtain ⟨questionText, _, questionName, _, question⟩ := question
      obtain ⟨numberText, _, numberName, _, number⟩ := number
      exact cons_iff.mpr ⟨⟨slot.text_plain, questionText, numberText⟩,
        ⟨slot.name_ne, slot.name_plain, questionName, numberName⟩,
        ih (by simp [question]) (by simp [number])⟩

end CanonicalPath

theorem PathReads.canonical {path : Text} {segments : List Segment}
    (reads : PathReads path segments) (question : '?' ∉ path) (number : '#' ∉ path) :
    CanonicalPath segments := by
  cases reads with
  | blank blank => exact .nil
  | form form present => exact .of_form form question number

namespace Param

theorem Readable.canonical {param : Param} (readable : param.Readable)
    (number : '#' ∉ param.wireName ∧ '#' ∉ param.varName) : CanonicalParam param :=
  ⟨readable.wire_present, ⟨readable.wire_plain.1, readable.wire_plain.2, number.1⟩,
    readable.wire_bare, readable.var_present, ⟨readable.var_plain, number.2⟩, readable.var_bare⟩

theorem readable_of_canonical {param : Param} (canonical : CanonicalParam param) :
    param.Readable :=
  ⟨canonical.wire_present, ⟨canonical.wire_plain.1, canonical.wire_plain.2.1⟩,
    canonical.wire_bare, canonical.var_present, canonical.var_plain.1, canonical.var_bare⟩

/-- What a clause without an ampersand or a number sign spells is canonical. -/
theorem Spells.canonical {clause : Text} {param : Param} (spells : Spells clause param)
    (ampersand : '&' ∉ clause) (number : '#' ∉ clause) : CanonicalParam param := by
  apply (spells.readable ampersand).canonical
  obtain ⟨left, right, rfl, _, wire, name, _, _⟩ := spells
  rw [List.mem_append, List.mem_cons, not_or, not_or] at number
  exact ⟨fun member => number.1 (wire.mem member), fun member => number.2.2 (name.mem member)⟩

/-- A param as a clause, with its variable name in braces. -/
def spelled (param : Param) : Text := param.wireName ++ '=' :: param.varName.braced

/-- To spell a param plainly is to wrap its variable in braces and its name in nothing. -/
theorem spelled_eq_wrapped (param : Param) :
    param.spelled = param.wrapped ⟨⟨[], by simp⟩, ⟨[], by simp⟩, ⟨['\x7b'], by simp⟩,
      ⟨['\x7d'], by simp⟩⟩ := by
  simp [spelled, wrapped, Text.braced]

/-- With every name in braces as its own value, params render to their clauses. -/
theorem renderQuery_braced {params : List Param} {values : Assignment}
    (own : ∀ param ∈ params, values param.varName = some param.varName.braced) :
    renderQuery params values = Text.joined '&' (params.map spelled) := by
  have entries : params.filterMap (written? values) = params.map spelled := by
    rw [← List.filterMap_eq_map]
    apply List.filterMap_congr
    intro param member
    rw [written?, own param member]
    rfl
  rw [renderQuery, entries]

/-- The clauses of canonical params are read as these params. -/
theorem forall₂_spells_clauses {params : List Param}
    (canonical : ∀ param ∈ params, CanonicalParam param) :
    List.Forall₂ Spells (clauses (Text.joined '&' (params.map spelled))) params := by
  apply forall₂_spells_clauses_joined
  · rw [List.forall₂_map_left_iff, List.forall₂_same]
    intro param member
    rw [spelled_eq_wrapped]
    exact spells_wrapped (readable_of_canonical (canonical param member)) _
  · intro clause member
    obtain ⟨param, among, rfl⟩ := List.mem_map.mp member
    rw [spelled_eq_wrapped]
    exact not_mem_wrapped (readable_of_canonical (canonical param among)) _

end Param

namespace Template

/-- **What is read is canonical.** -/
theorem canonical_of_read {source : Text} {template : Template}
    (accepted : read source = .ok template) : Canonical template.segments template.params := by
  obtain ⟨_, path, query, _, distinct⟩ := read_eq_ok_iff.mp accepted
  obtain ⟨⟨question, number⟩, queryPlain, _⟩ := Regions.divides_ofText source
  refine ⟨path.canonical question number, ?_, ?_, distinct⟩
  · intro text single
    rw [single] at path
    exact path.isBlank_of_literal
  · intro param member
    obtain ⟨clause, among, spells⟩ := exists_of_mem_results query member
    have piece := Param.mem_pieces_of_mem_clauses among
    refine spells.canonical (Text.not_mem_of_mem_pieces piece) fun inside => queryPlain ?_
    rw [← Text.joined_pieces '&' (Regions.ofText source).query]
    exact Text.mem_joined piece inside

/-- Canonical tokens are read again from what they build with every name in braces as its own
value. -/
theorem read_buildUri {segments : List Segment} {params : List Param} {values : Assignment}
    (fragment : Text) (canonical : Canonical segments params)
    (own : ∀ name ∈ variableNames segments params, values name = some name.braced) :
    read ('/' :: buildUri segments params fragment values) =
      .ok ⟨'/' :: buildUri segments params fragment values, segments, params, fragment⟩ := by
  obtain ⟨form, rfl⟩ := canonical.path.exists_form
  have ownPath : ∀ name, .placeholder name ∈ form.segments → values name = some name.braced :=
    fun name member => own name
      (List.mem_append_left _ (List.mem_filterMap.mpr ⟨_, member, rfl⟩))
  have ownQuery : ∀ param ∈ params, values param.varName = some param.varName.braced :=
    fun param member => own _ (List.mem_append_right _ (List.mem_map_of_mem member))
  have path : Segment.renderPath form.segments values = form.written := by
    rw [form.renderPath_segments]
    apply form.filled_braced
    rw [← form.filterMap_segments]
    exact fun name member => own name (List.mem_append_left _ member)
  have pathPlain (mark : Char) (braces : mark ≠ '\x7b' ∧ mark ≠ '\x7d')
      (literals : ∀ text, .literal text ∈ form.segments → mark ∉ text)
      (names : ∀ name, .placeholder name ∈ form.segments → mark ∉ name) :
      mark ∉ Segment.renderPath form.segments values := by
    refine Segment.not_mem_renderPath literals fun name member value found => ?_
    cases (ownPath name member).symm.trans found
    exact Text.not_mem_braced braces (names name member)
  have queryPlain : '#' ∉ Param.renderQuery params values := by
    refine Param.not_mem_renderQuery (by decide)
      (fun param member => (canonical.query param member).wire_plain.2.2)
      fun param member value found => ?_
    cases (ownQuery param member).symm.trans found
    exact Text.not_mem_braced (by decide) (canonical.query param member).var_plain.2
  have divides := Regions.divides_buildUri fragment
    ⟨pathPlain '?' (by decide) (fun text member => (canonical.path.literal_plain text member).2.1)
        fun name member => (canonical.path.name_plain name member).2.2.1,
      pathPlain '#' (by decide) (fun text member => (canonical.path.literal_plain text member).2.2)
        fun name member => (canonical.path.name_plain name member).2.2.2⟩ queryPlain
  rw [path, Param.renderQuery_braced ownQuery] at divides
  rw [read_eq_ok_iff, Regions.ofText_eq_of_divides divides]
  exact ⟨rfl, .of_form canonical.path_present, Param.forall₂_spells_clauses canonical.query, rfl,
    canonical.distinct⟩

/-- **Reading undoes rendering on exactly the canonical tokens.** What reading gives is canonical,
and what is canonical is read again from the text that it builds with every name in braces as its
own value. -/
theorem read_undoes_rendering :
    (∀ (source : Text) (template : Template), read source = .ok template →
      Canonical template.segments template.params) ∧
    ∀ (segments : List Segment) (params : List Param) (fragment : Text) (values : Assignment),
      Canonical segments params →
      (∀ name ∈ variableNames segments params, values name = some name.braced) →
      read ('/' :: buildUri segments params fragment values) =
        .ok ⟨'/' :: buildUri segments params fragment values, segments, params, fragment⟩ :=
  ⟨fun _ _ accepted => canonical_of_read accepted,
    fun _ _ fragment _ canonical own => read_buildUri fragment canonical own⟩

/-- Names may hold braces, equals signs and spaces, a wire name a question mark. -/
theorem read_undoes_rendering_of_odd_names :
    Canonical [.literal [], .placeholder "a\x7bb".toList, .literal " \x7d".toList]
      [⟨"n?".toList, "x =y".toList⟩] ∧
    read "/\x7ba\x7bb\x7d \x7d?n?=\x7bx =y\x7d#?#".toList =
      .ok ⟨"/\x7ba\x7bb\x7d \x7d?n?=\x7bx =y\x7d#?#".toList,
        [.literal [], .placeholder "a\x7bb".toList, .literal " \x7d".toList],
        [⟨"n?".toList, "x =y".toList⟩], "?#".toList⟩ := by
  have accepted : read "/\x7ba\x7bb\x7d \x7d?n?=\x7bx =y\x7d#?#".toList =
      .ok ⟨"/\x7ba\x7bb\x7d \x7d?n?=\x7bx =y\x7d#?#".toList,
        [.literal [], .placeholder "a\x7bb".toList, .literal " \x7d".toList],
        [⟨"n?".toList, "x =y".toList⟩], "?#".toList⟩ := by decide +kernel
  have canonical : Canonical [.literal [], .placeholder "a\x7bb".toList, .literal " \x7d".toList]
      [⟨"n?".toList, "x =y".toList⟩] := read_undoes_rendering.1 _ _ accepted
  have built : '/' :: buildUri
      [.literal [], .placeholder "a\x7bb".toList, .literal " \x7d".toList]
      [⟨"n?".toList, "x =y".toList⟩] "?#".toList (fun name => some name.braced) =
      "/\x7ba\x7bb\x7d \x7d?n?=\x7bx =y\x7d#?#".toList := by decide +kernel
  have again := read_undoes_rendering.2 _ _ "?#".toList (fun name => some name.braced)
    canonical fun _ _ => rfl
  rw [built] at again
  exact ⟨canonical, again⟩

/-- Two templates hold the same tokens. -/
def SameTokens (first second : Template) : Prop :=
  first.segments = second.segments ∧ first.params = second.params ∧
    first.fragment = second.fragment

theorem build_eq_of_sameTokens {first second : Template} (same : SameTokens first second)
    (values : Assignment) : first.build values = second.build values := by
  obtain ⟨segments, params, fragment⟩ := same
  rw [build, build, segments, params, fragment]

/-- Templates that build the same from every name in braces as its own value hold the same tokens,
since both are read again from what they build. -/
theorem sameTokens_of_build_eq {firstSource secondSource : Text} {first second : Template}
    (firstRead : read firstSource = .ok first) (secondRead : read secondSource = .ok second)
    {values : Assignment} (firstOwn : ∀ name ∈ first.names, values name = some name.braced)
    (secondOwn : ∀ name ∈ second.names, values name = some name.braced)
    (same : first.build values = second.build values) : SameTokens first second := by
  have firstAgain := read_buildUri first.fragment (canonical_of_read firstRead) firstOwn
  have secondAgain := read_buildUri second.fragment (canonical_of_read secondRead) secondOwn
  have texts : '/' :: buildUri first.segments first.params first.fragment values =
      '/' :: buildUri second.segments second.params second.fragment values :=
    congrArg ('/' :: ·) same
  rw [texts, secondAgain] at firstAgain
  have tokens := Except.ok.inj firstAgain
  simp only [Template.mk.injEq, true_and] at tokens
  exact ⟨tokens.1.symm, tokens.2.1.symm, tokens.2.2.symm⟩

/-- The values of a finite mapping, given by its entries. -/
def ofEntries (entries : List (Text × Text)) : Assignment := fun name => entries.lookup name

/-- Under the braced assignment every name stands for itself in braces. -/
theorem ofEntries_braced {names : List Text} {name : Text} (member : name ∈ names) :
    ofEntries (names.map fun name => (name, name.braced)) name = some name.braced := by
  induction names with
  | nil => cases member
  | cons other names ih =>
      rw [ofEntries, List.map_cons, List.lookup_cons]
      by_cases same : name = other
      · rw [same, beq_self_eq_true]
      · rw [beq_false_of_ne same]
        exact ih ((List.mem_cons.mp member).resolve_left same)

/-- **Templates that build alike are alike.** Two templates that have been read build the same from
all values exactly when they hold the same tokens, and mappings of finitely many names are enough to
tell them apart. -/
theorem build_eq_iff_sameTokens {firstSource secondSource : Text} {first second : Template}
    (firstRead : read firstSource = .ok first) (secondRead : read secondSource = .ok second) :
    ((∀ values : Assignment, first.build values = second.build values) ↔
      SameTokens first second) ∧
    ((∀ entries : List (Text × Text),
        first.build (ofEntries entries) = second.build (ofEntries entries)) ↔
      SameTokens first second) := by
  have finite (alike : ∀ entries : List (Text × Text),
      first.build (ofEntries entries) = second.build (ofEntries entries)) :
      SameTokens first second :=
    sameTokens_of_build_eq firstRead secondRead
      (fun name member => ofEntries_braced (List.mem_append_left second.names member))
      (fun name member => ofEntries_braced (List.mem_append_right first.names member))
      (alike ((first.names ++ second.names).map fun name => (name, name.braced)))
  exact ⟨⟨fun alike => finite fun entries => alike _, build_eq_of_sameTokens⟩,
    ⟨finite, fun same entries => build_eq_of_sameTokens same _⟩⟩

/-- Two names next to each other in the path, in either order, are told apart. -/
theorem build_eq_iff_sameTokens_of_swapped :
    ∃ first second, read "/\x7ba\x7d\x7bb\x7d".toList = .ok first ∧
      read "/\x7bb\x7d\x7ba\x7d".toList = .ok second ∧
      ((∀ values : Assignment, first.build values = second.build values) ↔
        SameTokens first second) ∧
      ¬ SameTokens first second := by
  have firstRead : read "/\x7ba\x7d\x7bb\x7d".toList =
      .ok ⟨"/\x7ba\x7d\x7bb\x7d".toList, [.literal [], .placeholder ['a'], .literal [],
        .placeholder ['b']], [], []⟩ := by decide +kernel
  have secondRead : read "/\x7bb\x7d\x7ba\x7d".toList =
      .ok ⟨"/\x7bb\x7d\x7ba\x7d".toList, [.literal [], .placeholder ['b'], .literal [],
        .placeholder ['a']], [], []⟩ := by decide +kernel
  exact ⟨_, _, firstRead, secondRead, (build_eq_iff_sameTokens firstRead secondRead).1,
    fun same => absurd same.1 (by decide)⟩

end Template

end UriEndpoint
