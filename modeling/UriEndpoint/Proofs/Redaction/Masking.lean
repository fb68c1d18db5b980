import Mathlib.Data.List.Nodup
import UriEndpoint.Proofs.Template.Division
import UriEndpoint.Proofs.Template.Substitution
import UriEndpoint.Redaction.Uri

/-! # Masking a built URI

Masking cuts a flat text again at delimiters that building put there and at any that the values
brought along. Where the values bring none that would move a cut, masking the built text is building
with the mask in place of every sensitive value.
-/

namespace UriEndpoint.Redaction

/-- What masking makes of the text behind the first question mark. -/
def maskedRest (rest : Text) : Text :=
  maskedQuery (rest.cut '#').1 ++ Text.opened '#' (rest.cut '#').2

/-- Masking leaves alone what stands before the first question mark. -/
theorem maskedUri_append {head : Text} (plain : '?' ∉ head) (rest : Text) :
    maskedUri (head ++ '?' :: rest) = head ++ '?' :: maskedRest rest := by
  have cutting : (head ++ '?' :: rest).cut '?' = (head, some rest) :=
    Text.cut_append plain (some rest)
  simp only [maskedUri, cutting, maskedRest, List.append_assoc, List.cons_append]

/-- A query ends at the first number sign. -/
theorem maskedRest_append {query : Text} (plain : '#' ∉ query) (fragment : Option Text) :
    maskedRest (query ++ Text.opened '#' fragment) =
      maskedQuery query ++ Text.opened '#' fragment := by
  rw [maskedRest, Text.cut_append plain]

/-- A query is masked on either side of an ampersand. -/
theorem maskedQuery_append (front rest : Text) :
    maskedQuery (front ++ '&' :: rest) = maskedQuery front ++ '&' :: maskedQuery rest := by
  have present (text : Text) : (text.pieces '&').map maskedEntry ≠ [] :=
    List.map_eq_nil_iff.not.mpr (Text.pieces_ne_nil '&' text)
  rw [maskedQuery, Text.pieces_append, List.map_append,
    Text.joined_append (present front) (present rest), maskedQuery, maskedQuery]

/-- What stands before an ampersand is masked by itself if no number sign is in it. -/
theorem maskedRest_append_ampersand {front : Text} (plain : '#' ∉ front) (rest : Text) :
    maskedRest (front ++ '&' :: rest) = maskedQuery front ++ '&' :: maskedRest rest := by
  have ampersand : '#' ∉ ['&'] := by decide
  rw [maskedRest, Text.cut_append_of_not_mem plain,
    show '&' :: rest = ['&'] ++ rest from rfl, Text.cut_append_of_not_mem ampersand,
    List.singleton_append, maskedQuery_append, maskedRest, List.append_assoc, List.cons_append]

theorem maskedQuery_of_not_mem {entry : Text} (plain : '&' ∉ entry) :
    maskedQuery entry = maskedEntry entry := by
  rw [maskedQuery, Text.pieces_of_not_mem plain, List.map_singleton, Text.joined]

theorem maskedQuery_joined {entries : List Text} (plain : ∀ entry ∈ entries, '&' ∉ entry) :
    maskedQuery (Text.joined '&' entries) = Text.joined '&' (entries.map maskedEntry) := by
  by_cases empty : entries = []
  · rw [empty, Text.joined, maskedQuery_of_not_mem List.not_mem_nil,
      maskedEntry_of_not_mem List.not_mem_nil, List.map_nil, Text.joined]
  · rw [maskedQuery, Text.pieces_joined empty plain]

/-- Whether the value of a variable goes out under a sensitive name. -/
def isSecret (params : List Param) (name : Text) : Bool :=
  params.any fun param => param.varName == name && isSensitive param.wireName

theorem isSecret_eq_true_iff {params : List Param} {name : Text} :
    isSecret params name = true ↔
      ∃ param ∈ params, param.varName = name ∧ isSensitive param.wireName = true := by
  simp only [isSecret, List.any_eq_true, Bool.and_eq_true, beq_iff_eq]

/-- Where no variable is used twice, a variable is secret as the name is that it goes out under. -/
theorem isSecret_varName {params : List Param} (distinct : (params.map Param.varName).Nodup)
    {param : Param} (member : param ∈ params) :
    isSecret params param.varName = isSensitive param.wireName := by
  rw [Bool.eq_iff_iff, isSecret_eq_true_iff]
  constructor
  · rintro ⟨other, among, same, sensitive⟩
    rwa [List.inj_on_of_nodup_map distinct among member same] at sensitive
  · exact fun sensitive => ⟨param, member, rfl, sensitive⟩

/-- No variable of the path is secret. -/
theorem isSecret_of_path {segments : List Segment} {params : List Param}
    (canonical : Canonical segments params) {name : Text}
    (member : name ∈ segments.filterMap Segment.variableName?) : isSecret params name = false := by
  obtain ⟨_, _, disjoint⟩ := List.nodup_append.mp canonical.distinct
  rw [Bool.eq_false_iff, ne_eq, isSecret_eq_true_iff]
  rintro ⟨param, among, rfl, _⟩
  exact disjoint _ member _ (List.mem_map_of_mem among) rfl

/-- The values with the mask for each that goes out under a sensitive name. -/
def maskedAssignment (params : List Param) (values : Assignment) : Assignment :=
  fun name => if isSecret params name then (values name).map fun _ => mask else values name

/-- Masking the entry of a param is writing it with the masked values. -/
theorem map_maskedEntry_written? {params : List Param} (values : Assignment)
    (wires : ∀ param ∈ params, '=' ∉ param.wireName)
    (distinct : (params.map Param.varName).Nodup) :
    (params.filterMap (Param.written? values)).map maskedEntry =
      params.filterMap (Param.written? (maskedAssignment params values)) := by
  rw [List.map_filterMap]
  apply List.filterMap_congr
  intro param member
  rw [Param.written?, Param.written?, maskedAssignment, isSecret_varName distinct member,
    Option.map_map]
  cases values param.varName with
  | none => split <;> rfl
  | some value =>
      have entry := maskedEntry_append (wires param member) value
      by_cases sensitive : isSensitive param.wireName
      · rw [if_pos sensitive] at entry ⊢
        exact congrArg some entry
      · rw [if_neg sensitive] at entry ⊢
        exact congrArg some entry

/-- **Masking a built URI is building with masked values.** This is so for every template that has
been read, if no value in the path holds a question mark and none in the query an ampersand or a
number sign. -/
theorem maskedUri_build {source : Text} {template : Template} {values : Assignment}
    (accepted : Template.read source = .ok template)
    (pathPlain : PlainOn '?' template.pathNames values)
    (queryPlain : PlainOn '&' template.queryNames values ∧
      PlainOn '#' template.queryNames values) :
    maskedUri (template.build values) =
      template.build (maskedAssignment template.params values) := by
  have canonical := Template.canonical_of_read accepted
  obtain ⟨_, params, _⟩ := List.nodup_append.mp canonical.distinct
  have path : Segment.renderPath template.segments (maskedAssignment template.params values) =
      Segment.renderPath template.segments values :=
    Segment.renderPath_congr fun name member => by
      rw [maskedAssignment, if_neg (ne_true_of_eq_false (isSecret_of_path canonical member))]
  have entries := map_maskedEntry_written? values
    (fun param member => (canonical.query param member).wire_plain.1) params
  have plain : ∀ entry ∈ template.params.filterMap (Param.written? values), '&' ∉ entry :=
    fun _ => Param.not_mem_of_mem_entries (by decide)
      (fun param member => (canonical.query param member).wire_plain.2.1)
      queryPlain.1.of_param
  -- The cuts are where building put its marks: first question mark, first number sign, ampersands.
  rw [Template.build, Template.build, buildUri_eq_opened, buildUri_eq_opened, path,
    maskedUri_append (canonical.question_not_mem_path pathPlain),
    maskedRest_append (canonical.number_not_mem_query queryPlain.2), Param.renderQuery,
    maskedQuery_joined plain, entries, Param.renderQuery]

/-- A number sign in the path, a wire name in mixed case, equals signs in values, an absent secret
and a fragment that looks like a query. -/
theorem maskedUri_build_of_odd_fragment :
    ∃ template, Template.read
        "/\x7bp\x7d?a=\x7bx\x7d&ToKen=\x7bt\x7d&key=\x7bk\x7d#?token=z&a".toList =
        .ok template ∧
      maskedUri (template.build (Template.ofEntries
        [("p".toList, "u#v".toList), ("x".toList, "1=2".toList), ("t".toList, "s=?".toList)])) =
        "u#v?a=1=2&ToKen=[REDACTED]#?token=z&a".toList := by
  have accepted : Template.read
      "/\x7bp\x7d?a=\x7bx\x7d&ToKen=\x7bt\x7d&key=\x7bk\x7d#?token=z&a".toList =
      .ok ⟨"/\x7bp\x7d?a=\x7bx\x7d&ToKen=\x7bt\x7d&key=\x7bk\x7d#?token=z&a".toList,
        [.literal [], .placeholder ['p']],
        [⟨['a'], ['x']⟩, ⟨"ToKen".toList, ['t']⟩, ⟨"key".toList, ['k']⟩],
        "?token=z&a".toList⟩ := by decide +kernel
  refine ⟨_, accepted, ?_⟩
  rw [maskedUri_build accepted (by decide) ⟨by decide, by decide⟩]
  decide +kernel

end UriEndpoint.Redaction
