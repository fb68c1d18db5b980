import Mathlib.Tactic.MkIffOfInductiveProp
import UriEndpoint.Proofs.Redaction.Lines
import UriEndpoint.Proofs.Redaction.Masking

/-! # What masking hides

Two calls that differ in their secrets only should leave the same lines in the log. Values are
written as they are and nothing is decoded, so this needs every secret to stand where masking finds
it, as one whole entry of the query: no number sign may end the query before it or in it, no
ampersand may cut it in two, and no question mark in the path may join its name to what comes
before.
-/

namespace UriEndpoint.Redaction

/-- Two assignments have values for the same names, and agree on all but secrets. -/
structure AgreeButSecrets (params : List Param) (first second : Assignment) : Prop where
  keys : ∀ name, (first name).isSome = (second name).isSome
  others : ∀ name, isSecret params name = false → first name = second name

/-- Every secret stands where masking finds it. -/
@[mk_iff]
structure Sheltered (template : Template) (values : Assignment) : Prop where
  /-- No secret holds an ampersand or a number sign. -/
  plain : ∀ entry ∈ Param.given template.params values, isSensitive entry.1 = true →
    '&' ∉ entry.2 ∧ '#' ∉ entry.2
  /-- No value before a secret holds a number sign. -/
  behind : (Param.given template.params values).Pairwise fun earlier later =>
    isSensitive later.1 = true → '#' ∉ earlier.2
  /-- If there is a secret and a question mark in the path, no number sign follows that mark in the
  path, and the first entry is no secret. -/
  path : ∀ rest ∈ ((Segment.renderPath template.segments values).cut '?').2,
    (∃ entry ∈ Param.given template.params values, isSensitive entry.1 = true) →
      '#' ∉ rest ∧
      ∀ entry ∈ (Param.given template.params values).head?, isSensitive entry.1 = false

instance (template : Template) (values : Assignment) : Decidable (Sheltered template values) :=
  decidable_of_iff' _ (sheltered_iff template values)

/-- Two entries have the same name, and the same value if the name is not sensitive. -/
def EntriesAgree (first second : Text × Text) : Prop :=
  first.1 = second.1 ∧ (isSensitive first.1 = false → first.2 = second.2)

/-- The value of one secret does not matter for agreement. -/
theorem AgreeButSecrets.of_update (params : List Param) (values : Assignment) {name : Text}
    (secret : isSecret params name = true) (first second : Text) :
    AgreeButSecrets params (Function.update values name (some first))
      (Function.update values name (some second)) where
  keys other := by
    by_cases same : other = name
    · rw [same, Function.update_self, Function.update_self]
      rfl
    · rw [Function.update_of_ne same, Function.update_of_ne same]
  others other harmless := by
    have differ : other ≠ name := fun same => by
      rw [same, secret] at harmless
      cases harmless
    rw [Function.update_of_ne differ, Function.update_of_ne differ]

/-- Values that agree but for secrets give entries that agree but for secrets. -/
theorem forall₂_given {params : List Param} {first second : Assignment}
    (agree : ∀ param ∈ params,
      (first param.varName).isSome = (second param.varName).isSome ∧
      (isSensitive param.wireName = false → first param.varName = second param.varName)) :
    List.Forall₂ EntriesAgree (Param.given params first) (Param.given params second) := by
  induction params with
  | nil => exact .nil
  | cons param params ih =>
      obtain ⟨⟨present, same⟩, others⟩ := List.forall_mem_cons.mp agree
      have rest := ih others
      cases one : first param.varName with
      | none =>
          have other : second param.varName = none := by simpa [one] using present
          simpa [Param.given, one, other] using rest
      | some value =>
          obtain ⟨kept, other⟩ : ∃ kept, second param.varName = some kept :=
            Option.isSome_iff_exists.mp (by simpa [one] using present.symm)
          rw [one, other] at same
          have entries : EntriesAgree (param.wireName, value) (param.wireName, kept) :=
            ⟨rfl, fun harmless => Option.some.inj (same harmless)⟩
          simpa [Param.given, one, other] using List.Forall₂.cons entries rest

/-- Entries that agree are the same where none has a sensitive name. -/
theorem eq_of_forall₂ {first second : List (Text × Text)}
    (agree : List.Forall₂ EntriesAgree first second)
    (harmless : ∀ entry ∈ first, isSensitive entry.1 = false) : first = second := by
  induction agree with
  | nil => rfl
  | cons same _ ih =>
      obtain ⟨here, others⟩ := List.forall_mem_cons.mp harmless
      rw [Prod.ext same.1 (same.2 here), ih others]

/-- Masking sees the same in two queries if it sees the same in their first entries, neither with a
number sign, and in the rest. -/
theorem maskedRest_joined_cons_congr {part other : Text} {parts others : List Text}
    {fragment : Option Text} (plain : '#' ∉ part) (otherPlain : '#' ∉ other)
    (lengths : parts.length = others.length) (same : maskedQuery part = maskedQuery other)
    (rest : maskedRest (Text.joined '&' parts ++ Text.opened '#' fragment) =
      maskedRest (Text.joined '&' others ++ Text.opened '#' fragment)) :
    maskedRest (Text.joined '&' (part :: parts) ++ Text.opened '#' fragment) =
      maskedRest (Text.joined '&' (other :: others) ++ Text.opened '#' fragment) := by
  by_cases empty : parts = []
  · obtain rfl : others = [] := List.length_eq_zero_iff.mp (by rw [← lengths, empty]; rfl)
    rw [empty, Text.joined, Text.joined, maskedRest_append plain, maskedRest_append otherPlain,
      same]
  · have present : others ≠ [] := fun nothing =>
      empty (List.length_eq_zero_iff.mp (by rw [lengths, nothing]; rfl))
    rw [Text.joined_cons_of_ne_nil empty, Text.joined_cons_of_ne_nil present, List.append_assoc,
      List.append_assoc, List.cons_append, List.cons_append, maskedRest_append_ampersand plain,
      maskedRest_append_ampersand otherPlain, same, rest]

/-- A secret entry without an ampersand is masked whatever its value is. -/
theorem maskedQuery_entryText {entry : Text × Text} (sensitive : isSensitive entry.1 = true)
    (name : '=' ∉ entry.1 ∧ '&' ∉ entry.1) (value : '&' ∉ entry.2) :
    maskedQuery (Param.entryText entry) = entry.1 ++ '=' :: mask := by
  have plain : '&' ∉ Param.entryText entry := Param.not_mem_entryText (by decide) name.2 value
  rw [maskedQuery_of_not_mem plain, Param.entryText, maskedEntry_append name.1, if_pos sensitive]

/-- The entries of two queries agree, and every secret stands where masking finds it. -/
structure Indistinct (first second : List (Text × Text)) : Prop where
  agree : List.Forall₂ EntriesAgree first second
  wires : ∀ entry ∈ first, '=' ∉ entry.1 ∧ '&' ∉ entry.1 ∧ '#' ∉ entry.1
  firstPlain : ∀ entry ∈ first, isSensitive entry.1 = true → '&' ∉ entry.2 ∧ '#' ∉ entry.2
  secondPlain : ∀ entry ∈ second, isSensitive entry.1 = true → '&' ∉ entry.2 ∧ '#' ∉ entry.2
  behind : first.Pairwise fun earlier later => isSensitive later.1 = true → '#' ∉ earlier.2

namespace Indistinct

variable {entry other : Text × Text} {first second : List (Text × Text)}

theorem tail (indistinct : Indistinct (entry :: first) (other :: second)) :
    Indistinct first second where
  agree := (List.forall₂_cons.mp indistinct.agree).2
  wires := (List.forall_mem_cons.mp indistinct.wires).2
  firstPlain := (List.forall_mem_cons.mp indistinct.firstPlain).2
  secondPlain := (List.forall_mem_cons.mp indistinct.secondPlain).2
  behind := (List.pairwise_cons.mp indistinct.behind).2

theorem length_entryText (indistinct : Indistinct first second) :
    (first.map Param.entryText).length = (second.map Param.entryText).length := by
  rw [List.length_map, List.length_map, indistinct.agree.length_eq]

theorem eq_of_harmless (indistinct : Indistinct (entry :: first) (other :: second))
    (harmless : isSensitive entry.1 = false) : entry = other :=
  have same := (List.forall₂_cons.mp indistinct.agree).1
  Prod.ext same.1 (same.2 harmless)

/-- Two secret entries look the same masked, and neither holds a number sign. -/
theorem maskedQuery_head (indistinct : Indistinct (entry :: first) (other :: second))
    (sensitive : isSensitive entry.1 = true) :
    maskedQuery (Param.entryText entry) = maskedQuery (Param.entryText other) ∧
      '#' ∉ Param.entryText entry ∧ '#' ∉ Param.entryText other := by
  obtain ⟨name, _⟩ := (List.forall₂_cons.mp indistinct.agree).1
  obtain ⟨equals, ampersand, number⟩ := indistinct.wires entry (List.mem_cons_self ..)
  have plain := indistinct.firstPlain entry (List.mem_cons_self ..) sensitive
  have otherPlain := indistinct.secondPlain other (List.mem_cons_self ..) (name ▸ sensitive)
  refine ⟨?_, Param.not_mem_entryText (by decide) number plain.2,
    Param.not_mem_entryText (by decide) (name ▸ number) otherPlain.2⟩
  rw [maskedQuery_entryText sensitive ⟨equals, ampersand⟩ plain.1,
    maskedQuery_entryText (name ▸ sensitive) (name ▸ ⟨equals, ampersand⟩) otherPlain.1, name]

/-- An entry with a number sign ends the query for masking, but then no secret comes behind it. -/
theorem maskedRest_eq (indistinct : Indistinct first second) (fragment : Option Text) :
    maskedRest (Text.joined '&' (first.map Param.entryText) ++ Text.opened '#' fragment) =
      maskedRest (Text.joined '&' (second.map Param.entryText) ++ Text.opened '#' fragment) := by
  induction first generalizing second with
  | nil =>
      cases indistinct.agree
      rfl
  | cons entry first ih =>
      obtain ⟨other, second, _, agree, rfl⟩ := List.forall₂_cons_left_iff.mp indistinct.agree
      have lengths := indistinct.tail.length_entryText
      have others := ih indistinct.tail
      by_cases sensitive : isSensitive entry.1 = true
      · obtain ⟨masked, plain, otherPlain⟩ := indistinct.maskedQuery_head sensitive
        exact maskedRest_joined_cons_congr plain otherPlain lengths masked others
      · obtain rfl := indistinct.eq_of_harmless (Bool.eq_false_iff.mpr sensitive)
        by_cases ends : '#' ∈ entry.2
        · -- Masking looks no further, so the rest has to be the same as it stands.
          have harmless : ∀ later ∈ first, isSensitive later.1 = false := fun later member =>
            Bool.eq_false_iff.mpr fun secret =>
              (List.pairwise_cons.mp indistinct.behind).1 later member secret ends
          rw [eq_of_forall₂ agree harmless]
        · have wire := indistinct.wires entry (List.mem_cons_self ..)
          have plain := Param.not_mem_entryText (by decide) wire.2.2 ends
          exact maskedRest_joined_cons_congr plain plain lengths rfl others

/-- A front that masking takes for a part of the first entry does no harm if that is no secret. -/
theorem maskedRest_append_eq (indistinct : Indistinct first second) {front : Text}
    (plain : '#' ∉ front) (secret : ∃ entry ∈ first, isSensitive entry.1 = true)
    (harmless : ∀ entry ∈ first.head?, isSensitive entry.1 = false) (fragment : Option Text) :
    maskedRest (front ++ (Text.joined '&' (first.map Param.entryText) ++
        Text.opened '#' fragment)) =
      maskedRest (front ++ (Text.joined '&' (second.map Param.entryText) ++
        Text.opened '#' fragment)) := by
  obtain ⟨later, member, sensitive⟩ := secret
  cases first with
  | nil => cases member
  | cons entry first =>
      obtain ⟨other, second, _, _, rfl⟩ := List.forall₂_cons_left_iff.mp indistinct.agree
      have safe : isSensitive entry.1 = false := harmless entry rfl
      obtain rfl := indistinct.eq_of_harmless safe
      have behind : later ∈ first := by
        rcases List.mem_cons.mp member with rfl | among
        · rw [safe] at sensitive
          cases sensitive
        · exact among
      have value := (List.pairwise_cons.mp indistinct.behind).1 later behind sensitive
      have wire := indistinct.wires entry (List.mem_cons_self ..)
      have glued : '#' ∉ front ++ Param.entryText entry := by
        rw [List.mem_append, not_or]
        exact ⟨plain, Param.not_mem_entryText (by decide) wire.2.2 value⟩
      rw [← List.append_assoc, ← List.append_assoc, List.map_cons, List.map_cons,
        Text.append_joined_cons, Text.append_joined_cons]
      exact maskedRest_joined_cons_congr glued glued indistinct.tail.length_entryText rfl
        (indistinct.tail.maskedRest_eq fragment)

end Indistinct

section Build

variable {template : Template} {first second : Assignment}

theorem AgreeButSecrets.indistinct (agree : AgreeButSecrets template.params first second)
    (canonical : Canonical template.segments template.params)
    (firstSheltered : Sheltered template first) (secondSheltered : Sheltered template second) :
    Indistinct (Param.given template.params first) (Param.given template.params second) where
  agree := by
    obtain ⟨_, distinct, _⟩ := List.nodup_append.mp canonical.distinct
    refine forall₂_given fun param member => ⟨agree.keys param.varName, fun harmless => ?_⟩
    exact agree.others param.varName ((isSecret_varName distinct member).trans harmless)
  wires := by
    intro entry member
    obtain ⟨param, among, _, wire⟩ := Param.exists_param_of_mem_given member
    exact wire ▸ (canonical.query param among).wire_plain
  firstPlain := firstSheltered.plain
  secondPlain := secondSheltered.plain
  behind := firstSheltered.behind

/-- For masking the path ends at the mark that building wrote, or at one in the path itself. -/
theorem AgreeButSecrets.maskedUri_eq (agree : AgreeButSecrets template.params first second)
    (canonical : Canonical template.segments template.params)
    (firstSheltered : Sheltered template first) (secondSheltered : Sheltered template second) :
    maskedUri (template.build first) = maskedUri (template.build second) := by
  have indistinct := agree.indistinct canonical firstSheltered secondSheltered
  have path : Segment.renderPath template.segments first =
      Segment.renderPath template.segments second :=
    Segment.renderPath_congr fun name member =>
      agree.others name (isSecret_of_path canonical member)
  rw [Template.build, Template.build, buildUri_eq_opened, buildUri_eq_opened, ← path,
    Param.renderQuery, Param.renderQuery, Param.filterMap_written?_eq_map_given,
    Param.filterMap_written?_eq_map_given]
  obtain ⟨front, tail, cutting⟩ : ∃ front tail,
      (Segment.renderPath template.segments first).cut '?' = (front, tail) := ⟨_, _, rfl⟩
  obtain ⟨plain, whole⟩ := Text.cut_eq_iff.mp cutting
  cases tail with
  | none =>
      rw [whole, Text.opened, List.append_nil, maskedUri_append plain, maskedUri_append plain,
        indistinct.maskedRest_eq]
  | some rest =>
      by_cases secret : ∃ entry ∈ Param.given template.params first, isSensitive entry.1 = true
      · -- The mark is one of the path, and what follows it there joins the first entry.
        obtain ⟨restPlain, harmless⟩ := firstSheltered.path rest (by rw [cutting]; rfl) secret
        have marked : '#' ∉ rest ++ ['?'] := by
          rw [List.mem_append, not_or]
          exact ⟨restPlain, by decide⟩
        have same := indistinct.maskedRest_append_eq marked secret harmless
        simp only [List.append_assoc, List.singleton_append] at same
        rw [whole, Text.opened, List.append_assoc, List.cons_append, List.append_assoc,
          List.cons_append, maskedUri_append plain, maskedUri_append plain, same]
      · have harmless : ∀ entry ∈ Param.given template.params first,
            isSensitive entry.1 = false := fun entry member =>
          Bool.eq_false_iff.mpr fun sensitive => secret ⟨entry, member, sensitive⟩
        rw [eq_of_forall₂ indistinct.agree harmless]

end Build

/-- **Masking hides secrets that stand where it finds them.** Two assignments for a template that
has been read, with values for the same names and the same but for secrets, give the same masked
URI, and calls with them that get the same answer leave the same lines in a log that masks. -/
theorem secrets_leave_no_trace {source : Text} {template : Template} {first second : Assignment}
    (accepted : Template.read source = .ok template)
    (agree : AgreeButSecrets template.params first second)
    (firstSheltered : Sheltered template first) (secondSheltered : Sheltered template second) :
    maskedUri (template.build first) = maskedUri (template.build second) ∧
    ∀ endpoint : Endpoint, endpoint.template = template →
      ∀ (options : Option DecodeOptions) (answer : Except FetchFault FetchResult)
        (setup : LogSetup), setup.redacts = true → ∀ (context : Table) (now : Text),
        (endpoint.callRecords (template.build first) options answer).flatMap
            (setup.lines · context now) =
          (endpoint.callRecords (template.build second) options answer).flatMap
            (setup.lines · context now) := by
  have canonical := Template.canonical_of_read accepted
  have same := agree.maskedUri_eq canonical firstSheltered secondSheltered
  refine ⟨same, fun endpoint _ options answer setup redacts context now => ?_⟩
  exact endpoint.lines_callRecords_eq redacts same options answer context now

/-- A path with a question mark, an ampersand before the secret and a number sign after it. -/
theorem secrets_leave_no_trace_of_marks :
    ∃ template, Template.read
        "/\x7bp\x7d?q=\x7bq\x7d&Token=\x7bt\x7d&z=\x7bz\x7d#f".toList = .ok template ∧
      ∀ secret ∈ ["s".toList, "s=?".toList],
        maskedUri (template.build (Function.update (Template.ofEntries
          [("p".toList, "x?y".toList), ("q".toList, "1&2".toList), ("z".toList, "1#2".toList)])
          "t".toList (some secret))) =
        "x?y?q=1&2&Token=[REDACTED]&z=1#2#f".toList := by
  have accepted : Template.read
      "/\x7bp\x7d?q=\x7bq\x7d&Token=\x7bt\x7d&z=\x7bz\x7d#f".toList =
      .ok ⟨"/\x7bp\x7d?q=\x7bq\x7d&Token=\x7bt\x7d&z=\x7bz\x7d#f".toList,
        [.literal [], .placeholder ['p']],
        [⟨['q'], ['q']⟩, ⟨"Token".toList, ['t']⟩, ⟨['z'], ['z']⟩], ['f']⟩ := by decide +kernel
  refine ⟨_, accepted, ?_⟩
  have sheltered : ∀ secret ∈ ["s".toList, "s=?".toList],
      Sheltered ⟨"/\x7bp\x7d?q=\x7bq\x7d&Token=\x7bt\x7d&z=\x7bz\x7d#f".toList,
        [.literal [], .placeholder ['p']],
        [⟨['q'], ['q']⟩, ⟨"Token".toList, ['t']⟩, ⟨['z'], ['z']⟩], ['f']⟩
        (Function.update (Template.ofEntries
          [("p".toList, "x?y".toList), ("q".toList, "1&2".toList), ("z".toList, "1#2".toList)])
          "t".toList (some secret)) := by decide +kernel
  intro secret member
  have traceless := secrets_leave_no_trace accepted
    (AgreeButSecrets.of_update _ _ (by decide +kernel) secret "s".toList) (sheltered secret member)
    (sheltered _ (List.mem_cons_self ..))
  exact traceless.1.trans (by decide +kernel)

/-- Which of two values a secret has can be told from the masked URI. -/
def Discloses (source name : Text) (others : Assignment) (first second : Text) : Prop :=
  ∃ template, Template.read source = .ok template ∧
    AgreeButSecrets template.params (Function.update others name (some first))
      (Function.update others name (some second)) ∧
    maskedUri (template.build (Function.update others name (some first))) ≠
      maskedUri (template.build (Function.update others name (some second)))

/-- Whether a template discloses a secret can be computed. -/
theorem discloses_of_any {source name : Text} {others : Assignment} {first second : Text}
    (found : (Template.read source).toOption.any (fun template =>
      isSecret template.params name &&
        maskedUri (template.build (Function.update others name (some first))) !=
          maskedUri (template.build (Function.update others name (some second)))) = true) :
    Discloses source name others first second := by
  cases reading : Template.read source with
  | error fault =>
      rw [reading] at found
      cases found
  | ok template =>
      rw [reading] at found
      obtain ⟨secret, differ⟩ := (Bool.and_eq_true _ _).mp found
      exact ⟨template, reading, .of_update template.params others secret first second,
        bne_iff_ne.mp differ⟩

/-- Every condition for secrecy is needed: masking does not hide a secret that an ampersand or a
number sign divides, one behind a value with a number sign, the first one behind a path with a
question mark, or one behind a path with a question mark and a number sign. -/
theorem secrets_disclosed :
    Discloses "/a?token=\x7bt\x7d".toList "t".toList (Template.ofEntries [])
      "s".toList "s&u".toList ∧
    Discloses "/a?token=\x7bt\x7d".toList "t".toList (Template.ofEntries [])
      "s".toList "s#u".toList ∧
    Discloses "/a?q=\x7bq\x7d&token=\x7bt\x7d".toList "t".toList
      (Template.ofEntries [("q".toList, "1#2".toList)]) "s".toList "u".toList ∧
    Discloses "/\x7bp\x7d?token=\x7bt\x7d".toList "t".toList
      (Template.ofEntries [("p".toList, "x?y".toList)]) "s".toList "u".toList ∧
    Discloses "/\x7bp\x7d?q=\x7bq\x7d&token=\x7bt\x7d".toList "t".toList
      (Template.ofEntries [("p".toList, "x?y#z".toList), ("q".toList, "1".toList)])
      "s".toList "u".toList :=
  ⟨discloses_of_any (by decide +kernel), discloses_of_any (by decide +kernel),
    discloses_of_any (by decide +kernel), discloses_of_any (by decide +kernel),
    discloses_of_any (by decide +kernel)⟩

end UriEndpoint.Redaction
