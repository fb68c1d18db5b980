import UriEndpoint.Proofs.Template.PathGrammar
import UriEndpoint.Proofs.Template.QueryGrammar
import UriEndpoint.Proofs.Template.Regions
import UriEndpoint.Proofs.Template.Repetition

/-! # What the template language accepts

A text is a template when its path is blank or a path of the grammar, its query is blank or has only
well spelled clauses, and no variable name is used twice. Reading decides this for every text: it
gives the tokens that the regions stand for, or the one rule that is reported when several are
broken, those of the path before those of the query and repeated names last.
-/

namespace UriEndpoint

namespace Regions

/-- The rules of the template language. -/
structure Lawful (regions : Regions) : Prop where
  path : regions.path.isBlank = true ∨ ∃ form : PathForm, form.written = regions.path
  query : regions.query.isBlank = true ∨
    ∀ clause ∈ Param.attempted (regions.query.pieces '&'), ∃ param, Param.Spells clause param
  distinct : ∀ (form : PathForm) (params : List Param), form.written = regions.path →
    List.Forall₂ Param.Spells (Param.clauses regions.query) params →
      (form.names ++ params.map Param.varName).Nodup

/-- A template holds the tokens that the regions stand for. -/
structure StandFor (regions : Regions) (template : Template) : Prop where
  path : PathReads regions.path template.segments
  query : List.Forall₂ Param.Spells (Param.clauses regions.query) template.params
  fragment : template.fragment = regions.fragment
  distinct : template.names.Nodup

/-- The rule that is reported broken, of all that are. -/
inductive Breaks (regions : Regions) : TemplateFault → Prop
  | path {fault : TemplateFault} (breaks : PathBreaks regions.path fault) : Breaks regions fault
  | query {segments : List Segment} {fault : TemplateFault}
      (path : PathReads regions.path segments)
      (breaks : Param.QueryBreaks regions.query fault) : Breaks regions fault
  | repeated {segments : List Segment} {params : List Param} {name : Text}
      (path : PathReads regions.path segments)
      (query : List.Forall₂ Param.Spells (Param.clauses regions.query) params)
      (repeats : FirstRepeats (variableNames segments params) name) :
      Breaks regions (.repeatedVariable name)

end Regions

namespace Template

theorem parse_eq_ok_iff {source : Text} {template : Template} :
    parse source = .ok template ↔
      template.source = source ∧ (Regions.ofText source).StandFor template := by
  simp only [parse, bind_eq_ok_iff, Segment.readPath_eq_ok_iff, Param.readQuery_eq_ok_iff,
    checkUniqueness_eq_ok_iff]
  constructor
  · rintro ⟨segments, path, params, query, _, distinct, made⟩
    cases made
    exact ⟨rfl, path, query, rfl, distinct⟩
  · rintro ⟨rfl, path, query, fragment, distinct⟩
    refine ⟨_, path, _, query, (), distinct, ?_⟩
    rw [← fragment]
    rfl

theorem parse_eq_error_iff {source : Text} {fault : TemplateFault} :
    parse source = .error fault ↔ (Regions.ofText source).Breaks fault := by
  simp only [parse, bind_eq_error_iff, Segment.readPath_eq_ok_iff, Param.readQuery_eq_ok_iff,
    Segment.readPath_eq_error_iff, Param.readQuery_eq_error_iff, checkUniqueness_eq_error_iff]
  constructor
  · rintro (path | ⟨segments, path, query | ⟨params, query, ⟨name, repeats, rfl⟩ | ⟨_, _, made⟩⟩⟩)
    · exact .path path
    · exact .query path query
    · exact .repeated path query repeats
    · cases made
  · rintro (path | ⟨path, query⟩ | ⟨path, query, repeats⟩)
    · exact .inl path
    · exact .inr ⟨_, path, .inl query⟩
    · exact .inr ⟨_, path, .inr ⟨_, query, .inl ⟨_, repeats, rfl⟩⟩⟩

/-- Reading gives the template that the regions of the text stand for. -/
theorem read_eq_ok_iff {source : Text} {template : Template} :
    read source = .ok template ↔
      template.source = source ∧ (Regions.ofText source).StandFor template := by
  rw [← parse_eq_ok_iff, read]
  cases parse source <;> simp [Except.mapError]

/-- Reading refuses with the rule that the regions break, and with the text. -/
theorem read_eq_error_iff {source : Text} {error : TemplateError} :
    read source = .error error ↔
      error.template = some source ∧ (Regions.ofText source).Breaks error.fault := by
  rw [← parse_eq_error_iff, read]
  obtain ⟨fault, template⟩ := error
  cases parse source <;> simp [Except.mapError, and_comm, eq_comm]

/-- Templates that have been read are the same if their texts are: no other part is compared. -/
theorem isSame_iff_of_read {source otherSource : Text} {template other : Template}
    (accepted : read source = .ok template) (otherAccepted : read otherSource = .ok other) :
    template.isSame other = true ↔ template = other := by
  obtain ⟨rfl, _⟩ := read_eq_ok_iff.mp accepted
  obtain ⟨rfl, _⟩ := read_eq_ok_iff.mp otherAccepted
  rw [isSame, beq_iff_eq]
  constructor
  · intro same
    rw [same, otherAccepted] at accepted
    exact (Except.ok.inj accepted).symm
  · rintro rfl
    rfl

/-- Regions stand for a template exactly when they obey the rules. -/
theorem exists_standFor_iff {source : Text} {regions : Regions} :
    (∃ template : Template, template.source = source ∧ regions.StandFor template) ↔
      regions.Lawful := by
  constructor
  · rintro ⟨template, _, path, query, _, distinct⟩
    refine ⟨PathReads.exists_iff.mp ⟨_, path⟩, Param.exists_params_iff.mp ⟨_, query⟩, ?_⟩
    intro form params written spells
    rw [names, variableNames, path.names_eq written, Param.params_unique query spells] at distinct
    exact distinct
  · rintro ⟨path, query, distinct⟩
    obtain ⟨segments, path⟩ := PathReads.exists_iff.mpr path
    obtain ⟨params, query⟩ := Param.exists_params_iff.mpr query
    obtain ⟨form, written⟩ := path.exists_form
    refine ⟨⟨source, segments, params, regions.fragment⟩, rfl, path, query, rfl, ?_⟩
    rw [names, variableNames, path.names_eq written]
    exact distinct form params written query

/-- **Reading decides the template language.** A text divides into regions in one way. It is read
exactly when its regions obey the rules, the template holds what the regions stand for, and a text
that is refused is refused, together with its text, for the first rule that it breaks. -/
theorem read_decides_language (source : Text) :
    ∃ regions : Regions, (∀ other : Regions, other.Divides source ↔ other = regions) ∧
      ((∃ template, read source = .ok template) ↔ regions.Lawful) ∧
      (∀ template, read source = .ok template ↔
        template.source = source ∧ regions.StandFor template) ∧
      ∀ error, read source = .error error ↔
        error.template = some source ∧ regions.Breaks error.fault := by
  refine ⟨Regions.ofText source, fun _ => Regions.divides_iff.trans eq_comm, ?_,
    fun _ => read_eq_ok_iff, fun _ => read_eq_error_iff⟩
  simp only [read_eq_ok_iff]
  exact exists_standFor_iff

/-- Names are read without the braces and spaces around them, and a clause of two characters at the
end is passed over. A name of nothing but braces and spaces is refused. A blank path is read as
none. -/
theorem read_decides_language_of_paddings :
    read "/u/\x7bid\x7d? x \x7d=\x7b \x7by\x7d \x7d&ab#f?".toList =
      .ok ⟨"/u/\x7bid\x7d? x \x7d=\x7b \x7by\x7d \x7d&ab#f?".toList,
        [.literal "u/".toList, .placeholder "id".toList], [⟨['x'], ['y']⟩], "f?".toList⟩ ∧
    read "a?\x7b \x7d=b".toList =
      .error ⟨.missingName "\x7b \x7d=b".toList, some "a?\x7b \x7d=b".toList⟩ ∧
    read "/\t ?ab".toList = .ok ⟨"/\t ?ab".toList, [], [], []⟩ := by
  refine ⟨?_, ?_, ?_⟩
  · obtain ⟨regions, divided, _, reads, _⟩ := read_decides_language
      "/u/\x7bid\x7d? x \x7d=\x7b \x7by\x7d \x7d&ab#f?".toList
    have divides : Regions.Divides
        ⟨"u/\x7bid\x7d".toList, " x \x7d=\x7b \x7by\x7d \x7d&ab".toList, "f?".toList⟩
        "/u/\x7bid\x7d? x \x7d=\x7b \x7by\x7d \x7d&ab#f?".toList :=
      ⟨by decide, by decide, some " x \x7d=\x7b \x7by\x7d \x7d&ab".toList, some "f?".toList,
        .slash "u/\x7bid\x7d? x \x7d=\x7b \x7by\x7d \x7d&ab#f?".toList, rfl, rfl⟩
    obtain rfl := (divided _).mp divides
    have clauses : Param.clauses " x \x7d=\x7b \x7by\x7d \x7d&ab".toList =
        [" x \x7d=\x7b \x7by\x7d \x7d".toList] := by decide +kernel
    refine (reads _).mpr ⟨rfl, ?_, ?_, rfl, by decide⟩
    · exact .form ⟨[⟨"u/".toList, "id".toList, by decide, by decide, by decide⟩], [], by decide⟩
        (by decide)
    · rw [clauses]
      exact .cons ⟨" x \x7d".toList, "\x7b \x7by\x7d \x7d".toList, rfl, by decide,
        ⟨by decide, [' '], " \x7d".toList, rfl, by simp, by simp⟩,
        ⟨by decide, "\x7b \x7b".toList, "\x7d \x7d".toList, rfl, by simp, by simp⟩,
        by decide, by decide⟩ .nil
  · obtain ⟨regions, divided, _, _, refuses⟩ := read_decides_language "a?\x7b \x7d=b".toList
    have divides : Regions.Divides ⟨['a'], "\x7b \x7d=b".toList, []⟩ "a?\x7b \x7d=b".toList :=
      ⟨by decide, by decide, some "\x7b \x7d=b".toList, none, .bare (by decide), rfl, rfl⟩
    obtain rfl := (divided _).mp divides
    have clauses : Param.clauses "\x7b \x7d=b".toList = ["\x7b \x7d=b".toList] := by
      decide +kernel
    refine (refuses _).mpr ⟨rfl, .query (.form ⟨[], ['a'], by decide⟩ (by decide)) ?_⟩
    refine ⟨[], "\x7b \x7d=b".toList, [], clauses, List.forall_mem_nil _, ?_⟩
    have unnamed : ∀ letter ∈ "\x7b \x7d".toList, letter ∈ ['\x7b', '\x7d', ' '] := by simp
    exact .missingName (by decide) (.inl unnamed)
  · obtain ⟨regions, divided, _, reads, _⟩ := read_decides_language "/\t ?ab".toList
    have divides : Regions.Divides ⟨"\t ".toList, "ab".toList, []⟩ "/\t ?ab".toList :=
      ⟨by decide, by decide, some "ab".toList, none, .slash "\t ?ab".toList, rfl, rfl⟩
    obtain rfl := (divided _).mp divides
    have clauses : Param.clauses "ab".toList = [] := by decide +kernel
    refine (reads _).mpr ⟨rfl, .blank (by decide), ?_, rfl, by decide⟩
    rw [clauses]
    exact .nil

end Template

end UriEndpoint
