import UriEndpoint.Proofs.Template.QueryGrammar
import UriEndpoint.Proofs.Text.Trimming

/-! # Braces and spaces around the names of a query

The two names of a clause may stand in any number of braces and spaces; reading gives the names
without them (`Param.spells_wrapped`). What reading gives are exactly the params that can be written
so (`Param.readable_of_read`, `Param.readQuery_wrapped`).
-/

namespace UriEndpoint

namespace Param

/-- Two names that some clause spells: both are there, hold no character that would end them, and
have bare ends. -/
structure Readable (param : Param) : Prop where
  wire_present : param.wireName ≠ []
  wire_plain : '=' ∉ param.wireName ∧ '&' ∉ param.wireName
  wire_bare : Text.BareEnds ['\x7b', '\x7d', ' '] param.wireName
  var_present : param.varName ≠ []
  var_plain : '&' ∉ param.varName
  var_bare : Text.BareEnds ['\x7b', '\x7d', ' '] param.varName

/-- A run of braces and spaces. -/
structure Wrap where
  text : Text
  marks : ∀ letter ∈ text, letter ∈ ['\x7b', '\x7d', ' ']

/-- What stands before and after each of the two names of a clause. -/
structure Wrapping where
  beforeWire : Wrap
  afterWire : Wrap
  beforeVar : Wrap
  afterVar : Wrap

/-- A param as a clause, with its names wrapped. -/
def wrapped (param : Param) (wrapping : Wrapping) : Text :=
  (wrapping.beforeWire.text ++ param.wireName ++ wrapping.afterWire.text) ++
    '=' :: (wrapping.beforeVar.text ++ param.varName ++ wrapping.afterVar.text)

theorem Wrap.not_mem (wrap : Wrap) {letter : Char} (separator : letter = '=' ∨ letter = '&') :
    letter ∉ wrap.text := by
  intro member
  have mark := wrap.marks letter member
  rcases separator with rfl | rfl <;> revert mark <;> decide

/-- A param in any wrapping is spelled by the clause. -/
theorem spells_wrapped {param : Param} (readable : param.Readable) (wrapping : Wrapping) :
    Spells (param.wrapped wrapping) param := by
  obtain ⟨wirePresent, ⟨wirePlain, _⟩, wireBare, varPresent, _, varBare⟩ := readable
  refine ⟨_, _, rfl, ?_, ?_, ?_, wirePresent, varPresent⟩
  · simp only [List.mem_append, not_or]
    exact ⟨⟨wrapping.beforeWire.not_mem (.inl rfl), wirePlain⟩,
      wrapping.afterWire.not_mem (.inl rfl)⟩
  · exact ⟨wireBare, _, _, rfl, wrapping.beforeWire.marks, wrapping.afterWire.marks⟩
  · exact ⟨varBare, _, _, rfl, wrapping.beforeVar.marks, wrapping.afterVar.marks⟩

theorem not_mem_wrapped {param : Param} (readable : param.Readable) (wrapping : Wrapping) :
    '&' ∉ param.wrapped wrapping := by
  have plain (wrap : Wrap) : '&' ∉ wrap.text := wrap.not_mem (.inr rfl)
  simp [wrapped, plain, readable.wire_plain.2, readable.var_plain]

/-- Params in any wrappings are read back in order. -/
theorem readQuery_wrapped {entries : List (Param × Wrapping)}
    (readable : ∀ entry ∈ entries, entry.1.Readable) :
    readQuery (Text.joined '&' (entries.map fun entry => entry.1.wrapped entry.2)) =
      .ok (entries.map Prod.fst) := by
  rw [readQuery_eq_ok_iff]
  apply forall₂_spells_clauses_joined
  · rw [List.forall₂_map_left_iff, List.forall₂_map_right_iff, List.forall₂_same]
    exact fun entry member => spells_wrapped (readable entry member) entry.2
  · intro part member
    obtain ⟨entry, among, rfl⟩ := List.mem_map.mp member
    exact not_mem_wrapped (readable entry among) entry.2

/-- A clause without an ampersand spells only params that can be read. -/
theorem Spells.readable {clause : Text} {param : Param} (spells : Spells clause param)
    (ampersand : '&' ∉ clause) : param.Readable := by
  obtain ⟨left, right, rfl, plain, wire, name, wirePresent, namePresent⟩ := spells
  rw [List.mem_append, List.mem_cons, not_or, not_or] at ampersand
  constructor
  · exact wirePresent
  · exact ⟨fun member => plain (wire.mem member), fun member => ampersand.1 (wire.mem member)⟩
  · exact wire.bare
  · exact namePresent
  · exact fun member => ampersand.2.2 (name.mem member)
  · exact name.bare

/-- Every param that is read could be spelled. -/
theorem readable_of_read {query : Text} {params : List Param}
    (accepted : readQuery query = .ok params) {param : Param} (member : param ∈ params) :
    param.Readable := by
  obtain ⟨clause, among, spells⟩ := exists_of_mem_results (readQuery_eq_ok_iff.mp accepted) member
  exact spells.readable (Text.not_mem_of_mem_pieces (mem_pieces_of_mem_clauses among))

/-- **Reading a query ignores what wraps its names.** Params that can be read are read from their
clauses in order, whatever braces and spaces wrap each name, and every query gives only such
params. -/
theorem readQuery_ignores_wrapping :
    (∀ entries : List (Param × Wrapping), (∀ entry ∈ entries, entry.1.Readable) →
      readQuery (Text.joined '&' (entries.map fun entry => entry.1.wrapped entry.2)) =
        .ok (entries.map Prod.fst)) ∧
    ∀ query params, readQuery query = .ok params → ∀ param ∈ params, param.Readable := by
  constructor
  · intro entries readable
    exact readQuery_wrapped readable
  · intro query params accepted param member
    exact readable_of_read accepted member

/-- Names may hold braces and spaces, a variable name an equals sign, and one name may be bare. -/
theorem readQuery_ignores_wrapping_of_inner_marks :
    Readable ⟨"a \x7d\x7bb".toList, "x=\x7by\x7d =z".toList⟩ ∧
      readQuery "\x7b a \x7d\x7bb= \x7d\x7bx=\x7by\x7d =z\x7d&c=d".toList =
        .ok [⟨"a \x7d\x7bb".toList, "x=\x7by\x7d =z".toList⟩, ⟨['c'], ['d']⟩] := by
  have inner : Readable ⟨"a \x7d\x7bb".toList, "x=\x7by\x7d =z".toList⟩ := by
    constructor <;> decide
  have bare : Readable ⟨['c'], ['d']⟩ := by
    constructor <;> decide
  refine ⟨inner, ?_⟩
  exact readQuery_ignores_wrapping.1
    [(⟨"a \x7d\x7bb".toList, "x=\x7by\x7d =z".toList⟩,
        ⟨⟨['\x7b', ' '], by simp⟩, ⟨[], by simp⟩, ⟨[' ', '\x7d', '\x7b'], by simp⟩,
          ⟨['\x7d'], by simp⟩⟩),
      (⟨['c'], ['d']⟩, ⟨⟨[], by simp⟩, ⟨[], by simp⟩, ⟨[], by simp⟩, ⟨[], by simp⟩⟩)]
    (List.forall_mem_cons.mpr ⟨inner, List.forall_mem_cons.mpr ⟨bare, by simp⟩⟩)

end Param

end UriEndpoint
