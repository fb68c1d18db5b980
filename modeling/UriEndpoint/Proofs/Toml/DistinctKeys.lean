import UriEndpoint.Proofs.Sequencing
import UriEndpoint.Proofs.Value.Keys
import UriEndpoint.Toml.Reader

/-! # Documents have distinct keys

No table that is read from a configuration file has a key twice, on any level that is reached
through tables (`Toml.keyed_of_readBytes`). A document starts with the empty table, every statement
writes into tables with `Table.put`, and every inline table is made in the same way.
-/

namespace UriEndpoint.Toml

/-! ## Changes of one table -/

/-- An entry is only added under a key that the table does not have. -/
theorem keyed_of_addNew {key : Text} {value : Value} {table next : Table} (inner : value.Keyed)
    (keyed : table.Keyed) (added : addNew key value table = some next) : next.Keyed := by
  unfold addNew at added
  split at added <;> cases added
  exact keyed.put key inner

/-- A further table in a list of tables starts out empty. -/
theorem keyed_of_appendTable {key : Text} {table next : Table} (keyed : table.Keyed)
    (added : appendTable key table = some next) : next.Keyed := by
  unfold appendTable at added
  split at added <;> cases added
  · exact keyed.put key trivial
  · exact keyed.put key trivial

section Paths

variable {lists : Bool} {change : Table → Option Table} {path : KeyPath}

/-- What is changed is a table, or stands in a list. -/
theorem updateIn_cases {value next : Value}
    (updated : updateIn lists change value = some next) :
    (∃ entries result, value = .table entries ∧ change entries = some result ∧
      next = .table result) ∨
      ∃ items, next = .list items := by
  unfold updateIn at updated
  split at updated
  · obtain ⟨result, changed, rfl⟩ := Option.map_eq_some_iff.mp updated
    exact .inl ⟨_, result, rfl, changed, rfl⟩
  · split at updated
    · split at updated
      · obtain ⟨result, changed, rfl⟩ := Option.map_eq_some_iff.mp updated
        exact .inr ⟨_, rfl⟩
      · cases updated
    · cases updated
  · cases updated

/-- A change that keeps keys distinct keeps them distinct wherever in a table it is made. -/
theorem keyed_of_updateAt
    (keeps : ∀ table next, Table.Keyed table → change table = some next → Table.Keyed next)
    {table next : Table} (keyed : table.Keyed)
    (updated : updateAt lists change path table = some next) : next.Keyed := by
  induction path generalizing table next with
  | nil =>
      rw [updateAt] at updated
      exact keeps table next keyed updated
  | cons key path ih =>
      rw [updateAt] at updated
      split at updated
      · obtain ⟨inner, made, rfl⟩ := Option.map_eq_some_iff.mp updated
        exact keyed.put key (ih Table.keyed_nil made)
      · next value found =>
          obtain ⟨inner, made, rfl⟩ := Option.map_eq_some_iff.mp updated
          apply keyed.put key
          rcases updateIn_cases made with ⟨entries, result, rfl, changed, rfl⟩ | ⟨items, rfl⟩
          · exact ih (keyed.inside found) changed
          · trivial

end Paths

/-! ## Documents -/

/-- A header that opens a table repeats no key. -/
theorem keyed_of_openTable {document next : Document} {path : KeyPath}
    (keyed : document.root.Keyed) (opened : document.openTable path = some next) :
    next.root.Keyed := by
  simp only [Document.openTable] at opened
  split at opened
  · cases opened
  · obtain ⟨root, updated, made⟩ := Option.bind_eq_some_iff.mp opened
    cases made
    refine keyed_of_updateAt ?_ keyed updated
    intro table changed keyed same
    cases same
    exact keyed

theorem keyed_of_openItem {document next : Document} {path : KeyPath}
    (keyed : document.root.Keyed) (opened : document.openItem path = some next) :
    next.root.Keyed := by
  simp only [Document.openItem] at opened
  split at opened
  · cases opened
  · obtain ⟨⟨parent, key⟩, _, rest⟩ := Option.bind_eq_some_iff.mp opened
    obtain ⟨root, updated, made⟩ := Option.bind_eq_some_iff.mp rest
    cases made
    exact keyed_of_updateAt (fun _ _ => keyed_of_appendTable) keyed updated

/-- An entry of the table that is open repeats no key. -/
theorem keyed_of_addEntry {document next : Document} {path : KeyPath} {value : Value}
    (inner : value.Keyed) (keyed : document.root.Keyed)
    (added : document.addEntry path value = some next) : next.root.Keyed := by
  obtain ⟨⟨parent, key⟩, _, rest⟩ := Option.bind_eq_some_iff.mp added
  dsimp only at rest
  split at rest
  · cases rest
  · split at rest
    · cases rest
    · obtain ⟨root, updated, made⟩ := Option.bind_eq_some_iff.mp rest
      cases made
      exact keyed_of_updateAt (fun _ _ => keyed_of_addNew inner) keyed updated

theorem keyed_of_add {inline next : InlineTable} {path : KeyPath} {value : Value}
    (inner : value.Keyed) (keyed : inline.entries.Keyed)
    (added : inline.add path value = some next) : next.entries.Keyed := by
  obtain ⟨⟨parent, key⟩, _, rest⟩ := Option.bind_eq_some_iff.mp added
  dsimp only at rest
  split at rest
  · cases rest
  · obtain ⟨entries, updated, made⟩ := Option.bind_eq_some_iff.mp rest
    cases made
    exact keyed_of_updateAt (fun _ _ => keyed_of_addNew inner) keyed updated

/-! ## Values -/

theorem eq_some_of_orMalformed {α : Type} {found : Option α} {value : α}
    (read : orMalformed found = .ok value) : found = some value := by
  cases found <;> cases read
  rfl

theorem keyed_of_moment? {text rest : Text} {value : Value}
    (read : moment? text = some (some (value, rest))) : value.Keyed := by
  obtain ⟨⟨date, afterDate⟩, _, read⟩ := Option.bind_eq_some_iff.mp read
  dsimp only at read
  split at read
  · cases read
  · split at read
    · split at read <;> cases read <;> trivial
    · cases read
      trivial

theorem keyed_of_number {text rest : Text} {value : Value}
    (read : (radixInteger? text).or (decimal? text) = some (value, rest)) : value.Keyed := by
  rcases Option.or_eq_some_iff.mp read with found | ⟨_, found⟩
  · unfold radixInteger? at found
    split at found
    · obtain ⟨radix, _, found⟩ := Option.bind_eq_some_iff.mp found
      obtain ⟨⟨digits, afterDigits⟩, _, found⟩ := Option.bind_eq_some_iff.mp found
      cases found
      trivial
    · cases found
  · obtain ⟨⟨whole, afterWhole⟩, _, found⟩ := Option.bind_eq_some_iff.mp found
    dsimp only at found
    split at found <;> cases found <;> trivial

theorem keyed_of_word? {text rest : Text} {value : Value}
    (read : word? text = some (value, rest)) : value.Keyed := by
  obtain ⟨word, found, same⟩ := Option.map_eq_some_iff.mp read
  cases same
  have each : ∀ word ∈ words, Value.Keyed word.2 := by simp [words, Value.Keyed]
  exact each word (List.mem_of_find?_eq_some found)

/-- A scalar holds no table, so there is no key in it. -/
theorem keyed_of_scalar {text rest : Text} {value : Value}
    (read : scalar text = .ok (value, rest)) : value.Keyed := by
  unfold scalar at read
  split at read
  · obtain ⟨found, _, same⟩ := Option.map_eq_some_iff.mp (eq_some_of_orMalformed read)
    cases same
    trivial
  · split at read
    · split at read <;> cases read
      trivial
    · have found := eq_some_of_orMalformed read
      unfold bareScalar? at found
      split at found
      · next here => exact keyed_of_moment? (here.trans (congrArg some found))
      · split at found
        · cases found
          trivial
        · rcases Option.or_eq_some_iff.mp found with found | ⟨_, found⟩
          · exact keyed_of_number found
          · exact keyed_of_word? found

/-- With this fuel, a value that is read has distinct keys. -/
def ValuesKeyed (fuel : Nat) : Prop :=
  ∀ depth text read rest, value fuel depth text = .ok (read, rest) → read.Keyed

/-- With this fuel, an inline table that is read on has distinct keys if what is read of it has. -/
def EntriesKeyed (fuel : Nat) : Prop :=
  ∀ depth (inline : InlineTable) text read rest, inline.entries.Keyed →
    entries fuel depth inline text = .ok (read, rest) → Table.Keyed read

/-- Values with one level more of nesting hold what the entries inside them hold. -/
theorem valuesKeyed_succ {fuel : Nat} (keyedEntries : EntriesKeyed fuel) :
    ValuesKeyed (fuel + 1) := by
  intro depth text read rest done
  unfold value at done
  split at done
  · split at done
    · cases done
    · cases done
    · obtain ⟨filled, _, done⟩ := bind_eq_ok_iff.mp done
      obtain ⟨⟨list, afterList⟩, _, done⟩ := bind_eq_ok_iff.mp done
      cases done
      trivial
  · split at done
    · cases done
    · cases done
    · cases done
    · split at done
      · cases done
        exact Table.keyed_nil
      · obtain ⟨⟨inner, afterTable⟩, made, done⟩ := bind_eq_ok_iff.mp done
        cases done
        exact keyedEntries _ _ _ _ _ Table.keyed_nil made
  · exact keyed_of_scalar done

/-- Entries with one level more of nesting add values without repeated keys to such tables. -/
theorem entriesKeyed_succ {fuel : Nat} (keyedValue : ValuesKeyed fuel)
    (keyedEntries : EntriesKeyed fuel) : EntriesKeyed (fuel + 1) := by
  intro depth inline text read rest keyed done
  unfold entries at done
  obtain ⟨⟨path, afterPath⟩, _, done⟩ := bind_eq_ok_iff.mp done
  dsimp only at done
  split at done
  · obtain ⟨⟨given, afterValue⟩, valued, done⟩ := bind_eq_ok_iff.mp done
    obtain ⟨next, added, done⟩ := bind_eq_ok_iff.mp done
    have kept := keyed_of_add (keyedValue _ _ _ _ valued) keyed (eq_some_of_orMalformed added)
    dsimp only at done
    split at done
    · cases done
      exact kept
    · exact keyedEntries _ _ _ _ _ kept done
    · cases done
  · cases done

/-- Values hold tables and tables hold values, so the fuel runs out for both at once. -/
theorem valuesKeyed_and_entriesKeyed (fuel : Nat) : ValuesKeyed fuel ∧ EntriesKeyed fuel := by
  induction fuel with
  | zero =>
      constructor
      · intro depth text read rest done
        unfold value at done
        cases done
      · intro depth inline text read rest keyed done
        unfold entries at done
        cases done
  | succ fuel ih =>
      obtain ⟨keyedValue, keyedEntries⟩ := ih
      exact ⟨valuesKeyed_succ keyedEntries, entriesKeyed_succ keyedValue keyedEntries⟩

/-! ## Statements -/

theorem keyed_of_header? {fuel : Nat} {document next : Document} {text rest : Text}
    (keyed : document.root.Keyed) (read : header? fuel document text = some (next, rest)) :
    next.root.Keyed := by
  unfold header? at read
  split at read
  · obtain ⟨⟨path, afterPath⟩, _, read⟩ := Option.bind_eq_some_iff.mp read
    dsimp only at read
    split at read
    · obtain ⟨opened, made, read⟩ := Option.bind_eq_some_iff.mp read
      cases read
      exact keyed_of_openItem keyed made
    · cases read
  · obtain ⟨⟨path, afterPath⟩, _, read⟩ := Option.bind_eq_some_iff.mp read
    dsimp only at read
    split at read
    · obtain ⟨opened, made, read⟩ := Option.bind_eq_some_iff.mp read
      cases read
      exact keyed_of_openTable keyed made
    · cases read
  · cases read

theorem keyed_of_entry {fuel : Nat} {document next : Document} {text rest : Text}
    (keyed : document.root.Keyed) (read : entry fuel document text = .ok (next, rest)) :
    next.root.Keyed := by
  obtain ⟨⟨path, afterPath⟩, _, read⟩ := bind_eq_ok_iff.mp read
  dsimp only at read
  split at read
  · obtain ⟨⟨given, afterValue⟩, valued, read⟩ := bind_eq_ok_iff.mp read
    obtain ⟨added, made, read⟩ := bind_eq_ok_iff.mp read
    cases read
    have inner := (valuesKeyed_and_entriesKeyed fuel).1 _ _ _ _ valued
    exact keyed_of_addEntry inner keyed (eq_some_of_orMalformed made)
  · cases read

/-- Reading a statement, a header or an entry, repeats no key. -/
theorem keyed_of_statement {fuel : Nat} {document next : Document} {text rest : Text}
    (keyed : document.root.Keyed) (read : statement fuel document text = .ok (next, rest)) :
    next.root.Keyed := by
  unfold statement at read
  split at read
  · cases read
    exact keyed
  · split at read
    · cases read
      exact keyed
    · split at read
      · exact keyed_of_header? keyed (eq_some_of_orMalformed read)
      · split at read
        · exact keyed_of_entry keyed read
        · cases read

/-- Reading statement after statement repeats no key. -/
theorem keyed_of_statements {fuel : Nat} {document next : Document} {text : Text}
    (keyed : document.root.Keyed) (read : statements fuel document text = .ok next) :
    next.root.Keyed := by
  induction fuel generalizing document text with
  | zero => cases read
  | succ fuel ih =>
      obtain ⟨⟨stated, rest⟩, first, read⟩ := bind_eq_ok_iff.mp read
      obtain ⟨afterComment, _, read⟩ := bind_eq_ok_iff.mp read
      have kept := keyed_of_statement keyed first
      split at read
      · cases read
        exact kept
      · exact ih kept read
      · cases read

/-- **A document that is read has no key twice**, at any depth. -/
theorem keyed_of_readBytes {bytes : ByteArray} {table : Table}
    (done : readBytes bytes = .ok table) : table.Keyed := by
  unfold readBytes at done
  split at done
  · cases done
  · obtain ⟨document, stated, rfl⟩ := map_eq_ok_iff.mp done
    exact keyed_of_statements Table.keyed_nil stated

end UriEndpoint.Toml
