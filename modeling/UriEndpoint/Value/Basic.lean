import UriEndpoint.Text.HalfPair
import UriEndpoint.Value.Calendar

/-!
# Values of documents

JSON bodies, configuration files, log fields and parameters hold values of one kind: scalars, lists
and tables nested to any depth. A table is a list of entries in the order in which its keys first
came. The same printer writes values in JSON lines and in messages; a `Spelling` holds what differs.
-/

namespace UriEndpoint

/-- A value of a document. -/
inductive Value where
  | null
  | boolean (value : Bool)
  | integer (value : Int)
  | real (value : Float)
  | text (value : Text)
  /-- A text with half a surrogate pair, spelled. -/
  | halfText (spelled : Text)
  | date (value : Date)
  | time (value : ClockTime)
  | moment (date : Date) (time : ClockTime) (offset : Option Int)
  | list (items : List Value)
  | table (entries : List (Text × Value))

instance : Inhabited Value := ⟨.null⟩

/-- The entries of a table in order. -/
abbrev Table := List (Text × Value)

namespace Table

/-- The value under a key, if there is one. -/
def get? (table : Table) (key : Text) : Option Value := table.lookup key

/-- The table with a value under a key: in the key's place if it has one, else at the end. -/
def put (table : Table) (key : Text) (value : Value) : Table :=
  match table with
  | [] => [(key, value)]
  | (other, kept) :: rest =>
      if other = key then (key, value) :: rest else (other, kept) :: put rest key value

/-- The table with further entries written into it one after another. -/
def putAll (table entries : Table) : Table :=
  entries.foldl (fun (table : Table) entry => table.put entry.1 entry.2) table

/-- The table with further entries where it has no value of their key yet. -/
def fillAll (table entries : Table) : Table :=
  entries.foldl
    (fun (table : Table) entry =>
      match table.get? entry.1 with
      | some _ => table
      | none => table.put entry.1 entry.2)
    table

/-- The keys in order. -/
def keys (table : Table) : List Text := table.map Prod.fst

theorem get?_nil (key : Text) : get? [] key = none := rfl

theorem get?_cons (key other : Text) (value : Value) (rest : Table) :
    get? ((other, value) :: rest) key = if key = other then some value else get? rest key := by
  by_cases same : key = other
  · subst same
    simp [get?]
  · have differ : (key == other) = false := by simp [same]
    simp [get?, List.lookup_cons, differ, same]

theorem put_nil (key : Text) (value : Value) : put [] key value = [(key, value)] := rfl

theorem put_cons (key other : Text) (value kept : Value) (rest : Table) :
    put ((other, kept) :: rest) key value =
      if other = key then (key, value) :: rest else (other, kept) :: put rest key value := rfl

theorem get?_put_self (table : Table) (key : Text) (value : Value) :
    (table.put key value).get? key = some value := by
  induction table with
  | nil => simp [put, get?]
  | cons entry rest ih =>
      obtain ⟨other, kept⟩ := entry
      by_cases same : other = key
      · simp [put, same, get?_cons]
      · simp [put, same, get?_cons, Ne.symm same, ih]

theorem get?_put_other (table : Table) {key other : Text} (differ : other ≠ key) (value : Value) :
    (table.put key value).get? other = table.get? other := by
  induction table with
  | nil => simp [put, get?, differ]
  | cons entry rest ih =>
      obtain ⟨first, kept⟩ := entry
      by_cases same : first = key
      · subst same
        simp [put, get?_cons, differ]
      · by_cases found : other = first
        · subst found
          simp [put, same, get?_cons]
        · simp [put, same, get?_cons, found, ih]

end Table

/-- How values are spelled in one place of output. -/
structure Spelling where
  null : Text
  yes : Text
  no : Text
  real : RealNames
  quote : Text → Text
  quoteSpelled : Text → Text

/-- The spelling of messages and console lines. -/
def Spelling.plain : Spelling where
  null := "None".toList
  yes := "True".toList
  no := "False".toList
  real := .plain
  quote := Text.quoted
  quoteSpelled := Text.quotedSpelled

namespace Value

/-- A comma and a space between neighbours. -/
def separated : List Text → Text
  | [] => []
  | [piece] => piece
  | piece :: next :: others => piece ++ ',' :: ' ' :: separated (next :: others)

mutual

/-- A value in text. -/
def written (spelling : Spelling) : Value → Text
  | null => spelling.null
  | boolean value => if value then spelling.yes else spelling.no
  | integer value => intText value
  | real value => realText spelling.real value
  | text value => spelling.quote value
  | halfText spelled => spelling.quoteSpelled spelled
  | date value => spelling.quote value.text
  | time value => spelling.quote value.text
  | moment day clock offset => spelling.quote (momentText day clock offset)
  | list items => '[' :: separated (writtenItems spelling items) ++ [']']
  | table entries => '\x7b' :: separated (writtenEntries spelling entries) ++ ['\x7d']

/-- The items of a list in text. -/
def writtenItems (spelling : Spelling) : List Value → List Text
  | [] => []
  | item :: rest => written spelling item :: writtenItems spelling rest

/-- The entries of a table in text, a colon and a space after each key. -/
def writtenEntries (spelling : Spelling) : List (Text × Value) → List Text
  | [] => []
  | (key, value) :: rest =>
      (spelling.quote key ++ ':' :: ' ' :: written spelling value) :: writtenEntries spelling rest

end

/-- A value as messages show it: a text bare, anything else as it is written inside lists. -/
def shown : Value → Text
  | text value => value
  | halfText spelled => spelled
  | other => other.written .plain

/-- The name of a value's kind in messages. -/
def kindName : Value → Text
  | null => "NoneType".toList
  | boolean _ => "bool".toList
  | integer _ => "int".toList
  | real _ => "float".toList
  | text _ => "str".toList
  | halfText _ => "str".toList
  | date _ => "date".toList
  | time _ => "time".toList
  | moment .. => "datetime".toList
  | list _ => "list".toList
  | table _ => "dict".toList

/-- Whether a value counts as yes: null, false, zero and what is empty do not. -/
def standsForYes : Value → Bool
  | null => false
  | boolean value => value
  | integer value => value != 0
  | real value => value != 0
  | text value => !value.isEmpty
  | list items => !items.isEmpty
  | table entries => !entries.isEmpty
  | _ => true

def isNull : Value → Bool
  | null => true
  | _ => false

/-- The text that is spelled, with half a surrogate pair or without. -/
def ofSpelled (spelled : Text) : Value :=
  if spelled.holdsHalf then .halfText spelled else .text spelled.unspelled

theorem ofSpelled_flatMap_spelledLetter (value : Text) :
    ofSpelled (value.flatMap Text.spelledLetter) = .text value := by
  have whole := Text.holdsHalf_flatMap_append value []
  rw [List.append_nil] at whole
  rw [ofSpelled, whole, Text.unspelled_flatMap_spelledLetter]
  rfl

/-- The text that a value is, if it is one. -/
def text? : Value → Option Text
  | text value => some value
  | _ => none

/-- Whether a value is a text, with half a surrogate pair or without. -/
def isText : Value → Bool
  | text _ | halfText _ => true
  | _ => false

/-- The entries that a value has, if it is a table. -/
def table? : Value → Option Table
  | table entries => some entries
  | _ => none

mutual

/-- The value in which of a repeated key only the last entry counts, in the place of the first. -/
def settled : Value → Value
  | list items => .list (settledItems items)
  | table entries => .table (settledEntries [] entries)
  | other => other

/-- Every item settled. -/
def settledItems : List Value → List Value
  | [] => []
  | item :: rest => settled item :: settledItems rest

/-- Entries written one after another into a table. -/
def settledEntries (table : Table) : List (Text × Value) → Table
  | [] => table
  | (key, value) :: rest => settledEntries (table.put key (settled value)) rest

end

end Value

end UriEndpoint
