import UriEndpoint.Value.Basic

/-! # Values at the end of a path of keys

A path is followed from a value through tables, one key after another. It ends where a key is
missing or where something else than a table stands, and a list is something else.
-/

namespace UriEndpoint

/-- The value at the end of a path, if the path leads that far. -/
def Value.at? : Value → List Text → Option Value
  | value, [] => some value
  | value, key :: path =>
      (value.table?.bind fun entries => Table.get? entries key).bind fun inner => inner.at? path

/-- The value at the end of a path that begins in a table. -/
def Table.at? (table : Table) (path : List Text) : Option Value := (Value.table table).at? path

/-- The keys of the table at the end of a path, in order. -/
def Table.keysAt? (table : Table) (path : List Text) : Option (List Text) :=
  ((table.at? path).bind Value.table?).map Table.keys

namespace Value

/-- No key leads on from a value that is no table. -/
theorem at?_cons_of_not_table {value : Value} (plain : value.table? = none) (key : Text)
    (path : List Text) : value.at? (key :: path) = none := by
  rw [at?, plain, Option.bind_none, Option.bind_none]

/-- A path leads on from where its front leads. -/
theorem at?_append (value : Value) (front rest : List Text) :
    value.at? (front ++ rest) = (value.at? front).bind fun inner => inner.at? rest := by
  induction front generalizing value with
  | nil => rfl
  | cons key front ih =>
      rw [List.cons_append, at?, at?]
      cases value.table?.bind fun entries => Table.get? entries key with
      | none => rfl
      | some inner => exact ih inner

end Value

namespace Table

variable {table : Table}

theorem at?_cons (table : Table) (key : Text) (path : List Text) :
    table.at? (key :: path) = (table.get? key).bind fun inner => inner.at? path := rfl

theorem at?_cons_of_get? {key : Text} {value : Value} (found : table.get? key = some value)
    (path : List Text) : table.at? (key :: path) = value.at? path := by
  rw [at?_cons, found, Option.bind_some]

/-- Two keys lead nowhere if there is no table under the first. -/
theorem at?_cons_cons_of_not_table {key : Text}
    (plain : (table.get? key).bind Value.table? = none) (next : Text) (path : List Text) :
    table.at? (key :: next :: path) = none := by
  cases found : table.get? key with
  | none => rw [at?_cons, found, Option.bind_none]
  | some value =>
      rw [found, Option.bind_some] at plain
      rw [at?_cons_of_get? found, Value.at?_cons_of_not_table plain]

theorem at?_append (table : Table) (front rest : List Text) :
    table.at? (front ++ rest) = (table.at? front).bind fun inner => inner.at? rest :=
  Value.at?_append _ front rest

/-- The last key of a path is looked up in the table that the rest leads to. -/
theorem at?_snoc (table : Table) (path : List Text) (key : Text) :
    table.at? (path ++ [key]) =
      ((table.at? path).bind Value.table?).bind fun entries => get? entries key := by
  rw [at?_append]
  cases table.at? path with
  | none => rfl
  | some value =>
      exact Option.bind_fun_some (value.table?.bind fun entries => get? entries key)

/-- No path leads on from what is not a table. -/
theorem at?_append_cons_of_not_table {front : List Text} {value : Value}
    (found : table.at? front = some value) (plain : value.table? = none) (key : Text)
    (rest : List Text) : table.at? (front ++ key :: rest) = none := by
  rw [at?_append, found, Option.bind_some, Value.at?_cons_of_not_table plain]

end Table

end UriEndpoint
