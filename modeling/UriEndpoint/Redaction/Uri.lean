import UriEndpoint.Redaction.Names

/-!
# Masking a URI

Only the query is touched: the text between the first question mark and the first number sign after
it. It is cut at every ampersand, and an entry whose name before its first equals sign is sensitive
gets the mask for a value. Path and fragment stay as they are, and nothing is decoded.
-/

namespace UriEndpoint.Redaction

/-- One query entry with its value masked if its name is sensitive. -/
def maskedEntry (entry : Text) : Text :=
  match entry.cut '=' with
  | (_, none) => entry
  | (name, some _) => if isSensitive name then name ++ '=' :: mask else entry

/-- A query with the values of sensitive entries masked. -/
def maskedQuery (query : Text) : Text :=
  Text.joined '&' ((Text.pieces '&' query).map maskedEntry)

/-- A URI with the values of sensitive query entries masked. -/
def maskedUri (uri : Text) : Text :=
  match uri.cut '?' with
  | (_, none) => uri
  | (head, some rest) =>
      let (query, fragment) := rest.cut '#'
      head ++ '?' :: maskedQuery query ++ Text.opened '#' fragment

/-- An entry without an equals sign is kept. -/
theorem maskedEntry_of_not_mem {entry : Text} (absent : '=' ∉ entry) :
    maskedEntry entry = entry := by
  have cutting : Text.cut '=' entry = (entry, none) := by
    simpa [Text.opened] using Text.cut_append absent none
  simp [maskedEntry, cutting]

/-- An entry with an equals sign is masked behind the first one, if its name is sensitive. -/
theorem maskedEntry_append {name : Text} (absent : '=' ∉ name) (value : Text) :
    maskedEntry (name ++ '=' :: value) =
      name ++ '=' :: if isSensitive name then mask else value := by
  have cutting : Text.cut '=' (name ++ '=' :: value) = (name, some value) := by
    simpa [Text.opened] using Text.cut_append absent (some value)
  by_cases sensitive : isSensitive name <;> simp [maskedEntry, cutting, sensitive]

end UriEndpoint.Redaction
