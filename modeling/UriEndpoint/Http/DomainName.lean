import UriEndpoint.Text.LabelLetters
import UriEndpoint.Text.Lowercase
import UriEndpoint.Text.Punycode
import UriEndpoint.Text.Script

/-!
# Domain names

A domain name is labels with dots between them. A label beyond ASCII is sent as a mark and its form
in ASCII. Only labels that keep to the rules of internationalised names have such a form: composed
letters of names, hyphens in their places, no mark in front, neighbours where a character needs
them, and one direction.
-/

namespace UriEndpoint.DomainName

/-- The characters that separate labels. -/
def separators : List Char := ['.', '\u3002', '\uff0e', '\uff61']

/-- The labels of a name. -/
def labels (name : Text) : List Text :=
  Text.pieces '.' (name.map fun letter => if separators.contains letter then '.' else letter)

/-- What a label in its form in ASCII begins with. -/
def formMark : Text := "xn--".toList

/-- The most characters of a label as it is sent. -/
def mostLabelLength : Nat := 63

/-- The most characters of a name as it is sent, a dot at the end not counted. -/
def mostNameLength : Nat := 253

/-- Whether the hyphens of a label stand in their places. -/
def hasProperHyphens (label : Text) : Bool :=
  label.head? != some '-' && label.getLast? != some '-' &&
    (label.drop 2).take 2 != ['-', '-']

/-- Why a label does not keep to the rules. -/
inductive LabelFault where
  /-- The label is no label at all, or a joiner in it stands where it may not. -/
  | malformed
  /-- A character is none of names. -/
  | letter
  /-- A character stands where its neighbours do not allow it. -/
  | neighbours
  /-- The directions of the characters do not go together. -/
  | direction
deriving DecidableEq, Repr

/-- The fault of a character that may not stand where it does. -/
def faultOf (letter : Char) : LabelFault :=
  if Text.isJoiner letter then .malformed
  else if Text.liesIn Text.neighbourlyRuns letter then .neighbours
  else .letter

/-- Checks that every character of a label may stand where it does, after the characters before it,
last one first. -/
def checkSpelling (before : Text) : Text → Except LabelFault Unit
  | [] => .ok ()
  | letter :: rest =>
      if Text.isLabelLetter letter || Text.neighboursAllow before letter rest then
        checkSpelling (letter :: before) rest
      else .error (faultOf letter)

/-- Whether a label has the shape of one, whatever its characters are. -/
def isShaped (label : Text) : Bool :=
  !label.isEmpty && label.length ≤ mostNameLength + 1 && Text.isComposed label &&
    hasProperHyphens label && !(label.head?.map Text.isMark).getD false

/-- The label if it keeps to the rules. -/
def checked (label : Text) : Except LabelFault Text :=
  if isShaped label then
    match checkSpelling [] label with
    | .error fault => .error fault
    | .ok () => if Text.followsOneDirection label then .ok label else .error .direction
  else .error .malformed

/-- The label that a label as it is sent stands for. -/
def decodedLabel (label : Text) : Except LabelFault Text :=
  let label := label.lowercase
  if formMark.isPrefixOf label then
    let form := label.drop formMark.length
    if form.isEmpty || form.getLast? == some '-' then .error .malformed
    else
      match Punycode.decode? form with
      | some decoded => checked decoded
      | none => .error .malformed
  else checked label

/-- A label as it is sent. -/
def encodedLabel (label : Text) : Except LabelFault Text := do
  let sent ←
    if label.all Punycode.isPlain then (decodedLabel label).map fun _ => label
    else (checked label).map fun label => formMark ++ Punycode.encode label
  if sent.length ≤ mostLabelLength then return sent else throw .malformed

/-- A name with every label put into another form; an empty one at the end only ends it. -/
def mapped (form : Text → Except LabelFault Text) (name : Text) : Except LabelFault Text :=
  match (labels name).reverse with
  | [] => .error .malformed
  | [] :: [] => .error .malformed
  | [] :: before => (before.reverse.mapM form).map fun labels => Text.joined '.' (labels ++ [[]])
  | before => (before.reverse.mapM form).map (Text.joined '.')

/-- A name as it is sent. -/
def encoded (name : Text) : Except LabelFault Text := do
  let sent ← mapped encodedLabel name
  if sent.length ≤ mostNameLength + (if sent.getLast? = some '.' then 1 else 0) then return sent
  else throw .malformed

/-- The name that a name as it is sent stands for. -/
def decoded (name : Text) : Except LabelFault Text := mapped decodedLabel name

end UriEndpoint.DomainName
