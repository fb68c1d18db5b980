import UriEndpoint.Text.Numeral

/-!
# Addresses of hosts

A host may be an address instead of a name. An address of version 4 is four numbers up to 255 with
points between them and no needless zeros. An address of version 6 is eight groups of hexadecimal
digits with colons between them; two colons together stand for one run of zero groups, the last two
groups may be written as an address of version 4, and a scope may follow a percent sign.
-/

namespace UriEndpoint.HostAddress

/-- The greatest number in an address of version 4. -/
def greatestOctet : Nat := 255

/-- Whether a text is a number up to 255 without a needless zero in front. -/
def isOctet (text : Text) : Bool :=
  !text.isEmpty && text.length ≤ 3 && text.all Char.isDigit &&
    (text = ['0'] || text.head? != some '0') && Text.decimalNumber text ≤ greatestOctet

/-- Whether a text is an address of version 4. -/
def isVersion4 (text : Text) : Bool :=
  let numbers := Text.pieces '.' text
  numbers.length == 4 && numbers.all isOctet

/-- The lengths of the runs of digits between single other characters. -/
def digitRuns (length : Nat) : Text → List Nat
  | [] => [length]
  | letter :: rest =>
      if letter.isDigit then digitRuns (length + 1) rest else length :: digitRuns 0 rest

/-- Whether a text reads as four numbers with any single character, a digit included, between them:
then it has to be an address of version 4. -/
def resemblesVersion4 (text : Text) : Bool :=
  let runs := digitRuns 0 text
  runs.all (0 < ·) && runs.length ≤ 4 &&
    4 ≤ runs.length + (runs.map fun run => (run - 1) / 2).foldl (· + ·) 0

/-- The number of groups of an address of version 6. -/
def groupCount : Nat := 8

/-- Whether a text is a group of an address of version 6. -/
def isGroup (text : Text) : Bool :=
  !text.isEmpty && text.length ≤ 4 && text.all (Text.isDigitOf 16)

/-- The groups with a last one of version 4 as two groups; nothing if it is malformed. -/
def plainGroups? (groups : List Text) : Option (List Text) :=
  match groups.getLast? with
  | some last =>
      if last.contains '.' then
        if isVersion4 last then some (groups.dropLast ++ [['0'], ['0']]) else none
      else some groups
  | none => none

/-- The groups on one side of a run of zero groups; the run may reach the end of the address. -/
def besideRun (groups : List Text) : List Text := if groups = [[]] then [] else groups

/-- Whether groups make up an address, of which one that is empty inside stands for a run. -/
def areGroups (groups : List Text) : Bool :=
  match groups with
  | [] => false
  | first :: rest =>
      match rest.dropLast.findIdx? List.isEmpty with
      | none => groups.length == groupCount && groups.all isGroup
      | some position =>
          let beside := besideRun (first :: rest.take position) ++
            besideRun (rest.drop (position + 1))
          beside.length < groupCount && beside.all isGroup

/-- Whether what follows an address is a scope or nothing. -/
def isScope : Option Text → Bool
  | none => true
  | some scope => !scope.isEmpty && !scope.contains '%'

/-- Whether a text is an address of version 6. -/
def isVersion6 (text : Text) : Bool :=
  let (address, scope) := Text.cut '%' text
  let groups := Text.pieces ':' address
  3 ≤ groups.length && isScope scope && ((plainGroups? groups).map areGroups).getD false

end UriEndpoint.HostAddress
