import UriEndpoint.Validation.NumberText
import UriEndpoint.Value.Basic

/-!
# Scalars

How a value is taken as an integer, a real, a truth value or a text. Strict checking takes only
values of that kind, integers counting as reals. Lax checking also takes truth values as numbers,
whole reals as integers, zero and one as truth values, and text that denotes such a value.
-/

namespace UriEndpoint

/-- How readily a value of another kind is taken. -/
inductive Strictness where
  | lax
  | strict
deriving DecidableEq, Repr

namespace Scalar

/-- The texts that stand for false, in lower case. -/
def noWords : List Text := ["0", "off", "f", "false", "n", "no"].map String.toList

/-- The texts that stand for true, in lower case. -/
def yesWords : List Text := ["1", "on", "t", "true", "y", "yes"].map String.toList

/-- The truth value that a text denotes, in any letter case. -/
def truthText? (text : Text) : Option Bool :=
  let word := text.lowercase
  if noWords.contains word then some false
  else if yesWords.contains word then some true
  else none

/-- The truth value that an integer stands for. -/
def truthInt (value : Int) : Except IssueKind Bool :=
  if value = 0 then .ok false else if value = 1 then .ok true else .error .boolParsing

/-- Two to the sixty-third power, where machine integers end. -/
def wordBound : Int := Nat.pow 2 63

/-- Whether an integer is a machine integer. -/
def fitsWord (value : Int) : Bool := -wordBound ≤ value && value < wordBound

/-- Whether the reals around a whole one are machine integers too. -/
def insideWord (value : Int) : Bool := -wordBound < value && value < wordBound

/-- A value taken as an integer. -/
def integer : Strictness → Value → Except IssueKind Int
  | _, .integer value => .ok value
  | .strict, _ => .error .intType
  | .lax, .boolean value => .ok (if value then 1 else 0)
  | .lax, .real value =>
      match Binary64.ofFloat value with
      | .finite negative significand exponent =>
          match (Binary64.finite negative significand exponent).toInt? with
          | some value => if insideWord value then .ok value else .error .intParsingSize
          | none => .error .intFromFloat
      | _ => .error .finiteNumber
  | .lax, .text value => NumberText.integer value
  | .lax, .halfText _ => .error .stringUnicode
  | .lax, _ => .error .intType

/-- A value taken as a real. -/
def real : Strictness → Value → Except IssueKind Float
  | _, .real value => .ok value
  | _, .integer value => .ok (Binary64.nearestInt value)
  | .strict, _ => .error .floatType
  | .lax, .boolean value => .ok (Binary64.nearestInt (if value then 1 else 0))
  | .lax, .text value =>
      match NumberText.real? value with
      | some value => .ok value
      | none => .error .floatParsing
  | .lax, .halfText _ => .error .stringUnicode
  | .lax, _ => .error .floatType

/-- A value taken as a truth value. -/
def boolean : Strictness → Value → Except IssueKind Bool
  | _, .boolean value => .ok value
  | .strict, _ => .error .boolType
  | .lax, .integer value => if fitsWord value then truthInt value else .error .boolType
  | .lax, .real value =>
      match (Binary64.ofFloat value).toInt? with
      | some value => if insideWord value then truthInt value else .error .boolType
      | none => .error .boolType
  | .lax, .text value =>
      match truthText? value with
      | some value => .ok value
      | none => .error .boolParsing
  | .lax, .halfText _ => .error .stringUnicode
  | .lax, _ => .error .boolType

/-- A value taken as a text. -/
def text : Value → Except IssueKind Text
  | .text value => .ok value
  | .halfText _ => .error .stringUnicode
  | _ => .error .stringType

/-- A value taken as one of a few texts. -/
def choice (options : List Text) : Value → Except IssueKind Text
  | .text value => if options.contains value then .ok value else .error .literalError
  | .halfText _ => .error .stringUnicode
  | _ => .error .literalError

/-- A value taken as null or as something else. -/
def nullable {α : Type} (check : Value → Except IssueKind α) :
    Value → Except IssueKind (Option α)
  | .null => .ok none
  | value => (check value).map some

end Scalar

end UriEndpoint
