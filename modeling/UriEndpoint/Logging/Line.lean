import UriEndpoint.Json.Writer
import UriEndpoint.Redaction.Event
import UriEndpoint.Logging.Level

/-!
# Log lines

A log record becomes an event: its fields in the order of the call, the event's name, the bound
context where no field has its name, the level and the time. The event is masked if so set up and
written as a JSON line, or for a console with the other fields sorted by name. A console line shows
the logger's names in brackets after the event, and a stack and an exception on lines of their own;
a stack or an exception that is no text keeps the line from being written.
-/

namespace UriEndpoint

/-- A log call: who logs it, how grave it is, what happened and the fields that go with it. -/
structure LogRecord where
  logger : Text
  level : Level
  event : Text
  fields : Table

/-- How lines are written. -/
inductive LineFormat where
  | json
  | console
deriving DecidableEq, Repr

/-- The format that a name stands for: JSON by its exact name, the console otherwise. -/
def LineFormat.ofName (name : Text) : LineFormat :=
  if name = "json".toList then json else console

/-- A logging set-up. -/
structure LogSetup where
  threshold : Level := .info
  format : LineFormat := .json
  redacts : Bool := true
deriving DecidableEq, Repr

namespace LogRecord

/-- The key of the event's name. -/
def eventKey : Text := "event".toList

/-- The key of the level. -/
def levelKey : Text := "level".toList

/-- The key of the time. -/
def timeKey : Text := "timestamp".toList

/-- The event that a record makes, in the order of its keys. -/
def toEvent (record : LogRecord) (context : Table) (now : Text) : Table :=
  let named := (Table.putAll [] record.fields).put eventKey (.text record.event)
  ((named.fillAll context).put levelKey (.text record.level.name)).put timeKey (.text now)

end LogRecord

namespace Console

/-- The width of the level on a console line. -/
def levelWidth : Nat := 9

/-- The width of the event's name on a console line. -/
def eventWidth : Nat := 30

/-- A text filled up with spaces on the right. -/
def padded (width : Nat) (text : Text) : Text :=
  text ++ List.replicate (width - text.length) ' '

/-- Whether a character makes a text unfit to stand bare. -/
def needsQuotes (letter : Char) : Bool :=
  [' ', '\t', '=', '\r', '\n', Text.quotationMark, Text.apostrophe].contains letter

/-- A field's value: a text bare where it can be told apart, anything else as in messages. -/
def valueText : Value → Text
  | .text value => if value.any needsQuotes then value.quoted else value
  | other => other.written .plain

/-- Names in the order of their code points. -/
def comesBefore : Text → Text → Bool
  | [], _ => true
  | _ :: _, [] => false
  | left :: lefts, right :: rights =>
      left.toNat < right.toNat || (left == right && comesBefore lefts rights)

/-- A field with its name. -/
def fieldText (field : Text × Value) : Text := field.1 ++ '=' :: valueText field.2

/-- What the line shows of a field that has a place of its own. -/
def placed (event : Table) (key : Text) : Text := ((event.get? key).map Value.shown).getD []

/-- The keys whose values stand in brackets after the event's name. -/
def bracketedKeys : List Text := ["logger", "logger_name"].map String.toList

/-- The key of the stack. -/
def stackKey : Text := "stack".toList

/-- The key of the exception. -/
def exceptionKey : Text := "exception".toList

/-- The key that says whether to show an exception. -/
def exceptionFlag : Text := "exc_info".toList

/-- The keys that have places of their own, the empty one in front of all. -/
def placedKeys : List Text :=
  [[], LogRecord.timeKey, LogRecord.levelKey, LogRecord.eventKey, stackKey, exceptionKey,
    exceptionFlag] ++ bracketedKeys

/-- The parts of a line up to the sorted fields. -/
def opening (event : Table) : List Text :=
  ((event.get? []).map fun value => fieldText ([], value)).toList ++
    [placed event LogRecord.timeKey,
      '[' :: padded levelWidth (placed event LogRecord.levelKey) ++ [']'],
      padded eventWidth (placed event LogRecord.eventKey)] ++
    bracketedKeys.filterMap fun key =>
      (event.get? key).map fun value => '[' :: value.shown ++ [']']

/-- The fields without a place of their own, sorted by name. -/
def fieldTexts (event : Table) : List Text :=
  ((event.filter fun field => !placedKeys.contains field.1).mergeSort fun left right =>
    comesBefore left.1 right.1).map fieldText

/-- The width of the rule between a stack and an exception. -/
def ruleWidth : Nat := 79

/-- What stands between a stack and an exception. -/
def rule : Text := '\n' :: '\n' :: List.replicate ruleWidth '=' ++ ['\n']

/-- The text under a key, if it has one; the kind of a value that is none. -/
def textUnder (event : Table) (key : Text) : Except Text (Option Text) :=
  match event.get? key with
  | none | some .null => .ok none
  | some (.text value) => .ok (some value)
  | some value => .error value.kindName

/-- The stack and the exception below a line; the kind of one that is no text. -/
def below (event : Table) : Except Text Text := do
  let stack ← textUnder event stackKey
  let exception ← textUnder event exceptionKey
  let expected := ((event.get? exceptionFlag).map Value.standsForYes).getD false
  let divided := if expected || exception.isSome then rule else []
  return (stack.map fun stack => '\n' :: stack ++ divided).getD [] ++
    Text.opened '\n' exception

/-- A console line and what stands below it; the kind of a value that cannot stand there. -/
def lineText (event : Table) : Except Text Text := do
  return Text.joined ' ' (opening event ++ fieldTexts event) ++ (← below event)

end Console

/-- Why a line cannot be written: a value of this kind stands where a text has to. -/
structure LineFault where
  kind : Text
deriving DecidableEq, Repr

/-- The fault in words. -/
def LineFault.message (fault : LineFault) : Text :=
  "can only concatenate str (not ".toList ++ Text.quotationMark :: fault.kind ++
    Text.quotationMark :: ") to str".toList

/-- The event written in a format. -/
def LineFormat.lineText (format : LineFormat) (event : Table) : Except LineFault Text :=
  match format with
  | json => .ok (Json.lineText (.table event))
  | console => (Console.lineText event).mapError LineFault.mk

/-- The line that a set-up writes for a record. -/
def LogSetup.line (setup : LogSetup) (record : LogRecord) (context : Table) (now : Text) :
    Except LineFault Text :=
  let event := record.toEvent context now
  setup.format.lineText (if setup.redacts then Redaction.maskedEvent event else event)

/-- Whether a set-up writes a record at all. -/
def LogSetup.admits (setup : LogSetup) (record : LogRecord) : Bool :=
  setup.threshold.rank ≤ record.level.rank

/-- The lines that a set-up writes for a record: none below its threshold, none with a fault. -/
def LogSetup.lines (setup : LogSetup) (record : LogRecord) (context : Table) (now : Text) :
    List Text :=
  if setup.admits record then
    match setup.line record context now with
    | .ok text => Text.pieces '\n' text
    | .error _ => []
  else []

/-- What keeps a set-up from writing a record that is not below its threshold. -/
def LogSetup.fault? (setup : LogSetup) (record : LogRecord) (context : Table) (now : Text) :
    Option LineFault :=
  match setup.admits record, setup.line record context now with
  | true, .error fault => some fault
  | _, _ => none

end UriEndpoint
