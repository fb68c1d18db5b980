import UriEndpoint.Logging.Line

/-!
# The logbook

A logbook knows the set-up in force, the bound context and, for each logger that has logged under a
set-up, the one that it holds. A logger holds the set-up in force at its first call for good, also
when that call writes nothing; a later set-up reaches only loggers that hold none yet. Before any
set-up nothing is written and nothing is held.
-/

namespace UriEndpoint

/-- The state of logging. -/
structure Logbook where
  active : Option LogSetup := none
  context : Table := []
  held : List (Text × LogSetup) := []

/-- A step in the life of a logbook. -/
inductive LogStep where
  | setUp (setup : LogSetup)
  /-- Binds context in place of what was bound. -/
  | bind (context : Table)
  | log (record : LogRecord)

namespace Logbook

/-- The logbook before any set-up. -/
def silent : Logbook := {}

/-- Puts a set-up in force. -/
def setUp (book : Logbook) (setup : LogSetup) : Logbook := { book with active := some setup }

/-- Binds context in place of what was bound. -/
def bind (book : Logbook) (context : Table) : Logbook := { book with context }

/-- The set-up that a logger uses. -/
def setupOf (book : Logbook) (logger : Text) : Option LogSetup :=
  (book.held.lookup logger).or book.active

/-- The logbook once a logger has logged. -/
def holding (book : Logbook) (logger : Text) : Logbook :=
  match book.held.lookup logger, book.active with
  | none, some setup => { book with held := (logger, setup) :: book.held }
  | _, _ => book

/-- Logs a record: the logbook afterwards and the lines written. -/
def log (book : Logbook) (record : LogRecord) (now : Text) : Logbook × List Text :=
  (book.holding record.logger,
    match book.setupOf record.logger with
    | some setup => setup.lines record book.context now
    | none => [])

/-- What keeps a record from being written. -/
def fault? (book : Logbook) (record : LogRecord) (now : Text) : Option LineFault :=
  (book.setupOf record.logger).bind fun setup => setup.fault? record book.context now

/-- Logs records one after another. -/
def logAll (book : Logbook) (records : List LogRecord) (now : Text) : Logbook × List Text :=
  records.foldl
    (fun (book, lines) record =>
      let (next, more) := book.log record now
      (next, lines ++ more))
    (book, [])

/-- Takes one step: the logbook afterwards and the lines written. -/
def step (book : Logbook) (now : Text) : LogStep → Logbook × List Text
  | .setUp setup => (book.setUp setup, [])
  | .bind context => (book.bind context, [])
  | .log record => book.log record now

/-- Takes steps one after another: the logbook afterwards and the lines that each step wrote. -/
def run (book : Logbook) (now : Text) : List LogStep → Logbook × List (List Text)
  | [] => (book, [])
  | next :: rest =>
      let (book, lines) := book.step now next
      let (book, others) := run book now rest
      (book, lines :: others)

end Logbook

end UriEndpoint
