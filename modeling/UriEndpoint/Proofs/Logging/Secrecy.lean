import Mathlib.Data.List.Forall2
import UriEndpoint.Logging.Logbook
import UriEndpoint.Proofs.Redaction.Agreement
import UriEndpoint.Proofs.Redaction.Lines

/-! # What a logger discloses over a run

A logger writes every one of its lines with the set-up in force at its first call, and with the
context bound at the call. So if that set-up masks, what the logger writes over a whole run does not
depend on the secrets in fields and contexts, nor on any other set-up, before or after.
-/

namespace UriEndpoint

open Redaction

namespace LogStep

/-- Whether a step is a call of a logger. -/
def calls (logger : Text) : LogStep → Bool
  | log record => record.logger == logger
  | _ => false

/-- Whether a step puts a set-up in force. -/
def setsUp : LogStep → Bool
  | setUp _ => true
  | _ => false

/-- Two steps bind contexts, or log records, that are the same but for secrets. -/
inductive Agree : LogStep → LogStep → Prop
  | bind {first second : Table} (agree : EventsAgree first second) :
      Agree (bind first) (bind second)
  | log (logger : Text) (level : Level) (event : Text) {first second : Table}
      (agree : EventsAgree first second) :
      Agree (log ⟨logger, level, event, first⟩) (log ⟨logger, level, event, second⟩)

/-- Two runs have the same steps but for secrets and for the set-ups, which may differ and stand
anywhere. -/
def RunsAgree (first second : List LogStep) : Prop :=
  List.Forall₂ Agree (first.filter fun step => !step.setsUp)
    (second.filter fun step => !step.setsUp)

/-- The set-up in force at the first call of a logger, if there is such a call and a set-up before
it. -/
def setupAtFirstCall (logger : Text) (active : Option LogSetup) : List LogStep → Option LogSetup
  | [] => none
  | setUp setup :: rest => setupAtFirstCall logger (some setup) rest
  | bind _ :: rest => setupAtFirstCall logger active rest
  | log record :: rest =>
      if record.logger = logger then active else setupAtFirstCall logger active rest

/-- The records that a logger logs, each with the context bound at the call. -/
def callsOf (logger : Text) (context : Table) : List LogStep → List (Table × LogRecord)
  | [] => []
  | setUp _ :: rest => callsOf logger context rest
  | bind bound :: rest => callsOf logger bound rest
  | log record :: rest =>
      if record.logger = logger then (context, record) :: callsOf logger context rest
      else callsOf logger context rest

/-- Set-ups are no part of the calls of a logger. -/
theorem callsOf_filter (logger : Text) (context : Table) (steps : List LogStep) :
    callsOf logger context (steps.filter fun step => !step.setsUp) =
      callsOf logger context steps := by
  induction steps generalizing context with
  | nil => rfl
  | cons next rest ih =>
      cases next with
      | setUp setup => exact ih context
      | bind bound => exact ih bound
      | log record =>
          change callsOf logger context (log record :: rest.filter _) = _
          rw [callsOf, callsOf, ih]

/-- Two calls are at the same level and of the same event, and the same but for secrets. -/
structure CallsAgree (first second : Table × LogRecord) : Prop where
  contexts : EventsAgree first.1 second.1
  level : first.2.level = second.2.level
  event : first.2.event = second.2.event
  fields : EventsAgree first.2.fields second.2.fields

/-- Runs that agree but for secrets have calls of a logger that agree but for secrets. -/
theorem forall₂_callsOf {first second : List LogStep} (agree : List.Forall₂ Agree first second)
    (logger : Text) {context other : Table} (contexts : EventsAgree context other) :
    List.Forall₂ CallsAgree (callsOf logger context first) (callsOf logger other second) := by
  induction agree generalizing context other with
  | nil => exact .nil
  | cons step _ ih =>
      cases step with
      | bind bound => exact ih bound
      | log caller level event fields =>
          rw [callsOf, callsOf]
          by_cases own : caller = logger
          · rw [if_pos own, if_pos own]
            exact .cons ⟨contexts, rfl, rfl, fields⟩ (ih contexts)
          · rw [if_neg own, if_neg own]
            exact ih contexts

end LogStep

namespace Logbook

/-- What each call of a logger writes in a run. -/
def linesOf (book : Logbook) (now : Text) (logger : Text) (steps : List LogStep) :
    List (List Text) :=
  ((steps.zip (book.run now steps).2).filter fun entry => entry.1.calls logger).map Prod.snd

variable {book : Logbook} {now logger : Text}

theorem linesOf_cons (next : LogStep) (rest : List LogStep) :
    book.linesOf now logger (next :: rest) =
      if next.calls logger then
        (book.step now next).2 :: (book.step now next).1.linesOf now logger rest
      else (book.step now next).1.linesOf now logger rest := by
  cases call : next.calls logger <;> simp [linesOf, run, call]

theorem linesOf_log (record : LogRecord) (rest : List LogStep) :
    book.linesOf now logger (.log record :: rest) =
      if record.logger = logger then
        (book.log record now).2 :: (book.holding record.logger).linesOf now logger rest
      else (book.holding record.logger).linesOf now logger rest := by
  simp [linesOf_cons, LogStep.calls, step, log]

theorem context_holding (book : Logbook) (caller : Text) :
    (book.holding caller).context = book.context := by
  rw [holding]
  split <;> rfl

theorem active_holding (book : Logbook) (caller : Text) :
    (book.holding caller).active = book.active := by
  rw [holding]
  split <;> rfl

/-- A call leaves its logger with the set-up that the call used, and every other as it was. -/
theorem lookup_holding (book : Logbook) (caller logger : Text) :
    (book.holding caller).held.lookup logger =
      if caller = logger then book.setupOf logger else book.held.lookup logger := by
  by_cases own : caller = logger
  · subst own
    rw [if_pos rfl, setupOf, holding]
    cases held : book.held.lookup caller with
    | some setup => simp [held]
    | none =>
        cases active : book.active with
        | some setup => simp
        | none => simp [held]
  · have differ : (logger == caller) = false := beq_false_of_ne (Ne.symm own)
    rw [if_neg own, holding]
    split
    · simp [List.lookup_cons, differ]
    · rfl

/-- Once a logger holds a set-up it writes all its lines with it. -/
theorem linesOf_of_held {setup : LogSetup} (held : book.held.lookup logger = some setup)
    (steps : List LogStep) :
    book.linesOf now logger steps =
      (LogStep.callsOf logger book.context steps).map fun call =>
        setup.lines call.2 call.1 now := by
  induction steps generalizing book with
  | nil => rfl
  | cons next rest ih =>
      cases next with
      | setUp other => exact (linesOf_cons _ rest).trans (ih held)
      | bind bound => exact (linesOf_cons _ rest).trans (ih held)
      | log record =>
          have uses : book.setupOf logger = some setup := by rw [setupOf, held, Option.some_or]
          have keeps : (book.holding record.logger).held.lookup logger = some setup := by
            rw [lookup_holding, uses, held, ite_self]
          have others := ih keeps
          rw [context_holding] at others
          rw [LogStep.callsOf, linesOf_log, others]
          by_cases own : record.logger = logger
          · rw [if_pos own, if_pos own, List.map_cons, log, own, uses]
          · rw [if_neg own, if_neg own]

/-- A logger writes all its lines with the set-up in force at its first call. -/
theorem linesOf_of_first {setup : LogSetup} {steps : List LogStep}
    (unheld : book.held.lookup logger = none)
    (first : LogStep.setupAtFirstCall logger book.active steps = some setup) :
    book.linesOf now logger steps =
      (LogStep.callsOf logger book.context steps).map fun call =>
        setup.lines call.2 call.1 now := by
  induction steps generalizing book with
  | nil => cases first
  | cons next rest ih =>
      cases next with
      | setUp other => exact (linesOf_cons _ rest).trans (ih unheld first)
      | bind bound => exact (linesOf_cons _ rest).trans (ih unheld first)
      | log record =>
          rw [LogStep.setupAtFirstCall] at first
          rw [LogStep.callsOf, linesOf_log]
          by_cases own : record.logger = logger
          · rw [if_pos own] at first
            have uses : book.setupOf logger = some setup := by
              rw [setupOf, unheld, Option.none_or, first]
            have holds : (book.holding record.logger).held.lookup logger = some setup := by
              rw [lookup_holding, if_pos own, uses]
            have others : (book.holding record.logger).linesOf now logger rest = _ :=
              linesOf_of_held holds rest
            rw [context_holding] at others
            rw [if_pos own, if_pos own, others, List.map_cons, log, own, uses]
          · rw [if_neg own, ← active_holding book record.logger] at first
            have still : (book.holding record.logger).held.lookup logger = none := by
              rw [lookup_holding, if_neg own, unheld]
            have others := ih still first
            rw [context_holding] at others
            rw [if_neg own, if_neg own, others]

/-- Calls that agree but for secrets leave the same lines under a set-up that masks. -/
theorem map_lines_eq {setup : LogSetup} (redacts : setup.redacts = true)
    {first second : List (Table × LogRecord)}
    (agree : List.Forall₂ LogStep.CallsAgree first second) :
    (first.map fun call => setup.lines call.2 call.1 now) =
      second.map fun call => setup.lines call.2 call.1 now := by
  induction agree with
  | nil => rfl
  | cons call _ ih =>
      rw [List.map_cons, List.map_cons, ih,
        lines_eq_of_maskedEvent redacts _ _ call.level call.event call.fields.maskedEvent_eq
          call.contexts.maskedEvent_eq]

end Logbook

/-- **A logger that begins under masking tells no secrets.** In two runs that are the same but for
secrets and set-ups, a logger whose first call finds the same masking set-up in force writes the same
at every one of its calls, namely what that set-up makes of its records. -/
theorem masked_logger_tells_no_secrets {first second : List LogStep}
    (agree : LogStep.RunsAgree first second) {logger : Text} {setup : LogSetup}
    (redacts : setup.redacts = true)
    (firstBegins : LogStep.setupAtFirstCall logger none first = some setup)
    (secondBegins : LogStep.setupAtFirstCall logger none second = some setup) (now : Text) :
    Logbook.silent.linesOf now logger first = Logbook.silent.linesOf now logger second ∧
      Logbook.silent.linesOf now logger first =
        (LogStep.callsOf logger [] first).map fun call => setup.lines call.2 call.1 now := by
  have firstLines : Logbook.silent.linesOf now logger first =
      (LogStep.callsOf logger [] first).map fun call => setup.lines call.2 call.1 now :=
    Logbook.linesOf_of_first rfl firstBegins
  have secondLines : Logbook.silent.linesOf now logger second =
      (LogStep.callsOf logger [] second).map fun call => setup.lines call.2 call.1 now :=
    Logbook.linesOf_of_first rfl secondBegins
  have calls : List.Forall₂ LogStep.CallsAgree (LogStep.callsOf logger [] first)
      (LogStep.callsOf logger [] second) := by
    rw [← LogStep.callsOf_filter logger [] first, ← LogStep.callsOf_filter logger [] second]
    exact LogStep.forall₂_callsOf agree logger .nil
  exact ⟨by rw [firstLines, secondLines, Logbook.map_lines_eq redacts calls], firstLines⟩

/-- A masking set-up from the start, and one that does not mask after the first call. -/
def unmaskedLater : List LogStep :=
  [.setUp {}, .bind [("Token".toList, .text ['s']), ("peer".toList, .text ['p'])],
    .log ⟨['m'], .info, ['a'], [("login".toList, .table [("password".toList, .text ['x'])])]⟩,
    .setUp { redacts := false },
    .log ⟨['m'], .debug, ['b'], []⟩,
    .log ⟨['m'], .error, ['c'], [("key".toList, .integer 1)]⟩]

/-- The same with other secrets, and a set-up that does not mask before. -/
def unmaskedBefore : List LogStep :=
  [.setUp { threshold := .debug, format := .console, redacts := false },
    .bind [("Token".toList, .null), ("peer".toList, .text ['p'])], .setUp {},
    .log ⟨['m'], .info, ['a'], [("login".toList, .table [("password".toList, .list [])])]⟩,
    .log ⟨['m'], .debug, ['b'], []⟩,
    .log ⟨['m'], .error, ['c'], [("key".toList, .integer 2)]⟩]

/-- Set-ups that do not mask come after the first call in one run and before it in the other. -/
theorem masked_logger_tells_no_secrets_of_unmasked_around :
    LogStep.RunsAgree unmaskedLater unmaskedBefore ∧
      Logbook.silent.linesOf ['T'] ['m'] unmaskedLater =
        Logbook.silent.linesOf ['T'] ['m'] unmaskedBefore ∧
      (Logbook.silent.linesOf ['T'] ['m'] unmaskedBefore).map List.length = [1, 0, 1] := by
  have token : isSensitive "Token".toList = true := by decide +kernel
  have password : isSensitive "password".toList = true := by decide +kernel
  have key : isSensitive "key".toList = true := by decide +kernel
  have agree : LogStep.RunsAgree unmaskedLater unmaskedBefore :=
    .cons (.bind (.secret token _ _ (.same _ .nil)))
      (.cons (.log _ _ _ (.nested _ (.secret password _ _ .nil) .nil))
        (.cons (.log _ _ _ .nil) (.cons (.log _ _ _ (.secret key _ _ .nil)) .nil)))
  exact ⟨agree, (masked_logger_tells_no_secrets agree rfl rfl rfl ['T']).1, by decide +kernel⟩

end UriEndpoint
