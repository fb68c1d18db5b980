import UriEndpoint.Endpoint.Basic

/-! # The lines of a call under masking

Every record of a call begins with its URI. A set-up that masks writes of it what masking leaves,
so two URIs that are the same masked leave the same lines.
-/

namespace UriEndpoint

namespace Redaction

/-- The URI that a record begins with is masked. -/
theorem maskedEvent_uri (uri : Text) (rest : Table) :
    maskedEvent (("uri".toList, .text uri) :: rest) =
      ("uri".toList, .text (maskedUri uri)) :: maskedEvent rest := by
  have harmless : isSensitive "uri".toList = false := by decide +kernel
  have holdsUri : isUriName "uri".toList = true := by decide +kernel
  rw [maskedEvent_cons, maskedValue, harmless, holdsUri, if_neg Bool.false_ne_true, if_pos rfl]

/-- A set-up that masks writes the same of two records that are the same masked. -/
theorem lines_eq_of_maskedEvent {setup : LogSetup} (redacts : setup.redacts = true)
    (first second : LogRecord) {firstContext secondContext : Table}
    (level : first.level = second.level) (event : first.event = second.event)
    (fields : maskedEvent first.fields = maskedEvent second.fields)
    (contexts : maskedEvent firstContext = maskedEvent secondContext) (now : Text) :
    setup.lines first firstContext now = setup.lines second secondContext now := by
  have events : maskedEvent (first.toEvent firstContext now) =
      maskedEvent (second.toEvent secondContext now) := by
    simp only [LogRecord.toEvent, maskedEvent_put, maskedEvent_fillAll, maskedEvent_putAll,
      level, event, fields, contexts]
  simp only [LogSetup.lines, LogSetup.admits, LogSetup.line, redacts, if_true, events, level]

/-- A set-up that masks writes the same of two records that differ in a URI only, if that is the
same masked. -/
theorem lines_uri_eq {setup : LogSetup} (redacts : setup.redacts = true) {first second : Text}
    (same : maskedUri first = maskedUri second) (logger : Text) (level : Level) (event : Text)
    (rest context : Table) (now : Text) :
    setup.lines ⟨logger, level, event, ("uri".toList, .text first) :: rest⟩ context now =
      setup.lines ⟨logger, level, event, ("uri".toList, .text second) :: rest⟩ context now := by
  let record (uri : Text) : LogRecord :=
    ⟨logger, level, event, ("uri".toList, .text uri) :: rest⟩
  have fields : maskedEvent (record first).fields = maskedEvent (record second).fields := by
    rw [maskedEvent_uri, maskedEvent_uri, same]
  exact lines_eq_of_maskedEvent redacts (record first) (record second) rfl rfl fields rfl now

end Redaction

namespace Endpoint

/-- What a call logs whose fetch has ended. -/
def callRecords (endpoint : Endpoint) (uri : Text) (options : Option DecodeOptions)
    (answer : Except FetchFault FetchResult) : List LogRecord :=
  endpoint.startRecord uri :: (endpoint.ending uri options 0 answer).records

/-- Calls with the same masked URI and the same answer leave the same lines. -/
theorem lines_callRecords_eq (endpoint : Endpoint) {setup : LogSetup}
    (redacts : setup.redacts = true) {first second : Text}
    (same : Redaction.maskedUri first = Redaction.maskedUri second)
    (options : Option DecodeOptions) (answer : Except FetchFault FetchResult) (context : Table)
    (now : Text) :
    (endpoint.callRecords first options answer).flatMap (setup.lines · context now) =
      (endpoint.callRecords second options answer).flatMap (setup.lines · context now) := by
  have started : setup.lines (endpoint.startRecord first) context now =
      setup.lines (endpoint.startRecord second) context now :=
    Redaction.lines_uri_eq redacts same _ _ _ _ context now
  have failed (status : Int) : setup.lines (failureRecord first status) context now =
      setup.lines (failureRecord second status) context now :=
    Redaction.lines_uri_eq redacts same _ _ _ _ context now
  have decoded (status : Int) : setup.lines (endpoint.decodedRecord first status) context now =
      setup.lines (endpoint.decodedRecord second status) context now :=
    Redaction.lines_uri_eq redacts same _ _ _ _ context now
  have ended : (endpoint.ending first options 0 answer).records.flatMap
      (setup.lines · context now) =
        (endpoint.ending second options 0 answer).records.flatMap (setup.lines · context now) := by
    cases answer with
    | error fault => rfl
    | ok result =>
        rw [ending, ending]
        by_cases success : result.success = true
        · rw [if_pos success, if_pos success]
          cases endpoint.decoder result.body options with
          | ok value => simp only [List.flatMap_singleton, decoded]
          | error fault => rfl
        · simp only [if_neg success, List.flatMap_singleton, failed]
  rw [callRecords, callRecords, List.flatMap_cons, List.flatMap_cons, started, ended]

end Endpoint

end UriEndpoint
