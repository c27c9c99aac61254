/-
This file says what a run logs. A line that is skipped and an accepted command
leave no record; an accepted literal leaves one, and so does a refused line, in
front of the diagnostic that it reports. Each of these records carries the name
of the source and the number of its line, since it is made while both are in
scope.

Behind the lines stands one record more. If the run came to its end, it carries
the name of the source and the counts, but no number, because the last line has
left its number by then. If a failure cut the run short, whether the source
failed or the reporter, the record is made when the source has left its name,
and it carries neither. It is the only record that is no small matter, and so the
only one that is written when the log is not verbose. A failure that is not part
of the job passes through without a record.
-/

import PolyIntake.Proofs.Isolation

namespace PolyIntake

open Log

/-! ### Refusals in words -/

namespace LineError

/-- Where a refused line went wrong. -/
def position : LineError → Nat
  | command error => error.position
  | poly error => error.position

/-- What went wrong there. -/
def reason : LineError → String
  | command error => error.cause.reason
  | poly error => error.cause.reason

theorem message_eq (error : LineError) :
    error.message = error.reason ++ " at position " ++ Decimal.natText error.position := by
  cases error <;> rfl

end LineError

namespace Log

/-! ### Records and work in a scope -/

/-- The records that a log of this kind has. -/
def written (verbose : Bool) (events : List Event) : List Record :=
  (logged events).filter (Record.isWritten verbose)

theorem logged_map_logged (records : List Record) : logged (records.map .logged) = records := by
  induction records with
  | nil => rfl
  | cons record rest inductionHypothesis => exact congrArg (record :: ·) inductionHypothesis

/-- Under other names than those of its own values a record has what was in scope. -/
theorem Record.get?_fields_of_notMem {record : Record} {name : String}
    (absent : name ∉ record.values.map Prod.fst) :
    Fields.get? record.fields name = Fields.get? record.scope.fields name := by
  have own : Fields.get? record.values.reverse name = none := by
    rw [Fields.get?_eq_none_iff, List.map_reverse, List.mem_reverse]
    exact absent
  rw [Record.fields, Fields.get?_foldl_set, own, Option.none_or]

/-- Where the value of the first work is known, what is done next begins in the same scope. -/
theorem Work.andThen_apply {First Second : Type} {first : Work First} {next : First → Work Second}
    {scope : Scope} {value : First} (restores : first.Restores)
    (gives : (first scope).value = value) :
    Work.andThen first next scope = ⟨(next value scope).value,
      (first scope).events ++ (next value scope).events, (next value scope).scope⟩ := by
  subst gives
  show Traced.mk (next (first scope).value (first scope).scope).value _ _ = _
  rw [restores]

end Log

namespace Session

/-! ### What a line makes known -/

/-- A record of the reading of a line: it is a small matter, and it carries the name of the source
and the number of the line. -/
structure IsOfLine (name : String) (number : Nat) (speaker : Speaker) (event : String)
    (record : Record) : Prop where
  level : record.level = .debug
  speaker : record.speaker = speaker
  event : record.event = event
  inSource : Fields.get? record.fields "source" = some (.string name)
  atLine : Fields.get? record.fields "line_no" = some (.int number)

/-- What a line of a source makes known. -/
inductive Tells (name : String) : NumberedLine → List Event → Prop
  /-- A skipped line is not read. -/
  | skipped {number : Nat} {text : List Char} : Tells name ⟨number, text, true⟩ []
  /-- An accepted command is not worth a word. -/
  | command {number : Nat} {text : List Char} {command : Command}
      (accepted : Line.parse text = .ok (.command command)) : Tells name ⟨number, text, false⟩ []
  /-- An accepted literal is logged with its length. -/
  | poly {number : Nat} {text : List Char} {poly : Poly} {record : Record}
      (accepted : Line.parse text = .ok (.poly poly))
      (isOfLine : IsOfLine name number .grammar
        ("Parsed polynomial of " ++ Decimal.natText text.length ++ " characters") record) :
      Tells name ⟨number, text, false⟩ [.logged record]
  /-- A refused line is logged with its number and the position that is blamed, and is reported
  after that. -/
  | refused {number : Nat} {text : List Char} {error : LineError} {record : Record}
      (refused : Line.parse text = .error error)
      (isOfLine : IsOfLine name number .lines
        ("Line " ++ Decimal.natText number ++ " rejected as " ++ error.subject ++ ": " ++
          (error.reason ++ " at position " ++ Decimal.natText error.position)) record) :
      Tells name ⟨number, text, false⟩ [.logged record, .reported ⟨number, error.complaint⟩]

/-- A record without values of its own that is made while a line is read carries both names. -/
theorem isOfLine_enter {scope : Scope} {name : String}
    (inSource : Fields.get? scope.fields "source" = some (.string name)) (number : Nat)
    (speaker : Speaker) (event : String) :
    IsOfLine name number speaker event
      ⟨.debug, speaker, event, [], scope.enter "line_no" (.int number)⟩ where
  level := rfl
  speaker := rfl
  event := rfl
  inSource := (Fields.get?_set_of_ne (by decide) ..).trans inSource
  atLine := Fields.get?_set_self ..

/-- Handling a line of a source makes known what the line tells. -/
theorem handleLine_tells {scope : Scope} {name : String}
    (inSource : Fields.get? scope.fields "source" = some (.string name)) (line : NumberedLine) :
    Tells name line (handleLine line scope).events := by
  obtain ⟨number, text, isSkipped⟩ := line
  cases isSkipped with
  | true => exact .skipped
  | false =>
    show Tells name _ (readLine number text (scope.enter "line_no" (.int number))).events
    unfold readLine
    cases parsed : Line.parse text with
    | ok line =>
      cases line with
      | command command => exact .command parsed
      | poly poly => exact .poly parsed (isOfLine_enter inSource ..)
    | error error =>
      refine .refused parsed ?_
      rw [← error.message_eq]
      exact isOfLine_enter inSource ..

/-- What lines make known are small matters. -/
theorem Tells.isSmall {name : String} {line : NumberedLine} {events : List Event}
    (tells : Tells name line events) : ∀ record ∈ logged events, record.level = .debug := by
  cases tells with
  | skipped => exact fun _ absent => by cases absent
  | command => exact fun _ absent => by cases absent
  | poly _ isOfLine => exact List.forall_mem_singleton.mpr isOfLine.level
  | refused _ isOfLine => exact List.forall_mem_singleton.mpr isOfLine.level

/-! ### What all lines make known -/

/-- The lines that are handled, and what the reporter fails with, if it fails: all lines, or those
up to the first one over which it does. -/
inductive Handles (reporter : Reporter) (lines : List NumberedLine) :
    List NumberedLine → Option Source.Failure → Prop
  | all (passes : ∀ line ∈ lines, reporter.failure? (.ofLine line) = none) :
      Handles reporter lines lines none
  | upTo {before behind : List NumberedLine} {line : NumberedLine} {failure : Source.Failure}
      (among : lines = before ++ line :: behind)
      (passes : ∀ line ∈ before, reporter.failure? (.ofLine line) = none)
      (fails : reporter.failure? (.ofLine line) = some failure) :
      Handles reporter lines (before ++ [line]) (some failure)

variable {reporter : Reporter}

theorem Handles.cons {line : NumberedLine} {rest handled : List NumberedLine}
    {stopped : Option Source.Failure} (passes : reporter.failure? (.ofLine line) = none)
    (handles : Handles reporter rest handled stopped) :
    Handles reporter (line :: rest) (line :: handled) stopped := by
  cases handles with
  | all others => exact .all (List.forall_mem_cons.mpr ⟨passes, others⟩)
  | upTo among others fails =>
    exact .upTo (congrArg (line :: ·) among) (List.forall_mem_cons.mpr ⟨passes, others⟩) fails

/-- What lines of a source make known, one after the other. -/
inductive TellsAll (name : String) : List NumberedLine → List Event → Prop
  | nil : TellsAll name [] []
  | cons {line : NumberedLine} {rest : List NumberedLine} {events later : List Event}
      (first : Tells name line events) (others : TellsAll name rest later) :
      TellsAll name (line :: rest) (events ++ later)

theorem TellsAll.isSmall {name : String} {lines : List NumberedLine} {events : List Event}
    (tells : TellsAll name lines events) : ∀ record ∈ logged events, record.level = .debug := by
  induction tells with
  | nil => exact fun _ absent => by cases absent
  | cons first _ inductionHypothesis =>
    rw [logged_append]
    exact List.forall_mem_append.mpr ⟨first.isSmall, inductionHypothesis⟩

/-- Handling lines of a source makes known what they tell, up to where the reporter fails. -/
theorem handleLinesUntil_tells (reporter : Reporter) {scope : Scope} {name : String}
    (inSource : Fields.get? scope.fields "source" = some (.string name))
    (lines : List NumberedLine) :
    ∃ handled stopped, Handles reporter lines handled stopped ∧
      TellsAll name handled (handleLinesUntil reporter lines scope).events ∧
      (handleLinesUntil reporter lines scope).value =
        stopped.elim (.ok (lines.map .ofLine)) .error := by
  induction lines with
  | nil => exact ⟨[], none, .all (fun _ absent => by cases absent), .nil, rfl⟩
  | cons line rest inductionHypothesis =>
    have yields := handleLine_yields line
    have told := handleLine_tells inSource line
    rw [handleLinesUntil, Work.andThen_apply yields.toRestores (yields.gives scope)]
    cases outcome : reporter.failure? (.ofLine line) with
    | some failure =>
      have handles : Handles reporter (line :: rest) ([] ++ [line]) (some failure) :=
        .upTo rfl (fun _ absent => by cases absent) outcome
      exact ⟨[line], some failure, handles, .cons told .nil, rfl⟩
    | none =>
      obtain ⟨handled, stopped, handles, tells, value⟩ := inductionHypothesis
      refine ⟨line :: handled, stopped, handles.cons outcome, .cons told tells, ?_⟩
      show Except.map _ (handleLinesUntil reporter rest scope).value = _
      rw [value]
      cases stopped <;> rfl

/-! ### What a run makes known -/

/-- The record of a run that came to its end: it carries the name of the source and the counts of
all lines, but no number of a line. -/
structure IsSummary (rules : InputRules) (source : Source) (record : Record) : Prop where
  level : record.level = .debug
  speaker : record.speaker = .service
  event : record.event = "stream parsed"
  inSource : Fields.get? record.fields "source" = some (.string source.name)
  atNoLine : Fields.get? record.fields "line_no" = none
  counts : ∃ items refused passed, IsTally rules source.lines items refused passed ∧
    Fields.get? record.fields "total" = some (.int source.lines.length) ∧
    Fields.get? record.fields "accepted" = some (.int items.length) ∧
    Fields.get? record.fields "rejected" = some (.int refused.length) ∧
    Fields.get? record.fields "skipped" = some (.int passed.length)

/-- The record of a failure that cut a run short: it is no small matter, and it carries neither the
name of the source nor the number of a line. -/
structure IsNotice (level : Level) (event : String) (record : Record) : Prop where
  level : record.level = level
  speaker : record.speaker = .service
  event : record.event = event
  inNoSource : Fields.get? record.fields "source" = none
  atNoLine : Fields.get? record.fields "line_no" = none

/-- The records behind the lines, by the failure that cut the run short, if one did. -/
inductive Concludes (rules : InputRules) (source : Source) :
    Option Source.Failure → List Record → Prop
  /-- The run came to its end. -/
  | completed {record : Record} (isSummary : IsSummary rules source record) :
      Concludes rules source none [record]
  /-- Reading failed. -/
  | device {message : String} {record : Record}
      (isNotice : IsNotice .warning "input read failed" record) :
      Concludes rules source (some (.device message)) [record]
  /-- What was read is no text. -/
  | undecodable {fault : Utf8.Fault} {record : Record}
      (isNotice : IsNotice .warning "input read failed" record) :
      Concludes rules source (some (.undecodable fault)) [record]
  /-- The call stack did not suffice. -/
  | callDepth {message : String} {record : Record}
      (isNotice : IsNotice .error "input exhausted the call stack" record) :
      Concludes rules source (some (.callDepth message)) [record]
  /-- The failure is not part of the job and passes through. -/
  | escaped {message : String} : Concludes rules source (some (.other message)) []

theorem isSummary_counts (rules : InputRules) (source : Source) :
    IsSummary rules source ⟨.debug, .service, "stream parsed", counts (entries rules source.lines),
      ({} : Scope).enter "source" (.string source.name)⟩ where
  level := rfl
  speaker := rfl
  event := rfl
  inSource := (Record.get?_fields_of_notMem (by simp [counts])).trans rfl
  atNoLine := (Record.get?_fields_of_notMem (by simp [counts])).trans rfl
  counts := by
    refine ⟨_, _, _, isTally_entries rules source.lines, ?_⟩
    simp [Record.fields, counts, length_entries, Fields.get?_set]

/-- Logged outside of the scope of a source, a failure that is part of the job leaves one record
with neither name. -/
theorem cutShort_concludes (rules : InputRules) (source : Source) (task : Task)
    (failure : Source.Failure) :
    ∃ records, Concludes rules source (some failure) records ∧
      (task.cutShort failure {}).events = records.map .logged := by
  have isNotice (level : Level) (event : String) (values : Fields)
      (noSource : "source" ∉ values.map Prod.fst) (noLine : "line_no" ∉ values.map Prod.fst) :
      IsNotice level event ⟨level, .service, event, values, {}⟩ :=
    ⟨rfl, rfl, rfl, Record.get?_fields_of_notMem noSource, Record.get?_fields_of_notMem noLine⟩
  cases failure with
  | device message => exact ⟨_, .device (isNotice _ _ _ (by simp) (by simp)), rfl⟩
  | undecodable fault => exact ⟨_, .undecodable (isNotice _ _ _ (by simp) (by simp)), rfl⟩
  | callDepth message => exact ⟨_, .callDepth (isNotice _ _ _ (by simp) (by simp)), rfl⟩
  | other message => exact ⟨[], .escaped, rfl⟩

/-- Reading a source from outside of every scope makes known what its lines tell, and sums this up
unless a failure of the reporter or of the source ends it. -/
theorem readSourceUntil_tells (reporter : Reporter) (rules : InputRules) (source : Source) :
    ∃ handled stopped told, Handles reporter (rules.read source.lines) handled stopped ∧
      TellsAll source.name handled told ∧
      match stopped.or source.failure with
      | some failure =>
        (readSourceUntil reporter rules source {}).value = .error failure ∧
          (readSourceUntil reporter rules source {}).events = told
      | none =>
        (readSourceUntil reporter rules source {}).value = .ok (entries rules source.lines) ∧
          ∃ record, IsSummary rules source record ∧
            (readSourceUntil reporter rules source {}).events = told ++ [.logged record] := by
  have inSource : Fields.get? (({} : Scope).enter "source" (.string source.name)).fields "source" =
      some (.string source.name) := Fields.get?_set_self ..
  obtain ⟨handled, stopped, handles, tells, value⟩ :=
    handleLinesUntil_tells reporter inSource (rules.read source.lines)
  refine ⟨handled, stopped, _, handles, tells, ?_⟩
  unfold readSourceUntil Work.inSource Work.within
  dsimp only
  rw [Work.andThen_apply (handleLinesUntil_restores reporter _) value]
  cases stopped with
  | some failure => exact ⟨rfl, List.append_nil _⟩
  | none =>
    cases source.failure with
    | some failure => exact ⟨rfl, List.append_nil _⟩
    | none => exact ⟨rfl, _, isSummary_counts rules source, rfl⟩

/-- The records behind the lines are the only ones that may be no small matters, and they are if a
failure cut the run short. -/
theorem Concludes.filter_isWritten {rules : InputRules} {source : Source}
    {failure : Option Source.Failure} {records : List Record}
    (concludes : Concludes rules source failure records) :
    records.filter (Record.isWritten false) = if failure.isSome then records else [] := by
  cases concludes with
  | completed isSummary => simp [Record.isWritten, isSummary.level]
  | device isNotice => simp [Record.isWritten, isNotice.level]
  | undecodable isNotice => simp [Record.isWritten, isNotice.level]
  | callDepth isNotice => simp [Record.isWritten, isNotice.level]
  | escaped => rfl

/-- A verbose log has the records of the lines and those behind them. Any other log has those behind
the lines of a run that a failure cut short. -/
theorem written_of_concludes {rules : InputRules} {source : Source} {handled : List NumberedLine}
    {failure : Option Source.Failure} {told : List Event} {records : List Record}
    (tells : TellsAll source.name handled told) (concludes : Concludes rules source failure records)
    (verbose : Bool) :
    written verbose (told ++ records.map .logged) =
      if verbose then logged told ++ records else if failure.isSome then records else [] := by
  rw [written, logged_append, logged_map_logged, List.filter_append]
  cases verbose with
  | true =>
    have all (records : List Record) : records.filter (Record.isWritten true) = records :=
      List.filter_eq_self.mpr fun _ _ => rfl
    rw [all, all]
    rfl
  | false =>
    have small : (logged told).filter (Record.isWritten false) = [] := by
      rw [List.filter_eq_nil_iff]
      intro record member
      simp [Record.isWritten, tells.isSmall record member]
    rw [small, concludes.filter_isWritten]
    rfl

/-- A run with any reporter that begins outside of every scope handles all lines, or those up to the
one over which the reporter fails. It makes known what these lines tell, line by line, and behind
them it logs how it ended: with the counts of all lines, or with the failure that cut it short, if
that is part of the job. All of these records are written if the log is verbose, and otherwise only
those of a failure. -/
theorem runReporting_events_spec (settings : Settings) (reporter : Reporter) (task : Task)
    (source : Source) :
    ∃ handled stopped told records,
      Handles reporter (settings.input.read source.lines) handled stopped ∧
      TellsAll source.name handled told ∧
      Concludes settings.input source (stopped.or source.failure) records ∧
      (runReporting settings reporter task source {}).value =
        (stopped.or source.failure).elim
          (.ok (task.outcome settings.output (entries settings.input source.lines))) task.failed ∧
      (runReporting settings reporter task source {}).events = told ++ records.map .logged ∧
      written settings.verbose (runReporting settings reporter task source {}).events =
        if settings.verbose then logged told ++ records
        else if (stopped.or source.failure).isSome then records else [] := by
  obtain ⟨handled, stopped, told, handles, tells, read⟩ :=
    readSourceUntil_tells reporter settings.input source
  have restores := readSourceUntil_restores reporter settings.input source
  generalize ending : stopped.or source.failure = failure at read
  have run : ∃ records, Concludes settings.input source failure records ∧
      (runReporting settings reporter task source {}).value = failure.elim
        (.ok (task.outcome settings.output (entries settings.input source.lines))) task.failed ∧
      (runReporting settings reporter task source {}).events = told ++ records.map .logged := by
    unfold runReporting
    cases failure with
    | none =>
      obtain ⟨value, record, isSummary, events⟩ := read
      rw [Work.andThen_apply restores value, events]
      exact ⟨[record], .completed isSummary, rfl, List.append_nil _⟩
    | some failure =>
      obtain ⟨value, events⟩ := read
      obtain ⟨records, concludes, last⟩ := cutShort_concludes settings.input source task failure
      rw [Work.andThen_apply restores value, events]
      exact ⟨records, concludes, (cutShort_yields task failure).gives {}, congrArg _ last⟩
  obtain ⟨records, concludes, value, events⟩ := run
  refine ⟨handled, stopped, told, records, handles, tells, ending ▸ concludes, ending ▸ value,
    events, ?_⟩
  rw [events, ending, written_of_concludes tells concludes]

end Session

end PolyIntake
