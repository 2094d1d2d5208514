import NetworkConsole.Proofs.Session.Outcome

/-! The events of a line mirror its outcome. The stages that a line passes are reported one by one
while it is processed; the stage of a failure is read off its cause afterwards. The two agree since
no stage fails with a cause that belongs to another. -/
namespace NetworkConsole

/-- The stages that come before a stage. -/
def Stage.earlier (stage : Stage) : List Stage := Stage.all.takeWhile (· ≠ stage)

/-- Typing and building are one stage: values that do not make a command count as arguments too. -/
theorem Token.stage_of_command {token : Token} {cause : Cause} (h : token.command = .error cause) :
    cause.stage = .arguments := by
  rw [Token.command] at h
  split at h
  · cases h
    rfl
  · split at h <;> cases h
    rfl

theorem Handler.stage_of_standard {σ : Type} [ConfigStore σ] {kind : CommandKind}
    {instruction : Instruction} {session : Session σ} {e : ExecutionError}
    (h : (Handler.standard kind instruction session).1 = .error e) : e.cause.stage = .execution := by
  obtain rfl | ⟨cause, rfl⟩ | ⟨cause, rfl⟩ := Handler.standard_error h <;> rfl

namespace Turn
variable {σ : Type}

def events (turn : Turn σ) : List StageEvent := turn.reports.filterMap Report.event?

theorem events_fail (line : String) (passed : List Stage) (cause : Cause) (session : Session σ) :
    (fail line passed cause session).events =
      passed.map (.passed line) ++ [.failed ⟨line, cause⟩] := by
  simp [events, fail, Report.event?, Function.comp_def]

theorem events_succeed (line : String) (kind : CommandKind) (answer : Answer)
    (session : Session σ) :
    (succeed line kind answer session).events = Stage.all.map (.passed line) := by
  simp [events, succeed, Report.event?, Function.comp_def]

/-- The events of the turn tell its outcome. -/
structure Mirrored (line : String) (turn : Turn σ) : Prop where
  /-- A line that succeeds passes every stage. -/
  success : ∀ answer, turn.outcome = .ok answer → turn.events = Stage.all.map (.passed line)
  quoted : ∀ e, turn.outcome = .error e → e.line = line
  /-- A line that fails passes the stages before the one of its failure, which is reported last. -/
  failure : ∀ e, turn.outcome = .error e → ∃ verdict,
    turn.events = e.stage.earlier.map (.passed line) ++ [⟨e.stage, line, verdict⟩] ∧
      verdict = match e.cause with
        | .recognition _ | .arguments _ | .constraint _ => .rejected e.text
        | .store _ => .storeFailed e.text
        | .internal _ => .invariantViolated e.text

theorem mirrored_fail {line : String} {passed : List Stage} {cause : Cause} {session : Session σ}
    (hpassed : passed = cause.stage.earlier) : (fail line passed cause session).Mirrored line where
  success := by
    intro answer h
    cases h
  quoted := by
    intro e h
    cases h
    rfl
  failure := by
    intro e h
    cases h
    refine ⟨LineError.verdict ⟨line, cause⟩, ?_, ?_⟩
    · rw [events_fail, hpassed]
      rfl
    · cases cause <;> rfl

theorem mirrored_succeed (line : String) (kind : CommandKind) (answer : Answer)
    (session : Session σ) : (succeed line kind answer session).Mirrored line where
  success := fun _ _ => events_succeed line kind answer session
  quoted := by
    intro e h
    cases h
  failure := by
    intro e h
    cases h

end Turn

/-- Standard handlers, under whatever kinds, let the events of every line mirror its outcome. -/
theorem events_mirror_outcome {σ : Type} [ConfigStore σ] {table : Dispatch σ}
    (h : table.StandardMade) (line : String) (session : Session σ) :
    (session.submit table line).Mirrored line := by
  have hcourse := session.submit_course table line
  generalize session.submit table line = turn at hcourse ⊢
  cases hcourse with
  | unrecognized => exact Turn.mirrored_fail rfl
  | mistyped _ hcommand =>
    refine Turn.mirrored_fail ?_
    rw [Token.stage_of_command hcommand]
    rfl
  | refused => exact Turn.mirrored_fail rfl
  | unserved => exact Turn.mirrored_fail rfl
  | failed _ _ _ hhandler hresult =>
    obtain ⟨served, rfl⟩ := h _ _ hhandler
    refine Turn.mirrored_fail ?_
    rw [Handler.stage_of_standard (congrArg Prod.fst hresult)]
    rfl
  | done => exact Turn.mirrored_succeed line _ _ _

/-- A save that the store refuses and a command under the handler of another kind both fail in the
last stage, with different verdicts. -/
theorem events_mirror_outcome_refused :
    let table : Dispatch RefusingStore := Dispatch.standard.applyAll [.install .clearCli .clearAll]
    let session : Session RefusingStore :=
      ⟨(Network.Operation.addDevice "r1" .router).step .empty, ⟨"full"⟩⟩
    table.StandardMade ∧ (session.submit table "save r1").Mirrored "save r1" ∧
      (session.submit table "clear cli").Mirrored "clear cli" ∧
      (session.submit table "save r1").events.getLast? =
        some ⟨.execution, "save r1",
          .storeFailed "Store Error: configuration of `r1` was rejected: full (in `save r1`)"⟩ ∧
      (session.submit table "clear cli").events.getLast? =
        some ⟨.execution, "clear cli", .invariantViolated <|
          "Internal Error: executor for `clear all` received a `clear cli` command " ++
            "(in `clear cli`)"⟩ := by
  intro table session
  have htable : table.StandardMade := Dispatch.standardMade_applyAll _
  exact ⟨htable, events_mirror_outcome htable "save r1" session,
    events_mirror_outcome htable "clear cli" session, by decide +kernel, by decide +kernel⟩

end NetworkConsole
