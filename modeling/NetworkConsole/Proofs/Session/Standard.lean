import NetworkConsole.Proofs.Session.Operations

/-! Turns by the command that a line spells. Which command it is depends on the line alone, the check
of the command sees the network alone, and a checked command is left to the table. -/
namespace NetworkConsole

/-- The command that a line spells. -/
def Command.ofLine (line : String) : Except Cause Command :=
  match Token.ofLine line with
  | .error e => .error (.recognition e)
  | .ok token => token.command

theorem Token.raw_eq {line : String} {token : Token} (h : ofLine line = .ok token) :
    token.raw = line := by
  rw [ofLine] at h
  split at h
  · cases h
  · split at h
    · cases h
      rfl
    · cases h

namespace Command
variable {line : String}

theorem token_of_line {command : Command} (h : ofLine line = .ok command) :
    ∃ token, Token.ofLine line = .ok token ∧ token.raw = line ∧ token.command = .ok command := by
  rw [ofLine] at h
  split at h
  · cases h
  · next token htoken => exact ⟨token, htoken, Token.raw_eq htoken, h⟩

theorem cause_of_line {cause : Cause} (h : ofLine line = .error cause) :
    (∃ e, cause = .recognition e) ∨ ∃ e, cause = .arguments e := by
  rw [ofLine] at h
  split at h
  · cases h
    exact .inl ⟨_, rfl⟩
  · next token _ =>
    obtain ⟨e, he⟩ | ⟨command, hok, _⟩ := token.command_cases
    · exact .inr ⟨e, Except.error.inj (h.symm.trans he)⟩
    · cases h.symm.trans hok

theorem grammatical_of_line {command : Command} (h : ofLine line = .ok command) :
    command.Grammatical := by
  obtain ⟨token, _, _, hcommand⟩ := token_of_line h
  exact Token.grammatical_of_command hcommand

end Command

theorem Network.lineOperations_eq {net : Network} {line : String} {command : Command}
    (hline : Command.ofLine line = .ok command) (hcheck : command.check net = .ok ()) :
    net.lineOperations line = command.operations := by
  obtain ⟨token, htoken, _, hcommand⟩ := Command.token_of_line hline
  exact lineOperations_of_check htoken hcommand hcheck

namespace Dispatch
variable {σ : Type}

/-- What becomes of a checked command under a table. -/
def perform (table : Dispatch σ) (line : String) (command : Command) (session : Session σ) :
    Session.Outcome σ :=
  match table.handler? command.kind with
  | none => (.error (.internal (.noHandler command.kind)), session)
  | some handler => handler ⟨line, command⟩ session

theorem perform_standard [ConfigStore σ] (line : String) (command : Command)
    (session : Session σ) : standard.perform line command session = command.execute session :=
  Handler.standard_of_kind line command session

end Dispatch

namespace Session
variable {σ : Type} {line : String} {session : Session σ}

theorem submit_unread (table : Dispatch σ) {cause : Cause}
    (hline : Command.ofLine line = .error cause) :
    (session.submit table line).outcome = .error ⟨line, cause⟩ ∧
      (session.submit table line).session = session := by
  rw [Command.ofLine] at hline
  cases htoken : Token.ofLine line with
  | error e =>
    simp only [htoken, Except.error.injEq] at hline
    subst hline
    simp only [submit, htoken]
    exact ⟨rfl, rfl⟩
  | ok token =>
    simp only [htoken] at hline
    simp only [submit, htoken, hline]
    exact ⟨rfl, rfl⟩

theorem submit_inadmissible (table : Dispatch σ) {command : Command} {e : ConstraintError}
    (hline : Command.ofLine line = .ok command)
    (hcheck : command.check session.network = .error e) :
    (session.submit table line).outcome = .error ⟨line, .constraint e⟩ ∧
      (session.submit table line).session = session := by
  obtain ⟨token, htoken, _, hcommand⟩ := Command.token_of_line hline
  simp only [submit, htoken, hcommand, hcheck]
  exact ⟨rfl, rfl⟩

theorem submit_checked (table : Dispatch σ) {command : Command}
    (hline : Command.ofLine line = .ok command) (hcheck : command.check session.network = .ok ()) :
    (session.submit table line).outcome =
        (table.perform line command session).1.mapError (fun e => ⟨line, e.cause⟩) ∧
      (session.submit table line).session = (table.perform line command session).2 := by
  obtain ⟨token, htoken, hraw, hcommand⟩ := Command.token_of_line hline
  simp only [submit, htoken, hcommand, hcheck, Dispatch.find, hraw, Dispatch.perform]
  cases table.handler? command.kind with
  | none => exact ⟨rfl, rfl⟩
  | some handler =>
    cases hresult : handler ⟨line, command⟩ session with
    | mk result after => cases result <;> simp [hresult, Turn.fail, Turn.succeed, Except.mapError]

theorem submit_standard [ConfigStore σ] {command : Command}
    (hline : Command.ofLine line = .ok command) (hcheck : command.check session.network = .ok ()) :
    (session.submit .standard line).outcome =
        (command.execute session).1.mapError (fun e => ⟨line, e.cause⟩) ∧
      (session.submit .standard line).session = (command.execute session).2 := by
  rw [← Dispatch.perform_standard line]
  exact submit_checked .standard hline hcheck

/-- Two sessions answer a line alike if they make the same of the command that it spells. -/
theorem submit_outcome_eq {τ : Type} [ConfigStore σ] [ConfigStore τ] {twin : Session τ}
    (hcheck : ∀ command : Command, command.check session.network = command.check twin.network)
    (hexecute : ∀ command, Command.ofLine line = .ok command →
      command.check session.network = .ok () →
        (command.execute session).1 = (command.execute twin).1) :
    (session.submit .standard line).outcome = (twin.submit .standard line).outcome := by
  cases hline : Command.ofLine line with
  | error cause =>
    rw [(session.submit_unread .standard hline).1, (twin.submit_unread .standard hline).1]
  | ok command =>
    cases hadmits : command.check session.network with
    | error e =>
      rw [(submit_inadmissible .standard hline hadmits).1,
        (submit_inadmissible .standard hline (hcheck command ▸ hadmits)).1]
    | ok _ =>
      rw [(submit_standard hline hadmits).1, (submit_standard hline (hcheck command ▸ hadmits)).1,
        hexecute command hline hadmits]

end Session

section Saving
variable {σ : Type} [ConfigStore σ]

/-- The answer to a save. The store has no part in it. -/
def Answer.saved (name : String) (report : List String) : Answer :=
  ⟨[s!"Saved configuration of {name} ({report.length} lines)"], .saved name report.length⟩

/-- What a save comes to: the answer to it, or the refusal of the store. -/
def ConfigStore.outcome (store : σ) (line name : String) (report : List String) : LineOutcome :=
  match (ConfigStore.save store name report).1 with
  | .ok () => .ok (.saved name report)
  | .error e => .error ⟨line, .store e⟩

theorem ConfigStore.outcome_ok {store : σ} {line name : String} {report : List String}
    {answer : Answer} (h : ConfigStore.outcome store line name report = .ok answer) :
    answer = .saved name report := by
  rw [ConfigStore.outcome] at h
  split at h
  · exact (Except.ok.inj h).symm
  · cases h

/-- The line spells a save of the name, and the network admits it. -/
def Network.AdmitsSave (net : Network) (line name : String) : Prop :=
  Command.ofLine line = .ok (.save name) ∧ (Command.save name).check net = .ok ()

theorem Session.save_eq {session : Session σ} {name : String} {d : Device}
    (hd : session.network.device name = .ok d) :
    session.save name =
      (((ConfigStore.save session.store name d.cliReport).1.map fun _ =>
          Answer.saved name d.cliReport).mapError ExecutionError.store,
        { session with store := (ConfigStore.save session.store name d.cliReport).2 }) := by
  simp only [save, hd]
  cases hsave : ConfigStore.save session.store name d.cliReport with
  | mk result store => cases result <;> rfl

/-- An admitted save hands the report on the device to the store, and nothing else happens. -/
theorem Session.submit_save {session : Session σ} {line name : String}
    (h : session.network.AdmitsSave line name) :
    ∃ d, session.network.device name = .ok d ∧
      (session.submit .standard line).outcome =
        ConfigStore.outcome session.store line name d.cliReport ∧
      (session.submit .standard line).session =
        ⟨session.network, (ConfigStore.save session.store name d.cliReport).2⟩ := by
  obtain ⟨hline, hcheck⟩ := h
  obtain ⟨d, hd⟩ := (Command.check_ok_iff _ _).1 hcheck
  obtain ⟨houtcome, hsession⟩ := submit_standard hline hcheck
  rw [Command.execute, save_eq hd] at houtcome hsession
  refine ⟨d, hd, houtcome.trans ?_, hsession⟩
  rw [ConfigStore.outcome]
  cases (ConfigStore.save session.store name d.cliReport).1 <;> rfl

omit [ConfigStore σ] in
theorem Session.change_store {α : Type} (session : Session σ) (step : Network.Change α)
    (answer : α → Answer) : (session.change step answer).2.store = session.store := by
  rw [change]
  split <;> rfl

theorem Command.execute_store {command : Command} (hsave : ∀ name, command ≠ .save name)
    (session : Session σ) : (command.execute session).2.store = session.store := by
  cases command with
  | addDevice | connect | setInterface | setHostname | route | filter =>
    exact session.change_store _ _
  | showInterfaces | showRouting | showAccess | showCli =>
    exact congrArg Session.store (session.inspect_session _ _)
  | save name => exact absurd rfl (hsave name)
  | showTopology | showHistory | clearCli | clearAll | help => rfl

/-- Nothing but an admitted save reaches the store. -/
theorem Session.submit_store {session : Session σ} {line : String}
    (hsave : ∀ name, ¬ session.network.AdmitsSave line name) :
    (session.submit .standard line).session.store = session.store := by
  cases hline : Command.ofLine line with
  | error cause => rw [(session.submit_unread .standard hline).2]
  | ok command =>
    cases hcheck : command.check session.network with
    | error e => rw [(submit_inadmissible .standard hline hcheck).2]
    | ok _ =>
      rw [(submit_standard hline hcheck).2]
      refine Command.execute_store (fun name hname => ?_) session
      subst hname
      exact hsave name ⟨hline, hcheck⟩

end Saving
end NetworkConsole
