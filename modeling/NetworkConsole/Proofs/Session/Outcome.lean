import NetworkConsole.Proofs.Network.Refusal
import NetworkConsole.Proofs.Session.Registration
import NetworkConsole.Store.Memory

/-! What carrying out a command does to the session: the network makes the operations of the command,
and a failure leaves everything except what a refusing store made of itself. -/
namespace NetworkConsole

/-- The operations by which a command changes the network. -/
def Command.operations : Command → List Network.Operation
  | .addDevice kind name => [.addDevice name kind]
  | .connect a b cable => [.addLink a b cable]
  | .setInterface device interface address mask => [.setInterface device interface address mask]
  | .setHostname device hostname => [.setHostname device hostname]
  | .route device statement => [.addStatement device statement]
  | .filter device number action entry => [.addRule device number action entry]
  | .clearCli => [.clearCli]
  | .clearAll => [.clear]
  | .showInterfaces _ | .showRouting _ | .showAccess _ | .showCli _ | .showTopology | .showHistory
  | .save _ | .help => []

/-- A refused save leaves the store as it was. -/
def ConfigStore.Steady (σ : Type) [ConfigStore σ] : Prop :=
  ∀ (store : σ) device lines e,
    (ConfigStore.save store device lines).1 = .error e →
      (ConfigStore.save store device lines).2 = store

theorem MemoryStore.steady : ConfigStore.Steady MemoryStore := by
  intro store device lines e h
  cases h

namespace Session
variable {σ : Type}

theorem change_network {α : Type} (session : Session σ) (step : Network.Change α)
    (answer : α → Answer) :
    (session.change step answer).2.network = (step session.network).2 := by
  rw [change]
  split <;> simp_all

theorem change_refused {α : Type} {session : Session σ} {step : Network.Change α}
    {answer : α → Answer} {e : ExecutionError} (hatomic : step.Atomic)
    (h : (session.change step answer).1 = .error e) :
    (session.change step answer).2 = session := by
  rw [change] at h ⊢
  split at h
  · cases h
  · next cause network hstep =>
    have hsame : network = session.network := by
      have := hatomic session.network cause (by rw [hstep])
      rwa [hstep] at this
    simp [hsame]

theorem change_error {α : Type} {session : Session σ} {step : Network.Change α}
    {answer : α → Answer} {e : ExecutionError} (h : (session.change step answer).1 = .error e) :
    ∃ cause, e = .internal (.network cause) := by
  rw [change] at h
  split at h
  · cases h
  · next cause _ _ =>
    cases h
    exact ⟨cause, rfl⟩

theorem inspect_error {session : Session σ} {name : String} {report : Device → List String}
    {e : ExecutionError} (h : (session.inspect name report).1 = .error e) :
    ∃ cause, e = .internal (.network cause) := by
  rw [inspect] at h
  split at h
  · cases h
  · next cause _ =>
    cases h
    exact ⟨cause, rfl⟩

theorem inspect_session (session : Session σ) (name : String) (report : Device → List String) :
    (session.inspect name report).2 = session := by
  rw [inspect]
  split <;> rfl

variable [ConfigStore σ]

theorem save_network (session : Session σ) (name : String) :
    (session.save name).2.network = session.network := by
  rw [save]
  split
  · rfl
  · simp only
    split <;> rfl

theorem save_refused (hsteady : ConfigStore.Steady σ) {session : Session σ} {name : String}
    {e : ExecutionError} (h : (session.save name).1 = .error e) :
    (session.save name).2 = session := by
  rw [save] at h ⊢
  cases hdevice : session.network.device name with
  | error cause => simp
  | ok d =>
    simp only [hdevice] at h ⊢
    split at h
    · next cause store hsave =>
      have hsame := hsteady session.store name d.cliReport cause (by rw [hsave])
      rw [hsave] at hsame
      subst hsame
      rfl
    · cases h

theorem save_error {session : Session σ} {name : String} {e : ExecutionError}
    (h : (session.save name).1 = .error e) :
    (∃ cause, e = .internal (.network cause)) ∨ ∃ cause, e = .store cause := by
  rw [save] at h
  split at h
  · next cause _ =>
    cases h
    exact .inl ⟨cause, rfl⟩
  · simp only at h
    split at h
    · next cause _ _ =>
      cases h
      exact .inr ⟨cause, rfl⟩
    · cases h

end Session

namespace Command
variable {σ : Type} [ConfigStore σ]

theorem execute_network (command : Command) (session : Session σ) :
    (command.execute session).2.network = Network.run command.operations session.network := by
  cases command with
  | addDevice | connect | setInterface | setHostname | route | filter =>
    exact session.change_network _ _
  | showInterfaces | showRouting | showAccess | showCli =>
    exact congrArg Session.network (session.inspect_session _ _)
  | save device => exact session.save_network device
  | showTopology | showHistory | clearCli | clearAll | help => rfl

/-- A failure leaves the network; a store that is steady it leaves too. -/
theorem execute_refused {command : Command} {session : Session σ} {e : ExecutionError}
    (h : (command.execute session).1 = .error e) :
    (command.execute session).2.network = session.network ∧
      (ConfigStore.Steady σ → (command.execute session).2 = session) := by
  have hwhole : (command.execute session).2 = session →
      (command.execute session).2.network = session.network ∧
        (ConfigStore.Steady σ → (command.execute session).2 = session) := by
    intro hsame
    exact ⟨congrArg Session.network hsame, fun _ => hsame⟩
  cases command with
  | addDevice kind name =>
    exact hwhole (Session.change_refused (Network.atomic_addDevice name kind) h)
  | connect a b cable => exact hwhole (Session.change_refused (Network.atomic_addLink a b cable) h)
  | setInterface device interface address mask =>
    exact hwhole
      (Session.change_refused (Network.atomic_setInterface device interface address mask) h)
  | setHostname device hostname =>
    exact hwhole (Session.change_refused (Network.atomic_setHostname device hostname) h)
  | route device statement =>
    exact hwhole (Session.change_refused (Network.atomic_addStatement device statement) h)
  | filter device number action entry =>
    exact hwhole (Session.change_refused (Network.atomic_addRule device number action entry) h)
  | showInterfaces | showRouting | showAccess | showCli =>
    exact hwhole (session.inspect_session _ _)
  | save device =>
    exact ⟨session.save_network device, fun hsteady => Session.save_refused hsteady h⟩
  | showTopology | showHistory | clearCli | clearAll | help => cases h

/-- A command fails with the network or with the store, and with nothing else. -/
theorem execute_error {command : Command} {session : Session σ} {e : ExecutionError}
    (h : (command.execute session).1 = .error e) :
    (∃ cause, e = .internal (.network cause)) ∨ ∃ cause, e = .store cause := by
  cases command with
  | addDevice | connect | setInterface | setHostname | route | filter =>
    exact .inl (Session.change_error h)
  | showInterfaces | showRouting | showAccess | showCli => exact .inl (Session.inspect_error h)
  | save device => exact Session.save_error h
  | showTopology | showHistory | clearCli | clearAll | help => cases h

end Command

namespace Handler
variable {σ : Type} [ConfigStore σ]

theorem standard_of_ne {kind : CommandKind} {instruction : Instruction}
    (hkind : instruction.kind ≠ kind) (session : Session σ) :
    standard kind instruction session =
      (.error (.internal (.unexpectedCommand kind instruction.kind)), session) :=
  if_neg fun htakes => hkind ((CommandKind.takes_iff kind instruction.command).1 htakes)

theorem standard_of_eq {kind : CommandKind} {instruction : Instruction}
    (hkind : instruction.kind = kind) (session : Session σ) :
    standard kind instruction session = instruction.command.execute session :=
  if_pos ((CommandKind.takes_iff kind instruction.command).2 hkind)

/-- A standard handler fails on a command of another kind, with the network or with the store. -/
theorem standard_error {kind : CommandKind} {instruction : Instruction} {session : Session σ}
    {e : ExecutionError} (h : (standard kind instruction session).1 = .error e) :
    e = .internal (.unexpectedCommand kind instruction.kind) ∨
      (∃ cause, e = .internal (.network cause)) ∨ ∃ cause, e = .store cause := by
  by_cases hkind : instruction.kind = kind
  · rw [standard_of_eq hkind] at h
    exact .inr (Command.execute_error h)
  · rw [standard_of_ne hkind] at h
    cases h
    exact .inl rfl

theorem standard_network (kind : CommandKind) (instruction : Instruction) (session : Session σ) :
    (standard kind instruction session).2.network = session.network ∨
      (standard kind instruction session).2.network =
        Network.run instruction.command.operations session.network := by
  by_cases hkind : instruction.kind = kind
  · rw [standard_of_eq hkind]
    exact .inr (instruction.command.execute_network session)
  · rw [standard_of_ne hkind]
    exact .inl rfl

theorem standard_refused {kind : CommandKind} {instruction : Instruction} {session : Session σ}
    {e : ExecutionError} (h : (standard kind instruction session).1 = .error e) :
    (standard kind instruction session).2.network = session.network ∧
      (ConfigStore.Steady σ → (standard kind instruction session).2 = session) := by
  by_cases hkind : instruction.kind = kind
  · rw [standard_of_eq hkind] at h ⊢
    exact Command.execute_refused h
  · rw [standard_of_ne hkind]
    exact ⟨rfl, fun _ => rfl⟩

end Handler

namespace Token

theorem instruction_cases (net : Network) (token : Token) :
    (∃ cause, token.instruction net = .error cause) ∨
      ∃ command, token.command = .ok command ∧ command.check net = .ok () ∧
        token.instruction net = .ok ⟨token.raw, command⟩ := by
  rw [instruction]
  cases hcommand : token.command with
  | error cause => exact .inl ⟨cause, rfl⟩
  | ok command =>
    cases hcheck : command.check net with
    | error e => exact .inl ⟨.constraint e, by simp only [hcheck]⟩
    | ok _ => exact .inr ⟨command, rfl, hcheck, by simp only [hcheck]⟩

end Token

/-- How a line can fare: the turns of a session, by the first stage that fails. -/
inductive Course {σ : Type} (table : Dispatch σ) (line : String) (session : Session σ) :
    Turn σ → Prop where
  | unrecognized {e : RecognitionError} (htoken : Token.ofLine line = .error e) :
      Course table line session (.fail line [] (.recognition e) session)
  | mistyped {token : Token} {cause : Cause} (htoken : Token.ofLine line = .ok token)
      (hcommand : token.command = .error cause) :
      Course table line session (.fail line [.recognition] cause session)
  | refused {token : Token} {command : Command} {e : ConstraintError}
      (htoken : Token.ofLine line = .ok token) (hcommand : token.command = .ok command)
      (hcheck : command.check session.network = .error e) :
      Course table line session (.fail line [.recognition, .arguments] (.constraint e) session)
  | unserved {token : Token} {command : Command} (htoken : Token.ofLine line = .ok token)
      (hcommand : token.command = .ok command) (hcheck : command.check session.network = .ok ())
      (hhandler : table.handler? command.kind = none) :
      Course table line session
        (.fail line [.recognition, .arguments, .constraints] (.internal (.noHandler command.kind))
          session)
  | failed {token : Token} {command : Command} {handler : Handler σ} {e : ExecutionError}
      {after : Session σ} (htoken : Token.ofLine line = .ok token)
      (hcommand : token.command = .ok command) (hcheck : command.check session.network = .ok ())
      (hhandler : table.handler? command.kind = some handler)
      (hresult : handler ⟨token.raw, command⟩ session = (.error e, after)) :
      Course table line session
        (.fail line [.recognition, .arguments, .constraints, .dispatch] e.cause after)
  | done {token : Token} {command : Command} {handler : Handler σ} {answer : Answer}
      {after : Session σ} (htoken : Token.ofLine line = .ok token)
      (hcommand : token.command = .ok command) (hcheck : command.check session.network = .ok ())
      (hhandler : table.handler? command.kind = some handler)
      (hresult : handler ⟨token.raw, command⟩ session = (.ok answer, after)) :
      Course table line session (.succeed line command.kind answer after)

namespace Session
variable {σ : Type}

theorem submit_course (table : Dispatch σ) (line : String) (session : Session σ) :
    Course table line session (session.submit table line) := by
  rw [submit]
  cases htoken : Token.ofLine line with
  | error e => exact .unrecognized htoken
  | ok token =>
    cases hcommand : token.command with
    | error cause => simpa only [hcommand] using .mistyped htoken hcommand
    | ok command =>
      cases hcheck : command.check session.network with
      | error e => simpa only [hcommand, hcheck] using .refused htoken hcommand hcheck
      | ok _ =>
        simp only [hcommand, hcheck, Dispatch.find]
        cases hhandler : table.handler? command.kind with
        | none => exact .unserved htoken hcommand hcheck hhandler
        | some handler =>
          cases hresult : handler ⟨token.raw, command⟩ session with
          | mk result after =>
            cases result with
            | error e =>
              simpa only [hresult] using .failed htoken hcommand hcheck hhandler hresult
            | ok answer => simpa only [hresult] using .done htoken hcommand hcheck hhandler hresult

/-- A line that passes the checks is left to the handler of its kind. -/
theorem submit_of_instruction (table : Dispatch σ) {line : String} {session : Session σ}
    {token : Token} {instruction : Instruction} (htoken : Token.ofLine line = .ok token)
    (hinstruction : token.instruction session.network = .ok instruction) :
    session.submit table line =
      match table.handler? instruction.kind with
      | none =>
        .fail line [.recognition, .arguments, .constraints]
          (.internal (.noHandler instruction.kind)) session
      | some handler =>
        match handler instruction session with
        | (.error e, after) =>
          .fail line [.recognition, .arguments, .constraints, .dispatch] e.cause after
        | (.ok answer, after) => .succeed line instruction.kind answer after := by
  obtain ⟨cause, herror⟩ | ⟨command, hcommand, hcheck, hok⟩ :=
    token.instruction_cases session.network
  · cases herror.symm.trans hinstruction
  · cases hok.symm.trans hinstruction
    simp only [submit, htoken, hcommand, hcheck, Dispatch.find, Instruction.kind]
    cases table.handler? command.kind with
    | none => rfl
    | some handler => rfl

variable [ConfigStore σ] {table : Dispatch σ}

/-- A line changes the network by operations only. -/
theorem submit_network (h : table.StandardMade) (line : String) (session : Session σ) :
    ∃ operations,
      (session.submit table line).session.network = Network.run operations session.network := by
  have hcourse := submit_course table line session
  generalize session.submit table line = turn at hcourse ⊢
  have hrun : ∀ {kind handler instruction result after}, table.handler? kind = some handler →
      handler instruction session = (result, after) →
      ∃ operations, after.network = Network.run operations session.network := by
    intro kind handler instruction result after hhandler hresult
    obtain ⟨served, rfl⟩ := h kind handler hhandler
    have hnetwork := Handler.standard_network served instruction session
    rw [hresult] at hnetwork
    obtain hsame | hrun := hnetwork
    · exact ⟨[], hsame⟩
    · exact ⟨_, hrun⟩
  cases hcourse with
  | unrecognized | mistyped | refused | unserved => exact ⟨[], rfl⟩
  | failed _ _ _ hhandler hresult => exact hrun hhandler hresult
  | done _ _ _ hhandler hresult => exact hrun hhandler hresult

theorem submit_refused (h : table.StandardMade) {line : String} {session : Session σ}
    {e : LineError} (he : (session.submit table line).outcome = .error e) :
    (session.submit table line).session.network = session.network ∧
      (ConfigStore.Steady σ → (session.submit table line).session = session) := by
  have hcourse := submit_course table line session
  generalize session.submit table line = turn at hcourse he ⊢
  cases hcourse with
  | unrecognized | mistyped | refused | unserved => exact ⟨rfl, fun _ => rfl⟩
  | failed _ _ _ hhandler hresult =>
    obtain ⟨served, rfl⟩ := h _ _ hhandler
    have hrefused := Handler.standard_refused (congrArg Prod.fst hresult)
    rw [hresult] at hrefused
    exact hrefused
  | done => cases he

end Session
end NetworkConsole
