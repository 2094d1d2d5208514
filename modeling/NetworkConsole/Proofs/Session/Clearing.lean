import NetworkConsole.Proofs.Network.Unlogged
import NetworkConsole.Proofs.Session.StoreIndependence

/-! Clearing the logs is transparent. The checks, the changes and the reports read the configuration,
and only a save and the reports on the logs read what was logged. -/
namespace NetworkConsole

namespace Command

/-- The answer of the command shows what was logged. -/
def readsLog : Command → Bool
  | .save _ | .showCli _ | .showHistory => true
  | _ => false

theorem existing_unlogged (net : Network) (name : String) :
    existing net.unlogged name = (existing net name).map Device.forget := by
  rw [existing, existing, Network.device_unlogged]
  cases net.device name <;> rfl

theorem check_unlogged (net : Network) (command : Command) :
    command.check net.unlogged = command.check net := by
  cases command with
  | connect a b cable =>
    simp only [check, existing_unlogged, Network.cable?_unlogged]
    cases existing net a with
    | error e => rfl
    | ok _ => cases existing net b <;> rfl
  | setInterface device interface address mask =>
    simp only [check, existing_unlogged, checkAddressFree, Network.holder?_unlogged]
    cases existing net device <;> rfl
  | route device | filter device | setHostname device | showInterfaces device | showRouting device
  | showAccess device | showCli device | save device =>
    simp only [check, existing_unlogged]
    cases existing net device <;> rfl
  | addDevice | showTopology | showHistory | clearCli | clearAll | help => rfl

end Command

section Twins
variable {σ τ : Type} {session : Session σ} {twin : Session τ}

namespace Network
variable {net other : Network} (hnet : net.unlogged = other.unlogged)
include hnet

theorem Change.Unmindful.congr {α : Type} {step : Change α} (h : Unmindful step) :
    (step net).1 = (step other).1 := by
  rw [← (h net).1, hnet, (h other).1]

theorem device_report_congr {report : Device → List String}
    (hreport : ∀ d, report d.forget = report d) (name : String) :
    (net.device name).map report = (other.device name).map report := by
  have hforget : ∀ found : Except NetworkError Device,
      found.map report = (found.map Device.forget).map report := by
    intro found
    cases found with
    | error e => rfl
    | ok d => exact congrArg Except.ok (hreport d).symm
  rw [hforget, ← device_unlogged, hnet, device_unlogged, ← hforget]

theorem check_congr (command : Command) : command.check net = command.check other := by
  rw [← Command.check_unlogged net, hnet, Command.check_unlogged]

theorem lineOperations_congr (line : String) :
    net.lineOperations line = other.lineOperations line := by
  simp only [lineOperations, Token.instruction, check_congr hnet]

end Network

variable [ConfigStore σ] [ConfigStore τ] (hnet : session.network.unlogged = twin.network.unlogged)
include hnet

theorem Command.execute_unlogged {command : Command} (hlog : command.readsLog = false) :
    (command.execute session).1 = (command.execute twin).1 := by
  cases command with
  | addDevice kind name =>
    exact Session.change_congr ((Network.unmindful_addDevice name kind).congr hnet) _
  | connect a b cable =>
    exact Session.change_congr ((Network.unmindful_addLink a b cable).congr hnet) _
  | setInterface device interface address mask =>
    exact Session.change_congr
      ((Network.unmindful_setInterface device interface address mask).congr hnet) _
  | setHostname device hostname =>
    exact Session.change_congr ((Network.unmindful_setHostname device hostname).congr hnet) _
  | route device statement =>
    exact Session.change_congr ((Network.unmindful_addStatement device statement).congr hnet) _
  | filter device number action entry =>
    exact Session.change_congr ((Network.unmindful_addRule device number action entry).congr hnet) _
  | showInterfaces device | showRouting device | showAccess device =>
    exact Session.inspect_congr (Network.device_report_congr hnet (fun _ => rfl) device)
  | showTopology =>
    simp only [execute, ← Network.topologyReport_unlogged session.network, hnet,
      Network.topologyReport_unlogged]
  | showCli | showHistory | save => cases hlog
  | clearCli | clearAll | help => rfl

theorem Session.submit_unlogged (line : String) :
    (session.submit .standard line).session.network.unlogged =
      (twin.submit .standard line).session.network.unlogged := by
  rw [submit_lineOperations, submit_lineOperations, Network.lineOperations_congr hnet]
  exact Network.unlogged_run _ hnet

theorem Session.submit_outcome_unlogged {line : String}
    (hlog : ∀ command, Command.ofLine line = .ok command → command.readsLog = false) :
    (session.submit .standard line).outcome = (twin.submit .standard line).outcome :=
  submit_outcome_eq (Network.check_congr hnet) fun command hline _ =>
    Command.execute_unlogged hnet (hlog command hline)

end Twins

/-- The second list is the first with further lines that clear the logs. -/
inductive Interspersed : List String → List String → Prop where
  | nil : Interspersed [] []
  | line {lines padded : List String} (line : String) (h : Interspersed lines padded) :
      Interspersed (line :: lines) (line :: padded)
  | clear {lines padded : List String} {line : String}
      (hline : Command.ofLine line = .ok .clearCli) (h : Interspersed lines padded) :
      Interspersed lines (line :: padded)

section Runs
variable {σ τ : Type} [ConfigStore σ] [ConfigStore τ]

theorem Session.submit_clearing (session : Session σ) {line : String}
    (hline : Command.ofLine line = .ok .clearCli) :
    (session.submit .standard line).session.network.unlogged = session.network.unlogged := by
  rw [submit_lineOperations, Network.lineOperations_eq hline rfl]
  exact session.network.unlogged_clearCli

theorem Interspersed.after_unlogged {lines padded : List String} (h : Interspersed lines padded)
    {session : Session σ} {twin : Session τ}
    (hnet : session.network.unlogged = twin.network.unlogged) :
    (session.after .standard lines).network.unlogged =
      (twin.after .standard padded).network.unlogged := by
  induction h generalizing session twin with
  | nil => exact hnet
  | line line h ih => exact ih (Session.submit_unlogged hnet line)
  | clear hline h ih => exact ih (hnet.trans (twin.submit_clearing hline).symm)

/-- The line passed the checks: its command succeeded, or it is a save and the store refused. -/
def Turn.Passed (turn : Turn σ) (line : String) (command : Command) : Prop :=
  (∃ answer, turn.outcome = .ok answer) ∨
    ∃ name e, command = .save name ∧ turn.outcome = .error ⟨line, .store e⟩

theorem Session.passed_of_readsLog {session : Session σ} {line : String} {command : Command}
    (hline : Command.ofLine line = .ok command) (hcheck : command.check session.network = .ok ())
    (hlog : command.readsLog = true) : (session.submit .standard line).Passed line command := by
  obtain ⟨houtcome, _⟩ := submit_standard hline hcheck
  have hadmitted := (Command.check_ok_iff _ _).1 hcheck
  cases command with
  | save name =>
    obtain ⟨d, _, hsave, _⟩ := submit_save ⟨hline, hcheck⟩
    rw [ConfigStore.outcome] at hsave
    split at hsave
    · exact .inl ⟨_, hsave⟩
    · exact .inr ⟨name, _, rfl, hsave⟩
  | showCli name =>
    obtain ⟨d, hd⟩ := hadmitted
    rw [Command.execute, inspect_ok hd] at houtcome
    exact .inl ⟨_, houtcome⟩
  | showHistory => exact .inl ⟨_, houtcome⟩
  | _ => cases hlog

end Runs

/-- A console runs some lines, another one the same lines with further ones that clear the logs. The
networks differ in the logs only. What line they are given next, they answer alike, except that a save
or a report on the logs shows what is left there; it passes the checks of both or fails the same. -/
theorem clearing_transparent {σ τ : Type} [ConfigStore σ] [ConfigStore τ] (net : Network)
    (store : σ) (other : τ) {lines padded : List String} (h : Interspersed lines padded) :
    let session := (Session.mk net store).after .standard lines
    let twin := (Session.mk net other).after .standard padded
    session.network.unlogged = twin.network.unlogged ∧
      session.network.deviceList.map Device.forget = twin.network.deviceList.map Device.forget ∧
      session.network.connections = twin.network.connections ∧
      ∀ line,
        let turn := session.submit .standard line
        let twinTurn := twin.submit .standard line
        ((∀ command, Command.ofLine line = .ok command → command.readsLog = false) →
            turn.outcome = twinTurn.outcome) ∧
          ∀ command, Command.ofLine line = .ok command → command.readsLog = true →
            (∃ e, turn.outcome = .error ⟨line, .constraint e⟩ ∧
                twinTurn.outcome = .error ⟨line, .constraint e⟩) ∨
              turn.Passed line command ∧ twinTurn.Passed line command := by
  intro session twin
  have hstart : (Session.mk net store).network.unlogged = (Session.mk net other).network.unlogged :=
    rfl
  have hnet : session.network.unlogged = twin.network.unlogged := h.after_unlogged hstart
  refine ⟨hnet, ?_, ?_, fun line => ⟨Session.submit_outcome_unlogged hnet, ?_⟩⟩
  · rw [← Network.deviceList_unlogged, hnet, Network.deviceList_unlogged]
  · rw [← Network.connections_unlogged, hnet, Network.connections_unlogged]
  · intro command hline hlog
    have hchecks := Network.check_congr hnet command
    cases hcheck : command.check session.network with
    | error e =>
      exact .inl ⟨e, (Session.submit_inadmissible .standard hline hcheck).1,
        (Session.submit_inadmissible .standard hline (hchecks ▸ hcheck)).1⟩
    | ok _ =>
      exact .inr ⟨Session.passed_of_readsLog hline hcheck hlog,
        Session.passed_of_readsLog hline (hchecks ▸ hcheck) hlog⟩

/-- The header of the RIP section is not written again although the log was cleared. -/
theorem clearing_transparent_router :
    let lines := ["add router r1", "set rip r1 10.0.0.0"]
    let padded := ["add router r1", "clear cli", "set rip r1 10.0.0.0", "CLEAR  CLI"]
    let session := (Session.mk .empty ({} : MemoryStore)).after .standard lines
    let twin := (Session.mk .empty ({} : MemoryStore)).after .standard padded
    Interspersed lines padded ∧ session.network.unlogged = twin.network.unlogged ∧
      (twin.submit .standard "set rip r1 172.16.0.0").outcome =
        .ok ⟨["network 172.16.0.0"], .routingAdded "r1" .rip⟩ ∧
      (session.submit .standard "show cli r1").Passed "show cli r1" (.showCli "r1") ∧
      (twin.submit .standard "show cli r1").Passed "show cli r1" (.showCli "r1") := by
  intro lines padded session twin
  have hclear : Command.ofLine "clear cli" = .ok .clearCli := by decide +kernel
  have hloud : Command.ofLine "CLEAR  CLI" = .ok .clearCli := by decide +kernel
  have h : Interspersed lines padded :=
    .line _ (.clear hclear (.line _ (.clear hloud .nil)))
  obtain ⟨hnet, _, _, hlines⟩ :=
    clearing_transparent .empty ({} : MemoryStore) ({} : MemoryStore) h
  have hrip : Command.ofLine "set rip r1 172.16.0.0" =
      .ok (.route "r1" (.rip (.ofOctets 172 16 0 0))) := by decide +kernel
  have hshow : Command.ofLine "show cli r1" = .ok (.showCli "r1") := by decide +kernel
  have hanswer : (session.submit .standard "set rip r1 172.16.0.0").outcome =
      .ok ⟨["network 172.16.0.0"], .routingAdded "r1" .rip⟩ := by decide +kernel
  have hsame := (hlines "set rip r1 172.16.0.0").1 fun command hcommand => by
    cases hrip.symm.trans hcommand
    rfl
  refine ⟨h, hnet, hsame.symm.trans hanswer, ?_⟩
  obtain ⟨e, he, _⟩ | hpassed := (hlines "show cli r1").2 _ hshow rfl
  · have hok : (session.submit .standard "show cli r1").failed = false := by decide +kernel
    rw [Turn.failed, he] at hok
    cases hok
  · exact hpassed

end NetworkConsole
