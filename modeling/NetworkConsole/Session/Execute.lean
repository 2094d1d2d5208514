import NetworkConsole.Network.Change
import NetworkConsole.Network.Report
import NetworkConsole.Session.Effect
import NetworkConsole.Session.Failure

/-! Carrying out commands. A session is a network with the store for its configurations; a command
answers and leaves a session, whether it succeeds or not. -/
namespace NetworkConsole

structure Session (σ : Type) where
  network : Network
  store : σ

namespace Session
variable {σ : Type}

abbrev Outcome (σ : Type) := Except ExecutionError Answer × Session σ

/-- Applies a change of the network; `answer` turns its result into the answer. -/
def change {α : Type} (session : Session σ) (step : Network.Change α) (answer : α → Answer) :
    Outcome σ :=
  match step session.network with
  | (.ok a, network) => (.ok (answer a), { session with network })
  | (.error e, network) => (.error (.internal (.network e)), { session with network })

/-- Shows a report on a device. -/
def inspect (session : Session σ) (name : String) (report : Device → List String) : Outcome σ :=
  match session.network.device name with
  | .ok d => (.ok (.shown (report d)), session)
  | .error e => (.error (.internal (.network e)), session)

/-- Hands the configuration of a device to the store. -/
def save [ConfigStore σ] (session : Session σ) (name : String) : Outcome σ :=
  match session.network.device name with
  | .error e => (.error (.internal (.network e)), session)
  | .ok d =>
    let lines := d.cliReport
    match ConfigStore.save session.store name lines with
    | (.error e, store) => (.error (.store e), { session with store })
    | (.ok (), store) =>
      (.ok ⟨[s!"Saved configuration of {name} ({lines.length} lines)"], .saved name lines.length⟩,
        { session with store })

end Session

def Command.execute {σ : Type} [ConfigStore σ] (command : Command) (session : Session σ) :
    Session.Outcome σ :=
  match command with
  | .addDevice kind name =>
    session.change (Network.addDevice name kind) fun _ =>
      ⟨[s!"Added {kind} {name}"], .deviceAdded name kind⟩
  | .connect a b cable =>
    session.change (Network.addLink a b cable) fun _ =>
      ⟨[s!"Connected {a} <-> {b} [{cable}]"], .connected a b cable⟩
  | .setInterface device interface address mask =>
    session.change (Network.setInterface device interface address mask) fun lines =>
      ⟨lines, .interfaceConfigured device interface⟩
  | .setHostname device hostname =>
    session.change (Network.setHostname device hostname) fun lines =>
      ⟨lines, .hostnameChanged device hostname⟩
  | .route device statement =>
    session.change (Network.addStatement device statement) fun lines =>
      ⟨lines, .routingAdded device statement.protocol⟩
  | .filter device number action entry =>
    session.change (Network.addRule device number action entry) fun rule =>
      ⟨[rule.line], .ruleAdded device rule.number rule.sequence⟩
  | .showInterfaces device => session.inspect device Device.interfaceReport
  | .showRouting device => session.inspect device Device.routingReport
  | .showAccess device => session.inspect device Device.accessReport
  | .showCli device => session.inspect device Device.cliReport
  | .showTopology => (.ok (.shown session.network.topologyReport), session)
  | .showHistory => (.ok (.shown session.network.historyReport), session)
  | .save device => session.save device
  | .clearCli =>
    (.ok ⟨["Configuration log cleared"], .cliCleared⟩,
      { session with network := session.network.clearCli })
  | .clearAll =>
    (.ok ⟨["Network cleared"], .networkCleared⟩, { session with network := session.network.clear })
  | .help => (.ok (.shown helpLines), session)

end NetworkConsole
