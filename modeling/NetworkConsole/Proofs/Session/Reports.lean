import NetworkConsole.Proofs.Network.NetworkReports
import NetworkConsole.Proofs.Session.Standard
import NetworkConsole.Proofs.Session.WellFormed
import NetworkConsole.Store.Directory
import NetworkConsole.Store.Memory

/-! What consoles show, as evidence of what they hold. Two consoles that answer a `show` line alike agree
on all that the line is about, whatever lines and stores they come from. -/
namespace NetworkConsole

namespace Command

/-- A command that was read is read again from its text. -/
theorem ofLine_text {token : Token} {command : Command} (h : token.checked = .ok command) :
    ofLine command.text = .ok command := by
  simp only [ofLine, Token.ofLine_text h]
  have hchecked := Token.checked_text h command.text
  rw [Token.checked] at hchecked
  cases hcommand : Token.command ⟨command.kind, command.values.map Value.text, command.text⟩ with
  | error e => simp [hcommand, Except.mapError] at hchecked
  | ok found =>
    rw [hcommand] at hchecked
    rw [Except.ok.inj hchecked]

/-- Commands on one device, without further arguments. -/
theorem ofLine_text_of_name {command : Command} {name : String} (hname : isName name = true)
    (hparameters : command.kind.parameters = [CommandKind.deviceParameter])
    (hvalues : command.values = [.identifier name]) : ofLine command.text = .ok command := by
  have hread : Read command.kind.parameters [name] command.values := by
    rw [hparameters, hvalues]
    exact .cons (.name hname) .nil
  have hchecked : Token.checked ⟨command.kind, [name], ""⟩ = .ok command :=
    Token.checked_eq_ok_iff.2 ⟨rfl, hread⟩
  exact ofLine_text hchecked

end Command

section Output
variable {σ : Type} [ConfigStore σ] {session : Session σ}

namespace Session

/-- What a line shows to the user, or why it fails. -/
def output (session : Session σ) (line : String) : Except LineError (List String) :=
  (session.submit .standard line).outcome.map Answer.output

theorem output_eq {line : String} {command : Command} {shown : List String}
    (hline : Command.ofLine line = .ok command) (hcheck : command.check session.network = .ok ())
    (hshown : (command.execute session).1 = .ok (.shown shown)) :
    session.output line = .ok shown := by
  rw [output, (submit_standard hline hcheck).1, hshown]
  rfl

theorem output_inspect {line name : String} {command : Command} {d : Device}
    {report : Device → List String} (hline : Command.ofLine line = .ok command)
    (hadmitted : command.Admitted session.network)
    (hexecute : command.execute session = session.inspect name report)
    (hd : session.network.device name = .ok d) : session.output line = .ok (report d) := by
  refine output_eq hline ((Command.check_ok_iff _ _).2 hadmitted) ?_
  simp only [hexecute, inspect, hd]

theorem output_device {name : String} {d : Device} (hname : isName name = true)
    (hd : session.network.device name = .ok d) :
    session.output s!"show interfaces {name}" = .ok d.interfaceReport ∧
      session.output s!"show routing {name}" = .ok d.routingReport ∧
      session.output s!"show acl {name}" = .ok d.accessReport := by
  have hread : ∀ command : Command, command.kind.parameters = [CommandKind.deviceParameter] →
      command.values = [.identifier name] → Command.ofLine command.text = .ok command :=
    fun _ => Command.ofLine_text_of_name hname
  refine ⟨?_, ?_, ?_⟩
  · exact output_inspect (hread (.showInterfaces name) rfl rfl) ⟨d, hd⟩ rfl hd
  · exact output_inspect (hread (.showRouting name) rfl rfl) ⟨d, hd⟩ rfl hd
  · exact output_inspect (hread (.showAccess name) rfl rfl) ⟨d, hd⟩ rfl hd

theorem output_network (session : Session σ) :
    session.output "show topology" = .ok session.network.topologyReport ∧
      session.output "show history" = .ok session.network.historyReport := by
  have htopology : Command.ofLine "show topology" = .ok .showTopology := by decide +kernel
  have hhistory : Command.ofLine "show history" = .ok .showHistory := by decide +kernel
  exact ⟨output_eq htopology rfl rfl, output_eq hhistory rfl rfl⟩

theorem after_legible (store : σ) (lines : List String) :
    ((Session.mk .empty store).after .standard lines).network.Legible := by
  have hempty : Network.empty.skeleton.Coherent := Network.coherent_run []
  rw [after_linesOperations]
  exact ⟨Network.coherent_run _, Network.wellFormed_empty.lines hempty lines,
    Network.logged_run _⟩

end Session
end Output

section Twins
variable {σ τ : Type} [ConfigStore σ] [ConfigStore τ]

/-- Two consoles show a device of the same name alike exactly if it has the same interfaces, the same
statements of every protocol, or the same access rules, each in the same order. The notice that there
are none is shown of no other device, and no row reads like a notice. -/
theorem device_reports_faithful (store : σ) (other : τ) (lines others : List String) :
    let session := (Session.mk .empty store).after .standard lines
    let twin := (Session.mk .empty other).after .standard others
    ∀ name d e, session.network.device name = .ok d → twin.network.device name = .ok e →
      (session.output s!"show interfaces {name}" = .ok d.interfaceReport ∧
        (session.output s!"show interfaces {name}" = twin.output s!"show interfaces {name}" ↔
          d.interfaces = e.interfaces) ∧
        ∀ subject, s!"No interfaces configured on {subject}" ∈ d.interfaceReport ↔
          d.interfaces.entries = [] ∧ subject = name) ∧
      (session.output s!"show routing {name}" = .ok d.routingReport ∧
        (session.output s!"show routing {name}" = twin.output s!"show routing {name}" ↔
          ∀ protocol, d.routing.ofProtocol protocol = e.routing.ofProtocol protocol) ∧
        ∀ subject, s!"No routing protocols configured on {subject}" ∈ d.routingReport ↔
          (∀ protocol, d.routing.ofProtocol protocol = []) ∧ subject = name) ∧
      session.output s!"show acl {name}" = .ok d.accessReport ∧
        (session.output s!"show acl {name}" = twin.output s!"show acl {name}" ↔
          d.rules = e.rules) ∧
        ∀ subject, s!"No access lists configured on {subject}" ∈ d.accessReport ↔
          d.rules = [] ∧ subject = name := by
  intro session twin name d e hd he
  have hlegible := Session.after_legible store lines
  have hlegible' := Session.after_legible other others
  obtain ⟨rfl, _⟩ := Network.device_name hlegible.coherent hd
  have hsame := (Network.device_name hlegible'.coherent he).1.symm
  have hwell := hlegible.wellFormed _ d hd
  have hwell' := hlegible'.wellFormed _ e he
  have hname : isName d.name = true := (Text.isName_iff _).2 hwell.name
  obtain ⟨hinterfaces, hrouting, hrules⟩ := Session.output_device hname hd
  obtain ⟨hinterfaces', hrouting', hrules'⟩ := Session.output_device hname he
  have hworded := hwell.wordedInterfaces
  have hworded' := hwell'.wordedInterfaces
  refine ⟨⟨hinterfaces, ?_, Device.mem_interfaceReport_iff hworded⟩,
    ⟨hrouting, ?_, d.mem_routingReport_iff⟩, hrules, ?_, d.mem_accessReport_iff⟩
  · rw [hinterfaces, hinterfaces', Except.ok.injEq]
    exact Device.interfaceReport_eq_iff hworded hworded' hsame
  · rw [hrouting, hrouting', Except.ok.injEq]
    exact Device.routingReport_eq_iff hsame
  · rw [hrules, hrules', Except.ok.injEq]
    exact Device.accessReport_eq_iff hsame

/-- The interface has the name `No`. One router has a statement, the other has none. -/
theorem device_reports_faithful_routers :
    let lines := ["add router r1", "set interface r1 No 10.0.0.1 255.255.255.0"]
    let others := ["add router r1", "set rip r1 10.0.0.0",
      "SET INTERFACE r1 No 10.0.0.1 255.255.255.0"]
    let session := (Session.mk .empty ({} : MemoryStore)).after .standard lines
    let twin := (Session.mk .empty ({} : DirectoryStore)).after .standard others
    ∃ d e, session.network.device "r1" = .ok d ∧ twin.network.device "r1" = .ok e ∧
      d.interfaces = e.interfaces ∧
      ¬ (∀ protocol, d.routing.ofProtocol protocol = e.routing.ofProtocol protocol) ∧
      ∀ protocol, d.routing.ofProtocol protocol = [] := by
  intro lines others session twin
  have hcoherent := (Session.after_legible ({} : MemoryStore) lines).coherent
  have hcoherent' := (Session.after_legible ({} : DirectoryStore) others).coherent
  obtain ⟨d, hd⟩ := (Network.hasDevice_iff_device hcoherent "r1").1 (by decide +kernel)
  obtain ⟨e, he⟩ := (Network.hasDevice_iff_device hcoherent' "r1").1 (by decide +kernel)
  obtain ⟨⟨_, hinterfaces, _⟩, ⟨hshown, hrouting, hnotice⟩, _⟩ :=
    device_reports_faithful ({} : MemoryStore) ({} : DirectoryStore) lines others "r1" d e hd he
  have hreport : d.routingReport = ["No routing protocols configured on r1"] :=
    Except.ok.inj (hshown.symm.trans (by decide +kernel))
  have hnone : "No routing protocols configured on r1" ∈ d.routingReport := by simp [hreport]
  exact ⟨d, e, hd, he, hinterfaces.1 (by decide +kernel), hrouting.not.1 (by decide +kernel),
    ((hnotice "r1").1 hnone).1⟩

/-- Two consoles show their topologies alike exactly if they have the same devices, with the same kinds
and hostnames, and the same connections, each in the same order; the numbers in the first line are those
of the rows of devices and of connections below it. They show their histories alike exactly if these
have the same entries. -/
theorem network_reports_faithful (store : σ) (other : τ) (lines others : List String) :
    let session := (Session.mk .empty store).after .standard lines
    let twin := (Session.mk .empty other).after .standard others
    (session.output "show topology" = twin.output "show topology" ↔
      session.network.deviceList.map (fun d => (d.kind, d.name, d.hostname)) =
          twin.network.deviceList.map (fun d => (d.kind, d.name, d.hostname)) ∧
        session.network.connections = twin.network.connections) ∧
    (∃ devices links : List String,
      session.output "show topology" =
          .ok (s!"{devices.length} devices, {links.length} connections" :: (devices ++ links)) ∧
        devices.length = session.network.deviceList.length ∧
        links.length = session.network.connections.length ∧
        (∀ row ∈ devices, ¬ Connection.IsRow row) ∧ ∀ row ∈ links, Connection.IsRow row) ∧
    (session.output "show history" = twin.output "show history" ↔
      session.network.history = twin.network.history) := by
  intro session twin
  have hlegible := Session.after_legible store lines
  have hlegible' := Session.after_legible other others
  obtain ⟨htopology, hhistory⟩ := session.output_network
  obtain ⟨htopology', hhistory'⟩ := twin.output_network
  rw [htopology, htopology', hhistory, hhistory', Except.ok.injEq, Except.ok.injEq]
  refine ⟨Network.topologyReport_eq_iff hlegible hlegible', ?_,
    Network.historyReport_eq_iff hlegible hlegible'⟩
  refine ⟨session.network.deviceList.map Device.summary,
    session.network.connections.map Connection.row, ?_, List.length_map .., List.length_map ..,
    ?_, ?_⟩
  · rw [hlegible.topologyReport_eq, List.length_map, List.length_map]
  · exact List.forall_mem_map.2 fun d hd => Device.not_isRow_summary (hlegible.device hd)
  · exact List.forall_mem_map.2 fun c hc => Connection.isRow_row (hlegible.worded hc)

end Twins
end NetworkConsole
