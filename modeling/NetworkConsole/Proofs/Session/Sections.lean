import NetworkConsole.Proofs.Network.Placement
import NetworkConsole.Proofs.Session.Operations
import NetworkConsole.Store.Memory

/-! The log of a device after a session, read from its first line on. -/
namespace NetworkConsole

/-- Addresses of interfaces and networks of OSPF and EIGRP stand in their sections after any lines. All
subcommands do exactly when no RIP statement was cut off from its section. -/
theorem session_sections {σ : Type} [ConfigStore σ] (store : σ) (lines : List String)
    {name : String} {d : Device}
    (hd : ((Session.mk .empty store).after Dispatch.standard lines).network.device name = .ok d) :
    let events := Network.chronicle name (Network.linesOperations lines .empty)
    let log := Device.ownLog d.id name d.kind events
    Generated.lines log = d.cli ∧
      Generated.InSections (fun setting => ¬ setting.IsRip) log ∧
      (Generated.InSections (fun _ => True) log ↔ DeviceEvent.RipUnbroken events) := by
  intro events log
  rw [Session.after_linesOperations] at hd
  have hreplay := Network.device_eq_replay hd
  have hlines : Generated.lines log = ((Device.blank d.id name d.kind).replay events).cli :=
    Device.lines_sources rfl events
  rw [← hreplay] at hlines
  exact ⟨hlines, Device.inSections_notRip _ _ _ events, Device.inSections_iff _ _ _ events⟩

theorem exists_ok_of_map {ε α β : Type} {x : Except ε α} {f : α → β} {b : β}
    (h : x.map f = .ok b) : ∃ a, x = .ok a ∧ f a = b := by
  cases x with
  | error e => cases h
  | ok a => exact ⟨a, rfl, Except.ok.inj h⟩

/-- A hostname between two RIP statements leaves the section open. -/
theorem session_sections_router :
    let lines := ["add router r1", "set rip r1 10.0.0.0", "set hostname r1 core",
      "set rip r1 172.16.0.0", "set interface r1 g0/0 10.0.0.1 255.0.0.0"]
    let session := Session.mk .empty ({} : MemoryStore)
    let events := Network.chronicle "r1" (Network.linesOperations lines .empty)
    ∃ d, (session.after Dispatch.standard lines).network.device "r1" = .ok d ∧
      d.cli = ["router rip", "version 2", "network 10.0.0.0", "hostname core", "network 172.16.0.0",
        "interface g0/0", "ip address 10.0.0.1 255.0.0.0"] ∧
      Generated.lines (Device.ownLog d.id "r1" d.kind events) = d.cli ∧
      Generated.InSections (fun setting => ¬ setting.IsRip)
        (Device.ownLog d.id "r1" d.kind events) ∧
      (Generated.InSections (fun _ => True) (Device.ownLog d.id "r1" d.kind events) ↔
        DeviceEvent.RipUnbroken events) := by
  intro lines session events
  have hcli : ((session.after Dispatch.standard lines).network.device "r1").map Device.cli =
      .ok ["router rip", "version 2", "network 10.0.0.0", "hostname core", "network 172.16.0.0",
        "interface g0/0", "ip address 10.0.0.1 255.0.0.0"] := by decide +kernel
  obtain ⟨d, hd, hcli⟩ := exists_ok_of_map hcli
  exact ⟨d, hd, hcli, session_sections _ lines hd⟩

/-- An interface between two RIP statements, and the second network stands in its section. -/
theorem rip_below_interface :
    let lines := ["add router r1", "set rip r1 10.0.0.0", "set interface r1 g0/0 10.0.0.1 255.0.0.0",
      "set rip r1 172.16.0.0"]
    let session := Session.mk .empty ({} : MemoryStore)
    let events := Network.chronicle "r1" (Network.linesOperations lines .empty)
    ∃ d, (session.after Dispatch.standard lines).network.device "r1" = .ok d ∧
      d.cli = ["router rip", "version 2", "network 10.0.0.0", "interface g0/0",
        "ip address 10.0.0.1 255.0.0.0", "network 172.16.0.0"] ∧
      Generated.lines (Device.ownLog d.id "r1" d.kind events) = d.cli ∧
      ¬ Generated.InSections (fun _ => True) (Device.ownLog d.id "r1" d.kind events) := by
  intro lines session events
  have hdevice : ((session.after Dispatch.standard lines).network.device "r1").map
      (fun d => (d.id, d.kind, d.cli)) =
      .ok (0, .router, ["router rip", "version 2", "network 10.0.0.0", "interface g0/0",
        "ip address 10.0.0.1 255.0.0.0", "network 172.16.0.0"]) := by decide +kernel
  have hlog : Generated.lines (Device.ownLog 0 "r1" .router events) =
      ["router rip", "version 2", "network 10.0.0.0", "interface g0/0",
        "ip address 10.0.0.1 255.0.0.0", "network 172.16.0.0"] := by decide +kernel
  have hlast : (Device.ownLog 0 "r1" .router events)[5]? =
      some ⟨"network 172.16.0.0", .statement (.rip (.ofOctets 172 16 0 0))⟩ := by decide +kernel
  obtain ⟨d, hd, hparts⟩ := exists_ok_of_map hdevice
  obtain ⟨hid, hkind, hcli⟩ : d.id = 0 ∧ d.kind = .router ∧ d.cli = _ := by simpa using hparts
  refine ⟨d, hd, hcli, ?_⟩
  rw [hid, hkind, hcli]
  refine ⟨hlog, fun h => ?_⟩
  have hsection := h 5 _ hlast trivial (by decide +kernel)
  exact absurd hsection (by decide +kernel)

end NetworkConsole
