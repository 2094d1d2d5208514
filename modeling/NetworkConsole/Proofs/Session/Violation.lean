import NetworkConsole.Proofs.Command.Violation
import NetworkConsole.Proofs.Network.Violation
import NetworkConsole.Proofs.Session.Soundness
import NetworkConsole.Store.Memory

/-! Commands that are carried out without having been checked. What the check calls a violation of
the structure of the network, the network refuses by itself, under the same names. -/
namespace NetworkConsole

/-- The command sets an interface of a device that does not exist, to an address that another one
has. There are two reasons to refuse it: the check comes upon the device first, the network upon the
address. -/
def Command.RefusedTwice (net : Network) (command : Command) (address : Address)
    (other otherInterface : String) : Prop :=
  ∃ device interface mask, command = .setInterface device interface address mask ∧
    net.hasDevice device = false ∧ net.Holds other otherInterface address

namespace Session
variable {σ : Type} {session : Session σ}

/-- The refusal of the network as an outcome; nothing is changed. -/
def refused (session : Session σ) (cause : NetworkError) : Outcome σ :=
  (.error (.internal (.network cause)), session)

theorem change_eq_refused {α : Type} {step : Network.Change α} {cause : NetworkError}
    (h : step session.network = (.error cause, session.network)) (answer : α → Answer) :
    session.change step answer = session.refused cause := by
  simp only [change, h, refused]

theorem inspect_of_absent {name : String} (h : session.network.hasDevice name = false)
    (report : Device → List String) :
    session.inspect name report = session.refused (.unknownName name) := by
  simp only [inspect, Network.device_of_absent h, refused]

theorem save_of_absent [ConfigStore σ] {name : String}
    (h : session.network.hasDevice name = false) :
    session.save name = session.refused (.unknownName name) := by
  simp only [save, Network.device_of_absent h, refused]

end Session

namespace Command
variable {σ : Type} [ConfigStore σ] {session : Session σ} {e : ConstraintError}
  {cause : NetworkError}

theorem absent_of_existing {net : Network} (h : net.skeleton.Coherent) {name : String}
    (he : existing net name = .error e) (hcause : e.refusal? = some cause) :
    net.hasDevice name = false ∧ cause = .unknownName name := by
  obtain ⟨habsent, rfl⟩ := (existing_error_iff name).1 he
  refine ⟨?_, (Option.some.inj hcause).symm⟩
  rw [Bool.eq_false_iff, ne_eq, Network.hasDevice_iff_device h]
  rintro ⟨d, hd⟩
  exact habsent d hd

theorem absent_of_discard {net : Network} (h : net.skeleton.Coherent) {name : String}
    (he : (discard (existing net name) : Except ConstraintError Unit) = .error e)
    (hcause : e.refusal? = some cause) :
    net.hasDevice name = false ∧ cause = .unknownName name :=
  absent_of_existing h ((discard_existing_error_iff name).1 he) hcause

-- The check and the network ask in one order: for both ends, whether they differ, for a link.
theorem connect_of_violation (h : session.network.skeleton.Coherent) {a b : String} {cable : Cable}
    (hcheck : (connect a b cable).check session.network = .error e)
    (hcause : e.refusal? = some cause) :
    (connect a b cable).execute session = session.refused cause := by
  refine Session.change_eq_refused ?_ _
  rw [check, existing_bind_error_iff] at hcheck
  obtain hleft | ⟨x, hx, hcheck⟩ := hcheck
  · obtain ⟨habsent, rfl⟩ := absent_of_existing h hleft hcause
    exact Network.addLink_of_absent_left habsent b cable
  have ha := (Network.hasDevice_iff_device h a).2 ⟨x, hx⟩
  rw [existing_bind_error_iff] at hcheck
  obtain hright | ⟨y, hy, hcheck⟩ := hcheck
  · obtain ⟨habsent, rfl⟩ := absent_of_existing h hright hcause
    exact Network.addLink_of_absent_right ha habsent cable
  rw [bind_unit_error_iff, demand_error_iff, demand_ok_iff, demand_error_iff] at hcheck
  obtain ⟨hsame, rfl⟩ | ⟨hne, hconnected, rfl⟩ := hcheck
  · cases hcause
    obtain rfl : a = b := by simpa using hsame
    exact Network.addLink_self ha cable
  · cases hcause
    exact Network.addLink_of_connected h (by simpa using hne) (by simpa using hconnected) cable

theorem setInterface_of_violation (h : session.network.skeleton.Coherent)
    {device interface : String} {address mask : Address}
    (hcheck : (setInterface device interface address mask).check session.network = .error e)
    (hcause : e.refusal? = some cause)
    (honce : ∀ other otherInterface,
      ¬ (setInterface device interface address mask).RefusedTwice session.network address other
        otherInterface) :
    (setInterface device interface address mask).execute session = session.refused cause := by
  refine Session.change_eq_refused ?_ _
  rw [check, existing_bind_error_iff] at hcheck
  obtain herror | ⟨d, hd, hcheck⟩ := hcheck
  · obtain ⟨habsent, rfl⟩ := absent_of_existing h herror hcause
    have hfree : session.network.holder? address = none :=
      (Network.holder?_eq_none_iff h address).2 fun other otherInterface hholds =>
        honce other otherInterface ⟨device, interface, mask, rfl, habsent, hholds⟩
    exact Network.setInterface_of_absent habsent (by simp [Network.otherHolder?, hfree]) mask
  · rw [bind_unit_error_iff, demand_error_iff, demand_ok_iff] at hcheck
    obtain ⟨_, rfl⟩ | ⟨_, htaken⟩ := hcheck
    · cases hcause
    · obtain ⟨other, otherInterface, hother, rfl⟩ := checkAddressFree_error htaken
      cases hcause
      exact Network.setInterface_of_taken hother mask

theorem route_of_violation (h : session.network.skeleton.Coherent) {device : String}
    {statement : Routing.Statement}
    (hcheck : (route device statement).check session.network = .error e)
    (hcause : e.refusal? = some cause) :
    (route device statement).execute session = session.refused cause := by
  refine Session.change_eq_refused ?_ _
  rw [check, existing_bind_error_iff] at hcheck
  obtain herror | ⟨d, hd, hcheck⟩ := hcheck
  · obtain ⟨habsent, rfl⟩ := absent_of_existing h herror hcause
    exact Network.edit_of_absent habsent _
  · rw [bind_unit_error_iff, bind_unit_error_iff, demand_error_iff, demand_error_iff] at hcheck
    obtain ⟨_, rfl⟩ | ⟨_, hprocess | ⟨_, hpresent, rfl⟩⟩ := hcheck
    · cases hcause
    · cases hcause.symm.trans (refusal?_of_checkProcess hprocess)
    · cases hcause
      exact Network.addStatement_of_present hd (by simpa using hpresent)

theorem filter_of_violation (h : session.network.skeleton.Coherent) {device : String}
    {number : UInt32} {action : AccessList.Action} {entry : AccessList.Entry}
    (hcheck : (filter device number action entry).check session.network = .error e)
    (hcause : e.refusal? = some cause) :
    (filter device number action entry).execute session = session.refused cause := by
  refine Session.change_eq_refused ?_ _
  rw [check, existing_bind_error_iff] at hcheck
  obtain herror | ⟨d, _, hcheck⟩ := hcheck
  · obtain ⟨habsent, rfl⟩ := absent_of_existing h herror hcause
    exact Network.edit_of_absent habsent _
  · rw [bind_unit_error_iff, demand_error_iff, demand_error_iff] at hcheck
    obtain ⟨_, rfl⟩ | ⟨_, _, rfl⟩ := hcheck <;> cases hcause

theorem execute_of_violation (h : session.network.skeleton.Coherent) {command : Command}
    (hcheck : command.check session.network = .error e) (hcause : e.refusal? = some cause)
    (honce : ∀ address other otherInterface,
      ¬ command.RefusedTwice session.network address other otherInterface) :
    command.execute session = session.refused cause := by
  cases command with
  | addDevice kind name =>
    rw [check, demand_error_iff] at hcheck
    obtain ⟨htaken, rfl⟩ := hcheck
    cases hcause
    exact Session.change_eq_refused (Network.addDevice_of_taken (by simpa using htaken) kind) _
  | connect => exact connect_of_violation h hcheck hcause
  | setInterface _ _ address => exact setInterface_of_violation h hcheck hcause (honce address)
  | route => exact route_of_violation h hcheck hcause
  | filter => exact filter_of_violation h hcheck hcause
  | setHostname device hostname =>
    obtain ⟨habsent, rfl⟩ := absent_of_discard h hcheck hcause
    exact Session.change_eq_refused (Network.edit_of_absent habsent _) _
  | showInterfaces device | showRouting device | showAccess device | showCli device =>
    obtain ⟨habsent, rfl⟩ := absent_of_discard h hcheck hcause
    exact Session.inspect_of_absent habsent _
  | save device =>
    obtain ⟨habsent, rfl⟩ := absent_of_discard h hcheck hcause
    exact Session.save_of_absent habsent
  | showTopology | showHistory | clearCli | clearAll | help => cases hcheck

theorem execute_of_refusedTwice (h : session.network.skeleton.Coherent)
    (hexclusive : session.network.Exclusive) {command : Command} {address : Address}
    {other otherInterface : String}
    (htwice : command.RefusedTwice session.network address other otherInterface) :
    command.execute session = session.refused (.addressTaken address other otherInterface) := by
  obtain ⟨device, interface, mask, rfl, habsent, hholds⟩ := htwice
  have hne : other ≠ device := by
    rintro rfl
    obtain ⟨d, _, hd, _⟩ := hholds
    cases (Network.device_of_absent habsent).symm.trans hd
  have hholder := (Network.holder?_eq_some_iff h hexclusive other otherInterface address).2 hholds
  have hother : session.network.otherHolder? device interface address =
      some (other, otherInterface) := by
    simp [Network.otherHolder?, hholder, hne]
  exact Session.change_eq_refused (Network.setInterface_of_taken hother mask) _

end Command

/-- A command that is carried out although the network no longer admits it, for a reason that the
network knows itself: the network refuses it for this reason, and nothing is changed. Where there
are two reasons, the network gives the other one. -/
theorem violation_refused {net : Network} (h : net.Reachable) {σ : Type} [ConfigStore σ] (store : σ)
    {command : Command} {e : ConstraintError} (hcheck : command.check net = .error e)
    {cause : NetworkError} (hcause : e.refusal? = some cause) (raw : String) :
    let session : Session σ := ⟨net, store⟩
    let outcome := Handler.standard command.kind ⟨raw, command⟩ session
    ((∀ address other otherInterface, ¬ command.RefusedTwice net address other otherInterface) →
      outcome = session.refused cause) ∧
    ∀ address other otherInterface, command.RefusedTwice net address other otherInterface →
      outcome = session.refused (.addressTaken address other otherInterface) := by
  intro session outcome
  have houtcome : outcome = command.execute session := Handler.standard_of_kind raw command session
  rw [houtcome]
  have hexclusive : net.Exclusive := by
    obtain ⟨operations, rfl⟩ := h.exists_run
    exact Network.exclusive_run operations
  constructor
  · intro honce
    exact Command.execute_of_violation h.coherent hcheck hcause honce
  · intro address other otherInterface htwice
    exact Command.execute_of_refusedTwice h.coherent hexclusive htwice

/-- A connection of a device with itself, and an address in use for a device that does not exist. -/
theorem violation_refused_router :
    let address := Address.ofOctets 10 0 0 1
    let mask := Address.ofOctets 255 255 255 0
    let net := Network.run
      [.addDevice "r1" .router, .setInterface "r1" "g0/0" address mask] .empty
    let session := Session.mk net ({} : MemoryStore)
    let loop := Command.connect "r1" "r1" .serial
    let astray := Command.setInterface "r9" "g0/1" address mask
    net.Reachable ∧
      loop.check net = .error (.selfConnection "r1") ∧
      Handler.standard .connect ⟨"connect r1 r1 serial", loop⟩ session =
        session.refused (.selfConnection "r1") ∧
      astray.check net = .error (.unknownDevice "r9") ∧
      Handler.standard .setInterface ⟨"set interface r9 g0/1", astray⟩ session =
        session.refused (.addressTaken address "r1" "g0/0") := by
  intro address mask net session loop astray
  have hnet : net.Reachable := .operation (.operation .empty _) _
  have hloop : loop.check net = .error (.selfConnection "r1") := by decide +kernel
  have hastray : astray.check net = .error (.unknownDevice "r9") := by decide +kernel
  have honce : ∀ address other otherInterface,
      ¬ loop.RefusedTwice net address other otherInterface := by
    rintro _ _ _ ⟨_, _, _, hsame, _⟩
    exact absurd hsame Command.noConfusion
  have htwice : astray.RefusedTwice net address "r1" "g0/0" :=
    ⟨"r9", "g0/1", mask, rfl, by decide +kernel,
      Network.holds_of_holder? hnet.coherent (by decide +kernel)⟩
  exact ⟨hnet, hloop, (violation_refused hnet session.store hloop rfl _).1 honce,
    hastray, (violation_refused hnet session.store hastray rfl _).2 _ _ _ htwice⟩

end NetworkConsole
