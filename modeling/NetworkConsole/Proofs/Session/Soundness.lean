import NetworkConsole.Proofs.Command.Admission
import NetworkConsole.Proofs.Command.Building
import NetworkConsole.Proofs.Network.Connections
import NetworkConsole.Proofs.Session.Reachable

/-! The checks of a line are sound for its execution: a command that the network admits succeeds on
it, unless it is a save and the store refuses. So the console never contradicts itself. -/
namespace NetworkConsole

namespace Network
variable {net : Network}

theorem addDevice_of_free {name : String} (h : net.hasDevice name = false) (kind : DeviceKind) :
    ∃ id, (addDevice name kind net).1 = .ok id := by
  obtain ⟨id, hname, _⟩ | ⟨_, hok⟩ := addDevice_cases name kind net
  · have htaken := (hasDevice_iff net name).2 ⟨id, hname⟩
    rw [h] at htaken
    cases htaken
  · exact ⟨_, by rw [hok]⟩

theorem edit_of_device {α : Type} {name : String} {step : Device → Except NetworkError (Edit α)}
    {d : Device} (hd : net.device name = .ok d) (hstep : ∃ result, step d = .ok result) :
    ∃ a, (edit name step net).1 = .ok a := by
  obtain ⟨id, hname, hdevice⟩ := (device_ok_iff net name d).1 hd
  obtain ⟨result, hresult⟩ := hstep
  exact ⟨result.answer, by rw [edit_ok hname hdevice hresult]⟩

theorem setInterface_of_free {name interface : String} {d : Device} {address : Address}
    (hd : net.device name = .ok d) (hfree : net.otherHolder? name interface address = none)
    (mask : Address) : ∃ lines, (setInterface name interface address mask net).1 = .ok lines := by
  simp only [setInterface, hfree]
  exact edit_of_device hd ⟨_, rfl⟩

theorem addStatement_of_new {name : String} {d : Device} {statement : Routing.Statement}
    (hd : net.device name = .ok d) (hnew : d.routing.contains statement = false) :
    ∃ lines, (addStatement name statement net).1 = .ok lines := by
  have hadd : d.routing.add? statement = some ⟨d.routing.statements ++ [statement]⟩ := by
    simp [Routing.Config.add?, hnew]
  refine edit_of_device hd ?_
  simp only [hadd]
  exact ⟨_, rfl⟩

end Network

/-- The store refuses the configuration of the device. -/
def Session.Refuses {σ : Type} [ConfigStore σ] (session : Session σ) (name : String)
    (e : StoreError) : Prop :=
  ∃ d, session.network.device name = .ok d ∧
    (ConfigStore.save session.store name d.cliReport).1 = .error e

namespace Session
variable {σ : Type}

theorem change_ok {α : Type} {session : Session σ} {step : Network.Change α}
    (h : ∃ a, (step session.network).1 = .ok a) (answer : α → Answer) :
    ∃ shown, (session.change step answer).1 = .ok shown := by
  obtain ⟨a, ha⟩ := h
  rw [change]
  split <;> simp_all

theorem inspect_ok {session : Session σ} {name : String} {d : Device}
    (h : session.network.device name = .ok d) (report : Device → List String) :
    (session.inspect name report).1 = .ok (.shown (report d)) := by
  rw [inspect, h]

theorem save_of_device [ConfigStore σ] {session : Session σ} {name : String} {d : Device}
    (h : session.network.device name = .ok d) :
    (∃ answer, (session.save name).1 = .ok answer) ∨
      ∃ e, session.Refuses name e ∧ (session.save name).1 = .error (.store e) := by
  rw [save, h]
  simp only
  split
  · next e store hsave => exact .inr ⟨e, ⟨d, h, by rw [hsave]⟩, rfl⟩
  · exact .inl ⟨_, rfl⟩

end Session

namespace Command
variable {σ : Type} [ConfigStore σ]

-- Only the link needs coherence: the check compares names, the network compares ids.
theorem execute_of_admitted {session : Session σ} (h : session.network.skeleton.Coherent)
    {command : Command} (hadmitted : command.Admitted session.network) :
    (∃ answer, (command.execute session).1 = .ok answer) ∨
      ∃ device e, command = .save device ∧ session.Refuses device e ∧
        (command.execute session).1 = .error (.store e) := by
  cases command with
  | addDevice kind name =>
    exact .inl (Session.change_ok (Network.addDevice_of_free hadmitted kind) _)
  | connect a b cable =>
    obtain ⟨ha, hb, hab, hcable⟩ := hadmitted
    have hok := (Network.addLink_ok_iff h a b cable).2
      ⟨hab, (Network.hasDevice_iff_device h a).2 ha, (Network.hasDevice_iff_device h b).2 hb, hcable⟩
    exact .inl (Session.change_ok ⟨(), hok⟩ _)
  | setInterface device interface address mask =>
    obtain ⟨⟨d, hd⟩, _, hfree⟩ := hadmitted
    exact .inl (Session.change_ok (Network.setInterface_of_free hd hfree mask) _)
  | setHostname device hostname =>
    obtain ⟨d, hd⟩ := hadmitted
    exact .inl (Session.change_ok (Network.edit_of_device hd ⟨_, rfl⟩) _)
  | route device statement =>
    obtain ⟨d, hd, _, _, hnew⟩ := hadmitted
    exact .inl (Session.change_ok (Network.addStatement_of_new hd hnew) _)
  | filter device number action entry =>
    obtain ⟨d, hd, _, _⟩ := hadmitted
    exact .inl (Session.change_ok (Network.edit_of_device hd ⟨_, rfl⟩) _)
  | showInterfaces | showRouting | showAccess | showCli =>
    obtain ⟨d, hd⟩ := hadmitted
    exact .inl ⟨_, Session.inspect_ok hd _⟩
  | save device =>
    obtain ⟨d, hd⟩ := hadmitted
    obtain hok | ⟨e, hrefuses, he⟩ := Session.save_of_device hd
    · exact .inl hok
    · exact .inr ⟨device, e, rfl, hrefuses, he⟩
  | showTopology | showHistory | clearCli | clearAll | help => exact .inl ⟨_, rfl⟩

end Command

theorem Handler.standard_of_kind {σ : Type} [ConfigStore σ] (raw : String) (command : Command)
    (session : Session σ) :
    Handler.standard command.kind ⟨raw, command⟩ session = command.execute session :=
  standard_of_eq (show Instruction.kind ⟨raw, command⟩ = command.kind from rfl) session

/-- The standard handler of an admitted command succeeds, or the store refuses. -/
theorem Handler.standard_of_check {σ : Type} [ConfigStore σ] {session : Session σ}
    (h : session.network.skeleton.Coherent) (raw : String) {command : Command}
    (hcheck : command.check session.network = .ok ()) :
    (∃ answer, (Handler.standard command.kind ⟨raw, command⟩ session).1 = .ok answer) ∨
      ∃ device e, command = .save device ∧ session.Refuses device e ∧
        (Handler.standard command.kind ⟨raw, command⟩ session).1 = .error (.store e) := by
  rw [standard_of_kind]
  exact Command.execute_of_admitted h ((Command.check_ok_iff _ command).1 hcheck)

/-- The arguments of a token always make a command, every kind has its handler, and this handler
fails for an admitted command only with the store. -/
theorem Session.submit_not_internal {σ : Type} [ConfigStore σ] {session : Session σ}
    (h : session.network.skeleton.Coherent) {line : String} {e : LineError}
    (he : (session.submit Dispatch.standard line).outcome = .error e)
    (contradiction : InternalError) : e.cause ≠ .internal contradiction := by
  have hcourse := session.submit_course Dispatch.standard line
  generalize session.submit Dispatch.standard line = turn at hcourse he
  cases hcourse with
  | unrecognized | refused =>
    cases he
    exact Cause.noConfusion
  | mistyped _ hcommand =>
    cases he
    obtain ⟨_, herror⟩ | ⟨_, hok, _⟩ := Token.command_cases _
    · cases hcommand.symm.trans herror
      exact Cause.noConfusion
    · cases hcommand.symm.trans hok
  | unserved _ _ _ hhandler => cases hhandler
  | @failed token command handler cause after _ _ hcheck hhandler hresult =>
    cases he
    cases hhandler
    obtain ⟨_, hok⟩ | ⟨_, _, _, _, hstore⟩ := Handler.standard_of_check h token.raw hcheck
    · rw [hresult] at hok
      cases hok
    · rw [hresult] at hstore
      cases hstore
      exact Cause.noConfusion
  | done => cases he

/-- No line makes the console contradict itself, whatever the store does. Whenever the arguments of
a token make a command that the network admits, the handler of its kind succeeds; only a save can
fail, with the refusal of the store. -/
theorem validation_sound {net : Network} (h : net.Reachable) {σ : Type} [ConfigStore σ] (store : σ) :
    let session : Session σ := ⟨net, store⟩
    (∀ line e, (session.submit Dispatch.standard line).outcome = .error e →
      ∀ contradiction, e.cause ≠ .internal contradiction) ∧
    ∀ (token : Token) command, token.command = .ok command → command.check net = .ok () →
      ∃ handler, Dispatch.standard.find command.kind = .ok handler ∧
        ((∃ answer, (handler ⟨token.raw, command⟩ session).1 = .ok answer) ∨
          ∃ device e, command = .save device ∧ session.Refuses device e ∧
            (handler ⟨token.raw, command⟩ session).1 = .error (.store e)) := by
  intro session
  constructor
  · intro line e he
    exact Session.submit_not_internal h.coherent he
  · intro token command _ hcheck
    exact ⟨Handler.standard command.kind, rfl, Handler.standard_of_check h.coherent _ hcheck⟩

/-- Two devices and a store that refuses: the link is admitted and made, the save fails. -/
theorem validation_sound_pair :
    let net := (Network.Operation.addDevice "r2" .router).step
      ((Network.Operation.addDevice "r1" .router).step .empty)
    let session := Session.mk net (RefusingStore.mk "full")
    let token : Token := ⟨.connect, ["r1", "r2", "serial"], "connect r1 r2 serial"⟩
    let command := Command.connect "r1" "r2" .serial
    net.Reachable ∧
      (session.submit Dispatch.standard "save r1").failed = true ∧
      (∀ e, (session.submit Dispatch.standard "save r1").outcome = .error e →
        ∀ contradiction, e.cause ≠ .internal contradiction) ∧
      token.command = .ok command ∧ command.check net = .ok () ∧
      ∃ handler answer, Dispatch.standard.find .connect = .ok handler ∧
        (handler ⟨token.raw, command⟩ session).1 = .ok answer := by
  intro net session token command
  have hnet : net.Reachable := .operation (.operation .empty _) _
  have hcommand : token.command = .ok command := by decide +kernel
  have hcheck : command.check net = .ok () := by decide +kernel
  obtain ⟨hlines, hcommands⟩ := validation_sound hnet session.store
  refine ⟨hnet, by decide +kernel, hlines "save r1", hcommand, hcheck, ?_⟩
  obtain ⟨handler, hfind, ⟨answer, hok⟩ | ⟨_, _, hsave, _⟩⟩ := hcommands token command hcommand hcheck
  · exact ⟨handler, answer, hfind, hok⟩
  · exact absurd hsave Command.noConfusion

end NetworkConsole
