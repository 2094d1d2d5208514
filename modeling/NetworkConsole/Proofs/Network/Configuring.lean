import NetworkConsole.Proofs.Network.Growth
import NetworkConsole.Proofs.Network.Refusal

/-! The configuring operations with their answers. Each finds its device, or a reason to refuse, and
then changes one aspect of this device and logs the lines that it answers with. -/
namespace NetworkConsole

/-- What a configuring operation answers: the generated lines, or the rule that it appended. -/
inductive Reply where
  | generated (lines : List String)
  | appended (rule : AccessList.Rule)
  deriving DecidableEq

/-- The lines that the user is shown. -/
def Reply.output : Reply → List String
  | .generated lines => lines
  | .appended rule => [rule.line]

def Network.Change.map {α β : Type} (f : α → β) (step : Network.Change α) : Network.Change β :=
  fun net => ((step net).1.map f, (step net).2)

namespace Setting

/-- The operation that makes the setting on a device. -/
def change (setting : Setting) (device : String) : Network.Change Reply :=
  match setting with
  | .interface name address mask =>
    Network.Change.map .generated (Network.setInterface device name address mask)
  | .hostname given => Network.Change.map .generated (Network.setHostname device given)
  | .statement added => Network.Change.map .generated (Network.addStatement device added)
  | .rule number action entry =>
    Network.Change.map .appended (Network.addRule device number action entry)

def operation (setting : Setting) (device : String) : Network.Operation :=
  match setting with
  | .interface name address mask => .setInterface device name address mask
  | .hostname given => .setHostname device given
  | .statement added => .addStatement device added
  | .rule number action entry => .addRule device number action entry

theorem setting?_operation (setting : Setting) (device : String) :
    (setting.operation device).setting? = some (device, setting) := by
  cases setting <;> rfl

theorem step_operation (setting : Setting) (device : String) (net : Network) :
    (setting.operation device).step net = (setting.change device net).2 := by
  cases setting <;> rfl

/-- What the setting answers on a device. -/
def reply (setting : Setting) (d : Device) : Reply :=
  match setting with
  | .rule number action entry => .appended (d.nextRule number action entry)
  | .interface .. | .hostname _ | .statement _ => .generated (d.linesFor setting)

theorem output_reply (setting : Setting) (d : Device) :
    (setting.reply d).output = d.linesFor setting := by
  cases setting <;> rfl

/-- The device that the setting is made on, with its id, or why it is refused. -/
def target (setting : Setting) (device : String) (net : Network) :
    Except NetworkError (DeviceId × Device) :=
  match setting with
  | .interface name address _ =>
    match net.otherHolder? device name address with
    | some holder => .error (.addressTaken address holder.1 holder.2)
    | none => net.entry device
  | .statement added =>
    match net.entry device with
    | .error e => .error e
    | .ok (id, d) =>
      if d.routing.contains added then .error (.statementPresent device added) else .ok (id, d)
  | .hostname _ | .rule .. => net.entry device

theorem entry_of_target {setting : Setting} {device : String} {net : Network} {id : DeviceId}
    {d : Device} (h : setting.target device net = .ok (id, d)) : net.entry device = .ok (id, d) := by
  cases setting with
  | interface name address mask =>
    simp only [target] at h
    split at h
    · cases h
    · exact h
  | statement added =>
    simp only [target] at h
    cases hentry : net.entry device with
    | error e => simp [hentry] at h
    | ok found =>
      simp only [hentry] at h
      split at h
      · cases h
      · exact h
  | hostname | rule => exact h

theorem map_edit {α β : Type} (f : α → β) (device : String)
    (step : Device → Except NetworkError (Network.Edit α)) (net : Network) :
    Network.Change.map f (Network.edit device step) net =
      match net.entry device with
      | .error e => (.error e, net)
      | .ok (id, d) =>
        match step d with
        | .error e => (.error e, net)
        | .ok result => (.ok (f result.answer), net.record device id result.device result.lines) := by
  cases hentry : net.entry device with
  | error e =>
    simp only [Network.Change.map, Network.edit, hentry]
    rfl
  | ok found =>
    have hname := ((Network.entry_ok_iff net device _ _).1 hentry).1
    cases hstep : step found.2 with
    | error e =>
      simp only [Network.Change.map, Network.edit, hentry, hstep]
      rfl
    | ok result =>
      simp only [Network.Change.map, Network.edit, hentry, hstep, Network.log_put hname]
      rfl

/-- What a setting does is settled by its target. -/
theorem change_eq (setting : Setting) (device : String) (net : Network) :
    setting.change device net =
      match setting.target device net with
      | .error e => (.error e, net)
      | .ok (id, d) =>
        (.ok (setting.reply d), net.record device id (d.put setting) (d.linesFor setting)) := by
  cases setting with
  | interface name address mask =>
    simp only [target]
    -- The holder of the address is looked for before the device.
    cases hother : net.otherHolder? device name address with
    | some holder =>
      simp only [change, Network.Change.map, Network.setInterface, hother]
      rfl
    | none =>
      simp only [change, Network.Change.map, Network.setInterface, hother]
      refine (map_edit Reply.generated device _ net).trans ?_
      cases net.entry device <;> rfl
  | hostname given =>
    simp only [change, Network.setHostname, map_edit, target]
    cases net.entry device <;> rfl
  | statement added =>
    simp only [change, Network.addStatement, map_edit, target]
    cases net.entry device with
    | error e => rfl
    | ok found =>
      by_cases hpresent : found.2.routing.contains added = true
      · simp only [Routing.Config.add?, hpresent, if_true]
      · simp only [Routing.Config.add?, hpresent]
        rfl
  | rule number action entry =>
    simp only [change, Network.addRule, map_edit, target]
    cases net.entry device <;> rfl

end Setting

/-- What a device has besides its identity and its log. -/
inductive Aspect where
  | interfaces
  | hostname
  | statements (protocol : Routing.Protocol)
  | rules
  deriving DecidableEq

/-- The aspect that the setting is about. -/
def Setting.aspect : Setting → Aspect
  | .interface .. => .interfaces
  | .hostname _ => .hostname
  | .statement added => .statements added.protocol
  | .rule .. => .rules

namespace Device

/-- The devices are the same, except perhaps in the aspect and in their logs. -/
structure SameBut (aspect : Aspect) (before after : Device) : Prop where
  identity : after.identity = before.identity
  interfaces : aspect ≠ .interfaces → after.interfaces = before.interfaces
  hostname : aspect ≠ .hostname → after.givenHostname = before.givenHostname
  statements : ∀ protocol, aspect ≠ .statements protocol →
    after.routing.ofProtocol protocol = before.routing.ofProtocol protocol
  rules : aspect ≠ .rules → after.rules = before.rules

theorem identity_put (d : Device) (setting : Setting) : (d.put setting).identity = d.identity := by
  cases setting <;> rfl

theorem cli_put (d : Device) (setting : Setting) : (d.put setting).cli = d.cli := by
  cases setting <;> rfl

theorem sameBut_configure (d : Device) (setting : Setting) :
    d.SameBut setting.aspect (d.configure setting) where
  identity := d.identity_put setting
  interfaces h := by
    cases setting with
    | interface => exact absurd rfl h
    | _ => rfl
  hostname h := by
    cases setting with
    | hostname => exact absurd rfl h
    | _ => rfl
  statements protocol h := by
    cases setting with
    | statement added =>
      have hother : added.protocol ≠ protocol := fun hsame => h (congrArg Aspect.statements hsame)
      simp [configure, put, Routing.Config.ofProtocol, hother]
    | _ => rfl
  rules h := by
    cases setting with
    | rule => exact absurd rfl h
    | _ => rfl

end Device

namespace Network
variable {net : Network}

/-- From the one network to the other nothing changes but one aspect of one device. The given lines
are logged on this device and, under its name, in the history. -/
structure Frame (device : String) (aspect : Aspect) (lines : List String)
    (before after : Network) : Prop where
  configured : ∃ d d', before.device device = .ok d ∧ after.device device = .ok d' ∧
    d.SameBut aspect d' ∧ d'.cli = d.cli ++ lines
  others : ∀ other, other ≠ device → after.device other = before.device other
  names : after.names = before.names
  identities : after.deviceList.map Device.identity = before.deviceList.map Device.identity
  topology : after.topology = before.topology
  connections : after.connections = before.connections
  history : after.history = before.history ++ lines.map (⟨device, ·⟩)

/-- The connections are read off the skeleton. -/
theorem connections_of_skeleton {after : Network} (h : net.skeleton.Coherent)
    (hsame : after.skeleton = net.skeleton) : after.connections = net.connections := by
  have hnames : after.names = net.names := congrArg Skeleton.names hsame
  have htopology : after.topology = net.topology := congrArg Skeleton.topology hsame
  rw [connections, connections, htopology]
  refine List.filterMap_congr fun link _ => Option.ext fun c => ?_
  rw [connectionOf?_eq_some_iff (hsame ▸ h), connectionOf?_eq_some_iff h, hnames]

theorem frame_change (h : net.skeleton.Coherent) {setting : Setting} {device : String}
    {reply : Reply} {after : Network} (hok : setting.change device net = (.ok reply, after)) :
    net.Frame device setting.aspect reply.output after := by
  rw [Setting.change_eq] at hok
  cases htarget : setting.target device net with
  | error e =>
    rw [htarget] at hok
    cases hok
  | ok found =>
    obtain ⟨id, d⟩ := found
    obtain ⟨hname, hdevice⟩ := (entry_ok_iff net device id d).1 (Setting.entry_of_target htarget)
    rw [htarget] at hok
    cases hok
    have hskeleton := skeleton_record hdevice (d.identity_put setting) device (d.linesFor setting)
    rw [Setting.output_reply]
    refine
      { configured := ⟨d, d.configure setting, ?_, ?_, d.sameBut_configure setting, rfl⟩
        others := fun other hother => ?_
        names := rfl
        identities := ?_
        topology := rfl
        connections := connections_of_skeleton h hskeleton
        history := rfl }
    · exact (device_ok_iff net device d).2 ⟨id, hname, hdevice⟩
    · rw [device_record h hname, if_pos rfl, d.cli_put]
      rfl
    · rw [device_record h hname, if_neg hother]
    · rw [map_identity_deviceList, map_identity_deviceList, hskeleton]

/-- Nothing is logged from the one network to the other; a device that is new has an empty log. -/
structure SameLogs (before after : Network) : Prop where
  kept : Carries (fun d d' => d'.cli = d.cli) before after
  new : ∀ name d, after.device name = .ok d → before.hasDevice name = false → d.cli = []
  history : after.history = before.history

theorem sameLogs_addDevice (h : net.skeleton.Coherent) (name : String) (kind : DeviceKind) :
    net.SameLogs (addDevice name kind net).2 where
  kept other d hd := by
    obtain ⟨_, hsame⟩ | ⟨⟨rfl, hfree⟩, _⟩ := device_addDevice h name kind other
    · exact ⟨d, hsame.trans hd, rfl⟩
    · cases hfree.symm.trans ((hasDevice_iff_device h other).2 ⟨d, hd⟩)
  new other d hd hfree := by
    obtain ⟨_, hsame⟩ | ⟨_, hnew⟩ := device_addDevice h name kind other
    · have hold := (hasDevice_iff_device h other).2 ⟨d, hsame.symm.trans hd⟩
      cases hfree.symm.trans hold
    · obtain rfl := Except.ok.inj (hnew.symm.trans hd)
      rfl
  history := by
    obtain ⟨_, _, hadd⟩ | ⟨_, hadd⟩ := addDevice_cases name kind net <;> rw [hadd]

theorem sameLogs_addLink (h : net.skeleton.Coherent) (a b : String) (cable : Cable) :
    net.SameLogs (addLink a b cable net).2 where
  kept name d hd := ⟨d, (device_addLink a b cable net name).trans hd, rfl⟩
  new name d hd hfree := by
    have hold := (hasDevice_iff_device h name).2
      ⟨d, (device_addLink a b cable net name).symm.trans hd⟩
    cases hfree.symm.trans hold
  history := by
    obtain ⟨_, hadd⟩ | ⟨_, _, _, _, _, _, hadd⟩ := addLink_cases a b cable net <;> rw [hadd]

end Network
end NetworkConsole
