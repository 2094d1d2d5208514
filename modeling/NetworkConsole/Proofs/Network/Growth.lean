import NetworkConsole.Proofs.Network.Roster
import NetworkConsole.Proofs.Network.Setting

/-! How a network grows. Whatever is listed in it keeps its place: operations append devices,
connections, interfaces, statements and rules, and no operation but clearing the whole network takes
one away. Generated lines are kept until the logs are cleared. -/
namespace NetworkConsole

/-- The lists of the device are continued. An interface keeps its place when it gets another address. -/
structure Device.Extends (before after : Device) : Prop where
  identity : after.identity = before.identity
  interfaces : before.interfaces.keys <+: after.interfaces.keys
  statements : ∀ protocol,
    before.routing.ofProtocol protocol <+: after.routing.ofProtocol protocol
  rules : before.rules <+: after.rules

namespace Device

theorem Extends.refl (d : Device) : d.Extends d :=
  ⟨rfl, List.prefix_refl _, fun _ => List.prefix_refl _, List.prefix_refl _⟩

theorem Extends.trans {first second third : Device} (h : first.Extends second)
    (h' : second.Extends third) : first.Extends third where
  identity := h'.identity.trans h.identity
  interfaces := h.interfaces.trans h'.interfaces
  statements protocol := (h.statements protocol).trans (h'.statements protocol)
  rules := h.rules.trans h'.rules

theorem extends_configure (d : Device) (setting : Setting) : d.Extends (d.configure setting) := by
  cases setting with
  | interface name address mask =>
    refine ⟨rfl, ?_, fun _ => List.prefix_refl _, List.prefix_refl _⟩
    simp only [configure, put, KeyedTable.keys_insert]
    split
    · exact List.prefix_refl _
    · exact List.prefix_append _ _
  | hostname given => exact ⟨rfl, List.prefix_refl _, fun _ => List.prefix_refl _, List.prefix_refl _⟩
  | statement added =>
    refine ⟨rfl, List.prefix_refl _, fun protocol => ?_, List.prefix_refl _⟩
    exact (List.prefix_append _ _).filter _
  | rule number action entry =>
    exact ⟨rfl, List.prefix_refl _, fun _ => List.prefix_refl _, List.prefix_append _ _⟩

theorem extends_forget (d : Device) : d.Extends d.forget :=
  ⟨rfl, List.prefix_refl _, fun _ => List.prefix_refl _, List.prefix_refl _⟩

end Device

/-- Names keep their ids, and members and links are continued. -/
structure Skeleton.Extends (before after : Skeleton) : Prop where
  names : ∀ name id, before.names.get? name = some id → after.names.get? name = some id
  members : before.members <+: after.members
  links : before.topology.links <+: after.topology.links

namespace Network
variable {net : Network}

theorem skeleton_extends_step {operation : Operation} (hkept : operation ≠ .clear) (net : Network) :
    net.skeleton.Extends (operation.step net).skeleton := by
  obtain ⟨_, _, hs⟩ | ⟨name, kind, _, hfree, hs⟩ | ⟨_, _, cable, i, j, _, _, _, _, _, hs⟩ |
    ⟨hclear, _⟩ := skeleton_step_cases operation net
  · rw [hs]
    exact ⟨fun _ _ h => h, List.prefix_refl _, List.prefix_refl _⟩
  · rw [hs]
    refine ⟨fun other id hother => ?_, ?_, List.prefix_refl _⟩
    · have hne : other ≠ name := by
        rintro rfl
        cases hfree.symm.trans hother
      simpa [Skeleton.addDevice, hne] using hother
    · rw [Skeleton.members_addDevice]
      exact List.prefix_append _ _
  · rw [hs]
    exact ⟨fun _ _ h => h, List.prefix_refl _, List.prefix_append _ _⟩
  · exact absurd hclear hkept

/-- Connections are found by the names at the ends of their links, and names keep their ids. -/
theorem connections_prefix {after : Network} (h : net.skeleton.Coherent)
    (hafter : after.skeleton.Coherent) (hextends : net.skeleton.Extends after.skeleton) :
    net.connections <+: after.connections := by
  obtain ⟨more, hmore⟩ := hextends.links
  have hold : net.topology.links.filterMap after.connectionOf? = net.connections := by
    refine List.filterMap_congr fun link hlink => ?_
    obtain ⟨c, hc⟩ := exists_connectionOf? h hlink
    obtain ⟨hleft, hright, hcable⟩ := (connectionOf?_eq_some_iff h link c).1 hc
    rw [hc]
    exact (connectionOf?_eq_some_iff hafter link c).2
      ⟨hextends.names _ _ hleft, hextends.names _ _ hright, hcable⟩
  refine ⟨more.filterMap after.connectionOf?, ?_⟩
  calc net.connections ++ more.filterMap after.connectionOf?
      = (net.topology.links ++ more).filterMap after.connectionOf? := by
        rw [List.filterMap_append, hold]
    _ = after.connections := congrArg (List.filterMap after.connectionOf?) hmore

/-- Each device of the one network is there in the other one, in the given relation. -/
def Carries (R : Device → Device → Prop) (before after : Network) : Prop :=
  ∀ name d, before.device name = .ok d → ∃ d', after.device name = .ok d' ∧ R d d'

theorem Carries.trans {R : Device → Device → Prop} {first second third : Network}
    (h : Carries R first second) (h' : Carries R second third)
    (hR : ∀ x y z, R x y → R y z → R x z) : Carries R first third := by
  intro name d hd
  obtain ⟨e, he, hde⟩ := h name d hd
  obtain ⟨f, hf, hef⟩ := h' name e he
  exact ⟨f, hf, hR d e f hde hef⟩

/-- A device is left, takes a setting or loses its log, as long as the network is not cleared. -/
theorem carries_step {R : Device → Device → Prop} (hrefl : ∀ d, R d d)
    (hconfigure : ∀ d setting, R d (Device.configure d setting)) {operation : Operation}
    (hkept : operation ≠ .clear) (hforget : operation = .clearCli → ∀ d, R d d.forget)
    (h : net.skeleton.Coherent) : Carries R net (operation.step net) := by
  intro name d hd
  cases hsetting : operation.setting? with
  | some target =>
    obtain ⟨device, setting⟩ := target
    obtain ⟨_, hsame⟩ | ⟨_, old, hold, hnew⟩ := device_setting h hsetting name
    · exact ⟨d, hsame.trans hd, hrefl d⟩
    · obtain rfl := Except.ok.inj (hd.symm.trans hold)
      exact ⟨d.configure setting, hnew, hconfigure d setting⟩
  | none =>
    cases operation with
    | addDevice added kind =>
      obtain ⟨_, hsame⟩ | ⟨⟨rfl, hfree⟩, _⟩ := device_addDevice h added kind name
      · exact ⟨d, hsame.trans hd, hrefl d⟩
      · cases hfree.symm.trans ((hasDevice_iff_device h name).2 ⟨d, hd⟩)
    | addLink a b cable => exact ⟨d, (device_addLink a b cable net name).trans hd, hrefl d⟩
    | clearCli =>
      exact ⟨d.forget, (device_clearCli_iff net name d.forget).2 ⟨d, hd, rfl⟩, hforget rfl d⟩
    | clear => exact absurd rfl hkept
    | setInterface | setHostname | addStatement | addRule => cases hsetting

theorem history_prefix_step {operation : Operation} (hclear : operation ≠ .clear)
    (hclearCli : operation ≠ .clearCli) (net : Network) :
    net.history <+: (operation.step net).history := by
  cases hsetting : operation.setting? with
  | some target =>
    obtain ⟨name, setting⟩ := target
    obtain ⟨_, hstep⟩ | ⟨id, d, _, _, _, hstep⟩ := setting_cases hsetting net
    · simp only [hstep, List.prefix_rfl]
    · rw [hstep]
      exact List.prefix_append _ _
  | none =>
    cases operation with
    | addDevice name kind =>
      obtain ⟨_, _, hadd⟩ | ⟨_, hadd⟩ := addDevice_cases name kind net <;>
        simp only [Operation.step, Operation.change, Change.forget, hadd, List.prefix_rfl]
    | addLink a b cable =>
      obtain ⟨_, hadd⟩ | ⟨_, _, _, _, _, _, hadd⟩ := addLink_cases a b cable net <;>
        simp only [Operation.step, Operation.change, hadd, List.prefix_rfl]
    | clearCli => exact absurd rfl hclearCli
    | clear => exact absurd rfl hclear
    | setInterface | setHostname | addStatement | addRule => cases hsetting

/-- What the network lists, the other one lists in the same order, and perhaps more after it. -/
structure Extends (before after : Network) : Prop where
  devices : before.deviceList.map Device.identity <+: after.deviceList.map Device.identity
  connections : before.connections <+: after.connections
  device : Carries Device.Extends before after

/-- The generated lines of the network are continued, for each device and as a whole. -/
structure ExtendsLogs (before after : Network) : Prop where
  device : Carries (fun d d' => d.cli <+: d'.cli) before after
  history : before.history <+: after.history

theorem Extends.refl (net : Network) : net.Extends net :=
  ⟨List.prefix_refl _, List.prefix_refl _, fun _ d hd => ⟨d, hd, .refl d⟩⟩

theorem Extends.trans {first second third : Network} (h : first.Extends second)
    (h' : second.Extends third) : first.Extends third :=
  ⟨h.devices.trans h'.devices, h.connections.trans h'.connections,
    h.device.trans h'.device fun _ _ _ => Device.Extends.trans⟩

theorem ExtendsLogs.refl (net : Network) : net.ExtendsLogs net :=
  ⟨fun _ d hd => ⟨d, hd, List.prefix_refl _⟩, List.prefix_refl _⟩

theorem ExtendsLogs.trans {first second third : Network} (h : first.ExtendsLogs second)
    (h' : second.ExtendsLogs third) : first.ExtendsLogs third :=
  ⟨h.device.trans h'.device fun _ _ _ => List.IsPrefix.trans, h.history.trans h'.history⟩

theorem extends_step {operation : Operation} (hkept : operation ≠ .clear)
    (h : net.skeleton.Coherent) : net.Extends (operation.step net) where
  devices := by
    rw [map_identity_deviceList, map_identity_deviceList]
    exact (skeleton_extends_step hkept net).members
  connections :=
    connections_prefix h (coherent_step operation net h) (skeleton_extends_step hkept net)
  device := carries_step Device.Extends.refl Device.extends_configure hkept
    (fun _ => Device.extends_forget) h

theorem extendsLogs_step {operation : Operation} (hclear : operation ≠ .clear)
    (hclearCli : operation ≠ .clearCli) (h : net.skeleton.Coherent) :
    net.ExtendsLogs (operation.step net) where
  device := carries_step (fun _ => List.prefix_refl _) (fun _ _ => List.prefix_append _ _) hclear
    (fun hcli => absurd hcli hclearCli) h
  history := history_prefix_step hclear hclearCli net

theorem extends_run {operations : List Operation} (hkept : Operation.clear ∉ operations)
    (h : net.skeleton.Coherent) : net.Extends (run operations net) := by
  induction operations generalizing net with
  | nil => exact .refl net
  | cons operation rest ih =>
    rw [List.mem_cons, not_or] at hkept
    exact (extends_step (Ne.symm hkept.1) h).trans (ih hkept.2 (coherent_step operation net h))

theorem extendsLogs_run {operations : List Operation} (hclear : Operation.clear ∉ operations)
    (hclearCli : Operation.clearCli ∉ operations) (h : net.skeleton.Coherent) :
    net.ExtendsLogs (run operations net) := by
  induction operations generalizing net with
  | nil => exact .refl net
  | cons operation rest ih =>
    rw [List.mem_cons, not_or] at hclear hclearCli
    exact (extendsLogs_step (Ne.symm hclear.1) (Ne.symm hclearCli.1) h).trans
      (ih hclear.2 hclearCli.2 (coherent_step operation net h))

end Network
end NetworkConsole
