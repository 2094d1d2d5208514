import NetworkConsole.Proofs.Network.Setting

/-! The chronicle of a device: what a run did to it since it was added. The device is what its
chronicle makes of a blank one. -/
namespace NetworkConsole

inductive DeviceEvent where
  | configured (setting : Setting)
  /-- The generated lines were cleared. -/
  | forgotten

namespace Device

def after (d : Device) : DeviceEvent → Device
  | .configured setting => d.configure setting
  | .forgotten => d.forget

def replay (d : Device) (events : List DeviceEvent) : Device := events.foldl after d

theorem replay_append (d : Device) (xs ys : List DeviceEvent) :
    d.replay (xs ++ ys) = (d.replay xs).replay ys :=
  List.foldl_append

theorem identity_after (d : Device) (event : DeviceEvent) : (d.after event).identity = d.identity := by
  cases event with
  | configured setting => cases setting <;> rfl
  | forgotten => rfl

end Device

namespace Network
variable {net : Network}

/-- The chronicle of a name after one more operation. A name that is added, or whose device is
cleared away, has nothing to tell. -/
def Operation.enter (operation : Operation) (net : Network) (name : String)
    (events : List DeviceEvent) : List DeviceEvent :=
  match operation.setting? with
  | some (device, setting) =>
    if name = device ∧ operation.Accepted net then events ++ [.configured setting] else events
  | none =>
    match operation with
    | .addDevice added _ => if name = added ∧ net.hasDevice added = false then [] else events
    | .clearCli => events ++ [.forgotten]
    | .clear => []
    | _ => events

def chronicleFrom (name : String) :
    List Operation → Network → List DeviceEvent → List DeviceEvent
  | [], _, events => events
  | operation :: rest, net, events =>
    chronicleFrom name rest (operation.step net) (operation.enter net name events)

/-- The chronicle of a name after a run from the empty network. -/
def chronicle (name : String) (operations : List Operation) : List DeviceEvent :=
  chronicleFrom name operations empty []

/-- The device of the name, if there is one, is what the events make of a blank device. -/
def Tells (net : Network) (name : String) (events : List DeviceEvent) : Prop :=
  ∀ d, net.device name = .ok d → d = (Device.blank d.id name d.kind).replay events

theorem Tells.after {name : String} {events : List DeviceEvent} (htells : net.Tells name events)
    {d : Device} (hd : net.device name = .ok d) {next : Network} (event : DeviceEvent)
    (hnext : next.device name = .ok (d.after event)) : next.Tells name (events ++ [event]) := by
  intro new hnew
  obtain rfl := Except.ok.inj (hnext.symm.trans hnew)
  have hidentity := d.identity_after event
  simp only [Device.identity, Identity.mk.injEq] at hidentity
  rw [hidentity.1, hidentity.2.2, Device.replay_append, ← htells d hd]
  rfl

theorem tells_step (h : net.skeleton.Coherent) (operation : Operation) {name : String}
    {events : List DeviceEvent} (htells : net.Tells name events) :
    (operation.step net).Tells name (operation.enter net name events) := by
  cases hsetting : operation.setting? with
  | some target =>
    obtain ⟨device, setting⟩ := target
    simp only [Operation.enter, hsetting]
    obtain ⟨hnot, hsame⟩ | ⟨hboth, d, hd, hnew⟩ := device_setting h hsetting name
    · rw [if_neg hnot]
      intro d hd
      exact htells d (hsame ▸ hd)
    · rw [if_pos hboth]
      exact htells.after hd (.configured setting) hnew
  | none =>
    cases operation with
    | addDevice added kind =>
      simp only [Operation.enter, Operation.setting?]
      obtain ⟨hnot, hsame⟩ | ⟨hboth, hnew⟩ := device_addDevice h added kind name
      · rw [if_neg hnot]
        intro d hd
        exact htells d (hsame ▸ hd)
      · rw [if_pos hboth]
        intro d hd
        obtain rfl := Except.ok.inj (hnew.symm.trans hd)
        rw [hboth.1]
        rfl
    | addLink a b cable =>
      intro d hd
      exact htells d (device_addLink a b cable net name ▸ hd)
    | clearCli =>
      intro d hd
      obtain ⟨old, hold, rfl⟩ := (device_clearCli_iff net name d).1 hd
      exact htells.after hold .forgotten hd _ hd
    | clear =>
      intro d hd
      exact absurd hd (device_empty name d)
    | setInterface | setHostname | addStatement | addRule => cases hsetting

theorem tells_run (operations : List Operation) (h : net.skeleton.Coherent) {name : String}
    {events : List DeviceEvent} (htells : net.Tells name events) :
    (run operations net).Tells name (chronicleFrom name operations net events) := by
  induction operations generalizing net events with
  | nil => exact htells
  | cons operation rest ih =>
    exact ih (coherent_step operation net h) (tells_step h operation htells)

theorem device_eq_replay {operations : List Operation} {name : String} {d : Device}
    (hd : (run operations empty).device name = .ok d) :
    d = (Device.blank d.id name d.kind).replay (chronicle name operations) :=
  tells_run operations (coherent_run []) (fun d hd => absurd hd (device_empty name d)) d hd

theorem forgotten_of_enter {operation : Operation} {name : String} {events : List DeviceEvent}
    (h : DeviceEvent.forgotten ∈ operation.enter net name events) :
    operation = .clearCli ∨ DeviceEvent.forgotten ∈ events := by
  cases operation with
  | clearCli => exact .inl rfl
  | addLink => exact .inr h
  | clear => simp [Operation.enter, Operation.setting?] at h
  | addDevice | setInterface | setHostname | addStatement | addRule =>
    simp only [Operation.enter, Operation.setting?] at h
    split at h
    · simp_all
    · exact .inr h

/-- Only clearing the generated lines makes a device forget them. -/
theorem forgotten_notMem_chronicleFrom {operations : List Operation}
    (hkept : Operation.clearCli ∉ operations) (name : String) (net : Network)
    {events : List DeviceEvent} (h : DeviceEvent.forgotten ∉ events) :
    DeviceEvent.forgotten ∉ chronicleFrom name operations net events := by
  induction operations generalizing net events with
  | nil => exact h
  | cons operation rest ih =>
    rw [List.mem_cons, not_or] at hkept
    refine ih hkept.2 (operation.step net) fun hmem => ?_
    obtain rfl | hmem := forgotten_of_enter hmem
    · exact hkept.1 rfl
    · exact h hmem

end Network
end NetworkConsole
