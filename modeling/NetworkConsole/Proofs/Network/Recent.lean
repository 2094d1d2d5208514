import NetworkConsole.Proofs.Network.Unlogged

/-! What was done in a network since it was last cleared: its operations, each with the network that it
met. What a device shows of its configuration comes from the settings among them that it took. -/
namespace NetworkConsole

/-- What is seen of a device, without its identity and its log. -/
structure Device.View (β : Type) where
  see : Device → β
  start : β
  see_blank : ∀ id name kind, see (.blank id name kind) = start
  see_forget : ∀ d, see d.forget = see d

namespace Network
variable {net : Network}

/-- The past after one more operation. Clearing the network wipes it out. -/
def Operation.remember (operation : Operation) (net : Network)
    (past : List (Operation × Network)) : List (Operation × Network) :=
  match operation with
  | .clear => []
  | _ => past ++ [(operation, net)]

theorem Operation.remember_of_ne {operation : Operation} (h : operation ≠ .clear) (net : Network)
    (past : List (Operation × Network)) : operation.remember net past = past ++ [(operation, net)] := by
  cases operation with
  | clear => exact absurd rfl h
  | _ => rfl

def recentFrom : List Operation → Network → List (Operation × Network) → List (Operation × Network)
  | [], _, past => past
  | operation :: rest, net, past =>
    recentFrom rest (operation.step net) (operation.remember net past)

/-- The operations of a run from the empty network since the last clearing, refused ones included,
each with the network that it met. -/
def recent (operations : List Operation) : List (Operation × Network) :=
  recentFrom operations empty []

/-- What holds of the empty network without a past, and is kept when an operation other than clearing
joins the past, holds after every run. -/
theorem recent_induction {P : Network → List (Operation × Network) → Prop} (hempty : P empty [])
    (hstep : ∀ (operation : Operation) net past, net.skeleton.Coherent → operation ≠ .clear →
      P net past → P (operation.step net) (past ++ [(operation, net)]))
    (operations : List Operation) : P (run operations empty) (recent operations) := by
  have hfrom : ∀ net past, net.skeleton.Coherent → P net past →
      P (run operations net) (recentFrom operations net past) := by
    induction operations with
    | nil =>
      intro net past _ hpast
      exact hpast
    | cons operation rest ih =>
      intro net past h hpast
      refine ih _ _ (coherent_step operation net h) ?_
      by_cases hclear : operation = .clear
      · subst hclear
        exact hempty
      · rw [Operation.remember_of_ne hclear]
        exact hstep operation net past h hclear hpast
  exact hfrom empty [] (coherent_run []) hempty

/-- What is seen of the device of the name; without one it is what a blank device shows. -/
def seen {β : Type} (net : Network) (view : Device.View β) (name : String) : β :=
  match net.device name with
  | .ok d => view.see d
  | .error _ => view.start

theorem seen_of_device {β : Type} (view : Device.View β) {name : String} {d : Device}
    (hd : net.device name = .ok d) : net.seen view name = view.see d := by
  rw [seen, hd]

theorem seen_congr {β : Type} (view : Device.View β) {first second : Network} {name : String}
    (h : first.device name = second.device name) : first.seen view name = second.seen view name := by
  rw [seen, seen, h]

theorem seen_addDevice {β : Type} (h : net.skeleton.Coherent) (view : Device.View β)
    (added : String) (kind : DeviceKind) (name : String) :
    ((Operation.addDevice added kind).step net).seen view name = net.seen view name := by
  obtain ⟨_, hsame⟩ | ⟨⟨rfl, hfree⟩, hnew⟩ := device_addDevice h added kind name
  · exact seen_congr view hsame
  · have habsent : ∀ d, net.device name ≠ .ok d := by
      intro d hd
      cases hfree.symm.trans ((hasDevice_iff_device h name).2 ⟨d, hd⟩)
    rw [seen_of_device view hnew, view.see_blank, seen]
    cases hdevice : net.device name with
    | ok d => exact absurd hdevice (habsent d)
    | error e => rfl

theorem seen_clearCli {β : Type} (view : Device.View β) (net : Network) (name : String) :
    net.clearCli.seen view name = net.seen view name := by
  have hdevice : net.clearCli.device name = (net.device name).map Device.forget :=
    device_unlogged net name
  rw [seen, seen, hdevice]
  cases net.device name with
  | ok d => exact view.see_forget d
  | error e => rfl

theorem seen_empty {β : Type} (view : Device.View β) (name : String) :
    empty.seen view name = view.start := by
  cases hdevice : empty.device name with
  | ok d => exact absurd hdevice (device_empty name d)
  | error e => rw [seen, hdevice]

/-- The configuration of a name is wiped out with the network, takes a setting, or is left. -/
theorem seen_step_cases {β : Type} (h : net.skeleton.Coherent) (view : Device.View β)
    (name : String) (operation : Operation) :
    (operation = .clear ∧ (operation.step net).seen view name = view.start) ∨
      (∃ setting d, operation.setting? = some (name, setting) ∧ operation.Accepted net ∧
        net.device name = .ok d ∧
        (operation.step net).device name = .ok (d.configure setting)) ∨
      (operation ≠ .clear ∧
        (∀ setting, operation.setting? = some (name, setting) → ¬ operation.Accepted net) ∧
        (operation.step net).seen view name = net.seen view name) := by
  cases hsetting : operation.setting? with
  | some target =>
    obtain ⟨device, setting⟩ := target
    obtain ⟨hnot, hsame⟩ | ⟨⟨rfl, haccepted⟩, d, hd, hnew⟩ := device_setting h hsetting name
    · refine .inr (.inr ⟨?_, ?_, seen_congr view hsame⟩)
      · rintro rfl
        cases hsetting
      · intro other hother haccepted
        cases hother
        exact hnot ⟨rfl, haccepted⟩
    · exact .inr (.inl ⟨setting, d, rfl, haccepted, hd, hnew⟩)
  | none =>
    cases operation with
    | addDevice added kind =>
      exact .inr (.inr ⟨by simp, by simp, seen_addDevice h view added kind name⟩)
    | addLink a b cable =>
      exact .inr (.inr ⟨by simp, by simp, seen_congr view (device_addLink a b cable net name)⟩)
    | clearCli => exact .inr (.inr ⟨by simp, by simp, seen_clearCli view net name⟩)
    | clear => exact .inl ⟨rfl, seen_empty view name⟩
    | setInterface | setHostname | addStatement | addRule => cases hsetting

end Network
end NetworkConsole
