import Mathlib.Data.List.Nodup
import NetworkConsole.Proofs.Network.Setting

/-! The history of a network and the logs of its devices keep the same lines. A change logs on one
device and in the history under the name of this device, and what clears the one clears the other. -/
namespace NetworkConsole.Network
variable {net : Network}

/-- The lines that the history has under a name. -/
def linesOf (net : Network) (name : String) : List String :=
  (net.history.filter (·.device = name)).map HistoryEntry.line

/-- The history speaks of devices only, and has of each the lines of its log. -/
structure Logged (net : Network) : Prop where
  known : ∀ entry ∈ net.history, net.hasDevice entry.device = true
  agree : ∀ name d, net.device name = .ok d → net.linesOf name = d.cli

theorem linesOf_record (net : Network) (name : String) (id : DeviceId) (d : Device)
    (lines : List String) (other : String) :
    (net.record name id d lines).linesOf other =
      if other = name then net.linesOf other ++ lines else net.linesOf other := by
  by_cases ho : other = name
  · simp [linesOf, record, List.filter_map, Function.comp_def, ho]
  · simp [linesOf, record, List.filter_map, Function.comp_def, ho, Ne.symm ho]

theorem map_linesOf (net : Network) (name : String) :
    (net.linesOf name).map (HistoryEntry.mk name) = net.history.filter (·.device = name) := by
  rw [linesOf, List.map_map]
  refine (List.map_congr_left fun entry hentry => ?_).trans (List.map_id _)
  have hname := of_decide_eq_true (List.mem_filter.1 hentry).2
  simp [← hname]

theorem logged_empty : empty.Logged where
  known := by simp [empty]
  agree := fun name d hd => absurd hd (device_empty name d)

namespace Logged

/-- A name that is free has no lines. -/
theorem linesOf_free (hlogged : net.Logged) {name : String} (hfree : net.hasDevice name = false) :
    net.linesOf name = [] := by
  rw [linesOf, List.map_eq_nil_iff, List.filter_eq_nil_iff]
  intro entry hentry hname
  have hknown := hlogged.known entry hentry
  rw [of_decide_eq_true hname, hfree] at hknown
  cases hknown

/-- Nothing is logged by a change that leaves the history, keeps the names and makes no device but
blank ones. -/
theorem of_history_eq (hlogged : net.Logged) {after : Network}
    (hhistory : after.history = net.history)
    (hnames : ∀ name, net.hasDevice name = true → after.hasDevice name = true)
    (hdevice : ∀ name d, after.device name = .ok d →
      net.device name = .ok d ∨ net.hasDevice name = false ∧ d.cli = []) : after.Logged where
  known := by
    intro entry hentry
    exact hnames entry.device (hlogged.known entry (hhistory ▸ hentry))
  agree := by
    intro name d hd
    have hlines : after.linesOf name = net.linesOf name := by rw [linesOf, hhistory, linesOf]
    rw [hlines]
    obtain hold | ⟨hfree, hcli⟩ := hdevice name d hd
    · exact hlogged.agree name d hold
    · rw [hlogged.linesOf_free hfree, hcli]

theorem record (hlogged : net.Logged) (h : net.skeleton.Coherent) {name : String}
    {id : DeviceId} {d : Device} (hname : net.names.get? name = some id)
    (hdevice : net.devices.get? id = some d) {device : Device} (hcli : device.cli = d.cli)
    (lines : List String) : (net.record name id device lines).Logged where
  known := by
    intro entry hentry
    obtain hold | hnew := List.mem_append.1 hentry
    · exact hlogged.known entry hold
    · obtain ⟨line, _, rfl⟩ := List.mem_map.1 hnew
      exact (hasDevice_iff net name).2 ⟨id, hname⟩
  agree := by
    intro other found hfound
    rw [device_record h hname] at hfound
    rw [linesOf_record]
    by_cases ho : other = name
    · have hbefore := hlogged.agree name d ((device_ok_iff net name d).2 ⟨id, hname, hdevice⟩)
      rw [if_pos ho] at hfound ⊢
      obtain rfl := Except.ok.inj hfound
      rw [ho, hbefore, hcli]
    · rw [if_neg ho] at hfound ⊢
      exact hlogged.agree other found hfound

theorem addDevice (hlogged : net.Logged) (h : net.skeleton.Coherent) (name : String)
    (kind : DeviceKind) : ((Operation.addDevice name kind).step net).Logged := by
  have hdevice := device_addDevice h name kind
  obtain ⟨_, _, hadd⟩ | ⟨_, hadd⟩ := addDevice_cases name kind net
  · rw [(Operation.refused rfl hadd).2]
    exact hlogged
  · have hstep : (Operation.addDevice name kind).step net = _ :=
      (Operation.carriedOut rfl hadd).2
    refine hlogged.of_history_eq (by rw [hstep]) (fun other hother => ?_) (fun other d hd => ?_)
    · obtain ⟨id, hid⟩ := (hasDevice_iff net other).1 hother
      rw [hstep, hasDevice_iff]
      by_cases ho : other = name <;> simp [ho, hid]
    · obtain ⟨_, hsame⟩ | ⟨⟨ho, hfree⟩, hnew⟩ := hdevice other
      · exact .inl (hsame ▸ hd)
      · obtain rfl := Except.ok.inj (hnew.symm.trans hd)
        exact .inr ⟨ho ▸ hfree, rfl⟩

theorem addLink (hlogged : net.Logged) (a b : String) (cable : Cable) :
    ((Operation.addLink a b cable).step net).Logged := by
  have hdevice := device_addLink a b cable net
  obtain ⟨_, he⟩ | ⟨i, j, _, _, _, _, hadd⟩ := addLink_cases a b cable net
  · have hstep : (Operation.addLink a b cable).step net = net := congrArg Prod.snd he
    rw [hstep]
    exact hlogged
  · have hstep : (Operation.addLink a b cable).step net = _ := congrArg Prod.snd hadd
    refine hlogged.of_history_eq (by rw [hstep]) (fun other hother => ?_) (fun other d hd => ?_)
    · rw [hstep]
      exact hother
    · exact .inl (hdevice other ▸ hd)

theorem clearCli (net : Network) : net.clearCli.Logged where
  known := by simp [Network.clearCli]
  agree := by
    intro name d hd
    obtain ⟨old, _, rfl⟩ := (device_clearCli_iff net name d).1 hd
    rfl

end Logged

theorem logged_step (operation : Operation) (h : net.skeleton.Coherent) (hlogged : net.Logged) :
    (operation.step net).Logged := by
  cases hsetting : operation.setting? with
  | some target =>
    obtain ⟨name, setting⟩ := target
    obtain ⟨_, hstep⟩ | ⟨id, d, hname, hdevice, _, hstep⟩ := setting_cases hsetting net
    · rw [hstep]
      exact hlogged
    · have hcli : (d.put setting).cli = d.cli := by cases setting <;> rfl
      rw [hstep]
      exact hlogged.record h hname hdevice hcli _
  | none =>
    cases operation with
    | addDevice name kind => exact hlogged.addDevice h name kind
    | addLink a b cable => exact hlogged.addLink a b cable
    | clearCli => exact Logged.clearCli net
    | clear => exact logged_empty
    | setInterface | setHostname | addStatement | addRule => cases hsetting

theorem logged_run (operations : List Operation) : (run operations empty).Logged :=
  run_keeps_of_coherent (fun operation _ => logged_step operation) operations logged_empty

/-- Entries whose keys all occur among distinct keys are split up by them. -/
theorem perm_flatMap_filter {α κ : Type} [DecidableEq κ] (key : α → κ) {keys : List κ}
    (hkeys : keys.Nodup) {entries : List α} (h : ∀ entry ∈ entries, key entry ∈ keys) :
    entries.Perm (keys.flatMap fun k => entries.filter (key · = k)) := by
  induction keys generalizing entries with
  | nil =>
    rw [List.eq_nil_iff_forall_not_mem.2 fun entry hentry => List.not_mem_nil (h entry hentry)]
    simp
  | cons k keys ih =>
    obtain ⟨hk, hkeys⟩ := List.nodup_cons.1 hkeys
    have hrest : ∀ entry ∈ entries.filter (fun entry => !decide (key entry = k)), key entry ∈ keys := by
      intro entry hentry
      obtain ⟨hmem, hne⟩ := List.mem_filter.1 hentry
      have hne : key entry ≠ k := by simpa using hne
      exact (List.mem_cons.1 (h entry hmem)).resolve_left hne
    have hsame : (keys.flatMap fun other =>
          (entries.filter (fun entry => !decide (key entry = k))).filter (key · = other)) =
        keys.flatMap fun other => entries.filter (key · = other) := by
      refine List.flatMap_congr fun other hother => ?_
      rw [List.filter_filter]
      refine List.filter_congr fun entry _ => ?_
      have hne : other ≠ k := fun e => hk (e ▸ hother)
      by_cases hkey : key entry = other <;> simp [hkey, hne]
    rw [List.flatMap_cons, ← hsame]
    exact (List.filter_append_perm (key · = k) entries).symm.trans
      (List.Perm.append_left _ (ih hkeys hrest))

/-- Every entry of the history names a device, the entries of a device have the lines of its log in
their order, and all logs together are the history up to the order of the devices. -/
theorem history_partition (operations : List Operation) :
    let net := run operations empty
    (∀ entry ∈ net.history, ∃ d ∈ net.deviceList, d.name = entry.device) ∧
      (∀ d ∈ net.deviceList, net.linesOf d.name = d.cli) ∧
      net.history.Perm (net.deviceList.flatMap fun d => d.cli.map (HistoryEntry.mk d.name)) := by
  intro net
  have h : net.skeleton.Coherent := coherent_run operations
  have hlogged : net.Logged := logged_run operations
  have hknown : ∀ entry ∈ net.history, ∃ d ∈ net.deviceList, d.name = entry.device := by
    intro entry hentry
    obtain ⟨d, hd⟩ := (hasDevice_iff_device h entry.device).1 (hlogged.known entry hentry)
    obtain ⟨hname, hmem⟩ := device_name h hd
    exact ⟨d, hmem, hname⟩
  have hagree : ∀ d ∈ net.deviceList, net.linesOf d.name = d.cli := by
    intro d hd
    exact hlogged.agree d.name d (device_of_mem h hd)
  refine ⟨hknown, hagree, ?_⟩
  have hnames : ∀ entry ∈ net.history, entry.device ∈ net.deviceList.map Device.name := by
    intro entry hentry
    obtain ⟨d, hd, hname⟩ := hknown entry hentry
    exact List.mem_map.2 ⟨d, hd, hname⟩
  have hlogs : ((net.deviceList.map Device.name).flatMap fun name =>
        net.history.filter (·.device = name)) =
      net.deviceList.flatMap fun d => d.cli.map (HistoryEntry.mk d.name) := by
    rw [List.flatMap_map]
    refine List.flatMap_congr fun d hd => ?_
    rw [← hagree d hd, map_linesOf]
  rw [← hlogs]
  exact perm_flatMap_filter HistoryEntry.device (deviceList_names_nodup h) hnames

end NetworkConsole.Network
