import NetworkConsole.Proofs.Network.Chronicle
import NetworkConsole.Proofs.Network.Lines

/-! The log of a device that never forgot its lines determines its configuration. Each setting writes
lines that tell where they end, so the log can be cut into its settings in one way only. -/
namespace NetworkConsole

namespace Routing

namespace Statement

theorem header_append_inj {x y : Statement} {l m : List String}
    (h : x.header ++ l = y.header ++ m) : x.header = y.header ∧ l = m := by
  cases x <;> cases y <;> simp_all [header, ← String.toList_inj, toString]

theorem header_append_ne (x y : Statement) (l m : List String) :
    x.header ++ l ≠ y.networkLine :: m := by
  cases x <;> cases y <;> simp [header, networkLine, ← String.toList_inj, toString]

theorem header_of_rip {x y : Statement} (hx : x.protocol = .rip) (hy : y.protocol = .rip) :
    x.header = y.header := by
  cases x <;> cases y <;> simp_all [protocol, header]

end Statement

namespace Config

theorem linesFor_eq (config : Config) (statement : Statement) :
    config.linesFor statement =
      (if statement.protocol = .rip ∧ config.ofProtocol .rip ≠ [] then [] else statement.header) ++
        [statement.networkLine] := by
  rw [linesFor]
  split <;> rfl

/-- Statements are told apart by their lines: whether RIP runs already is known, so is whether a RIP
statement comes without its header. -/
theorem linesFor_append_inj {config : Config} {x y : Statement} {l m : List String}
    (h : config.linesFor x ++ l = config.linesFor y ++ m) : x = y ∧ l = m := by
  rw [linesFor_eq, linesFor_eq, List.append_assoc, List.append_assoc, List.singleton_append,
    List.singleton_append] at h
  have htail : x.header = y.header → x.networkLine :: l = y.networkLine :: m → x = y ∧ l = m := by
    intro hheader hlines
    obtain ⟨hline, hrest⟩ := List.cons.inj hlines
    exact ⟨Statement.eq_of_lines hheader hline, hrest⟩
  split at h
  · next hx =>
    split at h
    · next hy => exact htail (Statement.header_of_rip hx.1 hy.1) h
    · exact absurd h.symm (Statement.header_append_ne _ _ _ _)
  · split at h
    · exact absurd h (Statement.header_append_ne _ _ _ _)
    · obtain ⟨hheader, hlines⟩ := Statement.header_append_inj h
      exact htail hheader hlines

end Config
end Routing

/-- The letters with which the lines of a setting can begin. -/
def Setting.initials : Setting → List Char
  | .interface .. => ['i']
  | .hostname _ => ['h']
  | .statement _ => ['r', 'n']
  | .rule .. => ['a']

namespace Device

theorem exists_initial (d : Device) (setting : Setting) :
    ∃ line rest, d.linesFor setting = line :: rest ∧
      ∃ c ∈ setting.initials, line.toList.head? = some c := by
  cases setting with
  | interface name address mask => exact ⟨_, _, rfl, 'i', by simp [Setting.initials, toString]⟩
  | hostname hostname => exact ⟨_, _, rfl, 'h', by simp [Setting.initials, toString]⟩
  | statement statement =>
    rw [linesFor, Routing.Config.linesFor_eq]
    split
    · refine ⟨_, _, rfl, 'n', by simp [Setting.initials], ?_⟩
      cases statement <;> simp [Routing.Statement.networkLine, toString]
    · cases statement <;> exact ⟨_, _, rfl, 'r', by simp [Setting.initials, toString]⟩
  | rule number action entry =>
    refine ⟨_, _, rfl, 'a', by simp [Setting.initials], ?_⟩
    unfold AccessList.Rule.line
    simp [toString]

/-- Logs that begin alike begin with settings of one kind. -/
theorem exists_common_initial {d e : Device} {x y : Setting} {l m : List String}
    (h : d.linesFor x ++ l = e.linesFor y ++ m) : ∃ c ∈ x.initials, c ∈ y.initials := by
  obtain ⟨line, rest, hlines, c, hc, hhead⟩ := d.exists_initial x
  obtain ⟨line', rest', hlines', c', hc', hhead'⟩ := e.exists_initial y
  rw [hlines, hlines', List.cons_append, List.cons_append, List.cons.injEq] at h
  rw [h.1, hhead', Option.some.injEq] at hhead
  exact ⟨c, hc, hhead ▸ hc'⟩

/-- Settings are told apart by their lines, and their lines from those that follow. -/
theorem linesFor_append_inj {d e : Device} (hrouting : d.routing = e.routing) {x y : Setting}
    {l m : List String} (h : d.linesFor x ++ l = e.linesFor y ++ m) : x = y ∧ l = m := by
  obtain ⟨c, hx, hy⟩ := exists_common_initial h
  cases x with
  | interface name address mask =>
    cases y with
    | interface name' address' mask' =>
      simp only [linesFor, List.cons_append, List.nil_append, List.cons.injEq] at h
      obtain ⟨hname, hline, hrest⟩ := h
      obtain ⟨rfl, rfl⟩ := Interface.eq_of_line hline
      obtain rfl : name = name' := by simpa [toString] using hname
      exact ⟨rfl, hrest⟩
    | hostname | statement | rule => simp_all [Setting.initials]
  | hostname hostname =>
    cases y with
    | hostname hostname' =>
      simp only [linesFor, List.cons_append, List.nil_append, List.cons.injEq] at h
      obtain rfl : hostname = hostname' := by simpa [toString] using h.1
      exact ⟨rfl, h.2⟩
    | interface | statement | rule => simp_all [Setting.initials]
  | statement statement =>
    cases y with
    | statement statement' =>
      rw [linesFor, linesFor, hrouting] at h
      obtain ⟨rfl, hrest⟩ := Routing.Config.linesFor_append_inj h
      exact ⟨rfl, hrest⟩
    | interface | hostname | rule => simp_all [Setting.initials]
  | rule number action entry =>
    cases y with
    | rule number' action' entry' =>
      simp only [linesFor, List.cons_append, List.nil_append, List.cons.injEq] at h
      obtain ⟨hnumber, haction, hentry⟩ := AccessList.Rule.eq_of_line h.1
      simp only [nextRule] at hnumber haction hentry
      exact ⟨by rw [hnumber, haction, hentry], h.2⟩
    | interface | hostname | statement => simp_all [Setting.initials]

/-- The configurations agree; names and logs may differ. -/
structure Alike (d e : Device) : Prop where
  hostname : d.givenHostname = e.givenHostname
  interfaces : d.interfaces = e.interfaces
  routing : d.routing = e.routing
  rules : d.rules = e.rules

theorem Alike.configure {d e : Device} (h : Alike d e) (setting : Setting) :
    Alike (d.configure setting) (e.configure setting) := by
  obtain ⟨hhostname, hinterfaces, hrouting, hrules⟩ := h
  cases setting <;> constructor <;>
    simp [Device.configure, put, nextRule, hhostname, hinterfaces, hrouting, hrules]

theorem alike_blank (id id' : DeviceId) (name name' : String) (kind kind' : DeviceKind) :
    Alike (blank id name kind) (blank id' name' kind') :=
  ⟨rfl, rfl, rfl, rfl⟩

/-- The device with some settings, one after the other. -/
def configureAll (d : Device) (settings : List Setting) : Device := settings.foldl configure d

/-- The lines that some settings generate, one after the other. -/
def transcript (d : Device) : List Setting → List String
  | [] => []
  | setting :: rest => d.linesFor setting ++ (d.configure setting).transcript rest

theorem cli_configureAll (d : Device) (settings : List Setting) :
    (d.configureAll settings).cli = d.cli ++ d.transcript settings := by
  induction settings generalizing d with
  | nil => simp [configureAll, transcript]
  | cons setting rest ih =>
    rw [configureAll, List.foldl_cons, ← configureAll, ih, transcript, ← List.append_assoc]
    rfl

/-- The settings can be read back from their lines. -/
theorem transcript_inj {d e : Device} (h : Alike d e) {xs ys : List Setting}
    (hlines : d.transcript xs = e.transcript ys) : xs = ys := by
  induction xs generalizing d e ys with
  | nil =>
    cases ys with
    | nil => rfl
    | cons y ys =>
      obtain ⟨line, rest, hy, _⟩ := e.exists_initial y
      simp [transcript, hy] at hlines
  | cons x xs ih =>
    cases ys with
    | nil =>
      obtain ⟨line, rest, hx, _⟩ := d.exists_initial x
      simp [transcript, hx] at hlines
    | cons y ys =>
      obtain ⟨rfl, hrest⟩ := linesFor_append_inj h.routing hlines
      rw [ih (h.configure x) hrest]

theorem Alike.configureAll {d e : Device} (h : Alike d e) (settings : List Setting) :
    Alike (d.configureAll settings) (e.configureAll settings) := by
  induction settings generalizing d e with
  | nil => exact h
  | cons setting rest ih => exact ih (h.configure setting)

end Device

namespace Network

theorem exists_map_configured {events : List DeviceEvent} (h : DeviceEvent.forgotten ∉ events) :
    ∃ settings : List Setting, events = settings.map .configured := by
  induction events with
  | nil => exact ⟨[], rfl⟩
  | cons event rest ih =>
    rw [List.mem_cons, not_or] at h
    obtain ⟨settings, rfl⟩ := ih h.2
    cases event with
    | configured setting => exact ⟨setting :: settings, rfl⟩
    | forgotten => exact absurd rfl h.1

/-- A device whose lines were never cleared took its settings on top of a blank one. -/
theorem exists_settings {operations : List Operation} (hkept : Operation.clearCli ∉ operations)
    {name : String} {d : Device} (hd : (run operations empty).device name = .ok d) :
    ∃ settings, chronicle name operations = settings.map .configured ∧
      d = (Device.blank d.id name d.kind).configureAll settings := by
  have hforgotten : DeviceEvent.forgotten ∉ chronicle name operations :=
    forgotten_notMem_chronicleFrom hkept name empty (by simp)
  have hreplay := device_eq_replay hd
  generalize chronicle name operations = events at hforgotten hreplay
  obtain ⟨settings, rfl⟩ := exists_map_configured hforgotten
  refine ⟨settings, rfl, ?_⟩
  rw [Device.replay, List.foldl_map] at hreplay
  exact hreplay

/-- Two devices with equal logs, in whatever networks and under whatever names, were given the same
settings in the same order. -/
theorem configuration_of_log {first second : List Operation}
    (hfirst : Operation.clearCli ∉ first) (hsecond : Operation.clearCli ∉ second)
    {a b : String} {d e : Device} (hd : (run first empty).device a = .ok d)
    (he : (run second empty).device b = .ok e) (hcli : d.cli = e.cli) :
    chronicle a first = chronicle b second ∧
      d.givenHostname = e.givenHostname ∧
      d.interfaces.entries = e.interfaces.entries ∧
      (∀ protocol, d.routing.ofProtocol protocol = e.routing.ofProtocol protocol) ∧
      d.rules = e.rules := by
  obtain ⟨xs, hxs, hdxs⟩ := exists_settings hfirst hd
  obtain ⟨ys, hys, heys⟩ := exists_settings hsecond he
  have halike := Device.alike_blank d.id e.id a b d.kind e.kind
  have hsettings : xs = ys := by
    refine Device.transcript_inj halike ?_
    rw [hdxs, heys, Device.cli_configureAll, Device.cli_configureAll] at hcli
    exact hcli
  subst hsettings
  have hsame := halike.configureAll xs
  rw [← hdxs, ← heys] at hsame
  refine ⟨hxs.trans hys.symm, hsame.hostname, ?_, ?_, hsame.rules⟩
  · rw [hsame.interfaces]
  · intro protocol
    rw [hsame.routing]

/-- A router configured on its own, and one configured between changes of another device, refused
ones among them. -/
theorem configuration_of_log_routers :
    let rip : Routing.Statement := .rip (.ofOctets 10 0 0 0)
    let other : Routing.Statement := .rip (.ofOctets 172 16 0 0)
    let entry : AccessList.Entry := .standard (.ofOctets 10 0 0 0) (.ofOctets 0 0 0 255)
    let x : Address := .ofOctets 10 0 0 1
    let y : Address := .ofOctets 10 0 0 2
    let mask : Address := .ofOctets 255 255 255 0
    let first : List Operation :=
      [.addDevice "r1" .router, .addStatement "r1" rip, .setInterface "r1" "g0 0" x mask,
        .addStatement "r1" other, .setInterface "r1" "g0 0" y mask, .addRule "r1" 10 .permit entry]
    let second : List Operation :=
      [.addDevice "sw" .switch, .addDevice "r2" .router, .addStatement "r2" rip,
        .addStatement "r2" rip, .setInterface "r2" "g0 0" x mask, .setInterface "sw" "g0 0" x mask,
        .addStatement "r2" other, .setInterface "r2" "g0 0" y mask, .setInterface "sw" "g0" x mask,
        .addRule "sw" 10 .deny entry, .addRule "r2" 10 .permit entry]
    ∃ d e, (run first empty).device "r1" = .ok d ∧ (run second empty).device "r2" = .ok e ∧
      d.cli = e.cli ∧ chronicle "r1" first = chronicle "r2" second ∧
      d.givenHostname = e.givenHostname ∧ d.interfaces.entries = e.interfaces.entries ∧
      (∀ protocol, d.routing.ofProtocol protocol = e.routing.ofProtocol protocol) ∧
      d.rules = e.rules := by
  intro rip other entry x y mask first second
  have hlogs : ((run first empty).device "r1").map Device.cli =
      ((run second empty).device "r2").map Device.cli := by decide +kernel
  obtain ⟨d, hd⟩ := (hasDevice_iff_device (coherent_run first) "r1").1 (by decide +kernel)
  obtain ⟨e, he⟩ := (hasDevice_iff_device (coherent_run second) "r2").1 (by decide +kernel)
  have hcli : d.cli = e.cli := by
    rw [hd, he] at hlogs
    exact Except.ok.inj hlogs
  exact ⟨d, e, hd, he, hcli,
    configuration_of_log (by simp [first]) (by simp [second]) hd he hcli⟩

end Network
end NetworkConsole
