import NetworkConsole.Proofs.Network.Connections
import NetworkConsole.Proofs.Network.DeviceReports
import NetworkConsole.Proofs.Network.History

/-! Reports on a network as faithful copies of it. The rows of the topology say which of them are
connections, and their number comes first, so they can be told apart and read one by one; an entry of
the history is read from the name between its brackets on. -/
namespace NetworkConsole

namespace Device

/-- The words of the row of a device. -/
def columns (d : Device) : List String :=
  toString d.kind :: d.name :: if d.hostname = d.name then [] else ["(hostname", d.hostname ++ ")"]

/-- What the topology shows of a device. -/
def outline (d : Device) : DeviceKind × String × String := (d.kind, d.name, d.hostname)

theorem isWord_kind (kind : DeviceKind) : Text.IsWord (toString kind) := by
  cases kind <;> decide +kernel

theorem kind_inj {x y : DeviceKind} (h : toString x = toString y) : x = y := by
  revert h; cases x <;> cases y <;> decide

theorem words_summary {d : Device} (h : d.WellFormed) : Text.words d.summary = d.columns := by
  have hname : Text.IsWord d.name := Text.isWord_of_name h.name
  rw [summary, columns]
  split
  · next hsame =>
    have hrow : s!"  {d.kind} {d.name}" = "  " ++ (toString d.kind ++ " " ++ d.name) := by
      simp [← String.toList_inj, toString]
    rw [hrow, Text.words_indented, Text.words_append_space, Text.words_of_isWord (isWord_kind _),
      Text.words_of_isWord hname]
    rfl
  · next hother =>
    have hhostname : Text.IsWord (d.hostname ++ ")") :=
      (Text.isWord_of_name h.hostname).append (by decide)
    have hrow : s!"  {d.kind} {d.name} (hostname {d.hostname})" =
        "  " ++ (toString d.kind ++ " " ++ (d.name ++ " " ++
          ("(hostname" ++ " " ++ (d.hostname ++ ")")))) := by
      simp [← String.toList_inj, toString]
    rw [hrow, Text.words_indented, Text.words_append_space, Text.words_append_space,
      Text.words_append_space, Text.words_of_isWord (isWord_kind _), Text.words_of_isWord hname,
      Text.words_of_isWord hhostname, Text.words_of_isWord (by decide)]
    rfl

theorem outline_of_columns {d e : Device} (h : d.columns = e.columns) : d.outline = e.outline := by
  simp only [columns, List.cons.injEq] at h
  obtain ⟨hkind, hname, hrest⟩ := h
  have hhostname : d.hostname = e.hostname := by
    split at hrest <;> split at hrest <;> simp_all
  rw [outline, outline, kind_inj hkind, hname, hhostname]

theorem summary_eq_iff {d e : Device} (hd : d.WellFormed) (he : e.WellFormed) :
    d.summary = e.summary ↔ d.outline = e.outline := by
  constructor
  · intro h
    exact outline_of_columns (by rw [← words_summary hd, ← words_summary he, h])
  · intro h
    simp only [outline, Prod.mk.injEq] at h
    rw [summary, summary, h.1, h.2.1, h.2.2]

end Device

namespace Connection

/-- The row of a connection. -/
def row (connection : Connection) : String := s!"  {connection}"

/-- The second word tells the row of a connection from that of a device. -/
def IsRow (row : String) : Prop := (Text.words row)[1]? = some "<->"

theorem isWord_cable (cable : Cable) : Text.IsWord (toString cable) := by
  cases cable <;> decide +kernel

theorem cable_inj {x y : Cable} (h : toString x = toString y) : x = y := by
  revert h; cases x <;> cases y <;> decide

/-- The names of the endpoints are words. -/
def Worded (connection : Connection) : Prop :=
  Text.IsWord connection.left ∧ Text.IsWord connection.right

variable {c d : Connection}

theorem words_row (h : c.Worded) :
    Text.words c.row = [c.left, "<->", c.right, "[" ++ toString c.cable ++ "]"] := by
  have hcable : Text.IsWord ("[" ++ toString c.cable ++ "]") :=
    (Text.IsWord.append (by decide) (isWord_cable _)).append (by decide)
  have hrow : c.row = "  " ++ (c.left ++ " " ++ ("<->" ++ " " ++ (c.right ++ " " ++
      ("[" ++ toString c.cable ++ "]")))) := by
    simp [row, text, ← String.toList_inj, toString]
  rw [hrow, Text.words_indented, Text.words_append_space, Text.words_append_space,
    Text.words_append_space, Text.words_of_isWord h.1, Text.words_of_isWord h.2,
    Text.words_of_isWord hcable, Text.words_of_isWord (by decide)]
  rfl

theorem isRow_row (h : c.Worded) : IsRow c.row := by
  rw [IsRow, words_row h]
  rfl

theorem row_inj (hc : c.Worded) (hd : d.Worded) (h : c.row = d.row) : c = d := by
  have hwords : Text.words c.row = Text.words d.row := by rw [h]
  rw [words_row hc, words_row hd] at hwords
  obtain ⟨left, right, cable⟩ := c
  obtain ⟨left', right', cable'⟩ := d
  simp only [List.cons.injEq, and_true, true_and, String.append_left_inj,
    String.append_right_inj] at hwords
  obtain ⟨hleft, hright, hcable⟩ := hwords
  rw [hleft, hright, cable_inj hcable]

end Connection

theorem Device.not_isRow_summary {d : Device} (h : d.WellFormed) : ¬ Connection.IsRow d.summary := by
  intro hrow
  rw [Connection.IsRow, words_summary h, columns] at hrow
  obtain ⟨first, rest, hname, hfirst, _⟩ := h.name
  have harrow : d.name = "<->" := by simpa using hrow
  have hchars : '<' = first ∧ ['-', '>'] = rest := by simpa [harrow] using hname
  obtain ⟨rfl, _⟩ := hchars
  cases hfirst

namespace HistoryEntry

/-- The line of the history that shows an entry. -/
def row (entry : HistoryEntry) : String := s!"[{entry.device}] {entry.line}"

/-- The line of an entry is any text. The name is the first word of the row, and the rest follows from
it. -/
theorem row_inj {x y : HistoryEntry} (hx : Text.IsWord x.device) (hy : Text.IsWord y.device)
    (h : x.row = y.row) : x = y := by
  have hwords : ∀ z : HistoryEntry, Text.IsWord z.device →
      Text.words z.row = ("[" ++ z.device ++ "]") :: Text.words z.line := by
    intro z hz
    have hname : Text.IsWord ("[" ++ z.device ++ "]") :=
      (Text.IsWord.append (by decide) hz).append (by decide)
    have hrow : z.row = "[" ++ z.device ++ "]" ++ " " ++ z.line := by
      simp [row, ← String.toList_inj, toString]
    rw [hrow, Text.words_append_space, Text.words_of_isWord hname]
    rfl
  have hdevice : x.device = y.device := by
    have hheads := hwords x hx
    rw [h, hwords y hy, List.cons.injEq] at hheads
    simpa [eq_comm] using hheads.1
  have hline : x.line = y.line := by simpa [row, hdevice, toString] using h
  obtain ⟨device, line⟩ := x
  obtain ⟨device', line'⟩ := y
  rw [HistoryEntry.mk.injEq]
  exact ⟨hdevice, hline⟩

end HistoryEntry

namespace Network

/-- What keeps the rows of the reports apart: every name has a device, and every device is well
formed. -/
structure Legible (net : Network) : Prop where
  coherent : net.skeleton.Coherent
  wellFormed : net.WellFormed
  logged : net.Logged

variable {net other : Network}

namespace Legible

theorem device (h : net.Legible) {d : Device} (hd : d ∈ net.deviceList) : d.WellFormed :=
  h.wellFormed d.name d (device_of_mem h.coherent hd)

theorem isWord_name (h : net.Legible) {name : String} (hname : net.hasDevice name = true) :
    Text.IsWord name := by
  obtain ⟨d, hd⟩ := (hasDevice_iff_device h.coherent name).1 hname
  rw [← (device_name h.coherent hd).1]
  exact Text.isWord_of_name (h.wellFormed name d hd).name

theorem worded (h : net.Legible) {c : Connection} (hc : c ∈ net.connections) : c.Worded := by
  obtain ⟨hleft, hright, _⟩ := hasDevice_of_mem_connections h.coherent hc
  exact ⟨h.isWord_name hleft, h.isWord_name hright⟩

/-- The number of devices and the number of connections are those of the rows. -/
theorem topologyReport_eq (h : net.Legible) :
    net.topologyReport =
      s!"{net.deviceList.length} devices, {net.connections.length} connections" ::
        (net.deviceList.map Device.summary ++ net.connections.map Connection.row) := by
  rw [topologyReport, deviceCount_eq h.coherent, ← length_deviceList h.coherent,
    ← length_connections h.coherent]
  rfl

end Legible

theorem deviceCount_inj {m n k l : Nat}
    (h : s!"{m} devices, {n} connections" = s!"{k} devices, {l} connections") : m = k := by
  have hspaced : ∀ a b : Nat, s!"{a} devices, {b} connections" =
      Text.spaced [a.repr, "devices,", b.repr, "connections"] := by
    intro a b
    simp [Text.spaced, ← String.toList_inj, toString]
  have hsolid : ∀ a b : Nat, ∀ w ∈ [a.repr, "devices,", b.repr, "connections"], Text.Solid w := by
    have hnumber : ∀ a : Nat, Text.Solid a.repr := by
      intro a
      rw [Text.Solid, Nat.toList_repr]
      exact Text.notMem_toDigits (by decide) a
    have hdevices : Text.Solid "devices," := by simp [Text.Solid]
    have hconnections : Text.Solid "connections" := by simp [Text.Solid]
    simp [hnumber, hdevices, hconnections]
  rw [hspaced, hspaced] at h
  have hwords := Text.spaced_inj (hsolid m n) (hsolid k l) (by simp) (by simp) h
  exact Text.repr_inj (List.cons.inj hwords).1

theorem topologyReport_eq_iff (h : net.Legible) (h' : other.Legible) :
    net.topologyReport = other.topologyReport ↔
      net.deviceList.map Device.outline = other.deviceList.map Device.outline ∧
        net.connections = other.connections := by
  rw [h.topologyReport_eq, h'.topologyReport_eq]
  constructor
  · intro hreports
    obtain ⟨hcounts, hrows⟩ := List.cons.inj hreports
    -- The count in front says where the devices end.
    have hlength : (net.deviceList.map Device.summary).length =
        (other.deviceList.map Device.summary).length := by
      simpa using deviceCount_inj hcounts
    obtain ⟨hdevices, hconnections⟩ := List.append_inj hrows hlength
    constructor
    · exact map_eq_of_map_eq (fun d hd e he =>
        (Device.summary_eq_iff (h.device hd) (h'.device he)).1) hdevices
    · exact map_inj_of_mem (fun c hc d hd =>
        Connection.row_inj (h.worded hc) (h'.worded hd)) hconnections
  · rintro ⟨hdevices, hconnections⟩
    have hsummaries : net.deviceList.map Device.summary = other.deviceList.map Device.summary :=
      map_eq_of_map_eq (fun d hd e he =>
        (Device.summary_eq_iff (h.device hd) (h'.device he)).2) hdevices
    have hlength : net.deviceList.length = other.deviceList.length := by
      simpa using congrArg List.length hdevices
    rw [hsummaries, hconnections, hlength]

theorem historyReport_eq_iff (h : net.Legible) (h' : other.Legible) :
    net.historyReport = other.historyReport ↔ net.history = other.history := by
  constructor
  · intro hreports
    refine map_inj_of_mem (fun x hx y hy => ?_) hreports
    exact HistoryEntry.row_inj (h.isWord_name (h.logged.known x hx))
      (h'.isWord_name (h'.logged.known y hy))
  · intro hhistory
    rw [historyReport, historyReport, hhistory]

end Network
end NetworkConsole
