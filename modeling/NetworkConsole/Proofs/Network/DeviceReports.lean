import NetworkConsole.Proofs.Command.Normal
import NetworkConsole.Proofs.Network.Lines
import NetworkConsole.Proofs.Network.WellFormed
import NetworkConsole.Proofs.Routing.Config
import NetworkConsole.Proofs.Text.Column

/-! Reports on a device as faithful copies of its tables. A row is read by its words, and these are the
parts of what it shows; the notice of an empty table reads like no row. So two devices of one name have
the same report only if they have the same table. -/
namespace NetworkConsole

/-- What can be read off the images of members can be read off the lists of these images. -/
theorem map_eq_of_map_eq {α β γ : Type} {f : α → β} {g : α → γ} {xs ys : List α}
    (hread : ∀ x ∈ xs, ∀ y ∈ ys, f x = f y → g x = g y) (h : xs.map f = ys.map f) :
    xs.map g = ys.map g := by
  induction xs generalizing ys with
  | nil => rw [List.map_eq_nil_iff.1 h.symm]
  | cons x xs ih =>
    cases ys with
    | nil => cases h
    | cons y ys =>
      obtain ⟨hhead, htail⟩ := List.cons.inj h
      rw [List.map_cons, List.map_cons, hread x List.mem_cons_self y List.mem_cons_self hhead]
      rw [ih (fun a ha b hb => hread a (List.mem_cons_of_mem x ha) b (List.mem_cons_of_mem y hb)) htail]

theorem map_inj_of_mem {α β : Type} {f : α → β} {xs ys : List α}
    (hf : ∀ x ∈ xs, ∀ y ∈ ys, f x = f y → x = y) (h : xs.map f = ys.map f) : xs = ys := by
  simpa using map_eq_of_map_eq (g := id) hf h

namespace Text

theorem isWord_of_identifier {text : String} (h : IsWordWith identifierMarks text) :
    IsWord text :=
  isWord_of_all (fun _ => isBlank_of_isIdentifierChar) ((isIdentifier_iff text).2 h)

theorem isWord_of_name {text : String} (h : IsWordWith nameMarks text) : IsWord text := by
  obtain ⟨first, rest, htext, hfirst, hrest⟩ := h
  refine isWord_of_identifier ⟨first, rest, htext, hfirst, fun c hc => ?_⟩
  exact (hrest c hc).imp_right (List.mem_append_left _)

theorem solid_colon (n : UInt32) : Solid s!"{n}:" := by
  simpa [Solid, toString] using solid_number n

theorem colon_inj {m n : UInt32} (h : s!"{m}:" = s!"{n}:") : m = n := by
  refine number_inj ?_
  simpa [← String.toList_inj] using h

end Text

/-- A row for each entry under a header, or a notice where there are no entries. -/
def noticeOr (notice : String) (header rows : List String) : List String :=
  if rows = [] then [notice] else header ++ rows

section Notice
variable {notice : String} {header : List String}

theorem mem_noticeOr_iff {line : String} {rows : List String} (h : line ∉ header ++ rows) :
    line ∈ noticeOr notice header rows ↔ rows = [] ∧ line = notice := by
  rw [noticeOr]
  split <;> simp_all

/-- A table is read back from its rows, and from the notice if it has none. -/
theorem noticeOr_eq_iff {α : Type} {row : α → String} {xs ys : List α}
    (hrow : ∀ x ∈ xs, ∀ y ∈ ys, row x = row y → x = y) (hxs : notice ∉ header ++ xs.map row)
    (hys : notice ∉ header ++ ys.map row) :
    noticeOr notice header (xs.map row) = noticeOr notice header (ys.map row) ↔ xs = ys := by
  refine ⟨fun h => ?_, fun h => by rw [h]⟩
  have hempty : xs = [] ↔ ys = [] := by
    have hmem : notice ∈ noticeOr notice header (xs.map row) ↔ xs.map row = [] ∧ notice = notice :=
      mem_noticeOr_iff hxs
    rw [h, mem_noticeOr_iff hys] at hmem
    simpa using hmem.symm
  by_cases hnil : xs = []
  · rw [hnil, hempty.1 hnil]
  · have hnil' : ys ≠ [] := hempty.not.1 hnil
    rw [noticeOr, noticeOr, if_neg (by simpa using hnil), if_neg (by simpa using hnil')] at h
    exact map_inj_of_mem hrow (List.append_cancel_left h)

end Notice

namespace Device

theorem words_interfaceRow (name address mask : String) :
    Text.words (interfaceRow name address mask) =
      Text.words name ++ (Text.words address ++ Text.words mask) := by
  have hrow : interfaceRow name address mask =
      Text.padRight 16 name ++ " " ++ (Text.padRight 16 address ++ " " ++ mask) := by
    simp [interfaceRow, ← String.toList_inj, toString]
  rw [hrow, Text.words_append_space, Text.words_append_space, Text.words_padRight,
    Text.words_padRight]

/-- The row of an interface. -/
def rowOf (entry : String × Interface) : String :=
  interfaceRow entry.1 (toString entry.2.address) s!"{entry.2.mask} (/{entry.2.prefixLength})"

theorem words_rowOf {entry : String × Interface} (hname : Text.IsWord entry.1) :
    ∃ rest, Text.words (rowOf entry) =
      entry.1 :: entry.2.address.text :: entry.2.mask.text :: rest := by
  have hmask : s!"{entry.2.mask} (/{entry.2.prefixLength})" =
      toString entry.2.mask ++ " " ++ s!"(/{entry.2.prefixLength})" := by
    simp [← String.toList_inj, toString]
  have haddress : ∀ a : Address, Text.words (toString a) = [a.text] := fun a =>
    Text.words_of_isWord (Text.isWord_address a)
  rw [rowOf, words_interfaceRow, hmask, Text.words_append_space, Text.words_of_isWord hname,
    haddress, haddress]
  exact ⟨_, rfl⟩

theorem rowOf_inj {x y : String × Interface} (hx : Text.IsWord x.1) (hy : Text.IsWord y.1)
    (h : rowOf x = rowOf y) : x = y := by
  obtain ⟨_, hxwords⟩ := words_rowOf hx
  obtain ⟨_, hywords⟩ := words_rowOf hy
  have hwords := hxwords.symm.trans (h ▸ hywords)
  obtain ⟨name, address, mask⟩ := x
  obtain ⟨name', address', mask'⟩ := y
  simp only [List.cons.injEq] at hwords
  obtain ⟨rfl, haddress, hmask, _⟩ := hwords
  rw [Address.text_inj haddress, Address.text_inj hmask]

/-- The names of the interfaces are words. -/
def WordedInterfaces (d : Device) : Prop := ∀ entry ∈ d.interfaces.entries, Text.IsWord entry.1

theorem WellFormed.wordedInterfaces {d : Device} (h : d.WellFormed) : d.WordedInterfaces := by
  rintro ⟨name, interface⟩ hentry
  have hget : d.interface? name = some interface := (d.interfaces.mem_entries_iff _ _).1 hentry
  exact Text.isWord_of_identifier (h.interfaces name interface hget).1

theorem interfaceReport_eq (d : Device) :
    d.interfaceReport =
      noticeOr s!"No interfaces configured on {d.name}"
        [interfaceRow "Interface" "IP-Address" "Mask"] (d.interfaces.entries.map rowOf) := by
  have hempty : d.interfaces.isEmpty = true ↔ d.interfaces.entries.map rowOf = [] := by
    simp [KeyedTable.isEmpty]
  rw [interfaceReport, noticeOr]
  exact if_congr hempty rfl rfl

/-- An interface may have the name `No`. But the second word of a row is an address. -/
theorem interfaceNotice_notMem {d : Device} (h : d.WordedInterfaces) (subject : String) :
    s!"No interfaces configured on {subject}" ∉
      [interfaceRow "Interface" "IP-Address" "Mask"] ++ d.interfaces.entries.map rowOf := by
  have htext : s!"No interfaces configured on {subject}" =
      "No" ++ " " ++ ("interfaces" ++ " " ++ s!"configured on {subject}") := by
    simp [← String.toList_inj, toString]
  have hnotice : Text.words s!"No interfaces configured on {subject}" =
      "No" :: "interfaces" :: Text.words s!"configured on {subject}" := by
    rw [htext, Text.words_append_space, Text.words_append_space, Text.words_of_isWord (by decide),
      Text.words_of_isWord (by decide)]
    rfl
  rw [List.singleton_append, List.mem_cons, List.mem_map, not_or]
  refine ⟨fun hheader => ?_, ?_⟩
  · rw [hheader, words_interfaceRow, Text.words_of_isWord (by decide),
      Text.words_of_isWord (by decide)] at hnotice
    simp at hnotice
  · rintro ⟨entry, hentry, hrow⟩
    obtain ⟨_, hwords⟩ := words_rowOf (h entry hentry)
    rw [hrow, hnotice] at hwords
    simp only [List.cons.injEq] at hwords
    have hletter : 'i' ∉ entry.2.address.text.toList :=
      Address.notMem_text (by decide) (by decide) _
    rw [← hwords.2.1] at hletter
    exact hletter (by decide)

theorem mem_interfaceReport_iff {d : Device} (h : d.WordedInterfaces) (subject : String) :
    s!"No interfaces configured on {subject}" ∈ d.interfaceReport ↔
      d.interfaces.entries = [] ∧ subject = d.name := by
  rw [interfaceReport_eq, mem_noticeOr_iff (interfaceNotice_notMem h subject), List.map_eq_nil_iff]
  simp [toString]

theorem interfaceReport_eq_iff {d e : Device} (hd : d.WordedInterfaces) (he : e.WordedInterfaces)
    (hname : d.name = e.name) :
    d.interfaceReport = e.interfaceReport ↔ d.interfaces = e.interfaces := by
  rw [interfaceReport_eq, interfaceReport_eq, ← hname, KeyedTable.ext_iff]
  exact noticeOr_eq_iff (fun x hx y hy => rowOf_inj (hd x hx) (he y hy))
    (interfaceNotice_notMem hd d.name) (interfaceNotice_notMem he d.name)

end Device

namespace Routing.Statement

/-- The words before the line of a listed statement. -/
def label : Statement → List String
  | .ospf process .. => ["ospf", s!"{process}:"]
  | .eigrp system .. => ["eigrp", s!"{system}:"]
  | .rip _ => ["rip:"]

theorem text_eq (statement : Statement) :
    toString statement = Text.spaced (statement.label ++ statement.words) := by
  cases statement <;> simp [toString, text, label, words, Text.spaced, ← String.toList_inj]

theorem solid_label (statement : Statement) : ∀ w ∈ statement.label, Text.Solid w := by
  have hospf : Text.Solid "ospf" := by simp [Text.Solid]
  have heigrp : Text.Solid "eigrp" := by simp [Text.Solid]
  have hrip : Text.Solid "rip:" := by simp [Text.Solid]
  cases statement <;> simp [label, hospf, heigrp, hrip, Text.solid_colon]

theorem label_append_inj {x y : Statement} (h : x.label ++ x.words = y.label ++ y.words) :
    x.label = y.label ∧ x.words = y.words := by
  cases x <;> cases y <;> simp_all [label, words]

theorem header_of_label {x y : Statement} (h : x.label = y.label) : x.header = y.header := by
  cases x <;> cases y <;> simp_all [label, header, ← String.toList_inj, toString]

theorem text_inj {x y : Statement} (h : toString x = toString y) : x = y := by
  have hsolid : ∀ z : Statement, ∀ w ∈ z.label ++ z.words, Text.Solid w := fun z =>
    List.forall_mem_append.2 ⟨z.solid_label, z.solid_words⟩
  have hne : ∀ z : Statement, z.label ++ z.words ≠ [] := by
    intro z
    cases z <;> simp [label]
  rw [text_eq, text_eq] at h
  have hwords := Text.spaced_inj (hsolid x) (hsolid y) (hne x) (hne y) h
  obtain ⟨hlabel, hline⟩ := label_append_inj hwords
  refine eq_of_lines (header_of_label hlabel) ?_
  rw [networkLine_eq, networkLine_eq, hline]

end Routing.Statement

namespace Routing.Config

theorem filter_ofProtocol (config : Config) (protocol other : Protocol) :
    (config.ofProtocol protocol).filter (·.protocol = other) =
      if protocol = other then config.ofProtocol protocol else [] := by
  split
  · next hsame =>
    rw [List.filter_eq_self]
    intro statement hmem
    simp [((config.mem_ofProtocol_iff protocol statement).1 hmem).2, hsame]
  · next hother =>
    rw [List.filter_eq_nil_iff]
    intro statement hmem
    simp [((config.mem_ofProtocol_iff protocol statement).1 hmem).2, hother]

theorem filter_listing (config : Config) (protocol : Protocol) :
    config.listing.filter (·.protocol = protocol) = config.ofProtocol protocol := by
  cases protocol <;> simp [listing, Protocol.all, List.filter_append, filter_ofProtocol]

/-- The listing is as good as the lists of the protocols. -/
theorem listing_eq_iff (config other : Config) :
    config.listing = other.listing ↔
      ∀ protocol, config.ofProtocol protocol = other.ofProtocol protocol := by
  constructor
  · intro h protocol
    rw [← config.filter_listing, h, other.filter_listing]
  · intro h
    rw [listing, listing, funext h]

end Routing.Config

namespace Device

theorem routingReport_eq (d : Device) :
    d.routingReport =
      noticeOr s!"No routing protocols configured on {d.name}" []
        (d.routing.listing.map toString) := by
  rw [routingReport, noticeOr, List.nil_append]
  exact if_congr (by rw [Routing.Config.isEmpty_iff_listing, List.map_eq_nil_iff]) rfl rfl

theorem routingNotice_notMem (d : Device) (subject : String) :
    s!"No routing protocols configured on {subject}" ∉ [] ++ d.routing.listing.map toString := by
  rw [List.nil_append, List.mem_map]
  rintro ⟨statement, _, htext⟩
  exact statement.text_ne_notice subject htext

theorem mem_routingReport_iff (d : Device) (subject : String) :
    s!"No routing protocols configured on {subject}" ∈ d.routingReport ↔
      (∀ protocol, d.routing.ofProtocol protocol = []) ∧ subject = d.name := by
  rw [routingReport_eq, mem_noticeOr_iff (d.routingNotice_notMem subject), List.map_eq_nil_iff,
    Routing.Config.listing, List.flatMap_eq_nil_iff]
  simp [Routing.Protocol.mem_all, toString]

theorem routingReport_eq_iff {d e : Device} (hname : d.name = e.name) :
    d.routingReport = e.routingReport ↔
      ∀ protocol, d.routing.ofProtocol protocol = e.routing.ofProtocol protocol := by
  rw [← Routing.Config.listing_eq_iff, routingReport_eq, routingReport_eq, ← hname]
  exact noticeOr_eq_iff (fun x _ y _ => Routing.Statement.text_inj)
    (d.routingNotice_notMem d.name) (e.routingNotice_notMem d.name)

end Device

namespace AccessList.Rule

/-- The words of the row of a rule. -/
def columns (rule : Rule) : List String :=
  "access-list" :: toString rule.number :: "seq" :: s!"{rule.sequence}:" :: toString rule.action ::
    rule.entry.words

theorem row_eq (rule : Rule) : s!"access-list {rule}" = Text.spaced rule.columns := by
  obtain ⟨number, sequence, action, entry⟩ := rule
  cases entry <;>
    simp [columns, Entry.words, Entry.text, text, Text.spaced, ← String.toList_inj, toString]

theorem solid_columns (rule : Rule) : ∀ w ∈ rule.columns, Text.Solid w := by
  have haccess : Text.Solid "access-list" := by simp [Text.Solid]
  have hseq : Text.Solid "seq" := by simp [Text.Solid]
  have hcolon : Text.Solid s!"{rule.sequence}:" := Text.solid_colon rule.sequence
  have hline := rule.solid_words
  simp only [Rule.words, List.forall_mem_cons] at hline
  simp only [columns, List.forall_mem_cons]
  exact ⟨haccess, hline.2.1, hseq, hcolon, hline.2.2⟩

theorem row_inj {x y : Rule} (h : s!"access-list {x}" = s!"access-list {y}") : x = y := by
  rw [row_eq, row_eq] at h
  have hwords :=
    Text.spaced_inj x.solid_columns y.solid_columns (by simp [columns]) (by simp [columns]) h
  simp only [columns, List.cons.injEq, true_and] at hwords
  obtain ⟨hnumber, hsequence, haction, hentry⟩ := hwords
  obtain ⟨number, sequence, action, entry⟩ := x
  obtain ⟨number', sequence', action', entry'⟩ := y
  rw [Rule.mk.injEq]
  exact ⟨Text.number_inj hnumber, Text.colon_inj hsequence, Action.spelling_inj haction,
    Entry.words_inj hentry⟩

end AccessList.Rule

namespace Device

theorem accessReport_eq (d : Device) :
    d.accessReport =
      noticeOr s!"No access lists configured on {d.name}" []
        (d.rules.map fun rule => s!"access-list {rule}") := by
  rw [accessReport, noticeOr, List.nil_append]
  exact if_congr (by rw [List.isEmpty_iff, List.map_eq_nil_iff]) rfl rfl

theorem accessNotice_notMem (d : Device) (subject : String) :
    s!"No access lists configured on {subject}" ∉
      [] ++ d.rules.map fun rule => s!"access-list {rule}" := by
  rw [List.nil_append, List.mem_map]
  rintro ⟨rule, _, htext⟩
  simp [← String.toList_inj, toString] at htext

theorem mem_accessReport_iff (d : Device) (subject : String) :
    s!"No access lists configured on {subject}" ∈ d.accessReport ↔
      d.rules = [] ∧ subject = d.name := by
  rw [accessReport_eq, mem_noticeOr_iff (d.accessNotice_notMem subject), List.map_eq_nil_iff]
  simp [toString]

theorem accessReport_eq_iff {d e : Device} (hname : d.name = e.name) :
    d.accessReport = e.accessReport ↔ d.rules = e.rules := by
  rw [accessReport_eq, accessReport_eq, ← hname]
  exact noticeOr_eq_iff (fun x _ y _ => AccessList.Rule.row_inj)
    (d.accessNotice_notMem d.name) (e.accessNotice_notMem d.name)

end Device
end NetworkConsole
