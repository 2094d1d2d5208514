import NetworkConsole.Proofs.Network.Setting
import NetworkConsole.Proofs.Text.Spelling

/-! Generated lines determine what they were generated for, where the context says which kind of line
it is: the words of a line are the spellings of its parts. -/
namespace NetworkConsole

namespace Routing.Statement

def words : Statement → List String
  | .ospf _ network wildcard area =>
    ["network", network.text, wildcard.text, "area", toString area]
  | .eigrp _ network wildcard => ["network", network.text, wildcard.text]
  | .rip network => ["network", network.text]

theorem networkLine_eq (statement : Statement) :
    statement.networkLine = Text.spaced statement.words := by
  cases statement <;>
    simp [networkLine, words, Text.spaced, ← String.toList_inj, toString]

theorem solid_words (statement : Statement) : ∀ w ∈ statement.words, Text.Solid w := by
  have hnetwork : Text.Solid "network" := by simp [Text.Solid]
  have harea : Text.Solid "area" := by simp [Text.Solid]
  cases statement <;> simp [words, hnetwork, harea, Address.solid_text, Text.solid_number]

theorem words_inj {x y : Statement} (h : x.networkLine = y.networkLine) : x.words = y.words := by
  have hne : ∀ z : Statement, z.words ≠ [] := by
    intro z
    cases z <;> simp [words]
  rw [networkLine_eq, networkLine_eq] at h
  exact Text.spaced_inj x.solid_words y.solid_words (hne x) (hne y) h

/-- The header says the protocol and the process, the line below it the rest. -/
theorem eq_of_lines {x y : Statement} (hheader : x.header = y.header)
    (hline : x.networkLine = y.networkLine) : x = y := by
  have hwords := words_inj hline
  cases x with
  | ospf process network wildcard area =>
    cases y with
    | ospf process' network' wildcard' area' =>
      simp only [header, List.cons.injEq, and_true, String.append_right_inj] at hheader
      simp only [words, List.cons.injEq, and_true, true_and] at hwords
      obtain ⟨hnetwork, hwildcard, harea⟩ := hwords
      rw [Text.number_inj hheader, Address.text_inj hnetwork, Address.text_inj hwildcard,
        Text.number_inj harea]
    | eigrp | rip => simp [header, ← String.toList_inj, toString] at hheader
  | eigrp system network wildcard =>
    cases y with
    | eigrp system' network' wildcard' =>
      simp only [header, List.cons.injEq, and_true, String.append_right_inj] at hheader
      simp only [words, List.cons.injEq, and_true, true_and] at hwords
      rw [Text.number_inj hheader, Address.text_inj hwords.1, Address.text_inj hwords.2]
    | ospf | rip => simp [header, ← String.toList_inj, toString] at hheader
  | rip network =>
    cases y with
    | rip network' =>
      simp only [words, List.cons.injEq, and_true, true_and] at hwords
      rw [Address.text_inj hwords]
    | ospf | eigrp => simp [header, ← String.toList_inj, toString] at hheader

end Routing.Statement

namespace AccessList

def Entry.words : Entry → List String
  | .standard source wildcard => [source.text, wildcard.text]
  | .extended protocol source sourceWildcard destination destinationWildcard =>
    [toString protocol, source.text, sourceWildcard.text, destination.text,
      destinationWildcard.text]

def Rule.words (rule : Rule) : List String :=
  "access-list" :: toString rule.number :: toString rule.action :: rule.entry.words

theorem Entry.words_inj {x y : Entry} (h : x.words = y.words) : x = y := by
  cases x with
  | standard source wildcard =>
    cases y with
    | standard source' wildcard' =>
      simp only [words, List.cons.injEq, and_true] at h
      rw [Address.text_inj h.1, Address.text_inj h.2]
    | extended => simp [words] at h
  | extended protocol source sourceWildcard destination destinationWildcard =>
    cases y with
    | standard => simp [words] at h
    | extended protocol' source' sourceWildcard' destination' destinationWildcard' =>
      simp only [words, List.cons.injEq, and_true] at h
      obtain ⟨hprotocol, hsource, hsourceWildcard, hdestination, hdestinationWildcard⟩ := h
      rw [Protocol.spelling_inj hprotocol, Address.text_inj hsource,
        Address.text_inj hsourceWildcard, Address.text_inj hdestination,
        Address.text_inj hdestinationWildcard]

theorem Rule.line_eq (rule : Rule) : rule.line = Text.spaced rule.words := by
  obtain ⟨number, sequence, action, entry⟩ := rule
  unfold line
  cases entry <;>
    simp [words, Entry.words, Entry.text, Text.spaced, ← String.toList_inj, toString]

theorem Rule.solid_words (rule : Rule) : ∀ w ∈ rule.words, Text.Solid w := by
  have haccess : Text.Solid "access-list" := by simp [Text.Solid]
  obtain ⟨number, sequence, action, entry⟩ := rule
  cases entry <;>
    simp [words, Entry.words, haccess, Address.solid_text, Text.solid_number, Action.solid,
      Protocol.solid]

/-- The line of a rule says all but its sequence number. -/
theorem Rule.eq_of_line {x y : Rule} (h : x.line = y.line) :
    x.number = y.number ∧ x.action = y.action ∧ x.entry = y.entry := by
  rw [line_eq, line_eq] at h
  have hwords := Text.spaced_inj x.solid_words y.solid_words (by simp [words]) (by simp [words]) h
  simp only [words, List.cons.injEq, true_and] at hwords
  obtain ⟨hnumber, haction, hentry⟩ := hwords
  exact ⟨Text.number_inj hnumber, Action.spelling_inj haction, Entry.words_inj hentry⟩

end AccessList

/-- The second line of an interface says its address and its mask. -/
theorem Interface.eq_of_line {address mask other otherMask : Address}
    (h : s!"ip address {address} {mask}" = s!"ip address {other} {otherMask}") :
    address = other ∧ mask = otherMask := by
  have hspaced : ∀ a m : Address,
      s!"ip address {a} {m}" = Text.spaced ["ip", "address", a.text, m.text] := by
    intro a m
    simp [Text.spaced, ← String.toList_inj, toString]
  have hsolid : ∀ a m : Address, ∀ w ∈ ["ip", "address", a.text, m.text], Text.Solid w := by
    have hip : Text.Solid "ip" := by simp [Text.Solid]
    have haddress : Text.Solid "address" := by simp [Text.Solid]
    simp [hip, haddress, Address.solid_text]
  rw [hspaced, hspaced] at h
  have hwords := Text.spaced_inj (hsolid _ _) (hsolid _ _) (by simp) (by simp) h
  simp only [List.cons.injEq, and_true, true_and] at hwords
  exact ⟨Address.text_inj hwords.1, Address.text_inj hwords.2⟩

end NetworkConsole
