import NetworkConsole.Network.Report
import NetworkConsole.Proofs.Network.WellFormed
import NetworkConsole.Proofs.Text.Spelling

/-! Generated lines are single lines. The words that users choose are names and identifiers, and what
else a line is made of are keywords, numbers and addresses. -/
namespace NetworkConsole

namespace Text

/-- The text has no line feed. -/
def OneLine (text : String) : Prop := '\n' ∉ text.toList

instance (text : String) : Decidable (OneLine text) := inferInstanceAs (Decidable (_ ∉ _))

@[simp] theorem oneLine_append (x y : String) : OneLine (x ++ y) ↔ OneLine x ∧ OneLine y := by
  simp [OneLine]

@[simp] theorem oneLine_toString (text : String) : OneLine (toString text) ↔ OneLine text := Iff.rfl

theorem IsWordWith.notMem {marks : List Char} {text : String} (h : IsWordWith marks text) {c : Char}
    (hc : c.isAlphanum = false) (hmark : c ∉ marks) : c ∉ text.toList := by
  obtain ⟨first, rest, htext, hfirst, hrest⟩ := h
  rw [htext, List.mem_cons, not_or]
  constructor
  · rintro rfl
    rw [hc] at hfirst
    cases hfirst
  · intro hmem
    obtain halphanum | hmem := hrest c hmem
    · rw [hc] at halphanum
      cases halphanum
    · exact hmark hmem

theorem oneLine_name {text : String} (h : isName text = true) : OneLine text :=
  ((isName_iff text).1 h).notMem (by decide) (by decide)

theorem oneLine_identifier {text : String} (h : isIdentifier text = true) : OneLine text :=
  ((isIdentifier_iff text).1 h).notMem (by decide) (by decide)

@[simp] theorem oneLine_number (n : UInt32) : OneLine (toString n) := notMem_number (by decide) n

@[simp] theorem oneLine_address (address : Address) : OneLine (toString address) :=
  address.notMem_text (by decide) (by decide)

end Text

namespace Routing

theorem Statement.oneLine_lines (statement : Statement) :
    ∀ line ∈ statement.lines, Text.OneLine line := by
  cases statement <;> simp +decide [lines, header, networkLine]

theorem Config.oneLine_linesFor (config : Config) (statement : Statement) :
    ∀ line ∈ config.linesFor statement, Text.OneLine line := by
  have hlines := statement.oneLine_lines
  rw [linesFor]
  split
  · intro line hline
    exact hlines line (List.mem_append_right _ hline)
  · exact hlines

end Routing

namespace AccessList

theorem Entry.oneLine_text (entry : Entry) : Text.OneLine entry.text := by
  have hprotocol : ∀ p : Protocol, Text.OneLine (toString p) := by
    intro p
    cases p <;> decide
  cases entry <;> simp +decide [text, hprotocol]

theorem Rule.oneLine_line (rule : Rule) : Text.OneLine rule.line := by
  have haction : Text.OneLine (toString rule.action) := by cases rule.action <;> decide
  have hentry : Text.OneLine (toString rule.entry) := rule.entry.oneLine_text
  have hline : Text.OneLine s!"access-list {rule.number} {rule.action} {rule.entry}" := by
    simp +decide [haction, hentry]
  exact hline

end AccessList

namespace Device

theorem oneLine_linesFor {d : Device} {setting : Setting} (hfits : setting.Fits d) :
    ∀ line ∈ d.linesFor setting, Text.OneLine line := by
  cases setting with
  | interface name address mask =>
    simp +decide [linesFor, Text.oneLine_identifier hfits.1]
  | hostname given => simp +decide [linesFor, Text.oneLine_name hfits]
  | statement statement => exact d.routing.oneLine_linesFor statement
  | rule number action entry =>
    intro line hline
    obtain rfl := List.mem_singleton.1 hline
    exact AccessList.Rule.oneLine_line _

/-- No line of the log is broken. -/
def Unbroken (d : Device) : Prop := ∀ line ∈ d.cli, Text.OneLine line

theorem kept_unbroken : Kept Unbroken where
  blank := by
    intro name _ id kind line hline
    cases hline
  configure := by
    intro d h setting hfits line hline
    obtain hold | hnew := List.mem_append.1 hline
    · exact h line hold
    · exact oneLine_linesFor hfits line hnew
  forget := by
    intro d _ line hline
    cases hline

theorem oneLine_cliReport {d : Device} (hwellFormed : d.WellFormed) (h : d.Unbroken) :
    ∀ line ∈ d.cliReport, Text.OneLine line := by
  intro line hline
  obtain rfl | hlog := List.mem_cons.1 hline
  · have hhostname : Text.OneLine d.hostname := hwellFormed.hostname.notMem (by decide) (by decide)
    have hkind : Text.OneLine (toString d.kind) := by cases d.kind <;> decide
    simp +decide [hhostname, hkind]
  · exact h line hlog

end Device
end NetworkConsole
