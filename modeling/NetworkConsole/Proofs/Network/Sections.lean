import NetworkConsole.Proofs.Network.Chronicle

/-! Sections of a log. A line that starts with `interface` or `router` opens a section, and an address
or a network below it belongs to this section until the next one is opened. Every line is compared
with the setting that generated it. -/
namespace NetworkConsole

/-- What a line means to a reader who goes through a log from its first line on. -/
inductive LineSort where
  | opening
  /-- The line stands for something only together with the section that is open. -/
  | subcommand
  | other
  deriving DecidableEq

namespace Text

def startsWith (start text : String) : Bool := start.toList.isPrefixOf text.toList

def lineSort (line : String) : LineSort :=
  if startsWith "interface " line || startsWith "router " line then .opening
  else if startsWith "ip address " line || startsWith "network " line then .subcommand
  else .other

theorem lineSort_interface (name : String) : lineSort s!"interface {name}" = .opening := by
  simp [lineSort, startsWith, List.isPrefixOf, toString]

theorem lineSort_address (address mask : Address) :
    lineSort s!"ip address {address} {mask}" = .subcommand := by
  simp [lineSort, startsWith, List.isPrefixOf, toString]

theorem lineSort_hostname (hostname : String) : lineSort s!"hostname {hostname}" = .other := by
  simp [lineSort, startsWith, List.isPrefixOf, toString]

theorem lineSort_rule (rule : AccessList.Rule) : lineSort rule.line = .other := by
  unfold AccessList.Rule.line
  simp [lineSort, startsWith, List.isPrefixOf, toString]

theorem lineSort_network (statement : Routing.Statement) :
    lineSort statement.networkLine = .subcommand := by
  cases statement <;>
    simp [Routing.Statement.networkLine, lineSort, startsWith, List.isPrefixOf, toString]

theorem header_eq (statement : Routing.Statement) :
    ∃ opening middle, statement.header = opening :: middle ∧ lineSort opening = .opening ∧
      ∀ line ∈ middle, lineSort line = .other := by
  cases statement <;>
    refine ⟨_, _, rfl, ?_⟩ <;> simp [lineSort, startsWith, List.isPrefixOf, toString]

/-- The line that opened the section at the end of some lines. -/
def sectionAfter (lines : List String) : Option String :=
  (lines.filter fun line => lineSort line = .opening).getLast?

theorem sectionAfter_concat (lines : List String) (line : String) :
    sectionAfter (lines ++ [line]) =
      if lineSort line = .opening then some line else sectionAfter lines := by
  rw [sectionAfter, List.filter_append]
  split
  · next hopens => simp [hopens]
  · next hopens => simp [hopens, sectionAfter]

end Text

/-- The line that opens the section of a setting; hostnames and rules stand in none. -/
def Setting.header? : Setting → Option String
  | .interface name _ _ => some s!"interface {name}"
  | .statement added => added.header.head?
  | .hostname _ | .rule .. => none

def Setting.IsRip : Setting → Prop
  | .statement added => added.protocol = .rip
  | .interface .. | .hostname _ | .rule .. => False

theorem Setting.header?_eq_rip_iff (setting : Setting) :
    setting.header? = some "router rip" ↔ setting.IsRip := by
  cases setting with
  | interface name address mask =>
    have hne : s!"interface {name}" ≠ "router rip" := by
      intro heq
      simpa [toString] using congrArg (·.toList.head?) heq
    simp [header?, IsRip, hne]
  | hostname | rule => simp [header?, IsRip]
  | statement added =>
    cases added <;>
      simp [header?, IsRip, Routing.Statement.header, Routing.Statement.protocol,
        ← String.toList_inj, toString]

/-- A line of a log with the setting that generated it. -/
structure Generated where
  line : String
  source : Setting
  deriving DecidableEq

namespace Generated

/-- The lines of a log, without their sources. -/
def lines (log : List Generated) : List String := log.map Generated.line

/-- Every subcommand of the given settings stands in the section of its setting, where the log is
read from its first line on. -/
def InSections (settings : Setting → Prop) (log : List Generated) : Prop :=
  ∀ i entry, log[i]? = some entry → settings entry.source →
    Text.lineSort entry.line = .subcommand →
      Text.sectionAfter (lines (log.take i)) = entry.source.header?

variable {settings : Setting → Prop}

theorem lines_concat (log : List Generated) (entry : Generated) :
    lines (log ++ [entry]) = lines log ++ [entry.line] := by
  simp [lines]

theorem inSections_nil : InSections settings [] := by
  intro i entry hentry
  simp at hentry

theorem inSections_concat (log : List Generated) (entry : Generated) :
    InSections settings (log ++ [entry]) ↔
      InSections settings log ∧
        (settings entry.source → Text.lineSort entry.line = .subcommand →
          Text.sectionAfter (lines log) = entry.source.header?) := by
  constructor
  · intro h
    constructor
    · intro i old hold
      have hi : i < log.length := (List.getElem?_eq_some_iff.1 hold).1
      have htake : (log ++ [entry]).take i = log.take i :=
        List.take_append_of_le_length (Nat.le_of_lt hi)
      have hsame := h i old (by rw [List.getElem?_append_left hi, hold])
      rwa [htake] at hsame
    · have hlast := h log.length entry (by simp)
      rwa [List.take_left] at hlast
  · intro h i found hfound
    by_cases hi : i < log.length
    · rw [List.getElem?_append_left hi] at hfound
      rw [List.take_append_of_le_length (Nat.le_of_lt hi)]
      exact h.1 i found hfound
    · have hlt := (List.getElem?_eq_some_iff.1 hfound).1
      have hlast : i = log.length := by
        rw [List.length_append, List.length_singleton] at hlt
        omega
      subst hlast
      obtain rfl : entry = found := by simpa using hfound
      rw [List.take_left]
      exact h.2

/-- Lines of no section change nothing for the reader. -/
theorem inSections_others (log : List Generated) (source : Setting) {others : List String}
    (hothers : ∀ line ∈ others, Text.lineSort line = .other) :
    (InSections settings (log ++ others.map (⟨·, source⟩)) ↔ InSections settings log) ∧
      Text.sectionAfter (lines (log ++ others.map (⟨·, source⟩))) =
        Text.sectionAfter (lines log) := by
  induction others generalizing log with
  | nil => simp
  | cons line rest ih =>
    have hline : Text.lineSort line = .other := hothers line (by simp)
    obtain ⟨hin, hafter⟩ :=
      ih (log ++ [⟨line, source⟩]) fun other hother => hothers other (by simp [hother])
    rw [List.map_cons, List.append_cons, hin, hafter, inSections_concat, lines_concat,
      Text.sectionAfter_concat]
    simp [hline]

/-- Lines that open their section and have their subcommand at the end are in place anywhere. -/
theorem inSections_block (log : List Generated) {source : Setting} {opening subcommand : String}
    {middle : List String} (hheader : source.header? = some opening)
    (hopening : Text.lineSort opening = .opening)
    (hmiddle : ∀ line ∈ middle, Text.lineSort line = .other)
    (hsubcommand : Text.lineSort subcommand = .subcommand) :
    (InSections settings (log ++ (opening :: middle ++ [subcommand]).map (⟨·, source⟩)) ↔
        InSections settings log) ∧
      Text.sectionAfter (lines (log ++ (opening :: middle ++ [subcommand]).map (⟨·, source⟩))) =
        some opening := by
  obtain ⟨hin, hafter⟩ :=
    @inSections_others settings (log ++ [⟨opening, source⟩]) source middle hmiddle
  have hopened : Text.sectionAfter (lines (log ++ [⟨opening, source⟩])) = some opening := by
    rw [lines_concat, Text.sectionAfter_concat, if_pos hopening]
  rw [hopened] at hafter
  rw [List.map_append, List.map_cons, List.cons_append, List.append_cons, ← List.append_assoc,
    List.map_singleton, inSections_concat, hin, inSections_concat, lines_concat,
    Text.sectionAfter_concat, hafter]
  simp [hopening, hsubcommand, hheader]

end Generated

namespace Device

/-- The setting is a RIP statement, and its header was generated with an earlier one. -/
def ContinuesRip (d : Device) (setting : Setting) : Prop :=
  setting.IsRip ∧ d.routing.ofProtocol .rip ≠ []

/-- A setting generates lines of no section, or its header and a subcommand below it, or the
subcommand alone. -/
theorem linesFor_cases (d : Device) (setting : Setting) :
    (setting.header? = none ∧ ∀ line ∈ d.linesFor setting, Text.lineSort line = .other) ∨
      (¬ d.ContinuesRip setting ∧ ∃ opening middle subcommand,
        d.linesFor setting = opening :: middle ++ [subcommand] ∧
          setting.header? = some opening ∧ Text.lineSort opening = .opening ∧
          (∀ line ∈ middle, Text.lineSort line = .other) ∧
          Text.lineSort subcommand = .subcommand) ∨
      (d.ContinuesRip setting ∧ ∃ subcommand, d.linesFor setting = [subcommand] ∧
        Text.lineSort subcommand = .subcommand) := by
  cases setting with
  | interface name address mask =>
    refine .inr (.inl ⟨fun h => h.1, _, [], _, rfl, rfl, Text.lineSort_interface name, ?_,
      Text.lineSort_address address mask⟩)
    simp
  | hostname hostname =>
    refine .inl ⟨rfl, fun line hline => ?_⟩
    obtain rfl := List.mem_singleton.1 hline
    exact Text.lineSort_hostname hostname
  | statement statement =>
    rw [linesFor, Routing.Config.linesFor]
    split
    · next hrip =>
      exact .inr (.inr ⟨hrip, statement.networkLine, rfl, Text.lineSort_network statement⟩)
    · next hrip =>
      obtain ⟨opening, middle, hheader, hopening, hmiddle⟩ := Text.header_eq statement
      refine .inr (.inl ⟨hrip, opening, middle, statement.networkLine, ?_, ?_, hopening, hmiddle,
        Text.lineSort_network statement⟩)
      · rw [Routing.Statement.lines, hheader]
      · rw [Setting.header?, hheader, List.head?_cons]
  | rule number action entry =>
    refine .inl ⟨rfl, fun line hline => ?_⟩
    obtain rfl := List.mem_singleton.1 hline
    exact Text.lineSort_rule _

/-- The lines that a setting generates on the device. -/
def generated (d : Device) (setting : Setting) : List Generated :=
  (d.linesFor setting).map (⟨·, setting⟩)

variable {settings : Setting → Prop}

/-- Only a RIP statement without its header depends on the section that is open. -/
theorem inSections_generated (d : Device) (setting : Setting) (log : List Generated) :
    Generated.InSections settings (log ++ d.generated setting) ↔
      Generated.InSections settings log ∧
        (settings setting → d.ContinuesRip setting →
          Text.sectionAfter (Generated.lines log) = setting.header?) := by
  rw [generated]
  obtain ⟨hheader, hothers⟩ | ⟨hcontinues, opening, middle, subcommand, hlines, hheader, hopening,
    hmiddle, hsubcommand⟩ | ⟨hcontinues, subcommand, hlines, hsubcommand⟩ :=
    d.linesFor_cases setting
  · rw [(Generated.inSections_others log setting hothers).1]
    have hcontinues : ¬ d.ContinuesRip setting := by
      intro h
      simp [(Setting.header?_eq_rip_iff setting).2 h.1] at hheader
    simp [hcontinues]
  · rw [hlines, (Generated.inSections_block log hheader hopening hmiddle hsubcommand).1]
    simp [hcontinues]
  · rw [hlines, List.map_singleton, Generated.inSections_concat]
    simp [hcontinues, hsubcommand]

theorem sectionAfter_generated (d : Device) (setting : Setting) (log : List Generated) :
    (d.ContinuesRip setting →
      Text.sectionAfter (Generated.lines (log ++ d.generated setting)) =
        Text.sectionAfter (Generated.lines log)) ∧
    (¬ d.ContinuesRip setting →
      Text.sectionAfter (Generated.lines (log ++ d.generated setting)) =
        setting.header?.or (Text.sectionAfter (Generated.lines log))) := by
  rw [generated]
  obtain ⟨hheader, hothers⟩ | ⟨hcontinues, opening, middle, subcommand, hlines, hheader, hopening,
    hmiddle, hsubcommand⟩ | ⟨hcontinues, subcommand, hlines, hsubcommand⟩ :=
    d.linesFor_cases setting
  · rw [(@Generated.inSections_others (fun _ => True) log setting _ hothers).2, hheader]
    simp
  · rw [hlines,
      (@Generated.inSections_block (fun _ => True) log _ _ _ _ hheader hopening hmiddle
        hsubcommand).2, hheader]
    simp [hcontinues]
  · rw [hlines, List.map_singleton, Generated.lines_concat, Text.sectionAfter_concat]
    simp [hcontinues, hsubcommand]

end Device
end NetworkConsole
