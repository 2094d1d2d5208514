import NetworkConsole.Network.Report
import NetworkConsole.Proofs.Table

/-! Routing configurations as ordered sets. Adding statements one after the other to an empty
configuration keeps the first occurrence of each; the listing groups them by protocol, and as every
statement has one of the listed protocols, nothing is left out of it. A map from protocols to groups of
statements that never makes an empty group gives the same answers. -/
namespace NetworkConsole
namespace Routing

theorem Protocol.mem_all (protocol : Protocol) : protocol ∈ Protocol.all := by
  cases protocol <;> decide

namespace Config

/-- The configuration with the statement; one that has it already stays as it is. -/
def insert (config : Config) (statement : Statement) : Config :=
  (config.add? statement).getD config

/-- What adding some statements one after the other makes of the empty configuration. -/
def ofList (added : List Statement) : Config := added.foldl insert {}

theorem ofList_concat (added : List Statement) (statement : Statement) :
    ofList (added ++ [statement]) = (ofList added).insert statement :=
  List.foldl_append

theorem statements_insert (config : Config) (statement : Statement) :
    (config.insert statement).statements =
      if statement ∈ config.statements then config.statements
      else config.statements ++ [statement] := by
  by_cases h : statement ∈ config.statements <;> simp [insert, add?, contains, h]

theorem statements_ofList (added : List Statement) :
    (ofList added).statements = added.eraseDups := by
  induction added using List.reverseRecOn with
  | nil => rfl
  | append_singleton added statement ih =>
    rw [ofList_concat, statements_insert, ih, eraseDups_concat]
    simp only [List.mem_eraseDups]

theorem contains_ofList (added : List Statement) (statement : Statement) :
    (ofList added).contains statement = true ↔ statement ∈ added := by
  rw [contains, decide_eq_true_eq, statements_ofList, List.mem_eraseDups]

theorem add?_ofList (added : List Statement) (statement : Statement) :
    (ofList added).add? statement =
      if statement ∈ added then none else some (ofList (added ++ [statement])) := by
  rw [ofList_concat, insert]
  by_cases h : statement ∈ added
  · rw [if_pos h, add?, if_pos ((contains_ofList added statement).2 h)]
  · have hnew : ¬ (ofList added).contains statement = true :=
      fun hcontains => h ((contains_ofList added statement).1 hcontains)
    rw [if_neg h, add?, if_neg hnew, Option.getD_some]

theorem ofProtocol_ofList (added : List Statement) (protocol : Protocol) :
    (ofList added).ofProtocol protocol = (added.filter (·.protocol = protocol)).eraseDups := by
  rw [ofProtocol, statements_ofList, filter_eraseDups]

theorem mem_ofProtocol_iff (config : Config) (protocol : Protocol) (statement : Statement) :
    statement ∈ config.ofProtocol protocol ↔
      statement ∈ config.statements ∧ statement.protocol = protocol := by
  simp [ofProtocol]

theorem mem_listing_iff (config : Config) (statement : Statement) :
    statement ∈ config.listing ↔ statement ∈ config.statements := by
  simp only [listing, List.mem_flatMap, mem_ofProtocol_iff]
  constructor
  · intro h
    obtain ⟨_, _, hmem, _⟩ := h
    exact hmem
  · intro hmem
    exact ⟨statement.protocol, Protocol.mem_all _, hmem, rfl⟩

theorem isEmpty_iff_listing (config : Config) : config.isEmpty = true ↔ config.listing = [] := by
  rw [isEmpty, List.isEmpty_iff, List.eq_nil_iff_forall_not_mem, List.eq_nil_iff_forall_not_mem]
  simp only [mem_listing_iff]

end Config

/-- Statements kept under their protocols. -/
structure Groups where
  group? : Protocol → Option (List Statement) := fun _ => none

namespace Groups

def ofProtocol (groups : Groups) (protocol : Protocol) : List Statement :=
  (groups.group? protocol).getD []

def contains (groups : Groups) (statement : Statement) : Bool :=
  decide (statement ∈ groups.ofProtocol statement.protocol)

/-- A protocol gets its group with its first statement. -/
def push (groups : Groups) (statement : Statement) : Groups where
  group? := Function.update groups.group? statement.protocol
    (some (groups.ofProtocol statement.protocol ++ [statement]))

def add? (groups : Groups) (statement : Statement) : Option Groups :=
  if groups.contains statement then none else some (groups.push statement)

def listing (groups : Groups) : List Statement := (Protocol.all.filterMap groups.group?).flatten

def isEmpty (groups : Groups) : Bool := Protocol.all.all fun protocol => (groups.group? protocol).isNone

def ofList (added : List Statement) : Groups :=
  added.foldl (fun groups statement => (groups.add? statement).getD groups) {}

/-- The groups hold the statements of the configuration, and none of them is empty. -/
structure Represents (groups : Groups) (config : Config) : Prop where
  nonempty : ∀ protocol, groups.group? protocol ≠ some []
  ofProtocol : ∀ protocol, groups.ofProtocol protocol = config.ofProtocol protocol

namespace Represents
variable {groups : Groups} {config : Config}

theorem contains (h : groups.Represents config) (statement : Statement) :
    groups.contains statement = config.contains statement := by
  rw [Groups.contains, Config.contains, h.ofProtocol]
  simp [Config.mem_ofProtocol_iff]

theorem listing (h : groups.Represents config) : groups.listing = config.listing := by
  rw [Config.listing, ← funext h.ofProtocol, Groups.listing]
  induction Protocol.all with
  | nil => rfl
  | cons protocol rest ih =>
    rw [List.flatMap_cons, ← ih, Groups.ofProtocol]
    cases hgroup : groups.group? protocol with
    | none => rw [List.filterMap_cons_none hgroup, Option.getD_none, List.nil_append]
    | some group => rw [List.filterMap_cons_some hgroup, Option.getD_some, List.flatten_cons]

theorem group?_eq_none_iff (h : groups.Represents config) (protocol : Protocol) :
    groups.group? protocol = none ↔ config.ofProtocol protocol = [] := by
  rw [← h.ofProtocol, Groups.ofProtocol]
  cases hgroup : groups.group? protocol with
  | none => simp
  | some group =>
    have hne : group ≠ [] := fun hnil => h.nonempty protocol (hnil ▸ hgroup)
    simp [hne]

theorem isEmpty (h : groups.Represents config) : groups.isEmpty = config.isEmpty := by
  rw [Bool.eq_iff_iff, Config.isEmpty_iff_listing, Config.listing, List.flatMap_eq_nil_iff]
  simp only [Groups.isEmpty, List.all_eq_true, Option.isNone_iff_eq_none, h.group?_eq_none_iff]

theorem push (h : groups.Represents config) (statement : Statement) :
    (groups.push statement).Represents ⟨config.statements ++ [statement]⟩ := by
  refine ⟨fun protocol => ?_, fun protocol => ?_⟩
  · by_cases hsame : protocol = statement.protocol
    · simp [Groups.push, hsame]
    · simpa [Groups.push, hsame] using h.nonempty protocol
  · have hold := h.ofProtocol protocol
    rw [Config.ofProtocol] at hold ⊢
    rw [List.filter_append, ← hold]
    by_cases hsame : protocol = statement.protocol
    · simp [Groups.ofProtocol, Groups.push, hsame]
    · simp [Groups.ofProtocol, Groups.push, hsame, Ne.symm hsame]

/-- A further statement is refused on both sides, or leaves groups that hold it too. -/
theorem add? (h : groups.Represents config) (statement : Statement) :
    Option.Rel Represents (groups.add? statement) (config.add? statement) := by
  rw [Groups.add?, Config.add?, h.contains]
  split
  · exact .none
  · exact .some (h.push statement)

end Represents

theorem represents_ofList (added : List Statement) :
    (ofList added).Represents (Config.ofList added) := by
  induction added using List.reverseRecOn with
  | nil => exact ⟨by simp [ofList], fun _ => rfl⟩
  | append_singleton added statement ih =>
    rw [Config.ofList_concat, Config.insert, ofList, List.foldl_append, ← ofList]
    change (((ofList added).add? statement).getD (ofList added)).Represents _
    have hadd := ih.add? statement
    generalize (ofList added).add? statement = groups at hadd ⊢
    generalize (Config.ofList added).add? statement = config at hadd ⊢
    cases hadd with
    | none => exact ih
    | some h => exact h

end Groups

theorem Statement.text_ne_notice (statement : Statement) (name : String) :
    toString statement ≠ s!"No routing protocols configured on {name}" := by
  cases statement <;> simp [← String.toList_inj, toString, Statement.text]

end Routing

/-- The notice is shown of exactly the devices without statements. No statement reads like it. -/
theorem Device.notice_mem_routingReport_iff (d : Device) :
    s!"No routing protocols configured on {d.name}" ∈ d.routingReport ↔ d.routing.listing = [] := by
  rw [routingReport, ← Routing.Config.isEmpty_iff_listing]
  split
  · next hempty => simp [hempty]
  · next hempty =>
    refine iff_of_false (fun hmem => ?_) hempty
    obtain ⟨statement, _, htext⟩ := List.mem_map.1 hmem
    exact statement.text_ne_notice d.name htext

namespace Routing.Config

/-- A configuration has the statements that were added to it, each once. A statement is new exactly if
it was not added before, and then comes last of its protocol. Groups under the protocols, none of them
empty, give the same answers. -/
theorem ordered_by_addition (added : List Statement) :
    let config := ofList added
    (∀ s, config.add? s = if s ∈ added then none else some (ofList (added ++ [s]))) ∧
      (∀ s ∈ added, ofList (added ++ [s]) = config) ∧
      (∀ s, config.contains s = true ↔ s ∈ added) ∧
      (∀ protocol, config.ofProtocol protocol =
        (added.filter (·.protocol = protocol)).eraseDups) ∧
      (∀ protocol, ∀ s ∈ config.ofProtocol protocol, s.protocol = protocol) ∧
      config.listing =
        config.ofProtocol .ospf ++ config.ofProtocol .eigrp ++ config.ofProtocol .rip ∧
      (config.isEmpty = true ↔ config.listing = []) ∧ (config.listing = [] ↔ added = []) ∧
      (∀ d : Device, d.routing = config →
        (s!"No routing protocols configured on {d.name}" ∈ d.routingReport ↔ added = [])) ∧
      let groups := Groups.ofList added
      groups.Represents config ∧ (∀ s, groups.contains s = config.contains s) ∧
        (∀ s, (groups.add? s).isSome = (config.add? s).isSome) ∧
        groups.listing = config.listing ∧ groups.isEmpty = config.isEmpty := by
  intro config
  have hnil : config.listing = [] ↔ added = [] := by
    simp only [List.eq_nil_iff_forall_not_mem, mem_listing_iff, config, statements_ofList,
      List.mem_eraseDups]
  refine ⟨add?_ofList added, fun s hs => ?_, contains_ofList added, ofProtocol_ofList added,
    fun protocol s hs => ((config.mem_ofProtocol_iff protocol s).1 hs).2, ?_,
    config.isEmpty_iff_listing, hnil, fun d hd => ?_, ?_⟩
  · rw [ofList_concat, insert, add?_ofList, if_pos hs]
    rfl
  · simp [listing, Protocol.all]
  · rw [d.notice_mem_routingReport_iff, hd, hnil]
  · have hgroups := Groups.represents_ofList added
    refine ⟨hgroups, hgroups.contains, fun s => ?_, hgroups.listing, hgroups.isEmpty⟩
    rw [Groups.add?, add?, hgroups.contains]
    split <;> rfl

end Routing.Config
end NetworkConsole
