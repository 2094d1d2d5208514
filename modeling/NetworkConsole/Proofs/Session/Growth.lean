import NetworkConsole.Proofs.Network.Growth
import NetworkConsole.Proofs.Session.Standard
import NetworkConsole.Store.Memory

/-! Nothing is lost in a session but by clearing. A line takes something away only where its command
clears the network or the logs, and such a command always succeeds. -/
namespace NetworkConsole

theorem Network.exists_command_of_mem {net : Network} {line : String}
    {operation : Network.Operation} (h : operation ∈ net.lineOperations line) :
    ∃ command, Command.ofLine line = .ok command ∧ command.check net = .ok () ∧
      operation ∈ command.operations := by
  rw [lineOperations] at h
  cases htoken : Token.ofLine line with
  | error e => simp [htoken] at h
  | ok token =>
    obtain ⟨cause, herror⟩ | ⟨command, hcommand, hcheck, hok⟩ := token.instruction_cases net
    · simp [htoken, herror] at h
    · simp only [htoken, hok] at h
      exact ⟨command, by rw [Command.ofLine, htoken]; exact hcommand, hcheck, h⟩

/-- The operations that take something away, each with the command that it comes from. -/
def Command.clearing : List (Network.Operation × Command) :=
  [(.clear, .clearAll), (.clearCli, .clearCli)]

namespace Session
variable {σ : Type} [ConfigStore σ] {session : Session σ}

/-- The line spells the command, and it succeeds. -/
def Succeeds (session : Session σ) (line : String) (command : Command) : Prop :=
  Command.ofLine line = .ok command ∧
    ∃ answer, (session.submit .standard line).outcome = .ok answer

/-- One of the lines spells the command, and it succeeds after the lines before it. -/
def Performs (session : Session σ) (lines : List String) (command : Command) : Prop :=
  ∃ i line, lines[i]? = some line ∧
    (session.after .standard (lines.take i)).Succeeds line command

variable {operation : Network.Operation} {command : Command}

/-- No other command makes the operation, and the command never fails. -/
theorem succeeds_of_mem (hclearing : (operation, command) ∈ Command.clearing) {line : String}
    (h : operation ∈ session.network.lineOperations line) : session.Succeeds line command := by
  obtain ⟨spelled, hline, hcheck, hoperation⟩ := Network.exists_command_of_mem h
  have hsubmit := (submit_standard hline hcheck).1
  simp only [Command.clearing, List.mem_cons, List.not_mem_nil, or_false, Prod.mk.injEq] at hclearing
  obtain ⟨rfl, rfl⟩ | ⟨rfl, rfl⟩ := hclearing
  · cases spelled with
    | clearAll => exact ⟨hline, _, hsubmit⟩
    | _ => simp [Command.operations] at hoperation
  · cases spelled with
    | clearCli => exact ⟨hline, _, hsubmit⟩
    | _ => simp [Command.operations] at hoperation

theorem performs_of_mem (hclearing : (operation, command) ∈ Command.clearing) {lines : List String}
    (h : operation ∈ Network.linesOperations lines session.network) :
    session.Performs lines command := by
  induction lines generalizing session with
  | nil => cases h
  | cons line lines ih =>
    rw [Network.linesOperations, List.mem_append, ← submit_lineOperations] at h
    obtain hfirst | hrest := h
    · exact ⟨0, line, rfl, succeeds_of_mem hclearing hfirst⟩
    · obtain ⟨i, later, hlater, hsucceeds⟩ := ih hrest
      exact ⟨i + 1, later, hlater, hsucceeds⟩

end Session

/-- Lines of any outcome, none of which succeeds in clearing the network: what the network listed
before is listed after them, in the same order and in front of what is new. If none succeeds in
clearing the logs either, the same holds of the generated lines. -/
theorem nothing_lost {net : Network} (h : net.Reachable) {σ : Type} [ConfigStore σ] (store : σ)
    {lines : List String} (hkept : ¬ (Session.mk net store).Performs lines .clearAll) :
    let after := ((Session.mk net store).after .standard lines).network
    net.Extends after ∧
      (¬ (Session.mk net store).Performs lines .clearCli → net.ExtendsLogs after) := by
  intro after
  have hafter : after = Network.run (Network.linesOperations lines net) net :=
    Session.after_linesOperations lines (Session.mk net store)
  have hclear : Network.Operation.clear ∉ Network.linesOperations lines net := fun hmem =>
    hkept (Session.performs_of_mem (by simp [Command.clearing]) hmem)
  rw [hafter]
  refine ⟨Network.extends_run hclear h.coherent, fun hlogs => ?_⟩
  have hclearCli : Network.Operation.clearCli ∉ Network.linesOperations lines net := fun hmem =>
    hlogs (Session.performs_of_mem (by simp [Command.clearing]) hmem)
  exact Network.extendsLogs_run hclear hclearCli h.coherent

/-- Lines that carry out, that fail, and one that only looks like clearing the network. -/
theorem nothing_lost_router :
    let net := Network.run [.addDevice "r1" .router, .addStatement "r1" (.rip (.ofOctets 10 0 0 0))]
      .empty
    let lines := ["add router r2", "add router r1", "clear all now", "set rip r1 172.16.0.0",
      "connect r1 r2 fiber"]
    let after := ((Session.mk net ({} : MemoryStore)).after .standard lines).network
    net.Reachable ∧ net.Extends after ∧ net.ExtendsLogs after ∧
      after.history.map (·.line) =
        ["router rip", "version 2", "network 10.0.0.0", "network 172.16.0.0"] := by
  intro net lines after
  have hnet : net.Reachable := .operation (.operation .empty _) _
  have hlines : ∀ command ∈ [Command.clearAll, .clearCli], ∀ line ∈ lines,
      Command.ofLine line ≠ .ok command := by decide +kernel
  have hnone : ∀ command ∈ [Command.clearAll, .clearCli],
      ¬ (Session.mk net ({} : MemoryStore)).Performs lines command := by
    rintro command hcommand ⟨i, line, hline, hsucceeds⟩
    exact hlines command hcommand line (List.mem_of_getElem? hline) hsucceeds.1
  obtain ⟨hextends, hlogs⟩ :=
    nothing_lost hnet ({} : MemoryStore) (hnone .clearAll (by simp))
  exact ⟨hnet, hextends, hlogs (hnone .clearCli (by simp)), by decide +kernel⟩

end NetworkConsole
