import NetworkConsole.Proofs.Network.WellFormed
import NetworkConsole.Proofs.Session.Operations

/-! Sessions make well-formed networks only. The network itself asks for none of it: each part holds
because the types of the arguments or the check of the command see to it, and stays since no later
line can take it back. -/
namespace NetworkConsole

namespace Command

theorem operations_cases (command : Command) :
    command.operations = [] ∨ ∃ operation, command.operations = [operation] := by
  cases command with
  | addDevice | connect | setInterface | setHostname | route | filter | clearCli | clearAll =>
    exact .inr ⟨_, rfl⟩
  | showInterfaces | showRouting | showAccess | showCli | showTopology | showHistory | save
  | help => exact .inl rfl

/-- What the types of the arguments and the check of a command make sure of. -/
theorem fits_of_admitted {net : Network} {command : Command} (hgrammatical : command.Grammatical)
    (hadmitted : command.Admitted net) {operation : Network.Operation}
    (hoperation : command.operations = [operation]) : operation.Fits net := by
  cases command with
  | addDevice kind name =>
    cases hoperation
    exact hgrammatical
  | connect | clearCli | clearAll =>
    cases hoperation
    trivial
  | setInterface device interface address mask =>
    cases hoperation
    intro d _
    exact ⟨hgrammatical.2.1, hgrammatical.2.2, hadmitted.2.1⟩
  | setHostname device hostname =>
    cases hoperation
    intro d _
    exact hgrammatical.2
  | route device statement =>
    cases hoperation
    obtain ⟨d, hd, hroutes, hprocess, _⟩ := hadmitted
    intro found hfound
    obtain rfl := Except.ok.inj (hd.symm.trans hfound)
    exact ⟨hroutes, hprocess⟩
  | filter device number action entry =>
    cases hoperation
    obtain ⟨d, hd, hfilters, hnumber⟩ := hadmitted
    intro found hfound
    obtain rfl := Except.ok.inj (hd.symm.trans hfound)
    exact ⟨hfilters, hnumber⟩
  | showInterfaces | showRouting | showAccess | showCli | showTopology | showHistory | save
  | help => cases hoperation

end Command

namespace Network
variable {net : Network}

theorem All.line {P : Device → Prop} (hP : Device.Kept P) (hnet : net.All P)
    (h : net.skeleton.Coherent) (line : String) : (run (net.lineOperations line) net).All P := by
  obtain hnone | ⟨command, hgrammatical, hadmitted, hline⟩ := net.lineOperations_cases line
  · rw [hnone]
    exact hnet
  · obtain hnone | ⟨operation, hoperation⟩ := command.operations_cases
    · rw [hline, hnone]
      exact hnet
    · have hfits : operation.Fits net := Command.fits_of_admitted hgrammatical hadmitted hoperation
      rw [hline, hoperation]
      exact hnet.step hP h hfits

theorem All.lines {P : Device → Prop} (hP : Device.Kept P) (hnet : net.All P)
    (h : net.skeleton.Coherent) (lines : List String) :
    (run (linesOperations lines net) net).All P := by
  induction lines generalizing net with
  | nil => exact hnet
  | cons line lines ih =>
    rw [linesOperations, run_append]
    exact ih (hnet.line hP h line) (run_keeps coherent_step (net.lineOperations line) h)

theorem WellFormed.lines (hnet : net.WellFormed) (h : net.skeleton.Coherent) (lines : List String) :
    (run (linesOperations lines net) net).WellFormed :=
  All.lines Device.kept_wellFormed hnet h lines

end Network

/-- After any lines, and so after each of them, every device is well formed, and no numbered access
list has rules of both shapes. -/
theorem session_wellFormed {σ : Type} [ConfigStore σ] (store : σ) (lines : List String) :
    let net := ((Session.mk .empty store).after Dispatch.standard lines).network
    (∀ d ∈ net.deviceList, d.WellFormed) ∧
      ∀ d ∈ net.deviceList, ∀ first ∈ d.rules, ∀ second ∈ d.rules,
        first.number = second.number → first.entry.shape = second.entry.shape := by
  intro net
  have hrun : net = Network.run (Network.linesOperations lines .empty) .empty :=
    Session.after_linesOperations lines (Session.mk .empty store)
  have hempty : Network.empty.skeleton.Coherent := Network.coherent_run []
  have hcoherent : net.skeleton.Coherent := hrun ▸ Network.coherent_run _
  have hwellFormed : net.WellFormed := hrun ▸ Network.wellFormed_empty.lines hempty lines
  have hdevices : ∀ d ∈ net.deviceList, d.WellFormed := by
    intro d hd
    exact hwellFormed d.name d (Network.device_of_mem hcoherent hd)
  refine ⟨hdevices, fun d hd first hfirst second hsecond hnumber => ?_⟩
  exact (hdevices d hd).shape_eq hfirst hsecond hnumber

end NetworkConsole
