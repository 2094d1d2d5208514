import NetworkConsole.Proofs.Command.Typing
import NetworkConsole.Proofs.Session.Soundness

/-! Lines as operations: what the lines of a standard console do to its network is a run of the
operations that their commands amount to. -/
namespace NetworkConsole

namespace Network

/-- The operations that a line amounts to in the network; none for a line that is refused. -/
def lineOperations (net : Network) (line : String) : List Operation :=
  match Token.ofLine line with
  | .error _ => []
  | .ok token =>
    match token.instruction net with
    | .error _ => []
    | .ok instruction => instruction.command.operations

/-- The operations that lines amount to, one line after the other. -/
def linesOperations : List String → Network → List Operation
  | [], _ => []
  | line :: lines, net =>
    net.lineOperations line ++ linesOperations lines (run (net.lineOperations line) net)

/-- A line amounts to nothing or to a command that is well typed and admitted. -/
theorem lineOperations_cases (net : Network) (line : String) :
    net.lineOperations line = [] ∨
      ∃ command : Command, command.Grammatical ∧ command.Admitted net ∧
        net.lineOperations line = command.operations := by
  rw [lineOperations]
  cases Token.ofLine line with
  | error e => exact .inl rfl
  | ok token =>
    obtain ⟨cause, herror⟩ | ⟨command, hcommand, hcheck, hok⟩ := token.instruction_cases net
    · exact .inl (by simp only [herror])
    · exact .inr ⟨command, Token.grammatical_of_command hcommand,
        (Command.check_ok_iff net command).1 hcheck, by simp only [hok]⟩

end Network

namespace Network
variable {net : Network} {line : String} {token : Token} {command : Command}

theorem lineOperations_of_check (htoken : Token.ofLine line = .ok token)
    (hcommand : token.command = .ok command) (hcheck : command.check net = .ok ()) :
    net.lineOperations line = command.operations := by
  simp only [lineOperations, htoken, Token.instruction, hcommand, hcheck]

end Network

namespace Session
variable {σ : Type} [ConfigStore σ]

theorem submit_lineOperations (line : String) (session : Session σ) :
    (session.submit Dispatch.standard line).session.network =
      Network.run (session.network.lineOperations line) session.network := by
  have hcourse := session.submit_course Dispatch.standard line
  generalize session.submit Dispatch.standard line = turn at hcourse ⊢
  have hrun : ∀ {raw : String} {command : Command} {result after},
      Handler.standard command.kind ⟨raw, command⟩ session = (result, after) →
      after.network = Network.run command.operations session.network := by
    intro raw command result after hresult
    rw [Handler.standard_of_kind] at hresult
    rw [← command.execute_network session, hresult]
  cases hcourse with
  | unrecognized htoken =>
    simp only [Network.lineOperations, htoken]
    rfl
  | mistyped htoken hcommand =>
    simp only [Network.lineOperations, htoken, Token.instruction, hcommand]
    rfl
  | refused htoken hcommand hcheck =>
    simp only [Network.lineOperations, htoken, Token.instruction, hcommand, hcheck]
    rfl
  | unserved _ _ _ hhandler => cases hhandler
  | failed htoken hcommand hcheck hhandler hresult =>
    cases hhandler
    rw [Network.lineOperations_of_check htoken hcommand hcheck]
    exact hrun hresult
  | done htoken hcommand hcheck hhandler hresult =>
    cases hhandler
    rw [Network.lineOperations_of_check htoken hcommand hcheck]
    exact hrun hresult

theorem after_linesOperations (lines : List String) (session : Session σ) :
    (session.after Dispatch.standard lines).network =
      Network.run (Network.linesOperations lines session.network) session.network := by
  induction lines generalizing session with
  | nil => rfl
  | cons line lines ih =>
    have hrest := ih (session.submit Dispatch.standard line).session
    rw [submit_lineOperations] at hrest
    rw [Network.linesOperations, Network.run_append]
    exact hrest

end Session
end NetworkConsole
