import NetworkConsole.Proofs.Network.Coherence
import NetworkConsole.Proofs.Session.Outcome

/-! Networks that operations and lines make of the empty one. The lines may come from any console, and
between them the network may be operated on directly; each of these networks is that of a run of
operations. -/
namespace NetworkConsole.Network

inductive Reachable : Network → Prop where
  | empty : Reachable .empty
  | operation {net : Network} (h : Reachable net) (operation : Operation) :
      Reachable (operation.step net)
  | line {net : Network} (h : Reachable net) {σ : Type} [ConfigStore σ] (store : σ)
      (registrations : List Registration) (line : String) :
      Reachable
        ((Session.mk net store).submit (Dispatch.standard.applyAll registrations)
          line).session.network

theorem Reachable.exists_run {net : Network} (h : Reachable net) :
    ∃ operations, net = run operations .empty := by
  induction h with
  | empty => exact ⟨[], rfl⟩
  | operation _ operation ih =>
    obtain ⟨operations, rfl⟩ := ih
    exact ⟨operations ++ [operation], by rw [run_append]; rfl⟩
  | line _ store registrations line ih =>
    obtain ⟨operations, rfl⟩ := ih
    obtain ⟨more, hmore⟩ := Session.submit_network (Dispatch.standardMade_applyAll registrations)
      line ⟨run operations .empty, store⟩
    exact ⟨operations ++ more, by rw [run_append, hmore]⟩

theorem Reachable.coherent {net : Network} (h : Reachable net) : net.skeleton.Coherent := by
  obtain ⟨operations, rfl⟩ := h.exists_run
  exact coherent_run operations

end NetworkConsole.Network
