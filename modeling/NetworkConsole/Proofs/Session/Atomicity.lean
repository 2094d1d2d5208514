import NetworkConsole.Proofs.Session.Outcome

/-! Failure is atomic: a failing line, a failing handler and a refused change leave everything as it
was. A store of unknown behaviour may change when it refuses; the network does not. -/
namespace NetworkConsole

/-- A line that fails leaves the session, whatever stage it fails in. -/
def Dispatch.Atomic {σ : Type} (table : Dispatch σ) : Prop :=
  ∀ line (session : Session σ) e,
    (session.submit table line).outcome = .error e →
      (session.submit table line).session = session

/-- A failing handler leaves the session, whatever instruction it was given. -/
def Handler.Atomic {σ : Type} (handler : Handler σ) : Prop :=
  ∀ instruction (session : Session σ) e,
    (handler instruction session).1 = .error e → (handler instruction session).2 = session

theorem failure_unchanged :
    (∀ registrations,
      ((Dispatch.standard : Dispatch MemoryStore).applyAll registrations).Atomic) ∧
    (∀ kind, (Handler.standard kind : Handler MemoryStore).Atomic) ∧
    ((∀ name kind, (Network.addDevice name kind).Atomic) ∧
      (∀ a b cable, (Network.addLink a b cable).Atomic) ∧
      (∀ name interface address mask, (Network.setInterface name interface address mask).Atomic) ∧
      (∀ name hostname, (Network.setHostname name hostname).Atomic) ∧
      (∀ name statement, (Network.addStatement name statement).Atomic) ∧
      (∀ name number action entry, (Network.addRule name number action entry).Atomic)) ∧
    (∀ (σ : Type) [ConfigStore σ] (session : Session σ),
      (∀ registrations line e,
        (session.submit (Dispatch.standard.applyAll registrations) line).outcome = .error e →
          (session.submit (Dispatch.standard.applyAll registrations) line).session.network =
            session.network) ∧
      (∀ kind instruction e,
        (Handler.standard kind instruction session).1 = .error e →
          (Handler.standard kind instruction session).2.network = session.network)) := by
  refine ⟨?lines, ?handlers, ?changes, ?stores⟩
  case lines =>
    intro registrations line session e h
    exact (Session.submit_refused (Dispatch.standardMade_applyAll registrations) h).2
      MemoryStore.steady
  case handlers =>
    intro kind instruction session e h
    exact (Handler.standard_refused h).2 MemoryStore.steady
  case changes =>
    exact ⟨Network.atomic_addDevice, Network.atomic_addLink, Network.atomic_setInterface,
      Network.atomic_setHostname, Network.atomic_addStatement, Network.atomic_addRule⟩
  case stores =>
    intro σ _ session
    constructor
    · intro registrations line e h
      exact (Session.submit_refused (Dispatch.standardMade_applyAll registrations) h).1
    · intro kind instruction e h
      exact (Handler.standard_refused h).1

end NetworkConsole
