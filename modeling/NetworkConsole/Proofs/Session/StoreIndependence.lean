import NetworkConsole.Proofs.Session.Standard
import NetworkConsole.Store.Memory

/-! The store has no say in the network. Consoles that start from one network with different stores have
the same network after any lines, and only a save can tell their stores apart. -/
namespace NetworkConsole

section Twins
variable {σ τ : Type}

namespace Session
variable {session : Session σ} {twin : Session τ}

theorem change_congr {α : Type} {step : Network.Change α}
    (hstep : (step session.network).1 = (step twin.network).1) (answer : α → Answer) :
    (session.change step answer).1 = (twin.change step answer).1 := by
  rw [change, change]
  cases hresult : step session.network with
  | mk result net =>
    cases hresult' : step twin.network with
    | mk result' net' =>
      rw [hresult, hresult'] at hstep
      obtain rfl : result = result' := hstep
      cases result <;> rfl

theorem inspect_congr {name : String} {report : Device → List String}
    (hreport : (session.network.device name).map report = (twin.network.device name).map report) :
    (session.inspect name report).1 = (twin.inspect name report).1 := by
  rw [inspect, inspect]
  cases hd : session.network.device name <;> cases hd' : twin.network.device name <;>
    simp_all [Except.map]

end Session

variable [ConfigStore σ] [ConfigStore τ] {session : Session σ} {twin : Session τ}

/-- Only a save asks the store. -/
theorem Command.execute_congr (hnet : session.network = twin.network) {command : Command}
    (hsave : ∀ name, command ≠ .save name) :
    (command.execute session).1 = (command.execute twin).1 := by
  cases command with
  | addDevice | connect | setInterface | setHostname | route | filter =>
    exact Session.change_congr (by rw [hnet]) _
  | showInterfaces | showRouting | showAccess | showCli =>
    exact Session.inspect_congr (by rw [hnet])
  | showTopology | showHistory => simp only [execute, hnet]
  | save name => exact absurd rfl (hsave name)
  | clearCli | clearAll | help => rfl

theorem Session.submit_network_congr (hnet : session.network = twin.network) (line : String) :
    (session.submit .standard line).session.network =
      (twin.submit .standard line).session.network := by
  rw [submit_lineOperations, submit_lineOperations, hnet]

theorem Session.after_network_congr (hnet : session.network = twin.network) (lines : List String) :
    (session.after .standard lines).network = (twin.after .standard lines).network := by
  induction lines generalizing session twin with
  | nil => exact hnet
  | cons line lines ih => exact ih (submit_network_congr hnet line)

theorem Session.submit_outcome_congr (hnet : session.network = twin.network) {line : String}
    (hsave : ∀ name, ¬ session.network.AdmitsSave line name) :
    (session.submit .standard line).outcome = (twin.submit .standard line).outcome := by
  refine submit_outcome_eq (fun command => by rw [hnet]) fun command hline hcheck => ?_
  refine Command.execute_congr hnet fun name hname => ?_
  subst hname
  exact hsave name ⟨hline, hcheck⟩

end Twins

/-- Two consoles run the same lines on the same network, with stores of any kind. After each line their
networks are the same. A line is answered alike unless it is a save that the network admits; such a
line is answered without regard to the store, or it fails with the very error of the store, and it
leaves both networks. -/
theorem store_independence {σ τ : Type} [ConfigStore σ] [ConfigStore τ] (net : Network)
    (store : σ) (other : τ) (lines : List String) :
    let session := (Session.mk net store).after .standard lines
    let twin := (Session.mk net other).after .standard lines
    session.network = twin.network ∧
      ∀ line,
        let turn := session.submit .standard line
        let twinTurn := twin.submit .standard line
        ((∀ name, ¬ session.network.AdmitsSave line name) → turn.outcome = twinTurn.outcome) ∧
          ∀ name, session.network.AdmitsSave line name →
            ∃ d, session.network.device name = .ok d ∧
              turn.outcome = ConfigStore.outcome session.store line name d.cliReport ∧
              twinTurn.outcome = ConfigStore.outcome twin.store line name d.cliReport ∧
              turn.session.network = session.network ∧ twinTurn.session.network = twin.network := by
  intro session twin
  have hstart : (Session.mk net store).network = (Session.mk net other).network := rfl
  have hnet : session.network = twin.network := Session.after_network_congr hstart lines
  refine ⟨hnet, fun line => ⟨Session.submit_outcome_congr hnet, fun name hsave => ?_⟩⟩
  obtain ⟨d, hd, houtcome, hsession⟩ := Session.submit_save hsave
  obtain ⟨d', hd', houtcome', hsession'⟩ := Session.submit_save (hnet ▸ hsave)
  obtain rfl : d = d' := Except.ok.inj (hd.symm.trans (hnet ▸ hd'))
  have hkept : (session.submit .standard line).session.network = session.network := by rw [hsession]
  have hkept' : (twin.submit .standard line).session.network = twin.network := by rw [hsession']
  exact ⟨d, hd, houtcome, houtcome', hkept, hkept'⟩

/-- A store that keeps everything beside one that refuses everything. -/
theorem store_independence_refusal :
    let lines := ["add router r1", "save r1", "set hostname r1 core"]
    let session := (Session.mk .empty ({} : MemoryStore)).after .standard lines
    let twin := (Session.mk .empty (RefusingStore.mk "full")).after .standard lines
    session.network = twin.network ∧ session.network.AdmitsSave "save r1" "r1" ∧
      (session.submit .standard "save r1").outcome =
        .ok (.saved "r1" ["! core (router)", "hostname core"]) ∧
      (twin.submit .standard "save r1").outcome =
        .error ⟨"save r1", .store (.rejected "r1" "full")⟩ ∧
      (session.submit .standard "show cli r1").outcome =
        (twin.submit .standard "show cli r1").outcome := by
  intro lines session twin
  obtain ⟨hnet, hlines⟩ :=
    store_independence .empty ({} : MemoryStore) (RefusingStore.mk "full") lines
  have hsave : session.network.AdmitsSave "save r1" "r1" := by
    constructor <;> decide +kernel
  have hshow : ∀ name, ¬ session.network.AdmitsSave "show cli r1" name := by
    intro name h
    have hline : Command.ofLine "show cli r1" = .ok (.showCli "r1") := by decide +kernel
    cases hline.symm.trans h.1
  have hreport : (session.network.device "r1").map Device.cliReport =
      .ok ["! core (router)", "hostname core"] := by decide +kernel
  obtain ⟨d, hd, houtcome, hrefused, _⟩ := (hlines "save r1").2 "r1" hsave
  rw [hd] at hreport
  rw [Except.ok.inj hreport] at houtcome hrefused
  exact ⟨hnet, hsave, houtcome, hrefused, (hlines "show cli r1").1 hshow⟩

end NetworkConsole
