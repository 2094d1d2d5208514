import Mathlib.Data.List.Basic
import NetworkConsole.Proofs.Session.Outcome

/-! The law of dispatch. What becomes of a line that passes the checks is settled by the last
registration for its kind: without a handler the line is unserved, the handler of another kind turns
it away, and its own handler does what the standard table does. -/
namespace NetworkConsole

namespace Dispatch
variable {σ : Type}

theorem verify_ok_iff (table : Dispatch σ) : table.verify = .ok () ↔ table.missing = [] := by
  rw [verify]
  cases table.missing <;> simp

theorem missing_made [ConfigStore σ] (origin : Origin) (registrations : List Registration) :
    ((origin.table : Dispatch σ).applyAll registrations).missing =
      CommandKind.all.filter fun kind => (origin.serving registrations kind).isNone := by
  simp only [missing, origin.handler?_made, Option.isNone_map]

end Dispatch

namespace Session
variable {σ : Type} {table : Dispatch σ} {line : String} {session : Session σ} {token : Token}
  {instruction : Instruction}

section Checked
variable (htoken : Token.ofLine line = .ok token)
  (hinstruction : token.instruction session.network = .ok instruction)
include htoken hinstruction

theorem submit_unserved (hhandler : table.handler? instruction.kind = none) :
    (session.submit table line).outcome =
        .error ⟨line, .internal (.noHandler instruction.kind)⟩ ∧
      (session.submit table line).session = session := by
  rw [submit_of_instruction table htoken hinstruction, hhandler]
  exact ⟨rfl, rfl⟩

/-- Of the table only the handler of the line's kind counts. -/
theorem submit_congr {other : Dispatch σ}
    (hhandler : table.handler? instruction.kind = other.handler? instruction.kind) :
    session.submit table line = session.submit other line := by
  rw [submit_of_instruction table htoken hinstruction,
    submit_of_instruction other htoken hinstruction, hhandler]

variable [ConfigStore σ]

theorem submit_misdirected {served : CommandKind}
    (hhandler : table.handler? instruction.kind = some (Handler.standard served))
    (hserved : served ≠ instruction.kind) :
    (session.submit table line).outcome =
        .error ⟨line, .internal (.unexpectedCommand served instruction.kind)⟩ ∧
      (session.submit table line).session = session := by
  rw [submit_of_instruction table htoken hinstruction, hhandler]
  simp only [Handler.standard_of_ne hserved.symm]
  exact ⟨rfl, rfl⟩

/-- A checked line reaches the handler that takes it, and then only the network can contradict it. -/
theorem submit_served {contradiction : InternalError}
    (hhandler : table.handler? instruction.kind = some (Handler.standard instruction.kind))
    (h : (session.submit table line).outcome = .error ⟨line, .internal contradiction⟩) :
    ∃ cause, contradiction = .network cause := by
  rw [submit_of_instruction table htoken hinstruction, hhandler] at h
  simp only [Handler.standard_of_eq rfl] at h
  cases hresult : instruction.command.execute session with
  | mk result after =>
    rw [hresult] at h
    cases result with
    | ok answer => cases h
    | error e =>
      have hcause : e.cause = .internal contradiction := by
        simpa [Turn.fail] using h
      obtain ⟨cause, rfl⟩ | ⟨cause, rfl⟩ := Command.execute_error (congrArg Prod.fst hresult)
      · exact ⟨cause, (Cause.internal.inj hcause).symm⟩
      · cases hcause

end Checked
end Session

/-- For each kind the last registration decides. The kinds that are missing are those without a
handler, in their order. A checked line is unserved exactly when its kind is missing; it is turned
away exactly when its kind has the handler of another one, and then nothing changes; otherwise the
table does with it what the standard one does. -/
theorem dispatch_law {σ : Type} [ConfigStore σ] (origin : Dispatch.Origin)
    (registrations : List Registration) :
    let table : Dispatch σ := origin.table.applyAll registrations
    let serving := origin.serving registrations
    table.missing = CommandKind.all.filter (fun kind => (serving kind).isNone) ∧
      (table.verify = .ok () ↔ table.missing = []) ∧
      ∀ line (session : Session σ) token instruction, Token.ofLine line = .ok token →
        token.instruction session.network = .ok instruction →
        let turn := session.submit table line
        (turn.outcome = .error ⟨line, .internal (.noHandler instruction.kind)⟩ ↔
            instruction.kind ∈ table.missing) ∧
          (∀ served,
            turn.outcome =
                .error ⟨line, .internal (.unexpectedCommand served instruction.kind)⟩ ↔
              serving instruction.kind = some served ∧ served ≠ instruction.kind) ∧
          (serving instruction.kind ≠ some instruction.kind → turn.session = session) ∧
          (serving instruction.kind = some instruction.kind →
            turn = session.submit .standard line) := by
  intro table serving
  have hmade : ∀ kind, table.handler? kind = (serving kind).map Handler.standard :=
    origin.handler?_made registrations
  refine ⟨Dispatch.missing_made origin registrations, table.verify_ok_iff, ?_⟩
  intro line session token instruction htoken hinstruction turn
  have hhandler := hmade instruction.kind
  rw [Dispatch.mem_missing_iff]
  cases hserving : serving instruction.kind with
  | none =>
    rw [hserving] at hhandler
    obtain ⟨houtcome, hsession⟩ := Session.submit_unserved htoken hinstruction hhandler
    refine ⟨iff_of_true houtcome hhandler, fun served => ?_, fun _ => hsession, fun h => by cases h⟩
    refine iff_of_false (fun h => ?_) (by simp)
    cases houtcome.symm.trans h
  | some served =>
    rw [hserving] at hhandler
    by_cases hserved : served = instruction.kind
    · subst hserved
      refine ⟨iff_of_false (fun h => ?_) (by simp [hhandler]), fun served => ?_,
        fun h => absurd rfl h, fun _ => Session.submit_congr htoken hinstruction hhandler⟩
      · obtain ⟨cause, hcause⟩ := Session.submit_served htoken hinstruction hhandler h
        cases hcause
      · refine iff_of_false (fun h => ?_) fun h => h.2 (Option.some.inj h.1).symm
        obtain ⟨cause, hcause⟩ := Session.submit_served htoken hinstruction hhandler h
        cases hcause
    · obtain ⟨houtcome, hsession⟩ :=
        Session.submit_misdirected htoken hinstruction hhandler hserved
      refine ⟨iff_of_false (fun h => ?_) (by simp [hhandler]), fun other => ?_,
        fun _ => hsession, fun h => absurd (Option.some.inj h) hserved⟩
      · cases houtcome.symm.trans h
      · constructor
        · intro h
          cases houtcome.symm.trans h
          exact ⟨rfl, hserved⟩
        · intro h
          obtain ⟨hsame, _⟩ := h
          exact Option.some.inj hsame ▸ houtcome

/-- An OSPF statement goes to the RIP handler, since of the two registrations for it this is the last;
a request for help finds no handler. -/
theorem dispatch_law_router :
    let registrations : List Registration :=
      [.install .setOspf .setEigrp, .remove .help, .install .setOspf .setRip]
    let table : Dispatch MemoryStore := Dispatch.Origin.standard.table.applyAll registrations
    let net := (Network.Operation.addDevice "r1" .router).step .empty
    let session := Session.mk net ({} : MemoryStore)
    let line := "set ospf r1 1 10.0.0.0 0.0.0.255 0"
    table.missing = [.help] ∧ table.verify ≠ .ok () ∧
      (session.submit table line).outcome =
        .error ⟨line, .internal (.unexpectedCommand .setRip .setOspf)⟩ ∧
      (session.submit table "help").outcome = .error ⟨"help", .internal (.noHandler .help)⟩ := by
  intro registrations table net session line
  obtain ⟨hmissing, hverify, hlines⟩ := dispatch_law (σ := MemoryStore) .standard registrations
  have htoken : Token.ofLine line =
      .ok ⟨.setOspf, ["r1", "1", "10.0.0.0", "0.0.0.255", "0"], line⟩ := by decide +kernel
  have hinstruction :
      Token.instruction net ⟨.setOspf, ["r1", "1", "10.0.0.0", "0.0.0.255", "0"], line⟩ =
        .ok ⟨line, .route "r1" (.ospf 1 (.ofOctets 10 0 0 0) (.ofOctets 0 0 0 255) 0)⟩ := by
    decide +kernel
  have hlist : table.missing = [.help] := hmissing.trans (by decide +kernel)
  refine ⟨hlist, fun hok => ?_, ?_, ?_⟩
  · cases hlist.symm.trans (hverify.1 hok)
  · exact ((hlines line session _ _ htoken hinstruction).2.1 .setRip).2 (by decide +kernel)
  · exact (hlines "help" session ⟨.help, [], "help"⟩ ⟨"help", .help⟩ (by decide +kernel)
      (by decide +kernel)).1.2 (by rw [hlist]; decide)

end NetworkConsole
