import NetworkConsole.Session.Submit

/-! Tables made by removing kinds from the standard table and installing standard handlers under any
kind, also under one that they do not serve. For each kind the last registration counts. -/
namespace NetworkConsole

inductive Registration where
  | remove (kind : CommandKind)
  | install (kind served : CommandKind)

namespace Registration

/-- The kind whose entry changes. -/
def kind : Registration → CommandKind
  | .remove kind | .install kind _ => kind

/-- The kind that the new handler serves, if there is one. -/
def served? : Registration → Option CommandKind
  | .remove _ => none
  | .install _ served => some served

end Registration

namespace Dispatch
variable {σ : Type} [ConfigStore σ]

def apply (table : Dispatch σ) : Registration → Dispatch σ
  | .remove kind => (table.unregister kind).2
  | .install kind served => (table.register kind (Handler.standard served)).2

def applyAll (table : Dispatch σ) (registrations : List Registration) : Dispatch σ :=
  registrations.foldl apply table

theorem handler?_apply (table : Dispatch σ) (registration : Registration) (kind : CommandKind) :
    (table.apply registration).handler? kind =
      if registration.kind = kind then registration.served?.map Handler.standard
      else table.handler? kind := by
  cases registration <;>
    simp [apply, register, unregister, Registration.kind, Registration.served?, eq_comm]

theorem handler?_applyAll (table : Dispatch σ) (registrations : List Registration)
    (kind : CommandKind) :
    (table.applyAll registrations).handler? kind =
      match registrations.reverse.find? (·.kind = kind) with
      | some last => last.served?.map Handler.standard
      | none => table.handler? kind := by
  induction registrations generalizing table with
  | nil => rfl
  | cons registration rest ih =>
    rw [applyAll, List.foldl_cons, ← applyAll, ih, List.reverse_cons, List.find?_append]
    cases rest.reverse.find? (·.kind = kind) with
    | some last => rfl
    | none =>
      rw [handler?_apply]
      by_cases h : registration.kind = kind <;> simp [h]

/-- The tables that registrations start from. -/
inductive Origin where
  | standard | empty

namespace Origin

def table : Origin → Dispatch σ
  | .standard => .standard
  | .empty => .empty

/-- The kind whose handler a kind has at first. -/
def served? : Origin → CommandKind → Option CommandKind
  | .standard, kind => some kind
  | .empty, _ => none

/-- The kind whose standard handler a kind has after some registrations. -/
def serving (origin : Origin) (registrations : List Registration) (kind : CommandKind) :
    Option CommandKind :=
  match registrations.reverse.find? (·.kind = kind) with
  | some last => last.served?
  | none => origin.served? kind

theorem handler?_table (origin : Origin) (kind : CommandKind) :
    (origin.table : Dispatch σ).handler? kind = (origin.served? kind).map Handler.standard := by
  cases origin <;> rfl

theorem handler?_made (origin : Origin) (registrations : List Registration) (kind : CommandKind) :
    ((origin.table : Dispatch σ).applyAll registrations).handler? kind =
      (origin.serving registrations kind).map Handler.standard := by
  rw [handler?_applyAll, serving]
  cases registrations.reverse.find? (·.kind = kind) with
  | some last => rfl
  | none => exact origin.handler?_table kind

end Origin

/-- Every handler of the table is a standard one. -/
def StandardMade (table : Dispatch σ) : Prop :=
  ∀ kind handler, table.handler? kind = some handler → ∃ served, handler = Handler.standard served

theorem standardMade_standard : (standard : Dispatch σ).StandardMade := by
  intro kind handler h
  exact ⟨kind, (Option.some.inj h).symm⟩

theorem StandardMade.apply {table : Dispatch σ} (h : table.StandardMade)
    (registration : Registration) : (table.apply registration).StandardMade := by
  intro kind handler hfound
  rw [handler?_apply] at hfound
  split at hfound
  · obtain ⟨served, _, rfl⟩ := Option.map_eq_some_iff.1 hfound
    exact ⟨served, rfl⟩
  · exact h kind handler hfound

theorem StandardMade.applyAll {table : Dispatch σ} (h : table.StandardMade)
    (registrations : List Registration) : (table.applyAll registrations).StandardMade := by
  induction registrations generalizing table with
  | nil => exact h
  | cons registration rest ih => exact ih (h.apply registration)

theorem standardMade_applyAll (registrations : List Registration) :
    ((standard : Dispatch σ).applyAll registrations).StandardMade :=
  standardMade_standard.applyAll registrations

end Dispatch
end NetworkConsole
