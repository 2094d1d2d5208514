import NetworkConsole.Session.Execute
import NetworkConsole.Session.Instruction

/-! The dispatch table: which handler carries out the commands of a kind. A standard handler serves
one kind and refuses all others. -/
namespace NetworkConsole

abbrev Handler (σ : Type) := Instruction → Session σ → Session.Outcome σ

/-- The handler of the kind takes commands of this form. Where kinds share a form, each of their
handlers also looks for its own protocol or its own shape. -/
def CommandKind.takes (kind : CommandKind) (command : Command) : Bool :=
  match kind, command with
  | .add, .addDevice .. | .connect, .connect .. | .setInterface, .setInterface ..
  | .setHostname, .setHostname .. | .showInterfaces, .showInterfaces _
  | .showRouting, .showRouting _ | .showAccess, .showAccess _ | .showCli, .showCli _
  | .showTopology, .showTopology | .showHistory, .showHistory | .save, .save _
  | .clearCli, .clearCli | .clearAll, .clearAll | .help, .help => true
  | .setOspf, .route _ statement | .setEigrp, .route _ statement | .setRip, .route _ statement =>
    statement.protocol.commandKind = kind
  | .setStandardAccess, .filter _ _ _ entry => entry.shape = .standard
  | .setExtendedAccess, .filter _ _ _ entry => entry.shape = .extended
  | _, _ => false

/-- The forms tell all kinds apart. -/
theorem CommandKind.takes_iff (kind : CommandKind) (command : Command) :
    kind.takes command = true ↔ command.kind = kind := by
  cases command with
  | route device statement =>
    cases hprotocol : statement.protocol <;> cases kind <;>
      simp [takes, Command.kind, hprotocol, Routing.Protocol.commandKind]
  | filter device number action entry =>
    cases hshape : entry.shape <;> cases kind <;>
      simp [takes, Command.kind, hshape, AccessList.Shape.commandKind]
  | _ => cases kind <;> simp [takes, Command.kind]

/-- The standard handler of a kind. -/
def Handler.standard {σ : Type} [ConfigStore σ] (kind : CommandKind) : Handler σ :=
  fun instruction session =>
    if kind.takes instruction.command then instruction.command.execute session
    else (.error (.internal (.unexpectedCommand kind instruction.kind)), session)

structure Dispatch (σ : Type) where
  handler? : CommandKind → Option (Handler σ)

namespace Dispatch
variable {σ : Type}

def empty : Dispatch σ := ⟨fun _ => none⟩

/-- Every kind with its standard handler. -/
def standard [ConfigStore σ] : Dispatch σ := ⟨fun kind => some (Handler.standard kind)⟩

def update (table : Dispatch σ) (kind : CommandKind) (handler : Option (Handler σ)) : Dispatch σ :=
  ⟨fun other => if other = kind then handler else table.handler? other⟩

@[simp] theorem handler?_update (table : Dispatch σ) (kind other : CommandKind)
    (handler : Option (Handler σ)) :
    (table.update kind handler).handler? other =
      if other = kind then handler else table.handler? other := rfl

/-- Registers a handler; answers with the one that it replaces. -/
def register (table : Dispatch σ) (kind : CommandKind) (handler : Handler σ) :
    Option (Handler σ) × Dispatch σ :=
  (table.handler? kind, table.update kind (some handler))

/-- Removes a handler and answers with it. -/
def unregister (table : Dispatch σ) (kind : CommandKind) : Option (Handler σ) × Dispatch σ :=
  (table.handler? kind, table.update kind none)

def find (table : Dispatch σ) (kind : CommandKind) : Except InternalError (Handler σ) :=
  match table.handler? kind with
  | some handler => .ok handler
  | none => .error (.noHandler kind)

/-- The kinds without a handler, in the order of the command table. -/
def missing (table : Dispatch σ) : List CommandKind :=
  CommandKind.all.filter fun kind => (table.handler? kind).isNone

theorem mem_missing_iff (table : Dispatch σ) (kind : CommandKind) :
    kind ∈ table.missing ↔ table.handler? kind = none := by
  simp [missing, CommandKind.mem_all]

def verify (table : Dispatch σ) : Except (List CommandKind) Unit :=
  if table.missing.isEmpty then .ok () else .error table.missing

end Dispatch
end NetworkConsole
