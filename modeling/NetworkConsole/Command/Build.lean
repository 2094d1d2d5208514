import NetworkConsole.Command.Basic

/-! Commands from typed values. Each position must hold a value of the parameter's type; values past
the last parameter are ignored. -/
namespace NetworkConsole.Command

/-- The place, counted from one, where a kind of command did not find a value of the declared
type. -/
structure Mismatch where
  kind : CommandKind
  position : Nat
  deriving DecidableEq

/-- Typed values in the places of the arguments of a command of the given kind. -/
structure Arguments where
  kind : CommandKind
  values : List Value

namespace Arguments

/-- Reads the value at place `i`, counted from zero, as the view `f` takes it. -/
def get {α : Type} (arguments : Arguments) (i : Nat) (f : Value → Option α) :
    Except Mismatch α :=
  match arguments.values[i]?.bind f with
  | some a => .ok a
  | none => .error ⟨arguments.kind, i + 1⟩

def identifier (arguments : Arguments) (i : Nat) : Except Mismatch String :=
  arguments.get i fun
    | .identifier text => some text
    | _ => none

def address (arguments : Arguments) (i : Nat) : Except Mismatch Address :=
  arguments.get i fun
    | .address address => some address
    | _ => none

def number (arguments : Arguments) (i : Nat) : Except Mismatch UInt32 :=
  arguments.get i fun
    | .number number => some number
    | _ => none

def keyword {α : Type} [Keyword α] (arguments : Arguments) (i : Nat) : Except Mismatch α :=
  arguments.get i fun
    | .keyword spelling => Keyword.ofString? spelling
    | _ => none

end Arguments

/-- The command of a kind with the given values, read from left to right. -/
def build (kind : CommandKind) (values : List Value) : Except Mismatch Command := do
  let arguments : Arguments := ⟨kind, values⟩
  match kind with
  | .add => return .addDevice (← arguments.keyword 0) (← arguments.identifier 1)
  | .connect =>
    return .connect (← arguments.identifier 0) (← arguments.identifier 1) (← arguments.keyword 2)
  | .setInterface =>
    return .setInterface (← arguments.identifier 0) (← arguments.identifier 1)
      (← arguments.address 2) (← arguments.address 3)
  | .setHostname => return .setHostname (← arguments.identifier 0) (← arguments.identifier 1)
  | .setOspf =>
    return .route (← arguments.identifier 0)
      (.ospf (← arguments.number 1) (← arguments.address 2) (← arguments.address 3)
        (← arguments.number 4))
  | .setEigrp =>
    return .route (← arguments.identifier 0)
      (.eigrp (← arguments.number 1) (← arguments.address 2) (← arguments.address 3))
  | .setRip => return .route (← arguments.identifier 0) (.rip (← arguments.address 1))
  | .setStandardAccess =>
    return .filter (← arguments.identifier 0) (← arguments.number 1) (← arguments.keyword 2)
      (.standard (← arguments.address 3) (← arguments.address 4))
  | .setExtendedAccess =>
    return .filter (← arguments.identifier 0) (← arguments.number 1) (← arguments.keyword 2)
      (.extended (← arguments.keyword 3) (← arguments.address 4) (← arguments.address 5)
        (← arguments.address 6) (← arguments.address 7))
  | .showInterfaces => return .showInterfaces (← arguments.identifier 0)
  | .showRouting => return .showRouting (← arguments.identifier 0)
  | .showAccess => return .showAccess (← arguments.identifier 0)
  | .showCli => return .showCli (← arguments.identifier 0)
  | .showTopology => return .showTopology
  | .showHistory => return .showHistory
  | .save => return .save (← arguments.identifier 0)
  | .clearCli => return .clearCli
  | .clearAll => return .clearAll
  | .help => return .help

end NetworkConsole.Command
