import Mathlib
import NetworkConsole.Session.Instruction

/-! Commands from typed values. A kind reads the values in the places of its parameters and fails at
the first place without a value that the parameter's type admits. The typed arguments of a token
leave no such place. -/
namespace NetworkConsole

theorem Text.lower_lower (text : String) : lower (lower text) = lower text := by
  have hletter : Char.toLower ∘ Char.toLower = Char.toLower :=
    funext Char.toLower_toLower_eq_toLower
  simp [lower, hletter]

namespace Keyword
variable {α : Type} [Keyword α]

theorem ofString?_isSome (text : String) :
    (ofString? text : Option α).isSome = (options α).contains (Text.lower text) := by
  rw [Bool.eq_iff_iff]
  simp [ofString?, options]

end Keyword

/-- The value is of the sort that the type declares; a keyword spells one of the options. -/
def ArgumentType.admits : ArgumentType → Value → Bool
  | .name, .identifier _ | .identifier, .identifier _ => true
  | .address, .address _ | .mask, .address _ | .wildcard, .address _ => true
  | .number, .number _ => true
  | .keyword options, .keyword spelling => options.contains (Text.lower spelling)
  | _, _ => false

theorem ArgumentType.admits_of_read? {type : ArgumentType} {text : String} {value : Value}
    (h : type.read? text = some value) : type.admits value = true := by
  cases type with
  | name | identifier =>
    simp only [read?] at h
    split at h
    · cases h
      rfl
    · cases h
  | address | wildcard | mask | number =>
    simp only [read?, Option.map_eq_some_iff] at h
    obtain ⟨_, _, rfl⟩ := h
    rfl
  | keyword options =>
    simp only [read?, Option.map_eq_some_iff] at h
    obtain ⟨spelling, hfind, rfl⟩ := h
    have hspelling : spelling = Text.lower text := by simpa using List.find?_some hfind
    rw [admits, List.contains_iff_mem, hspelling, Text.lower_lower, ← hspelling]
    exact List.mem_of_find?_eq_some hfind

namespace Command

namespace Arguments

/-- The first place without a value of its type, where the types start at place `i`. -/
def mismatch? (arguments : Arguments) : Nat → List ArgumentType → Option Mismatch
  | _, [] => none
  | i, type :: types =>
    if arguments.values[i]?.any type.admits then arguments.mismatch? (i + 1) types
    else some ⟨arguments.kind, i + 1⟩

theorem mismatch?_eq_none_iff (arguments : Arguments) (i : Nat) (types : List ArgumentType) :
    arguments.mismatch? i types = none ↔
      ∀ j type, types[j]? = some type →
        arguments.values[i + j]?.any type.admits = true := by
  induction types generalizing i with
  | nil => simp [mismatch?]
  | cons first rest ih =>
    rw [mismatch?]
    split
    · next hfirst =>
      rw [ih]
      constructor
      · intro hrest j type hj
        cases j with
        | zero =>
          cases hj
          exact hfirst
        | succ j =>
          rw [show i + (j + 1) = i + 1 + j by omega]
          exact hrest j type hj
      · intro hall j type hj
        rw [show i + 1 + j = i + (j + 1) by omega]
        exact hall (j + 1) type hj
    · next hfirst =>
      simp only [reduceCtorEq, false_iff, not_forall]
      exact ⟨0, first, rfl, hfirst⟩

/-- From place `i` on, `result` reads values of the given types, and with all of them it makes
something that satisfies `P`. -/
def Reads {α : Type} (arguments : Arguments) (i : Nat) (types : List ArgumentType) (P : α → Prop)
    (result : Except Mismatch α) : Prop :=
  match arguments.mismatch? i types with
  | some e => result = .error e
  | none => ∃ a, result = .ok a ∧ P a

variable {arguments : Arguments} {i : Nat} {types : List ArgumentType}

theorem reads_pure {α : Type} {P : α → Prop} {a : α} (h : P a) :
    arguments.Reads i [] P (pure a) :=
  ⟨a, rfl, h⟩

/-- Reading one more value with a view that takes exactly the values of the type. -/
theorem reads_get {α β : Type} {type : ArgumentType} {view : Value → Option α}
    (hview : ∀ value, (view value).isSome = type.admits value) {P : β → Prop}
    {next : α → Except Mismatch β} (hnext : ∀ a, arguments.Reads (i + 1) types P (next a)) :
    arguments.Reads i (type :: types) P (arguments.get i view >>= next) := by
  rw [Reads, mismatch?]
  cases hread : arguments.values[i]?.bind view with
  | none =>
    have hget : arguments.get i view = .error ⟨arguments.kind, i + 1⟩ := by rw [get, hread]
    have hmisfit : arguments.values[i]?.any type.admits = false := by
      cases hvalue : arguments.values[i]? with
      | none => rfl
      | some value =>
        rw [hvalue, Option.bind_some] at hread
        simp [← hview, hread]
    rw [hmisfit, hget]
    rfl
  | some a =>
    have hget : arguments.get i view = .ok a := by rw [get, hread]
    obtain ⟨value, hvalue, hview'⟩ := Option.bind_eq_some_iff.1 hread
    have hfits : arguments.values[i]?.any type.admits = true := by
      simp [hvalue, ← hview, hview']
    rw [hfits, hget]
    exact hnext a

section Views
variable {β : Type} {P : β → Prop}

theorem reads_name {next : String → Except Mismatch β}
    (hnext : ∀ a, arguments.Reads (i + 1) types P (next a)) :
    arguments.Reads i (.name :: types) P (arguments.identifier i >>= next) :=
  reads_get (fun value => by cases value <;> rfl) hnext

theorem reads_identifier {next : String → Except Mismatch β}
    (hnext : ∀ a, arguments.Reads (i + 1) types P (next a)) :
    arguments.Reads i (.identifier :: types) P (arguments.identifier i >>= next) :=
  reads_get (fun value => by cases value <;> rfl) hnext

theorem reads_number {next : UInt32 → Except Mismatch β}
    (hnext : ∀ a, arguments.Reads (i + 1) types P (next a)) :
    arguments.Reads i (.number :: types) P (arguments.number i >>= next) :=
  reads_get (fun value => by cases value <;> rfl) hnext

/-- Addresses, masks and wildcards are all read as addresses. -/
theorem reads_address {type : ArgumentType} (htype : type ∈ [.address, .mask, .wildcard])
    {next : Address → Except Mismatch β} (hnext : ∀ a, arguments.Reads (i + 1) types P (next a)) :
    arguments.Reads i (type :: types) P (arguments.address i >>= next) := by
  refine reads_get (fun value => ?_) hnext
  simp only [List.mem_cons, List.not_mem_nil, or_false] at htype
  obtain rfl | rfl | rfl := htype <;> cases value <;> rfl

theorem reads_keyword {α : Type} [Keyword α] {next : α → Except Mismatch β}
    (hnext : ∀ a, arguments.Reads (i + 1) types P (next a)) :
    arguments.Reads i (.keyword (Keyword.options α) :: types) P (arguments.keyword i >>= next) :=
  reads_get (fun value => by cases value <;> first | rfl | exact Keyword.ofString?_isSome _) hnext

end Views
end Arguments

open Arguments in
/-- Every kind reads its values in the places of its parameters. -/
theorem build_reads (kind : CommandKind) (values : List Value) :
    Reads ⟨kind, values⟩ 0 (kind.parameters.map Parameter.type) (·.kind = kind)
      (build kind values) := by
  cases kind with
  | add => exact reads_keyword fun _ => reads_name fun _ => reads_pure rfl
  | connect =>
    exact reads_name fun _ => reads_name fun _ => reads_keyword fun _ => reads_pure rfl
  | setInterface =>
    exact reads_name fun _ => reads_identifier fun _ => reads_address (by decide) fun _ =>
      reads_address (by decide) fun _ => reads_pure rfl
  | setHostname => exact reads_name fun _ => reads_name fun _ => reads_pure rfl
  | setOspf =>
    exact reads_name fun _ => reads_number fun _ => reads_address (by decide) fun _ =>
      reads_address (by decide) fun _ => reads_number fun _ => reads_pure rfl
  | setEigrp =>
    exact reads_name fun _ => reads_number fun _ => reads_address (by decide) fun _ =>
      reads_address (by decide) fun _ => reads_pure rfl
  | setRip => exact reads_name fun _ => reads_address (by decide) fun _ => reads_pure rfl
  | setStandardAccess =>
    exact reads_name fun _ => reads_number fun _ => reads_keyword fun _ =>
      reads_address (by decide) fun _ => reads_address (by decide) fun _ => reads_pure rfl
  | setExtendedAccess =>
    exact reads_name fun _ => reads_number fun _ => reads_keyword fun _ => reads_keyword fun _ =>
      reads_address (by decide) fun _ => reads_address (by decide) fun _ =>
        reads_address (by decide) fun _ => reads_address (by decide) fun _ => reads_pure rfl
  | showInterfaces | showRouting | showAccess | showCli | save =>
    exact reads_name fun _ => reads_pure rfl
  | showTopology | showHistory | clearCli | clearAll | help => exact reads_pure rfl

theorem build_ok {kind : CommandKind} {values : List Value}
    (h : Arguments.mismatch? ⟨kind, values⟩ 0 (kind.parameters.map Parameter.type) = none) :
    ∃ command, build kind values = .ok command ∧ command.kind = kind := by
  have hreads := build_reads kind values
  rwa [Arguments.Reads, h] at hreads

end Command

namespace Token

theorem readArguments_admits {kind : CommandKind} {position : Nat} {parameters : List Parameter}
    {arguments : List String} {values : List Value}
    (h : readArguments kind position parameters arguments = .ok values)
    (hlength : arguments.length = parameters.length) {j : Nat} {type : ArgumentType}
    (hj : (parameters.map Parameter.type)[j]? = some type) :
    values[j]?.any type.admits = true := by
  induction parameters generalizing position arguments values j with
  | nil => simp at hj
  | cons parameter parameters ih =>
    cases arguments with
    | nil => simp at hlength
    | cons argument arguments =>
      rw [readArguments] at h
      cases hread : parameter.type.read? argument with
      | none => simp [hread] at h
      | some value =>
        cases hrest : readArguments kind (position + 1) parameters arguments with
        | error e => simp [hread, hrest] at h
        | ok rest =>
          simp only [hread, hrest, Except.ok.injEq] at h
          subst h
          cases j with
          | zero =>
            cases hj
            exact ArgumentType.admits_of_read? hread
          | succ j => exact ih hrest (Nat.succ.inj hlength) hj

/-- Typed arguments always make a command of the token's kind. -/
theorem build_of_values {token : Token} {values : List Value} (h : token.values = .ok values) :
    ∃ command, Command.build token.kind values = .ok command ∧ command.kind = token.kind := by
  rw [Token.values] at h
  split at h
  · cases h
  · next hlength =>
    refine Command.build_ok ((Command.Arguments.mismatch?_eq_none_iff _ _ _).2 ?_)
    intro j type hj
    rw [Nat.zero_add]
    exact readArguments_admits h (not_not.1 hlength) hj

theorem command_cases (token : Token) :
    (∃ e, token.command = .error (.arguments e)) ∨
      ∃ command, token.command = .ok command ∧ command.kind = token.kind := by
  rw [command]
  cases hvalues : token.values with
  | error e => exact .inl ⟨e, rfl⟩
  | ok values =>
    obtain ⟨command, hbuild, hkind⟩ := build_of_values hvalues
    exact .inr ⟨command, by simp only [hbuild], hkind⟩

end Token
end NetworkConsole
