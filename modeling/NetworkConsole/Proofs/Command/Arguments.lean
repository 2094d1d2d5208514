import NetworkConsole.Proofs.Command.Building
import NetworkConsole.Proofs.Command.Grammar
import NetworkConsole.Session.Submit

/-! The arguments that a kind of command takes: as many as it has parameters, each of the type of its
parameter. Everything else is refused, for the number of the arguments or for the first one that is
not of its type. -/
namespace NetworkConsole

/-- The argument at the place, counted from zero, cannot be read under its parameter. -/
structure Unread (parameters : List Parameter) (arguments : List String) (i : Nat)
    (parameter : Parameter) (argument : String) : Prop where
  parameter_eq : parameters[i]? = some parameter
  argument_eq : arguments[i]? = some argument
  unread : parameter.type.read? argument = none

/-- The argument at the place cannot be read, but all those before it can. -/
structure FirstUnread (parameters : List Parameter) (arguments : List String) (i : Nat)
    (parameter : Parameter) (argument : String) : Prop
    extends Unread parameters arguments i parameter argument where
  le : ∀ j other word, Unread parameters arguments j other word → i ≤ j

section
variable {first : Parameter} {parameters : List Parameter} {head : String} {arguments : List String}
  {i : Nat} {parameter : Parameter} {argument : String}

theorem unread_succ_iff :
    Unread (first :: parameters) (head :: arguments) (i + 1) parameter argument ↔
      Unread parameters arguments i parameter argument :=
  ⟨fun ⟨hp, ha, hread⟩ => ⟨hp, ha, hread⟩, fun ⟨hp, ha, hread⟩ => ⟨hp, ha, hread⟩⟩

theorem not_unread_zero {value : Value} (hread : first.type.read? head = some value) :
    ¬ Unread (first :: parameters) (head :: arguments) 0 parameter argument := by
  rintro ⟨hp, ha, hunread⟩
  cases hp
  cases ha
  cases hread.symm.trans hunread

theorem FirstUnread.unique {j : Nat} {other : Parameter} {word : String}
    (h : FirstUnread parameters arguments i parameter argument)
    (h' : FirstUnread parameters arguments j other word) :
    i = j ∧ parameter = other ∧ argument = word := by
  obtain rfl : i = j := Nat.le_antisymm (h.le _ _ _ h'.toUnread) (h'.le _ _ _ h.toUnread)
  exact ⟨rfl, Option.some.inj (h.parameter_eq.symm.trans h'.parameter_eq),
    Option.some.inj (h.argument_eq.symm.trans h'.argument_eq)⟩

theorem firstUnread_zero (h : first.type.read? head = none) :
    FirstUnread (first :: parameters) (head :: arguments) 0 first head where
  toUnread := ⟨rfl, rfl, h⟩
  le _ _ _ _ := Nat.zero_le _

theorem FirstUnread.cons {value : Value} (hread : first.type.read? head = some value)
    (h : FirstUnread parameters arguments i parameter argument) :
    FirstUnread (first :: parameters) (head :: arguments) (i + 1) parameter argument where
  toUnread := unread_succ_iff.2 h.toUnread
  le j other word hj := by
    cases j with
    | zero => exact absurd hj (not_unread_zero hread)
    | succ j => exact Nat.succ_le_succ (h.le j other word (unread_succ_iff.1 hj))

end

namespace Token

/-- Reading ends with all values or at the first argument that cannot be read. -/
theorem readArguments_cases (kind : CommandKind) (position : Nat) (parameters : List Parameter)
    (arguments : List String) :
    (∃ values, readArguments kind position parameters arguments = .ok values ∧
        ∀ i parameter argument, ¬ Unread parameters arguments i parameter argument) ∨
      ∃ i parameter argument, FirstUnread parameters arguments i parameter argument ∧
        readArguments kind position parameters arguments =
          .error (.wrongType kind (position + i) parameter argument) := by
  induction parameters generalizing position arguments with
  | nil => exact .inl ⟨[], by simp [readArguments], fun _ _ _ h => by simpa using h.parameter_eq⟩
  | cons first parameters ih =>
    cases arguments with
    | nil => exact .inl ⟨[], rfl, fun _ _ _ h => by simpa using h.argument_eq⟩
    | cons head arguments =>
      cases hread : first.type.read? head with
      | none =>
        exact .inr ⟨0, first, head, firstUnread_zero hread, by simp only [readArguments, hread]; rfl⟩
      | some value =>
        obtain ⟨values, hok, hall⟩ | ⟨i, parameter, argument, hfirst, herror⟩ :=
          ih (position + 1) arguments
        · refine .inl ⟨value :: values, by simp only [readArguments, hread, hok], ?_⟩
          intro i parameter argument hunread
          cases i with
          | zero => exact not_unread_zero hread hunread
          | succ i => exact hall i parameter argument (unread_succ_iff.1 hunread)
        · refine .inr ⟨i + 1, parameter, argument, hfirst.cons hread, ?_⟩
          simp only [readArguments, hread, herror, Nat.add_assoc, Nat.add_comm 1 i]

/-- The check of the arguments on its own: the command that they make, or why they make none, with
the line of the token. -/
def checked (token : Token) : Except LineError Command :=
  token.command.mapError (LineError.mk token.raw)

/-- The three ends that the check of the arguments can come to. -/
theorem checked_cases (token : Token) :
    (token.arguments.length ≠ token.kind.parameters.length ∧
        token.checked =
          .error ⟨token.raw, .arguments (.wrongCount token.kind token.arguments.length)⟩) ∨
      (token.arguments.length = token.kind.parameters.length ∧
        ∃ i parameter argument,
          FirstUnread token.kind.parameters token.arguments i parameter argument ∧
          token.checked = .error
            ⟨token.raw, .arguments (.wrongType token.kind (i + 1) parameter argument)⟩) ∨
      (token.arguments.length = token.kind.parameters.length ∧
        (∀ i parameter argument,
          ¬ Unread token.kind.parameters token.arguments i parameter argument) ∧
        ∃ command, token.checked = .ok command ∧ command.kind = token.kind) := by
  by_cases hcount : token.arguments.length = token.kind.parameters.length
  · have hvalues : token.values =
        readArguments token.kind 1 token.kind.parameters token.arguments := by
      rw [Token.values, if_neg (not_not.2 hcount)]
    obtain ⟨values, hok, hall⟩ | ⟨i, parameter, argument, hfirst, herror⟩ :=
      readArguments_cases token.kind 1 token.kind.parameters token.arguments
    · obtain ⟨made, hbuild, hkind⟩ := build_of_values (hvalues.trans hok)
      refine .inr (.inr ⟨hcount, hall, made, ?_, hkind⟩)
      simp only [checked, command, hvalues, hok, hbuild, Except.mapError]
    · refine .inr (.inl ⟨hcount, i, parameter, argument, hfirst, ?_⟩)
      rw [Nat.add_comm 1 i] at herror
      simp only [checked, command, hvalues, herror, Except.mapError]
  · refine .inl ⟨hcount, ?_⟩
    simp only [checked, command, Token.values, if_pos hcount, Except.mapError]

variable {token : Token}

theorem checked_ok_iff (token : Token) :
    (∃ command, token.checked = .ok command) ↔
      token.arguments.length = token.kind.parameters.length ∧
        ∀ i parameter argument,
          ¬ Unread token.kind.parameters token.arguments i parameter argument := by
  obtain ⟨hcount, hchecked⟩ | ⟨hcount, i, parameter, argument, hfirst, hchecked⟩ |
    ⟨hcount, hall, made, hchecked, _⟩ := token.checked_cases
  · simp [hchecked, hcount]
  · simp only [hchecked, reduceCtorEq, exists_false, false_iff, not_and, not_forall, not_not]
    exact fun _ => ⟨i, parameter, argument, hfirst.toUnread⟩
  · exact iff_of_true ⟨made, hchecked⟩ ⟨hcount, hall⟩

theorem checked_of_count (h : token.arguments.length ≠ token.kind.parameters.length) :
    token.checked =
      .error ⟨token.raw, .arguments (.wrongCount token.kind token.arguments.length)⟩ := by
  obtain ⟨_, hchecked⟩ | ⟨hcount, _⟩ | ⟨hcount, _⟩ := token.checked_cases
  · exact hchecked
  · exact absurd hcount h
  · exact absurd hcount h

theorem checked_error_iff (h : token.arguments.length = token.kind.parameters.length)
    (e : LineError) :
    token.checked = .error e ↔
      ∃ i parameter argument,
        FirstUnread token.kind.parameters token.arguments i parameter argument ∧
        e = ⟨token.raw, .arguments (.wrongType token.kind (i + 1) parameter argument)⟩ := by
  obtain ⟨hcount, _⟩ | ⟨_, i, parameter, argument, hfirst, hchecked⟩ |
    ⟨_, hall, made, hchecked, _⟩ := token.checked_cases
  · exact absurd h hcount
  · rw [hchecked]
    constructor
    · intro he
      exact ⟨i, parameter, argument, hfirst, (Except.error.inj he).symm⟩
    · rintro ⟨j, other, word, hother, rfl⟩
      obtain ⟨rfl, rfl, rfl⟩ := hfirst.unique hother
      rfl
  · rw [hchecked]
    refine iff_of_false (by simp) ?_
    rintro ⟨j, other, word, hother, _⟩
    exact hall j other word hother.toUnread

theorem checked_error_cause {e : LineError} (h : token.checked = .error e) :
    e.line = token.raw ∧ ∃ cause, e.cause = .arguments cause := by
  obtain ⟨_, hchecked⟩ | ⟨_, i, parameter, argument, _, hchecked⟩ | ⟨_, _, made, hchecked, _⟩ :=
    token.checked_cases
  · cases h.symm.trans hchecked
    exact ⟨rfl, _, rfl⟩
  · cases h.symm.trans hchecked
    exact ⟨rfl, _, rfl⟩
  · cases h.symm.trans hchecked

theorem kind_of_checked {command : Command} (h : token.checked = .ok command) :
    command.kind = token.kind := by
  obtain ⟨_, hchecked⟩ | ⟨_, i, parameter, argument, _, hchecked⟩ | ⟨_, _, made, hchecked, hkind⟩ :=
    token.checked_cases
  · cases h.symm.trans hchecked
  · cases h.symm.trans hchecked
  · cases h.symm.trans hchecked
    exact hkind

/-- A line whose token fails the check fails with the same error, whatever the table and the
network. -/
theorem submit_of_checked {e : LineError} (h : token.checked = .error e) {line : String}
    (htoken : ofLine line = .ok token) {σ : Type} (table : Dispatch σ) (session : Session σ) :
    (session.submit table line).outcome = .error e := by
  have hraw : token.raw = line := ((ofLine_ok_iff line token).1 htoken).1
  cases hcommand : token.command with
  | error cause =>
    rw [checked, hcommand, hraw] at h
    cases h
    simp only [Session.submit, htoken, hcommand]
    rfl
  | ok made =>
    rw [checked, hcommand] at h
    cases h

end Token

/-- The check of the arguments accepts what the parameters declare. A wrong number of arguments is
refused whatever they are, with both numbers. Otherwise the first argument that is not of the type of
its parameter is refused, under its place counted from one. No check ends in a contradiction of the
console, and a command is of the kind of its token. -/
theorem arguments_exact (token : Token) :
    let kind := token.kind
    let parameters := kind.parameters
    let expected := parameters.length
    let given := token.arguments.length
    let usage := kind.shape.usage
    ((∃ command, token.checked = .ok command) ↔
      given = expected ∧
        ∀ i parameter argument, ¬ Unread parameters token.arguments i parameter argument) ∧
    (given ≠ expected →
      token.checked = .error ⟨token.raw, .arguments (.wrongCount kind given)⟩ ∧
      (ArgumentError.wrongCount kind given).text =
      s!"wrong number of arguments for `{kind}`: expected {expected}, got {given} (usage: {usage})") ∧
    (given = expected → ∀ e, token.checked = .error e ↔
      ∃ i parameter argument, FirstUnread parameters token.arguments i parameter argument ∧
        e = ⟨token.raw, .arguments (.wrongType kind (i + 1) parameter argument)⟩) ∧
    (∀ e, token.checked = .error e →
      e.line = token.raw ∧ ∀ contradiction, e.cause ≠ .internal contradiction) ∧
    (∀ command, token.checked = .ok command → command.kind = kind) ∧
    ∀ line e, Token.ofLine line = .ok token → token.checked = .error e →
      ∀ (σ : Type) (table : Dispatch σ) (session : Session σ),
        (session.submit table line).outcome = .error e := by
  intro kind parameters expected given usage
  refine ⟨token.checked_ok_iff, fun hcount => ⟨Token.checked_of_count hcount, rfl⟩,
    Token.checked_error_iff, ?causes, fun _ => Token.kind_of_checked, ?lines⟩
  case causes =>
    intro e h
    obtain ⟨hline, cause, hcause⟩ := Token.checked_error_cause h
    refine ⟨hline, fun contradiction hinternal => ?_⟩
    cases hcause.symm.trans hinternal
  case lines =>
    intro line e htoken h σ table session
    exact Token.submit_of_checked h htoken table session

end NetworkConsole
