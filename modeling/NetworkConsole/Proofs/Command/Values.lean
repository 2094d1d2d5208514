import NetworkConsole.Proofs.Command.Typing

/-! What a command is made of. A kind makes a command of any values that have the types of its
parameters, whatever follows them, and the command keeps these values in their order. Of other values
it makes nothing and names the first place where one is missing or of another type. -/
namespace NetworkConsole

/-- The value is of the sort that the type declares. A keyword spells one of the options, in any
case. -/
inductive Value.HasType : Value → ArgumentType → Prop where
  | name (text : String) : HasType (.identifier text) .name
  | identifier (text : String) : HasType (.identifier text) .identifier
  | address (address : Address) : HasType (.address address) .address
  | mask (address : Address) : HasType (.address address) .mask
  | wildcard (address : Address) : HasType (.address address) .wildcard
  | number (number : UInt32) : HasType (.number number) .number
  | keyword {options : List String} {spelling option : String} (hoption : option ∈ options)
      (hcase : Text.lower spelling = Text.lower option) :
      HasType (.keyword spelling) (.keyword options)

/-- A keyword in lowercase; every other value as it is. -/
def Value.plain : Value → Value
  | .keyword spelling => .keyword (Text.lower spelling)
  | value => value

/-- The place has a parameter but no value of its type. -/
def Misfit (parameters : List Parameter) (values : List Value) (i : Nat) : Prop :=
  ∃ parameter, parameters[i]? = some parameter ∧
    ∀ value, values[i]? = some value → ¬ value.HasType parameter.type

namespace ArgumentType

def options : ArgumentType → List String
  | .keyword options => options
  | _ => []

theorem hasType_iff_admits {type : ArgumentType}
    (hlower : ∀ option ∈ type.options, Text.lower option = option) (value : Value) :
    value.HasType type ↔ type.admits value = true := by
  constructor
  · intro h
    cases h with
    | keyword hoption hcase =>
      rw [admits, List.contains_iff_mem, hcase, hlower _ hoption]
      exact hoption
    | _ => rfl
  · intro h
    cases type with
    | keyword options =>
      cases value with
      | keyword spelling =>
        rw [admits, List.contains_iff_mem] at h
        exact .keyword h (Text.lower_lower spelling).symm
      | _ => cases h
    | name | identifier | address | mask | wildcard | number =>
      cases value <;> first | constructor | cases h

end ArgumentType

/-- The options of the parameters are lowercase words. -/
theorem CommandKind.lower_options (kind : CommandKind) : ∀ parameter ∈ kind.parameters,
    ∀ option ∈ parameter.type.options, Text.lower option = option := by
  cases kind <;> decide +kernel

namespace Command

/-- The values of a command in the places of the parameters of its kind. -/
def values : Command → List Value
  | .addDevice kind name => [.keyword (Keyword.spelling kind), .identifier name]
  | .connect a b cable => [.identifier a, .identifier b, .keyword (Keyword.spelling cable)]
  | .setInterface device interface address mask =>
    [.identifier device, .identifier interface, .address address, .address mask]
  | .setHostname device hostname => [.identifier device, .identifier hostname]
  | .route device (.ospf process network wildcard area) =>
    [.identifier device, .number process, .address network, .address wildcard, .number area]
  | .route device (.eigrp system network wildcard) =>
    [.identifier device, .number system, .address network, .address wildcard]
  | .route device (.rip network) => [.identifier device, .address network]
  | .filter device number action (.standard source wildcard) =>
    [.identifier device, .number number, .keyword (Keyword.spelling action), .address source,
      .address wildcard]
  | .filter device number action
      (.extended protocol source sourceWildcard destination destinationWildcard) =>
    [.identifier device, .number number, .keyword (Keyword.spelling action),
      .keyword (Keyword.spelling protocol), .address source, .address sourceWildcard,
      .address destination, .address destinationWildcard]
  | .showInterfaces device | .showRouting device | .showAccess device | .showCli device
  | .save device => [.identifier device]
  | .showTopology | .showHistory | .clearCli | .clearAll | .help => []

namespace Arguments
variable {arguments : Arguments} {i : Nat}

theorem get_ok_iff {α : Type} {view : Value → Option α} {a : α} :
    arguments.get i view = .ok a ↔
      ∃ value, arguments.values[i]? = some value ∧ view value = some a := by
  rw [get, ← Option.bind_eq_some_iff]
  cases arguments.values[i]?.bind view <;> simp

/-- From place `i` on stand the given values, up to the case of keywords. -/
def Has (arguments : Arguments) : Nat → List Value → Prop
  | _, [] => True
  | i, value :: values =>
    arguments.values[i]?.map Value.plain = some value ∧ arguments.Has (i + 1) values

theorem has_iff (arguments : Arguments) (i : Nat) (values : List Value) :
    arguments.Has i values ↔
      ((arguments.values.drop i).take values.length).map Value.plain = values := by
  induction values generalizing i with
  | nil => simp [Has]
  | cons value values ih =>
    rw [Has, ih]
    cases hvalue : arguments.values[i]? with
    | none =>
      have hdrop : arguments.values.drop i = [] := List.drop_eq_nil_iff.2
        (List.getElem?_eq_none_iff.1 hvalue)
      simp [hdrop]
    | some found =>
      obtain ⟨hi, rfl⟩ := List.getElem?_eq_some_iff.1 hvalue
      rw [List.drop_eq_getElem_cons hi, List.length_cons, List.take_succ_cons, List.map_cons,
        List.cons.injEq, Option.map_some, Option.some.injEq]

theorem has_identifier {word : String} (h : arguments.identifier i = .ok word)
    {values : List Value} (hrest : arguments.Has (i + 1) values) :
    arguments.Has i (.identifier word :: values) := by
  refine ⟨?_, hrest⟩
  rw [getElem?_of_identifier h]
  rfl

theorem has_address {address : Address} (h : arguments.address i = .ok address)
    {values : List Value} (hrest : arguments.Has (i + 1) values) :
    arguments.Has i (.address address :: values) := by
  refine ⟨?_, hrest⟩
  rw [getElem?_of_address h]
  rfl

theorem has_number {number : UInt32} (h : arguments.number i = .ok number)
    {values : List Value} (hrest : arguments.Has (i + 1) values) :
    arguments.Has i (.number number :: values) := by
  refine ⟨?_, hrest⟩
  obtain ⟨value, hvalue, hview⟩ := get_ok_iff.1 h
  cases value <;> cases hview
  rw [hvalue]
  rfl

theorem has_keyword {α : Type} [Keyword α] {keyword : α} (h : arguments.keyword i = .ok keyword)
    {values : List Value} (hrest : arguments.Has (i + 1) values) :
    arguments.Has i (.keyword (Keyword.spelling keyword) :: values) := by
  refine ⟨?_, hrest⟩
  obtain ⟨value, hvalue, hview⟩ := get_ok_iff.1 h
  cases value with
  | keyword spelling =>
    have hspelling : Keyword.spelling keyword = Text.lower spelling := by
      simpa using List.find?_some hview
    rw [hvalue, hspelling]
    rfl
  | _ => cases hview

end Arguments

open Arguments in
/-- A command has the values that it was made of. -/
theorem has_values {kind : CommandKind} {values : List Value} {command : Command}
    (h : build kind values = .ok command) :
    Has ⟨kind, values⟩ 0 command.values ∧ command.values.length = kind.parameters.length := by
  cases kind <;> simp only [build, bind_ok_iff, pure, Except.pure, Except.ok.injEq] at h
  case add =>
    obtain ⟨kind, hkind, name, hname, rfl⟩ := h
    exact ⟨has_keyword hkind (has_identifier hname trivial), rfl⟩
  case connect =>
    obtain ⟨a, ha, b, hb, cable, hcable, rfl⟩ := h
    exact ⟨has_identifier ha (has_identifier hb (has_keyword hcable trivial)), rfl⟩
  case setInterface =>
    obtain ⟨device, hdevice, interface, hinterface, address, haddress, mask, hmask, rfl⟩ := h
    exact ⟨has_identifier hdevice (has_identifier hinterface
      (has_address haddress (has_address hmask trivial))), rfl⟩
  case setHostname =>
    obtain ⟨device, hdevice, hostname, hhostname, rfl⟩ := h
    exact ⟨has_identifier hdevice (has_identifier hhostname trivial), rfl⟩
  case setOspf =>
    obtain ⟨device, hdevice, process, hprocess, network, hnetwork, wildcard, hwildcard, area, harea,
      rfl⟩ := h
    exact ⟨has_identifier hdevice (has_number hprocess (has_address hnetwork
      (has_address hwildcard (has_number harea trivial)))), rfl⟩
  case setEigrp =>
    obtain ⟨device, hdevice, system, hsystem, network, hnetwork, wildcard, hwildcard, rfl⟩ := h
    exact ⟨has_identifier hdevice (has_number hsystem (has_address hnetwork
      (has_address hwildcard trivial))), rfl⟩
  case setRip =>
    obtain ⟨device, hdevice, network, hnetwork, rfl⟩ := h
    exact ⟨has_identifier hdevice (has_address hnetwork trivial), rfl⟩
  case setStandardAccess =>
    obtain ⟨device, hdevice, number, hnumber, action, haction, source, hsource, wildcard, hwildcard,
      rfl⟩ := h
    exact ⟨has_identifier hdevice (has_number hnumber (has_keyword haction (has_address hsource
      (has_address hwildcard trivial)))), rfl⟩
  case setExtendedAccess =>
    obtain ⟨device, hdevice, number, hnumber, action, haction, protocol, hprotocol, source, hsource,
      sourceWildcard, hsourceWildcard, destination, hdestination, destinationWildcard,
      hdestinationWildcard, rfl⟩ := h
    exact ⟨has_identifier hdevice (has_number hnumber (has_keyword haction (has_keyword hprotocol
      (has_address hsource (has_address hsourceWildcard (has_address hdestination
        (has_address hdestinationWildcard trivial))))))), rfl⟩
  case showInterfaces | showRouting | showAccess | showCli | save =>
    obtain ⟨device, hdevice, rfl⟩ := h
    exact ⟨has_identifier hdevice trivial, rfl⟩
  case showTopology | showHistory | clearCli | clearAll | help =>
    subst h
    exact ⟨trivial, rfl⟩

/-- A command is built from its kind and its values. -/
theorem build_values (command : Command) : build command.kind command.values = .ok command := by
  cases command with
  | addDevice kind name => cases kind <;> rfl
  | connect a b cable => cases cable <;> rfl
  | route device statement => cases statement <;> rfl
  | filter device number action entry =>
    cases entry with
    | standard source wildcard => cases action <;> rfl
    | extended protocol => cases action <;> cases protocol <;> rfl
  | _ => rfl

theorem eq_of_values {command other : Command} (hkind : command.kind = other.kind)
    (hvalues : command.values = other.values) : command = other := by
  have h := build_values command
  rw [hkind, hvalues, build_values other] at h
  exact (Except.ok.inj h).symm

/-- A command keeps the values in the places of the parameters, with the keywords in lowercase. -/
theorem values_of_build {kind : CommandKind} {values : List Value} {command : Command}
    (h : build kind values = .ok command) :
    command.values = (values.take kind.parameters.length).map Value.plain := by
  obtain ⟨hhas, hlength⟩ := has_values h
  rw [Arguments.has_iff, List.drop_zero, hlength] at hhas
  exact hhas.symm

theorem misfit_iff (kind : CommandKind) (values : List Value) (i : Nat) :
    Misfit kind.parameters values i ↔
      ∃ type, (kind.parameters.map Parameter.type)[i]? = some type ∧
        values[i]?.any type.admits = false := by
  rw [List.getElem?_map]
  cases hparameter : kind.parameters[i]? with
  | none => simp [Misfit, hparameter]
  | some parameter =>
    have htype := ArgumentType.hasType_iff_admits
      (kind.lower_options parameter (List.mem_of_getElem? hparameter))
    cases hvalue : values[i]? <;> simp [Misfit, hparameter, hvalue, htype]

/-- The mismatch is at the first place without a value of its type. -/
theorem Arguments.mismatch?_eq_some {arguments : Arguments} {i : Nat} {types : List ArgumentType}
    {e : Mismatch} (h : arguments.mismatch? i types = some e) :
    ∃ j, IsLeast {j | ∃ type, types[j]? = some type ∧
        arguments.values[i + j]?.any type.admits = false} j ∧
      e = ⟨arguments.kind, i + j + 1⟩ := by
  induction types generalizing i with
  | nil => cases h
  | cons first rest ih =>
    rw [mismatch?] at h
    split at h
    · next hfirst =>
      obtain ⟨j, ⟨⟨type, htype, hmisfit⟩, hle⟩, rfl⟩ := ih h
      rw [Nat.add_right_comm, Nat.add_assoc] at hmisfit
      refine ⟨j + 1, ⟨⟨type, htype, hmisfit⟩, ?_⟩, by rw [Nat.add_right_comm i, Nat.add_assoc i]⟩
      rintro (_ | k) ⟨other, hother, hmisfit'⟩
      · cases hother
        rw [Nat.add_zero, hfirst] at hmisfit'
        cases hmisfit'
      · rw [← Nat.add_assoc, Nat.add_right_comm] at hmisfit'
        exact Nat.succ_le_succ (hle ⟨other, hother, hmisfit'⟩)
    · next hfirst =>
      cases h
      exact ⟨0, ⟨⟨first, rfl, Bool.not_eq_true _ ▸ hfirst⟩, fun _ _ => Nat.zero_le _⟩, rfl⟩

/-- A kind makes a command of values without a misfit, and otherwise names the first one. -/
theorem build_cases (kind : CommandKind) (values : List Value) :
    ((∀ i, ¬ Misfit kind.parameters values i) ∧
        ∃ command, build kind values = .ok command ∧ command.kind = kind) ∨
      ∃ i, IsLeast {i | Misfit kind.parameters values i} i ∧
        build kind values = .error ⟨kind, i + 1⟩ := by
  have hreads := build_reads kind values
  rw [Arguments.Reads] at hreads
  split at hreads
  · next e hmismatch =>
    obtain ⟨i, hleast, rfl⟩ := Arguments.mismatch?_eq_some hmismatch
    simp only [Nat.zero_add, ← misfit_iff] at hleast hreads
    exact .inr ⟨i, hleast, hreads⟩
  · next hmismatch =>
    refine .inl ⟨fun i hmisfit => ?_, hreads⟩
    obtain ⟨type, htype, hvalue⟩ := (misfit_iff _ _ _).1 hmisfit
    have hfits := (Arguments.mismatch?_eq_none_iff _ _ _).1 hmismatch i type htype
    rw [Nat.zero_add, hvalue] at hfits
    cases hfits

theorem build_eq_error_iff {kind : CommandKind} {values : List Value} {e : Mismatch} :
    build kind values = .error e ↔
      ∃ i, IsLeast {i | Misfit kind.parameters values i} i ∧ e = ⟨kind, i + 1⟩ := by
  obtain ⟨hfits, command, hbuild, -⟩ | ⟨i, hleast, hbuild⟩ := build_cases kind values
  · rw [hbuild]
    refine ⟨nofun, fun ⟨i, hleast, _⟩ => absurd hleast.1 (hfits i)⟩
  · rw [hbuild]
    constructor
    · rintro ⟨⟩
      exact ⟨i, hleast, rfl⟩
    · rintro ⟨j, hleast', rfl⟩
      rw [hleast.unique hleast']

theorem build_isOk_iff {kind : CommandKind} {values : List Value} :
    (∃ command, build kind values = .ok command) ↔ ∀ i, ¬ Misfit kind.parameters values i := by
  obtain ⟨hfits, command, hbuild, -⟩ | ⟨i, hleast, hbuild⟩ := build_cases kind values
  · exact iff_of_true ⟨command, hbuild⟩ hfits
  · rw [hbuild]
    exact iff_of_false nofun fun hfits => hfits i hleast.1

theorem kind_of_build {kind : CommandKind} {values : List Value} {command : Command}
    (h : build kind values = .ok command) : command.kind = kind := by
  obtain ⟨-, command', hbuild, hkind⟩ | ⟨i, -, hbuild⟩ := build_cases kind values
  · cases h.symm.trans hbuild
    exact hkind
  · cases h.symm.trans hbuild

theorem misfit_take (parameters : List Parameter) (values : List Value) (i : Nat) :
    Misfit parameters (values.take parameters.length) i ↔ Misfit parameters values i := by
  refine exists_congr fun parameter => and_congr_right fun hparameter => ?_
  have hi : i < parameters.length := (List.getElem?_eq_some_iff.1 hparameter).1
  rw [List.getElem?_take_of_lt hi]

/-- Values after the places of the parameters do not matter. -/
theorem build_take (kind : CommandKind) (values : List Value) :
    build kind (values.take kind.parameters.length) = build kind values := by
  -- A misfit is at the place of a parameter, and a command is settled by the values in these places.
  cases hbuild : build kind values with
  | error e =>
    rw [build_eq_error_iff] at hbuild ⊢
    simpa only [misfit_take] using hbuild
  | ok command =>
    obtain ⟨other, hother⟩ : ∃ command, build kind (values.take kind.parameters.length) =
        .ok command := by
      rw [build_isOk_iff]
      simpa only [misfit_take] using build_isOk_iff.1 ⟨command, hbuild⟩
    have hvalues : other.values = command.values := by
      rw [values_of_build hother, values_of_build hbuild, List.take_take, Nat.min_self]
    rw [hother, eq_of_values ((kind_of_build hother).trans (kind_of_build hbuild).symm) hvalues]

/-- A kind makes a command exactly of values that have the types of its parameters, whatever follows
them. The command is of that kind and keeps these values in their order. Otherwise the kind names the
first place, counted from one, where a value is missing or of another type. -/
theorem build_spec (kind : CommandKind) (values : List Value) :
    ((∃ command, build kind values = .ok command) ↔
        ∀ (i : Nat) (parameter : Parameter), kind.parameters[i]? = some parameter →
          ∃ value, values[i]? = some value ∧ value.HasType parameter.type) ∧
      (∀ command, build kind values = .ok command →
        command.kind = kind ∧
          command.values = (values.take kind.parameters.length).map Value.plain) ∧
      (∀ e, build kind values = .error e ↔
        ∃ i, IsLeast {i | Misfit kind.parameters values i} i ∧ e = ⟨kind, i + 1⟩) ∧
      build kind (values.take kind.parameters.length) = build kind values := by
  refine ⟨build_isOk_iff.trans ?_, fun command h => ⟨kind_of_build h, values_of_build h⟩,
    fun e => build_eq_error_iff, build_take kind values⟩
  simp only [Misfit, not_exists, not_and, not_forall, not_not, exists_prop]

end Command
end NetworkConsole
