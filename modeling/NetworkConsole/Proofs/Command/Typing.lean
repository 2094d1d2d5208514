import NetworkConsole.Proofs.Command.Building

/-! What the types of the parameters say of a command: the words in it are words of the grammar, and
its mask is contiguous. -/
namespace NetworkConsole

theorem ArgumentType.isName_of_read? {text word : String}
    (h : ArgumentType.name.read? text = some (.identifier word)) : isName word = true := by
  simp only [read?] at h
  split at h
  · next hname =>
    cases h
    exact hname
  · cases h

theorem ArgumentType.isIdentifier_of_read? {text word : String}
    (h : ArgumentType.identifier.read? text = some (.identifier word)) :
    isIdentifier word = true := by
  simp only [read?] at h
  split at h
  · next hidentifier =>
    cases h
    exact hidentifier
  · cases h

theorem ArgumentType.isContiguous_of_read? {text : String} {mask : Address}
    (h : ArgumentType.mask.read? text = some (.address mask)) : mask.isContiguous = true := by
  simp only [read?, Option.map_eq_some_iff, Option.filter_eq_some_iff, Value.address.injEq] at h
  obtain ⟨_, ⟨_, hmask⟩, rfl⟩ := h
  exact hmask

namespace Command

theorem bind_ok_iff {ε α β : Type} (x : Except ε α) (next : α → Except ε β) (b : β) :
    (x >>= next) = .ok b ↔ ∃ a, x = .ok a ∧ next a = .ok b := by
  cases x <;> simp [bind, Except.bind]

/-- Every value in the place of a parameter is denoted by some text under the parameter's type. -/
def Arguments.Denoted (arguments : Arguments) : Prop :=
  ∀ (i : Nat) (type : ArgumentType) (value : Value),
    arguments.kind.parameters[i]?.map Parameter.type = some type →
      arguments.values[i]? = some value → ∃ text, type.read? text = some value

namespace Arguments
variable {arguments : Arguments} {i : Nat}

theorem getElem?_of_identifier {word : String} (h : arguments.identifier i = .ok word) :
    arguments.values[i]? = some (.identifier word) := by
  rw [identifier, get] at h
  split at h
  · next hview =>
    cases h
    obtain ⟨value, hvalue, hword⟩ := Option.bind_eq_some_iff.1 hview
    split at hword <;> simp_all
  · cases h

theorem getElem?_of_address {address : Address} (h : arguments.address i = .ok address) :
    arguments.values[i]? = some (.address address) := by
  rw [Arguments.address, get] at h
  split at h
  · next hview =>
    cases h
    obtain ⟨value, hvalue, haddress⟩ := Option.bind_eq_some_iff.1 hview
    split at haddress <;> simp_all
  · cases h

namespace Denoted
variable (h : arguments.Denoted)
include h

theorem isName {word : String} (hword : arguments.identifier i = .ok word)
    (htype : arguments.kind.parameters[i]?.map Parameter.type = some .name) :
    isName word = true := by
  obtain ⟨text, htext⟩ := h i _ _ htype (getElem?_of_identifier hword)
  exact ArgumentType.isName_of_read? htext

theorem isIdentifier {word : String} (hword : arguments.identifier i = .ok word)
    (htype : arguments.kind.parameters[i]?.map Parameter.type = some .identifier) :
    isIdentifier word = true := by
  obtain ⟨text, htext⟩ := h i _ _ htype (getElem?_of_identifier hword)
  exact ArgumentType.isIdentifier_of_read? htext

theorem isContiguous {mask : Address} (hmask : arguments.address i = .ok mask)
    (htype : arguments.kind.parameters[i]?.map Parameter.type = some .mask) :
    mask.isContiguous = true := by
  obtain ⟨text, htext⟩ := h i _ _ htype (getElem?_of_address hmask)
  exact ArgumentType.isContiguous_of_read? htext

end Denoted
end Arguments

/-- Names of devices and hostnames are names, names of interfaces are identifiers, and masks of
interfaces are contiguous. -/
def Grammatical : Command → Prop
  | .connect a b _ => isName a = true ∧ isName b = true
  | .setInterface device interface _ mask =>
    isName device = true ∧ isIdentifier interface = true ∧ mask.isContiguous = true
  | .setHostname device hostname => isName device = true ∧ isName hostname = true
  | .addDevice _ device | .route device _ | .filter device .. | .showInterfaces device
  | .showRouting device | .showAccess device | .showCli device | .save device =>
    isName device = true
  | .showTopology | .showHistory | .clearCli | .clearAll | .help => True

theorem grammatical_of_build {kind : CommandKind} {values : List Value} {command : Command}
    (hdenoted : Arguments.Denoted ⟨kind, values⟩) (h : build kind values = .ok command) :
    command.Grammatical := by
  cases kind <;>
    simp only [build, bind_ok_iff, pure, Except.pure, Except.ok.injEq] at h
  case add =>
    obtain ⟨_, _, name, hname, rfl⟩ := h
    exact hdenoted.isName hname rfl
  case connect =>
    obtain ⟨a, ha, b, hb, _, _, rfl⟩ := h
    exact ⟨hdenoted.isName ha rfl, hdenoted.isName hb rfl⟩
  case setInterface =>
    obtain ⟨device, hdevice, interface, hinterface, _, _, mask, hmask, rfl⟩ := h
    exact ⟨hdenoted.isName hdevice rfl, hdenoted.isIdentifier hinterface rfl,
      hdenoted.isContiguous hmask rfl⟩
  case setHostname =>
    obtain ⟨device, hdevice, hostname, hhostname, rfl⟩ := h
    exact ⟨hdenoted.isName hdevice rfl, hdenoted.isName hhostname rfl⟩
  case setOspf =>
    obtain ⟨device, hdevice, _, _, _, _, _, _, _, _, rfl⟩ := h
    exact hdenoted.isName hdevice rfl
  case setEigrp =>
    obtain ⟨device, hdevice, _, _, _, _, _, _, rfl⟩ := h
    exact hdenoted.isName hdevice rfl
  case setRip =>
    obtain ⟨device, hdevice, _, _, rfl⟩ := h
    exact hdenoted.isName hdevice rfl
  case setStandardAccess =>
    obtain ⟨device, hdevice, _, _, _, _, _, _, _, _, rfl⟩ := h
    exact hdenoted.isName hdevice rfl
  case setExtendedAccess =>
    obtain ⟨device, hdevice, _, _, _, _, _, _, _, _, _, _, _, _, _, _, rfl⟩ := h
    exact hdenoted.isName hdevice rfl
  case showInterfaces | showRouting | showAccess | showCli | save =>
    obtain ⟨device, hdevice, rfl⟩ := h
    exact hdenoted.isName hdevice rfl
  case showTopology | showHistory | clearCli | clearAll | help =>
    subst h
    trivial

end Command

namespace Token

theorem exists_text_of_readArguments {kind : CommandKind} {position : Nat}
    {parameters : List Parameter} {arguments : List String} {values : List Value}
    (h : readArguments kind position parameters arguments = .ok values) {i : Nat}
    {type : ArgumentType} (htype : parameters[i]?.map Parameter.type = some type) {value : Value}
    (hvalue : values[i]? = some value) : ∃ text, type.read? text = some value := by
  induction parameters generalizing position arguments values i with
  | nil => simp at htype
  | cons parameter parameters ih =>
    cases arguments with
    | nil =>
      cases h
      simp at hvalue
    | cons argument arguments =>
      rw [readArguments] at h
      cases hread : parameter.type.read? argument with
      | none => simp [hread] at h
      | some first =>
        cases hrest : readArguments kind (position + 1) parameters arguments with
        | error e => simp [hread, hrest] at h
        | ok rest =>
          simp only [hread, hrest, Except.ok.injEq] at h
          subst h
          cases i with
          | zero =>
            cases htype
            cases hvalue
            exact ⟨argument, hread⟩
          | succ i => exact ih hrest htype hvalue

theorem denoted_of_values {token : Token} {values : List Value} (h : token.values = .ok values) :
    Command.Arguments.Denoted ⟨token.kind, values⟩ := by
  rw [Token.values] at h
  split at h
  · cases h
  · intro i type value htype hvalue
    exact exists_text_of_readArguments h htype hvalue

theorem grammatical_of_command {token : Token} {command : Command}
    (h : token.command = .ok command) : command.Grammatical := by
  rw [Token.command] at h
  split at h
  · cases h
  · next values hvalues =>
    split at h
    · cases h
    · next hbuild =>
      cases h
      exact Command.grammatical_of_build (denoted_of_values hvalues) hbuild

end Token
end NetworkConsole
