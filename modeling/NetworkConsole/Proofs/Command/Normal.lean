import NetworkConsole.Proofs.Address.Literal
import NetworkConsole.Proofs.Command.Arguments
import NetworkConsole.Proofs.Command.Pattern
import NetworkConsole.Proofs.Command.Values

/-! Normal forms of commands. A command is written as the keywords of its kind and the texts of its
values, and is read again from what is written. The texts of its values are the arguments that it was
read from, without the case of keywords and the superfluous zeros of numbers. -/
namespace NetworkConsole

def Value.text : Value → String
  | .identifier text => text
  | .address a => toString a
  | .number n => toString n
  | .keyword spelling => spelling

/-- The keywords and the values, with single spaces between them. -/
def Command.text (command : Command) : String :=
  Text.spaced (command.kind.keywords ++ command.values.map Value.text)

/-- An argument without what its type does not regard. -/
def ArgumentType.normal (type : ArgumentType) (argument : String) : String :=
  match type with
  | .keyword _ => Text.lower argument
  | .number => String.ofList (Text.dropZeros argument.toList)
  | .name | .identifier | .address | .mask | .wildcard => argument

def Token.normalArguments (token : Token) : List String :=
  List.zipWith (fun parameter argument => parameter.type.normal argument) token.kind.parameters
    token.arguments

namespace Text

theorem isBlank_of_isAlphanum {c : Char} (h : c.isAlphanum = true) : isBlank c = false := by
  have hrange : (65 ≤ c.toNat ∧ c.toNat ≤ 90 ∨ 97 ≤ c.toNat ∧ c.toNat ≤ 122) ∨
      48 ≤ c.toNat ∧ c.toNat ≤ 57 := by
    simpa [Char.isAlphanum, Char.isAlpha, Char.isUpper, Char.isLower, Char.isDigit,
      UInt32.le_iff_toNat_le] using h
  simp only [isBlank, blankRanges, List.any_cons, List.any_nil, Bool.or_false, Bool.or_eq_false_iff,
    Bool.and_eq_false_iff, decide_eq_false_iff_not]
  omega

theorem isBlank_of_isIdentifierChar {c : Char} (h : isIdentifierChar c = true) :
    isBlank c = false := by
  simp only [isIdentifierChar, isNameChar, Bool.or_eq_true, beq_iff_eq] at h
  obtain ((((hletter | rfl) | rfl) | rfl) | rfl) | rfl := h
  · exact isBlank_of_isAlphanum hletter
  all_goals decide

theorem isDigit_of_isBlank {c : Char} (h : isBlank c = true) : c.isDigit = false := by
  by_contra hdigit
  rw [Bool.not_eq_false] at hdigit
  have hletter : c.isAlphanum = true := by simp [Char.isAlphanum, hdigit]
  rw [isBlank_of_isAlphanum hletter] at h
  cases h

theorem isWord_of_all {allowed : Char → Bool}
    (hallowed : ∀ c, allowed c = true → isBlank c = false) {text : String}
    (h : isWord allowed text = true) : IsWord text := by
  simp only [isWord, Bool.and_eq_true, List.all_eq_true] at h
  refine ⟨?_, fun c hc => hallowed c (h.2 c hc)⟩
  rintro rfl
  cases h.1

theorem isWord_of_notMem {text : String} (hne : text ≠ "")
    (h : ∀ c, isBlank c = true → c ∉ text.toList) : IsWord text where
  ne_empty := hne
  unbroken c hc := Bool.eq_false_iff.2 fun hblank => h c hblank hc

theorem isWord_number (n : UInt32) : IsWord (toString n) := by
  refine isWord_of_notMem (fun hempty => ?_) fun c hc => notMem_number (isDigit_of_isBlank hc) n
  have hread := number?_toString n
  rw [hempty] at hread
  cases hread

theorem isWord_address (a : Address) : IsWord (toString a) := by
  refine isWord_of_notMem (fun hempty => ?_) fun c hc => ?_
  · have hread := (Address.ofString?_eq_some_iff "" a).2 hempty.symm
    cases hread
  · have hdot : c ≠ '.' := by
      rintro rfl
      cases hc
    exact Address.notMem_text (isDigit_of_isBlank hc) hdot a

end Text

namespace ArgumentType

/-- The text denotes the value under the type. -/
inductive Denotes : ArgumentType → String → Value → Prop where
  | name {text : String} (h : isName text = true) : Denotes .name text (.identifier text)
  | identifier {text : String} (h : isIdentifier text = true) :
      Denotes .identifier text (.identifier text)
  | address (a : Address) : Denotes .address (toString a) (.address a)
  | mask {a : Address} (h : a.isContiguous = true) : Denotes .mask (toString a) (.address a)
  | wildcard (a : Address) : Denotes .wildcard (toString a) (.address a)
  | number {text : String} {n : UInt32} (h : Text.number? text = some n) :
      Denotes .number text (.number n)
  | keyword {options : List String} {text : String} (h : Text.lower text ∈ options) :
      Denotes (.keyword options) text (.keyword (Text.lower text))

theorem find?_beq_self {options : List String} {word : String} (h : word ∈ options) :
    options.find? (· == word) = some word := by
  cases hfound : options.find? (· == word) with
  | none => simpa using List.find?_eq_none.1 hfound word h
  | some other =>
    have hsame : other = word := by simpa using List.find?_some hfound
    rw [hsame]

theorem read?_eq_some_iff (type : ArgumentType) (text : String) (value : Value) :
    type.read? text = some value ↔ type.Denotes text value := by
  constructor
  · intro h
    cases type with
    | name =>
      simp only [read?, Option.ite_none_right_eq_some] at h
      obtain ⟨hname, ⟨⟩⟩ := h
      exact .name hname
    | identifier =>
      simp only [read?, Option.ite_none_right_eq_some] at h
      obtain ⟨hidentifier, ⟨⟩⟩ := h
      exact .identifier hidentifier
    | address | wildcard =>
      obtain ⟨a, ha, rfl⟩ := Option.map_eq_some_iff.1 h
      obtain rfl := (Address.ofString?_eq_some_iff text a).1 ha
      constructor
    | mask =>
      obtain ⟨a, ha, rfl⟩ := Option.map_eq_some_iff.1 h
      obtain ⟨ha, hmask⟩ := Option.filter_eq_some_iff.1 ha
      obtain rfl := (Address.ofString?_eq_some_iff text a).1 ha
      exact .mask hmask
    | number =>
      obtain ⟨n, hn, rfl⟩ := Option.map_eq_some_iff.1 h
      exact .number hn
    | keyword options =>
      obtain ⟨option, hoption, rfl⟩ := Option.map_eq_some_iff.1 h
      obtain rfl : option = Text.lower text := by simpa using List.find?_some hoption
      exact .keyword (List.mem_of_find?_eq_some hoption)
  · intro h
    have haddress : ∀ a : Address, Address.ofString? (toString a) = some a := fun a =>
      (Address.ofString?_eq_some_iff _ a).2 rfl
    cases h with
    | name h | identifier h | number h => simp [read?, h]
    | address a | wildcard a => simp [read?, haddress]
    | mask h => simp [read?, haddress, h]
    | keyword h => simp [read?, find?_beq_self h]

namespace Denotes
variable {type : ArgumentType} {argument : String} {value : Value}

/-- The text of a value is the argument that denotes it, in its normal form. -/
theorem normal (h : type.Denotes argument value) : type.normal argument = value.text := by
  cases h with
  | number h => exact Text.dropZeros_of_number? h
  | _ => rfl

/-- The text of a value denotes it too. -/
theorem text (h : type.Denotes argument value) : type.Denotes value.text value := by
  cases h with
  | name h => exact .name h
  | identifier h => exact .identifier h
  | address a => exact .address a
  | mask h => exact .mask h
  | wildcard a => exact .wildcard a
  | number h => exact .number (Text.number?_toString _)
  | keyword h =>
    have hagain : Denotes _ (Text.lower argument) _ := .keyword (by rwa [Text.lower_lower])
    rwa [Text.lower_lower] at hagain

/-- A text denotes one value only. -/
theorem unique {other : Value} (h : type.Denotes argument value)
    (h' : type.Denotes argument other) : value = other :=
  Option.some.inj (((read?_eq_some_iff _ _ _).2 h).symm.trans ((read?_eq_some_iff _ _ _).2 h'))

theorem plain_eq (h : type.Denotes argument value) : value.plain = value := by
  cases h with
  | keyword h => rw [Value.plain, Text.lower_lower]
  | _ => rfl

theorem isWord (hwords : ∀ option ∈ type.options, Text.IsWord option)
    (h : type.Denotes argument value) : Text.IsWord value.text := by
  cases h with
  | name h =>
    refine Text.isWord_of_all (fun c hc => Text.isBlank_of_isIdentifierChar ?_) h
    simp [isIdentifierChar, hc]
  | identifier h => exact Text.isWord_of_all (fun _ => Text.isBlank_of_isIdentifierChar) h
  | address a | wildcard a => exact Text.isWord_address a
  | mask h => exact Text.isWord_address _
  | number h => exact Text.isWord_number _
  | keyword h => exact hwords _ h

end Denotes
end ArgumentType

/-- The arguments denote the values under the parameters, and none of the lists is longer than the
others. -/
inductive Read : List Parameter → List String → List Value → Prop where
  | nil : Read [] [] []
  | cons {parameter : Parameter} {argument : String} {value : Value} {parameters : List Parameter}
      {arguments : List String} {values : List Value}
      (hfirst : parameter.type.Denotes argument value)
      (hrest : Read parameters arguments values) :
      Read (parameter :: parameters) (argument :: arguments) (value :: values)

namespace Read
variable {parameters : List Parameter} {arguments : List String} {values : List Value}

theorem length_eq (h : Read parameters arguments values) :
    arguments.length = parameters.length ∧ values.length = parameters.length := by
  induction h with
  | nil => exact ⟨rfl, rfl⟩
  | cons _ _ ih => exact ⟨congrArg Nat.succ ih.1, congrArg Nat.succ ih.2⟩

theorem readArguments_eq (h : Read parameters arguments values) (kind : CommandKind)
    (position : Nat) : Token.readArguments kind position parameters arguments = .ok values := by
  induction h generalizing position with
  | nil => rfl
  | cons hfirst _ ih =>
    simp only [Token.readArguments, (ArgumentType.read?_eq_some_iff _ _ _).2 hfirst, ih]

theorem of_readArguments {kind : CommandKind} {position : Nat}
    (hlength : arguments.length = parameters.length)
    (h : Token.readArguments kind position parameters arguments = .ok values) :
    Read parameters arguments values := by
  induction parameters generalizing position arguments values with
  | nil =>
    obtain rfl := List.eq_nil_of_length_eq_zero hlength
    cases h
    exact .nil
  | cons parameter parameters ih =>
    cases arguments with
    | nil => cases hlength
    | cons argument arguments =>
      rw [Token.readArguments] at h
      cases hread : parameter.type.read? argument with
      | none => simp [hread] at h
      | some value =>
        cases hrest : Token.readArguments kind (position + 1) parameters arguments with
        | error e => simp [hread, hrest] at h
        | ok rest =>
          simp only [hread, hrest, Except.ok.injEq] at h
          subst h
          exact .cons ((ArgumentType.read?_eq_some_iff _ _ _).1 hread)
            (ih (Nat.succ.inj hlength) hrest)

/-- Values that were read are in lowercase already. -/
theorem map_plain (h : Read parameters arguments values) : values.map Value.plain = values := by
  induction h with
  | nil => rfl
  | cons hfirst _ ih => rw [List.map_cons, hfirst.plain_eq, ih]

theorem normal (h : Read parameters arguments values) :
    List.zipWith (fun parameter argument => parameter.type.normal argument) parameters arguments =
      values.map Value.text := by
  induction h with
  | nil => rfl
  | cons hfirst _ ih => rw [List.zipWith_cons_cons, List.map_cons, hfirst.normal, ih]

theorem text (h : Read parameters arguments values) :
    Read parameters (values.map Value.text) values := by
  induction h with
  | nil => exact .nil
  | cons hfirst _ ih => exact .cons hfirst.text ih

/-- Values that were read under the same parameters are the same when their texts are. -/
theorem values_inj {others : List String} {values' : List Value}
    (h : Read parameters arguments values) (h' : Read parameters others values')
    (htexts : values.map Value.text = values'.map Value.text) : values = values' := by
  induction h generalizing others values' with
  | nil =>
    cases h'
    rfl
  | cons hfirst _ ih =>
    cases h' with
    | cons hfirst' hrest' =>
      -- The arguments may differ, so the values are compared as the readings of one text.
      rw [List.map_cons, List.map_cons, List.cons.injEq] at htexts
      rw [ih hrest' htexts.2, hfirst.text.unique (htexts.1 ▸ hfirst'.text)]

theorem isWord (hwords : ∀ parameter ∈ parameters, ∀ option ∈ parameter.type.options,
      Text.IsWord option) (h : Read parameters arguments values) :
    ∀ w ∈ values.map Value.text, Text.IsWord w := by
  induction h with
  | nil => simp
  | cons hfirst _ ih =>
    obtain ⟨hwords, hrest⟩ := List.forall_mem_cons.1 hwords
    exact List.forall_mem_cons.2 ⟨hfirst.isWord hwords, ih hrest⟩

end Read

namespace CommandKind

theorem isWord_options (kind : CommandKind) : ∀ parameter ∈ kind.parameters,
    ∀ option ∈ parameter.type.options, Text.IsWord option := by
  cases kind <;> decide +kernel

theorem folded_keywords (kind : CommandKind) : kind.keywords.map Text.folded = kind.keywords := by
  cases kind <;> decide +kernel

end CommandKind

namespace Token

theorem values_eq_ok_iff {token : Token} {values : List Value} :
    token.values = .ok values ↔ Read token.kind.parameters token.arguments values := by
  rw [Token.values]
  constructor
  · intro h
    split at h
    · cases h
    · next hlength => exact Read.of_readArguments (not_not.1 hlength) h
  · intro h
    rw [if_neg (not_not.2 h.length_eq.1), h.readArguments_eq]

/-- The check of the arguments gives the command of the token's kind whose values they denote. -/
theorem checked_eq_ok_iff {token : Token} {command : Command} :
    token.checked = .ok command ↔
      command.kind = token.kind ∧ Read token.kind.parameters token.arguments command.values := by
  constructor
  · intro h
    cases hvalues : token.values with
    | error e => simp [checked, Token.command, hvalues, Except.mapError] at h
    | ok values =>
      have hread := values_eq_ok_iff.1 hvalues
      cases hbuild : Command.build token.kind values with
      | error e => simp [checked, Token.command, hvalues, hbuild, Except.mapError] at h
      | ok made =>
        obtain rfl : made = command := by
          simpa [checked, Token.command, hvalues, hbuild, Except.mapError] using h
        have hmade := Command.values_of_build hbuild
        rw [← hread.length_eq.2, List.take_length, hread.map_plain] at hmade
        rw [hmade]
        exact ⟨Command.kind_of_build hbuild, hread⟩
  · rintro ⟨hkind, hread⟩
    have hvalues := values_eq_ok_iff.2 hread
    have hbuild := command.build_values
    rw [hkind] at hbuild
    simp only [checked, Token.command, hvalues, hbuild, Except.mapError]

variable {token : Token} {command : Command}

theorem words_text (h : token.checked = .ok command) :
    Text.words command.text = command.kind.keywords ++ command.values.map Value.text := by
  obtain ⟨hkind, hread⟩ := checked_eq_ok_iff.1 h
  refine Text.words_spaced (List.forall_mem_append.2 ⟨command.kind.isWord_keywords, ?_⟩)
  exact hread.isWord token.kind.isWord_options

/-- The text of a command is recognised as its kind, with the texts of its values for arguments. -/
theorem ofLine_text (h : token.checked = .ok command) :
    ofLine command.text =
      .ok ⟨command.kind, command.values.map Value.text, command.text⟩ := by
  rw [ofLine_ok_iff, words_text h, CommandKind.introduces_iff_folded]
  exact ⟨rfl, command.kind.keywords, rfl, command.kind.folded_keywords⟩

theorem checked_text (h : token.checked = .ok command) (raw : String) :
    checked ⟨command.kind, command.values.map Value.text, raw⟩ = .ok command := by
  obtain ⟨hkind, hread⟩ := checked_eq_ok_iff.1 h
  rw [checked_eq_ok_iff, hkind]
  exact ⟨rfl, hread.text⟩

theorem command_eq_iff {other : Token} {command' : Command} (h : token.checked = .ok command)
    (h' : other.checked = .ok command') :
    command = command' ↔
      token.kind = other.kind ∧ token.normalArguments = other.normalArguments := by
  obtain ⟨hkind, hread⟩ := checked_eq_ok_iff.1 h
  obtain ⟨hkind', hread'⟩ := checked_eq_ok_iff.1 h'
  rw [normalArguments, normalArguments, hread.normal, hread'.normal]
  constructor
  · rintro rfl
    exact ⟨hkind.symm.trans hkind', rfl⟩
  · rintro ⟨hkinds, htexts⟩
    rw [← hkinds] at hread'
    exact Command.eq_of_values (hkind.trans (hkinds.trans hkind'.symm))
      (hread.values_inj hread' htexts)

end Token

/-- The text of a command that was read is recognised as a line of the same kind, and the same
command is read from it. Two tokens are read as one command exactly when they are of one kind and
their arguments are the same up to the case of keywords and the superfluous zeros of numbers. -/
theorem normal_form {token : Token} {command : Command} (h : token.checked = .ok command) :
    (∃ written, Token.ofLine command.text = .ok written ∧ written.kind = token.kind ∧
      written.checked = .ok command) ∧
    ∀ (other : Token) (command' : Command), other.checked = .ok command' →
      (command = command' ↔
        token.kind = other.kind ∧ token.normalArguments = other.normalArguments) :=
  ⟨⟨_, Token.ofLine_text h, Token.kind_of_checked h, Token.checked_text h _⟩,
    fun _ _ => Token.command_eq_iff h⟩

theorem normal_form_extended :
    let token : Token := ⟨.setExtendedAccess, ["r1", "0101", "PERMIT", "tcp", "10.0.0.0",
      "0.0.0.255", "10.1.0.0", "0.0.255.255"], ""⟩
    let other : Token := ⟨.setExtendedAccess, ["r1", "101", "permit", "TCP", "10.0.0.0",
      "0.0.0.255", "10.1.0.0", "0.0.255.255"], ""⟩
    let command : Command := .filter "r1" 101 .permit
      (.extended .tcp ⟨0x0A000000⟩ ⟨0x000000FF⟩ ⟨0x0A010000⟩ ⟨0x0000FFFF⟩)
    token.checked = .ok command ∧ other.checked = .ok command ∧
      command.text = "set acl-ext r1 101 permit tcp 10.0.0.0 0.0.0.255 10.1.0.0 0.0.255.255" ∧
      (∃ written, Token.ofLine command.text = .ok written ∧ written.kind = token.kind ∧
        written.checked = .ok command) ∧
      token.normalArguments = other.normalArguments := by
  intro token other command
  have h : token.checked = .ok command := by decide +kernel
  have h' : other.checked = .ok command := by decide +kernel
  obtain ⟨hwritten, hequal⟩ := normal_form h
  exact ⟨h, h', by decide +kernel, hwritten, ((hequal other command h').1 rfl).2⟩

end NetworkConsole
