import Mathlib
import NetworkConsole.Session.Instruction

/-! Lines that differ in their blanks and in the case of keywords. They are recognised as commands of
one kind, and what is read from them is the same, up to the spelling of a keyword that is none. -/
namespace NetworkConsole

def ArgumentType.IsKeyword (type : ArgumentType) : Prop := ∃ options, type = .keyword options

/-- The word at the place is one of the keywords of the command or an argument that is a keyword. -/
def CommandKind.IsKeywordPlace (kind : CommandKind) (place : Nat) : Prop :=
  place < kind.keywords.length ∨
    ∃ parameter, kind.parameters[place - kind.keywords.length]? = some parameter ∧
      parameter.type.IsKeyword

/-- The lines have as many words, and the same ones up to the case of keywords. -/
structure Respelled (first second : String) : Prop where
  length_eq : (Text.words first).length = (Text.words second).length
  word : ∀ place x y, (Text.words first)[place]? = some x → (Text.words second)[place]? = some y →
    x = y ∨ Text.lower x = Text.lower y ∧
      ∀ token, Token.ofLine first = .ok token → token.kind.IsKeywordPlace place

namespace Text

theorem foldLetter_of_isAlpha {c : Char} (h : c.isAlpha = true) : foldLetter c = c.toLower := by
  have hlong : c ≠ '\u017F' := by
    rintro rfl
    exact absurd h (by decide)
  have hkelvin : c ≠ '\u212A' := by
    rintro rfl
    exact absurd h (by decide)
  rw [foldLetter, if_neg hlong, if_neg hkelvin]

theorem foldLetter_toLower (c : Char) : foldLetter c.toLower = foldLetter c := by
  by_cases h : c.isUpper = true
  · have hletter : c.isAlpha = true := by simp [Char.isAlpha, h]
    rw [foldLetter_of_isAlpha hletter, foldLetter_of_isAlpha (by simpa using hletter),
      Char.toLower_toLower_eq_toLower]
  · rw [Char.toLower_eq_of_not_isUpper h]

theorem folded_lower (text : String) : folded (lower text) = folded text := by
  simp [folded, lower, Function.comp_def, foldLetter_toLower]

theorem folded_congr {x y : String} (h : lower x = lower y) : folded x = folded y := by
  rw [← folded_lower x, h, folded_lower]

end Text

theorem ArgumentType.IsKeyword.read?_congr {type : ArgumentType} (h : type.IsKeyword) {x y : String}
    (hcase : Text.lower x = Text.lower y) : type.read? x = type.read? y := by
  obtain ⟨options, rfl⟩ := h
  simp only [read?, hcase]

namespace CommandKind

theorem stripKeywords_eq (keywords words : List String) :
    stripKeywords keywords words =
      if keywords <+: words.map Text.folded then some (words.drop keywords.length) else none := by
  induction keywords generalizing words with
  | nil => simp [stripKeywords]
  | cons keyword keywords ih =>
    cases words with
    | nil => simp [stripKeywords]
    | cons word words =>
      by_cases h : Text.folded word = keyword
      · simp [stripKeywords, h, ih]
      · simp [stripKeywords, h, Ne.symm h]

/-- The kind that the words are recognised as. -/
def ofWords? (words : List String) : Option CommandKind :=
  matchOrder.find? fun kind => kind.keywords <+: words.map Text.folded

theorem findSome?_argumentsIn?_eq_find? (order : List CommandKind) (words : List String) :
    (order.findSome? fun kind => (kind.argumentsIn? words).map (kind, ·)) =
      (order.find? fun kind => kind.keywords <+: words.map Text.folded).map fun kind =>
        (kind, words.drop kind.keywords.length) := by
  induction order with
  | nil => rfl
  | cons kind kinds ih =>
    rw [List.findSome?_cons, List.find?_cons, argumentsIn?, stripKeywords_eq]
    by_cases h : kind.keywords <+: words.map Text.folded <;> simp [h, ih]

theorem findSome?_argumentsIn? (words : List String) :
    (matchOrder.findSome? fun kind => (kind.argumentsIn? words).map (kind, ·)) =
      (ofWords? words).map fun kind => (kind, words.drop kind.keywords.length) :=
  findSome?_argumentsIn?_eq_find? matchOrder words

end CommandKind

namespace Cause

/-- The causes are the same up to the case of a word that is no keyword where one must be. -/
inductive Agrees : Cause → Cause → Prop where
  | same (cause : Cause) : Agrees cause cause
  | keyword (kind : CommandKind) (position : Nat) {parameter : Parameter} {value other : String}
      (hparameter : parameter.type.IsKeyword) (hcase : Text.lower value = Text.lower other) :
      Agrees (.arguments (.wrongType kind position parameter value))
        (.arguments (.wrongType kind position parameter other))

theorem Agrees.stage_eq {cause other : Cause} (h : cause.Agrees other) :
    cause.stage = other.stage := by
  cases h <;> rfl

end Cause

namespace Token

theorem ofLine_eq (raw : String) :
    ofLine raw =
      match Text.words raw with
      | [] => .error .emptyLine
      | words =>
        match CommandKind.ofWords? words with
        | none => .error .unrecognized
        | some kind => .ok ⟨kind, words.drop kind.keywords.length, raw⟩ := by
  rw [ofLine]
  cases Text.words raw with
  | nil => rfl
  | cons word words =>
    simp only [CommandKind.findSome?_argumentsIn?]
    cases CommandKind.ofWords? (word :: words) <;> rfl

/-- The arguments are the same up to the case of those that are keywords. -/
structure Respells (parameters : List Parameter) (first second : List String) : Prop where
  length_eq : first.length = second.length
  argument : ∀ (i : Nat) x y, first[i]? = some x → second[i]? = some y →
    x = y ∨ Text.lower x = Text.lower y ∧
      ∃ parameter : Parameter, parameters[i]? = some parameter ∧ parameter.type.IsKeyword

theorem Respells.head {parameter : Parameter} {parameters : List Parameter} {x y : String}
    {first second : List String} (h : Respells (parameter :: parameters) (x :: first) (y :: second)) :
    x = y ∨ Text.lower x = Text.lower y ∧ parameter.type.IsKeyword := by
  obtain hsame | ⟨hcase, _, hparameter, hkeyword⟩ := h.argument 0 x y rfl rfl
  · exact .inl hsame
  · cases hparameter
    exact .inr ⟨hcase, hkeyword⟩

theorem Respells.tail {parameter : Parameter} {parameters : List Parameter} {x y : String}
    {first second : List String} (h : Respells (parameter :: parameters) (x :: first) (y :: second)) :
    Respells parameters first second where
  length_eq := Nat.succ.inj h.length_eq
  argument := fun i => h.argument (i + 1)

/-- Reading gives the same values, or it fails at the same argument. -/
theorem readArguments_respelled {parameters : List Parameter} {first second : List String}
    (h : Respells parameters first second) (kind : CommandKind) (position : Nat) :
    (∃ values, readArguments kind position parameters first = .ok values ∧
        readArguments kind position parameters second = .ok values) ∨
      ∃ e e', readArguments kind position parameters first = .error e ∧
        readArguments kind position parameters second = .error e' ∧
        Cause.Agrees (.arguments e) (.arguments e') := by
  induction parameters generalizing first second position with
  | nil => exact .inl ⟨[], by simp [readArguments]⟩
  | cons parameter parameters ih =>
    cases first with
    | nil =>
      obtain rfl := List.eq_nil_of_length_eq_zero h.length_eq.symm
      exact .inl ⟨[], rfl, rfl⟩
    | cons x first =>
      cases second with
      | nil => cases h.length_eq
      | cons y second =>
        have hread : parameter.type.read? x = parameter.type.read? y := by
          obtain rfl | ⟨hcase, hkeyword⟩ := h.head
          · rfl
          · exact hkeyword.read?_congr hcase
        simp only [readArguments, hread]
        cases parameter.type.read? y with
        | none =>
          refine .inr ⟨_, _, rfl, rfl, ?_⟩
          obtain rfl | ⟨hcase, hkeyword⟩ := h.head
          · exact .same _
          · exact .keyword kind position hkeyword hcase
        | some value =>
          obtain ⟨values, hfirst, hsecond⟩ | ⟨e, e', hfirst, hsecond, hagree⟩ :=
            ih h.tail (position + 1)
          · exact .inl ⟨value :: values, by simp only [hfirst], by simp only [hsecond]⟩
          · exact .inr ⟨e, e', by simp only [hfirst], by simp only [hsecond], hagree⟩

theorem command_respelled {kind : CommandKind} {first second : List String}
    (h : Respells kind.parameters first second) (raw other : String) :
    (∃ command, Token.command ⟨kind, first, raw⟩ = .ok command ∧
        Token.command ⟨kind, second, other⟩ = .ok command) ∨
      ∃ cause cause', Token.command ⟨kind, first, raw⟩ = .error cause ∧
        Token.command ⟨kind, second, other⟩ = .error cause' ∧ cause.Agrees cause' := by
  simp only [Token.command, Token.values, h.length_eq]
  by_cases hcount : second.length = kind.parameters.length
  · simp only [hcount, ne_eq, not_true_eq_false, if_false]
    obtain ⟨values, hfirst, hsecond⟩ | ⟨e, e', hfirst, hsecond, hagree⟩ :=
      readArguments_respelled h kind 1
    · simp only [hfirst, hsecond]
      cases Command.build kind values with
      | error e => exact .inr ⟨_, _, rfl, rfl, .same _⟩
      | ok command => exact .inl ⟨command, rfl, rfl⟩
    · simp only [hfirst, hsecond]
      exact .inr ⟨_, _, rfl, rfl, hagree⟩
  · simp only [hcount, ne_eq, not_false_eq_true, if_true]
    exact .inr ⟨_, _, rfl, rfl, .same _⟩

end Token

namespace Respelled
variable {first second : String} (h : Respelled first second)
include h

/-- Recognition folds all words. -/
theorem map_folded_eq :
    (Text.words first).map Text.folded = (Text.words second).map Text.folded := by
  refine List.ext_getElem (by simpa using h.length_eq) fun i hi hj => ?_
  rw [List.getElem_map, List.getElem_map]
  rw [List.length_map] at hi hj
  obtain hsame | ⟨hcase, _⟩ :=
    h.word i _ _ (List.getElem?_eq_getElem hi) (List.getElem?_eq_getElem hj)
  · rw [hsame]
  · exact Text.folded_congr hcase

theorem ofWords?_eq :
    CommandKind.ofWords? (Text.words first) = CommandKind.ofWords? (Text.words second) := by
  simp only [CommandKind.ofWords?, h.map_folded_eq]

theorem recognised :
    (∃ e, Token.ofLine first = .error e ∧ Token.ofLine second = .error e) ∨
      ∃ kind : CommandKind,
        Token.ofLine first =
            .ok ⟨kind, (Text.words first).drop kind.keywords.length, first⟩ ∧
          Token.ofLine second =
            .ok ⟨kind, (Text.words second).drop kind.keywords.length, second⟩ := by
  have hkind := h.ofWords?_eq
  have hlength := h.length_eq
  rw [Token.ofLine_eq, Token.ofLine_eq]
  cases hfirst : Text.words first with
  | nil =>
    rw [hfirst] at hlength
    rw [List.eq_nil_of_length_eq_zero hlength.symm]
    exact .inl ⟨_, rfl, rfl⟩
  | cons x xs =>
    cases hsecond : Text.words second with
    | nil => simp [hfirst, hsecond] at hlength
    | cons y ys =>
      rw [hfirst, hsecond] at hkind
      simp only [hkind]
      cases CommandKind.ofWords? (y :: ys) with
      | none => exact .inl ⟨_, rfl, rfl⟩
      | some kind => exact .inr ⟨kind, rfl, rfl⟩

theorem respells {token : Token} (htoken : Token.ofLine first = .ok token) :
    Token.Respells token.kind.parameters ((Text.words first).drop token.kind.keywords.length)
      ((Text.words second).drop token.kind.keywords.length) where
  length_eq := by simp [h.length_eq]
  argument := by
    intro i x y hx hy
    rw [List.getElem?_drop] at hx hy
    obtain hsame | ⟨hcase, hplace⟩ := h.word _ x y hx hy
    · exact .inl hsame
    · obtain hkeyword | ⟨parameter, hparameter, hkeyword⟩ := hplace token htoken
      · omega
      · rw [Nat.add_sub_cancel_left] at hparameter
        exact .inr ⟨hcase, parameter, hparameter, hkeyword⟩

end Respelled
end NetworkConsole
