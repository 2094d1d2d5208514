import NetworkConsole.Proofs.Command.Respelling
import NetworkConsole.Proofs.Text.Words

/-! The grammar of lines. A line is a command of a kind when its words are the keywords of the kind,
in any case, followed by the arguments. No kind has keywords that start with those of another one, so
a line is a command of one kind at most. -/
namespace NetworkConsole

theorem map_eq_iff_forall₂ {α β : Type} {f : α → β} {R : α → β → Prop} {ys : List β}
    (h : ∀ y ∈ ys, ∀ x, f x = y ↔ R x y) (xs : List α) : xs.map f = ys ↔ List.Forall₂ R xs ys := by
  induction xs generalizing ys with
  | nil => cases ys <;> simp
  | cons x xs ih =>
    cases ys with
    | nil => simp
    | cons y ys =>
      rw [List.map_cons, List.cons.injEq, List.forall₂_cons, h y List.mem_cons_self,
        ih fun z hz => h z (List.mem_cons_of_mem y hz)]

namespace Text

/-- The character stands for the letter of a keyword: its case is free, and the long s is an s. -/
def IsLetter (c letter : Char) : Prop := c.toLower = letter ∨ c = '\u017F' ∧ letter = 's'

/-- The word is the keyword, letter for letter. -/
def Spells (word keyword : String) : Prop := List.Forall₂ IsLetter word.toList keyword.toList

/-- Folding makes a k of the Kelvin sign. No keyword has one. -/
def foldedLetters : List Char := ['k', '\u017F', '\u212A']

theorem foldLetter_eq_iff {letter : Char} (h : letter ∉ foldedLetters) (c : Char) :
    foldLetter c = letter ↔ IsLetter c letter := by
  simp only [foldedLetters, List.mem_cons, List.not_mem_nil, or_false, not_or] at h
  obtain ⟨hk, hlong, hkelvin⟩ := h
  by_cases hc : c = '\u017F'
  · have hfolded : foldLetter c = 's' := by simp [foldLetter, hc]
    have hlower : c.toLower ≠ letter := by
      rw [hc, show Char.toLower '\u017F' = '\u017F' from by decide]
      exact Ne.symm hlong
    rw [hfolded, IsLetter, or_iff_right hlower, and_iff_right hc, eq_comm]
  · by_cases hc' : c = '\u212A'
    · have hfolded : foldLetter c = 'k' := by simp [foldLetter, hc']
      have hlower : c.toLower ≠ letter := by
        rw [hc', show Char.toLower '\u212A' = '\u212A' from by decide]
        exact Ne.symm hkelvin
      rw [hfolded]
      exact iff_of_false (Ne.symm hk) (not_or.2 ⟨hlower, fun hlong => hc hlong.1⟩)
    · rw [foldLetter, if_neg hc, if_neg hc', IsLetter]
      simp [hc]

theorem folded_eq_iff {keyword : String} (h : ∀ c ∈ keyword.toList, c ∉ foldedLetters)
    (word : String) : folded word = keyword ↔ Spells word keyword := by
  rw [← String.toList_inj, folded, String.toList_ofList, Spells]
  exact map_eq_iff_forall₂ (fun letter hletter => foldLetter_eq_iff (h letter hletter)) word.toList

end Text

namespace CommandKind

/-- What is decided of the letters in the command table holds of the keywords of each kind. -/
theorem keywords_all {p : Char → Bool}
    (h : (all.all fun kind => kind.keywords.all fun keyword => keyword.toList.all p) = true)
    (kind : CommandKind) : ∀ keyword ∈ kind.keywords, ∀ c ∈ keyword.toList, p c = true := by
  have hkind := List.all_eq_true.1 h kind kind.mem_all
  intro keyword hkeyword c hc
  exact List.all_eq_true.1 (List.all_eq_true.1 hkind keyword hkeyword) c hc

theorem keywords_plain (kind : CommandKind) :
    ∀ keyword ∈ kind.keywords, ∀ c ∈ keyword.toList, c ∉ Text.foldedLetters := by
  have hall : (all.all fun kind => kind.keywords.all fun keyword =>
      keyword.toList.all (· ∉ Text.foldedLetters)) = true := by decide +kernel
  intro keyword hkeyword c hc
  exact of_decide_eq_true (keywords_all hall kind keyword hkeyword c hc)

/-- The keywords of no kind start with those of another one. -/
theorem eq_of_leading_keywords {kind other : CommandKind} (h : kind.keywords <+: other.keywords) :
    kind = other := by
  have hall : ∀ kind ∈ all, ∀ other ∈ all, kind.keywords <+: other.keywords → kind = other := by
    decide +kernel
  exact hall kind kind.mem_all other other.mem_all h

theorem keywords_ne_nil (kind : CommandKind) : kind.keywords ≠ [] := by
  cases kind <;> exact List.cons_ne_nil _ _

/-- The words are the keywords of the kind, followed by the arguments. -/
def Introduces (kind : CommandKind) (words arguments : List String) : Prop :=
  ∃ spelled, words = spelled ++ arguments ∧ List.Forall₂ Text.Spells spelled kind.keywords

theorem introduces_iff_folded (kind : CommandKind) (words arguments : List String) :
    kind.Introduces words arguments ↔
      ∃ spelled, words = spelled ++ arguments ∧ spelled.map Text.folded = kind.keywords := by
  have hspells : ∀ spelled : List String,
      spelled.map Text.folded = kind.keywords ↔ List.Forall₂ Text.Spells spelled kind.keywords :=
    map_eq_iff_forall₂ fun keyword h => Text.folded_eq_iff (kind.keywords_plain keyword h)
  simp only [Introduces, hspells]

theorem introduces_iff (kind : CommandKind) (words arguments : List String) :
    kind.Introduces words arguments ↔
      kind.keywords <+: words.map Text.folded ∧ arguments = words.drop kind.keywords.length := by
  rw [introduces_iff_folded]
  constructor
  · rintro ⟨spelled, rfl, hspelled⟩
    rw [← hspelled, List.length_map, List.drop_left, List.map_append]
    exact ⟨List.prefix_append _ _, rfl⟩
  · rintro ⟨hleads, rfl⟩
    refine ⟨words.take kind.keywords.length, (List.take_append_drop _ words).symm, ?_⟩
    rw [List.map_take]
    exact (List.prefix_iff_eq_take.1 hleads).symm

theorem argumentsIn?_eq_some_iff (kind : CommandKind) (words arguments : List String) :
    kind.argumentsIn? words = some arguments ↔ kind.Introduces words arguments := by
  rw [argumentsIn?, stripKeywords_eq, introduces_iff]
  split
  · next h => simp [h, eq_comm]
  · next h => simp [h]

theorem eq_of_prefix_words {words : List String} {kind other : CommandKind}
    (h : kind.keywords <+: words.map Text.folded) (h' : other.keywords <+: words.map Text.folded) :
    kind = other := by
  obtain hshorter | hlonger := List.prefix_or_prefix_of_prefix h h'
  · exact eq_of_leading_keywords hshorter
  · exact (eq_of_leading_keywords hlonger).symm

theorem Introduces.unique {words arguments otherArguments : List String} {kind other : CommandKind}
    (h : kind.Introduces words arguments) (h' : other.Introduces words otherArguments) :
    kind = other ∧ arguments = otherArguments := by
  rw [introduces_iff] at h h'
  obtain rfl := eq_of_prefix_words h.1 h'.1
  exact ⟨rfl, h.2.trans h'.2.symm⟩

/-- In whatever order the kinds are tried, the same one is found. -/
theorem find?_keywords_eq_some_iff {order : List CommandKind} (hall : ∀ kind, kind ∈ order)
    (words : List String) (kind : CommandKind) :
    (order.find? fun kind => kind.keywords <+: words.map Text.folded) = some kind ↔
      kind.keywords <+: words.map Text.folded := by
  constructor
  · intro h
    simpa using List.find?_some h
  · intro h
    cases hfound : order.find? fun kind => kind.keywords <+: words.map Text.folded with
    | none => exact absurd h (by simpa using List.find?_eq_none.1 hfound kind (hall kind))
    | some other =>
      have hother : other.keywords <+: words.map Text.folded := by
        simpa using List.find?_some hfound
      rw [eq_of_prefix_words hother h]

theorem ofWords?_eq_some_iff (words : List String) (kind : CommandKind) :
    ofWords? words = some kind ↔ kind.keywords <+: words.map Text.folded :=
  find?_keywords_eq_some_iff mem_matchOrder words kind

theorem find?_keywords_eq_ofWords? {order : List CommandKind} (hall : ∀ kind, kind ∈ order)
    (words : List String) :
    (order.find? fun kind => kind.keywords <+: words.map Text.folded) = ofWords? words := by
  ext kind
  rw [find?_keywords_eq_some_iff hall, ofWords?_eq_some_iff]

end CommandKind

namespace Token

theorem ofLine_emptyLine_iff (raw : String) :
    ofLine raw = .error .emptyLine ↔ Text.words raw = [] := by
  rw [ofLine_eq]
  cases Text.words raw with
  | nil => simp
  | cons word words => cases hkind : CommandKind.ofWords? (word :: words) <;> simp [hkind]

theorem ofLine_ok_iff (raw : String) (token : Token) :
    ofLine raw = .ok token ↔
      token.raw = raw ∧ token.kind.Introduces (Text.words raw) token.arguments := by
  have hsome := CommandKind.ofWords?_eq_some_iff (Text.words raw) token.kind
  rw [CommandKind.introduces_iff, ← hsome, ofLine_eq]
  obtain ⟨kind, arguments, line⟩ := token
  cases hwords : Text.words raw with
  | nil =>
    have hnone : CommandKind.ofWords? [] ≠ some kind := by
      rw [ne_eq, CommandKind.ofWords?_eq_some_iff]
      simpa using kind.keywords_ne_nil
    simp [hnone]
  | cons word words =>
    cases hkind : CommandKind.ofWords? (word :: words) with
    | none => simp [hkind]
    | some found =>
      simp only [hkind, Except.ok.injEq, Token.mk.injEq, Option.some.injEq]
      constructor
      · rintro ⟨rfl, rfl, rfl⟩
        exact ⟨rfl, rfl, rfl⟩
      · rintro ⟨rfl, rfl, rfl⟩
        exact ⟨rfl, rfl, rfl⟩

theorem ofLine_unrecognized_iff (raw : String) :
    ofLine raw = .error .unrecognized ↔
      Text.words raw ≠ [] ∧
        ∀ (kind : CommandKind) arguments, ¬ kind.Introduces (Text.words raw) arguments := by
  rw [ne_eq, ← ofLine_emptyLine_iff]
  constructor
  · intro h
    refine ⟨by simp [h], fun kind arguments hintroduces => ?_⟩
    have hok := (ofLine_ok_iff raw ⟨kind, arguments, raw⟩).2 ⟨rfl, hintroduces⟩
    cases h.symm.trans hok
  · rintro ⟨hne, hnone⟩
    cases hline : ofLine raw with
    | error e =>
      cases e with
      | emptyLine => exact absurd hline hne
      | unrecognized => rfl
    | ok token => exact absurd ((ofLine_ok_iff raw token).1 hline).2 (hnone _ _)

end Token
end NetworkConsole
