import NetworkConsole.Proofs.Command.Grammar

/-! Recognition by patterns. The words of a line are joined by single spaces, the keywords of a kind
are matched as one text with the front of the joined line, and what follows them after a space is
captured and split again. This recognises the same commands as the words do, in whatever order the
patterns are tried. -/
namespace NetworkConsole

namespace Text

theorem foldLetter_eq_space_iff (c : Char) : foldLetter c = ' ' ↔ c = ' ' := by
  rw [foldLetter_eq_iff (by decide), IsLetter]
  constructor
  · rintro (hlower | ⟨_, hspace⟩)
    · by_cases h : c.isUpper = true
      · have hletter : c.toLower.isAlpha = true := by simp [Char.isAlpha, h]
        rw [hlower] at hletter
        cases hletter
      · rwa [Char.toLower_eq_of_not_isUpper h] at hlower
    · exact absurd hspace (by decide)
  · rintro rfl
    exact .inl rfl

theorem splitSpaces_folded (text : String) :
    splitSpaces (folded text) = (splitSpaces text).map folded := by
  have hsplit : ∀ cs : List Char,
      (cs.map foldLetter).splitOn ' ' = (cs.splitOn ' ').map (List.map foldLetter) := by
    intro cs
    induction cs with
    | nil => rfl
    | cons c cs ih =>
      rw [List.map_cons, List.splitOn_cons_eq_if_modifyHead, List.splitOn_cons_eq_if_modifyHead, ih]
      by_cases hc : c = ' '
      · simp [hc, foldLetter_eq_space_iff]
      · simp only [beq_iff_eq, foldLetter_eq_space_iff, hc, if_false]
        cases cs.splitOn ' ' <;> rfl
  rw [folded, splitSpaces, String.toList_ofList, hsplit, splitSpaces, List.map_map, List.map_map]
  simp [Function.comp_def, folded]

theorem folded_spaced (ws : List String) : folded (spaced ws) = spaced (ws.map folded) := by
  have happend : ∀ x y, folded (x ++ y) = folded x ++ folded y := by simp [folded]
  induction ws with
  | nil => rfl
  | cons w ws ih =>
    by_cases hne : ws = []
    · simp [hne, spaced]
    · rw [spaced_cons w hne, List.map_cons, spaced_cons _ (by simpa using hne), happend, happend, ih]
      rfl

end Text

namespace CommandKind

/-- The keywords as they stand at the front of a joined line. -/
def pattern (kind : CommandKind) : String := Text.spaced kind.keywords

/-- Matches a line with the pattern, in any case, up to its end or up to a space with more text
behind it, which is captured. No captured text goes over a line feed. -/
def capture? (kind : CommandKind) (line : String) : Option (Option String) :=
  if kind.pattern.toList <+: line.toList.map Text.foldLetter then
    match line.toList.drop kind.pattern.length with
    | [] => some none
    | ' ' :: c :: rest =>
      if '\n' ∈ c :: rest then none else some (some (String.ofList (c :: rest)))
    | _ => none
  else none

/-- The arguments in a captured text. -/
def captured (text : Option String) : List String := text.elim [] Text.splitSpaces

theorem isWord_keywords (kind : CommandKind) : ∀ keyword ∈ kind.keywords, Text.IsWord keyword := by
  cases kind <;> decide +kernel

theorem splitSpaces_pattern (kind : CommandKind) : Text.splitSpaces kind.pattern = kind.keywords :=
  Text.splitSpaces_spaced (fun keyword h => (kind.isWord_keywords keyword h).solid)
    kind.keywords_ne_nil

/-- A text that folds to the pattern is made of words that fold to the keywords. -/
theorem map_folded_of_pattern {kind : CommandKind} {front : String}
    (h : Text.folded front = kind.pattern) :
    (Text.splitSpaces front).map Text.folded = kind.keywords := by
  rw [← Text.splitSpaces_folded, h, splitSpaces_pattern]

theorem pattern_of_folded {kind : CommandKind} {front : String}
    (h : Text.folded front = kind.pattern) :
    front.toList.map Text.foldLetter = kind.pattern.toList ∧
      front.toList.length = kind.pattern.length := by
  rw [← h, Text.folded]
  simp

/-- The pattern matches a line whose front folds to it, at the end of the line or before a space and
the captured text. -/
theorem capture?_eq_some_iff (kind : CommandKind) (line : String) (text : Option String) :
    kind.capture? line = some text ↔
      ∃ front, Text.folded front = kind.pattern ∧
        (text = none ∧ line = front ∨
          ∃ rest, text = some rest ∧ line = front ++ " " ++ rest ∧ rest ≠ "" ∧
            '\n' ∉ rest.toList) := by
  constructor
  · intro h
    rw [capture?] at h
    split at h
    · next hleads =>
      have hfront : Text.folded (String.ofList (line.toList.take kind.pattern.length)) =
          kind.pattern := by
        rw [← String.toList_inj, Text.folded, String.toList_ofList, String.toList_ofList,
          List.map_take]
        exact (List.prefix_iff_eq_take.1 hleads).symm
      have hparts := List.take_append_drop kind.pattern.length line.toList
      refine ⟨_, hfront, ?_⟩
      split at h
      · next hdrop =>
        cases h
        rw [hdrop, List.append_nil] at hparts
        exact .inl ⟨rfl, by rw [hparts, String.ofList_toList]⟩
      · next c rest hdrop =>
        split at h
        · cases h
        · next hfeed =>
          cases h
          refine .inr ⟨_, rfl, ?_, by simp, by simpa using hfeed⟩
          rw [← String.toList_inj]
          simpa [hdrop] using hparts.symm
      · cases h
    · cases h
  · rintro ⟨front, hfront, ⟨rfl, rfl⟩ | ⟨rest, rfl, rfl, hne, hfeed⟩⟩
    all_goals obtain ⟨hchars, hlength⟩ := pattern_of_folded hfront
    · rw [capture?, if_pos (by rw [hchars]), ← hlength, List.drop_length]
    · obtain ⟨c, cs, rfl⟩ : ∃ c cs, rest = String.ofList (c :: cs) := by
        obtain ⟨c, cs, hrest⟩ := List.exists_cons_of_ne_nil (String.toList_eq_nil_iff.not.2 hne)
        exact ⟨c, cs, by rw [← hrest, String.ofList_toList]⟩
      have hline : (front ++ " " ++ String.ofList (c :: cs)).toList =
          front.toList ++ ' ' :: c :: cs := by simp
      rw [String.toList_ofList] at hfeed
      rw [capture?, hline, if_pos (by simp [hchars]), ← hlength, List.drop_left]
      simp only [if_neg hfeed]

variable {kind : CommandKind} {ws : List String}

/-- Splitting the line gives the words of the front and those of the captured text. -/
theorem introduces_of_capture? (hws : ∀ w ∈ ws, Text.IsWord w) (hne : ws ≠ [])
    {text : Option String} (h : kind.capture? (Text.spaced ws) = some text) :
    kind.Introduces ws (captured text) := by
  have hsplit : Text.splitSpaces (Text.spaced ws) = ws :=
    Text.splitSpaces_spaced (fun w hw => (hws w hw).solid) hne
  obtain ⟨front, hfront, hline⟩ := (capture?_eq_some_iff kind _ text).1 h
  refine (introduces_iff_folded kind ws _).2
    ⟨Text.splitSpaces front, ?_, map_folded_of_pattern hfront⟩
  obtain ⟨rfl, hline⟩ | ⟨rest, rfl, hline, _, _⟩ := hline
  · rw [← hsplit, hline]
    exact (List.append_nil _).symm
  · rw [← hsplit, hline]
    exact Text.splitSpaces_append front rest

theorem capture?_of_introduces (hws : ∀ w ∈ ws, Text.IsWord w) {arguments : List String}
    (h : kind.Introduces ws arguments) :
    ∃ text, kind.capture? (Text.spaced ws) = some text ∧ captured text = arguments := by
  obtain ⟨spelled, rfl, hspelled⟩ := (introduces_iff_folded kind ws arguments).1 h
  have hne : spelled ≠ [] := by
    rintro rfl
    exact kind.keywords_ne_nil hspelled.symm
  have hfront : Text.folded (Text.spaced spelled) = kind.pattern := by
    rw [Text.folded_spaced, hspelled, pattern]
  have harguments : ∀ w ∈ arguments, Text.IsWord w := fun w hw =>
    hws w (List.mem_append_right spelled hw)
  by_cases hnone : arguments = []
  · refine ⟨none, (capture?_eq_some_iff kind _ none).2 ⟨_, hfront, .inl ⟨rfl, ?_⟩⟩, hnone.symm⟩
    rw [hnone, List.append_nil]
  · have hfeed : '\n' ∉ (Text.spaced arguments).toList := by
      refine Text.notMem_spaced (by decide) fun w hw hmem => ?_
      exact absurd ((harguments w hw).unbroken _ hmem) (by decide)
    have hcapture : kind.capture? (Text.spaced (spelled ++ arguments)) =
        some (some (Text.spaced arguments)) :=
      (capture?_eq_some_iff kind _ _).2 ⟨_, hfront, .inr ⟨_, rfl, Text.spaced_append hne hnone,
        (Text.spaced_eq_empty_iff harguments).not.2 hnone, hfeed⟩⟩
    exact ⟨_, hcapture, Text.splitSpaces_spaced (fun w hw => (harguments w hw).solid) hnone⟩

/-- In words with single spaces between them a pattern finds what the keywords introduce. -/
theorem capture?_spaced (hws : ∀ w ∈ ws, Text.IsWord w) (hne : ws ≠ []) (kind : CommandKind) :
    (kind.capture? (Text.spaced ws)).map captured = kind.argumentsIn? ws := by
  ext arguments
  rw [Option.map_eq_some_iff, argumentsIn?_eq_some_iff]
  constructor
  · rintro ⟨text, htext, rfl⟩
    exact introduces_of_capture? hws hne htext
  · exact capture?_of_introduces hws

end CommandKind

namespace Token

/-- Recognises a line by patterns, which are tried in the given order. -/
def ofPatterns (order : List CommandKind) (raw : String) : Except RecognitionError Token :=
  let line := Text.spaced (Text.words raw)
  if line = "" then .error .emptyLine
  else
    match order.findSome? fun kind =>
        ((kind.capture? line).map CommandKind.captured).map (kind, ·) with
    | none => .error .unrecognized
    | some (kind, arguments) => .ok { kind, arguments, raw }

theorem ofPatterns_eq_ofLine {order : List CommandKind} (hall : ∀ kind, kind ∈ order)
    (raw : String) : ofPatterns order raw = ofLine raw := by
  have hwords : ∀ w ∈ Text.words raw, Text.IsWord w := fun _ => Text.isWord_of_mem_words
  rw [ofPatterns, ofLine_eq]
  simp only [Text.spaced_eq_empty_iff hwords]
  cases hraw : Text.words raw with
  | nil => simp
  | cons word words =>
    rw [hraw] at hwords
    simp only [CommandKind.capture?_spaced hwords (List.cons_ne_nil word words),
      CommandKind.findSome?_argumentsIn?_eq_find?, CommandKind.find?_keywords_eq_ofWords? hall,
      reduceCtorEq, if_false]
    cases CommandKind.ofWords? (word :: words) <;> rfl

end Token

/-- A line is read exactly as the grammar says. Its words are what stands between the blanks. Without
words it is empty; otherwise it is a command of the kind whose keywords begin it, with the other words
as they are for arguments, or of no kind. No line is a command of two kinds, so patterns that are
tried in any order read it in the same way. -/
theorem recognition_exact (raw : String) :
    (∀ ws, Text.words raw = ws ↔ Text.Laid ws raw.toList) ∧
    (Token.ofLine raw = .error .emptyLine ↔ Text.words raw = []) ∧
    (∀ token, Token.ofLine raw = .ok token ↔
      token.raw = raw ∧ token.kind.Introduces (Text.words raw) token.arguments) ∧
    (Token.ofLine raw = .error .unrecognized ↔
      Text.words raw ≠ [] ∧
        ∀ (kind : CommandKind) arguments, ¬ kind.Introduces (Text.words raw) arguments) ∧
    (∀ (kind other : CommandKind) arguments otherArguments,
      kind.Introduces (Text.words raw) arguments →
      other.Introduces (Text.words raw) otherArguments →
        kind = other ∧ arguments = otherArguments) ∧
    (∀ order : List CommandKind, (∀ kind, kind ∈ order) →
      Token.ofPatterns order raw = Token.ofLine raw) ∧
    (∀ token, Token.ofLine raw = .ok token → ∀ argument ∈ token.arguments, Text.IsWord argument) := by
  refine ⟨Text.words_eq_iff raw, Token.ofLine_emptyLine_iff raw, Token.ofLine_ok_iff raw,
    Token.ofLine_unrecognized_iff raw, fun _ _ _ _ h h' => h.unique h',
    fun _ hall => Token.ofPatterns_eq_ofLine hall raw, ?_⟩
  intro token htoken argument hargument
  obtain ⟨_, spelled, hwords, _⟩ := (Token.ofLine_ok_iff raw token).1 htoken
  exact Text.isWord_of_mem_words (hwords ▸ List.mem_append_right spelled hargument)

example : Token.ofLine "  \u017Fet\tRIP r1  10.0.0.0" =
    .ok ⟨.setRip, ["r1", "10.0.0.0"], "  \u017Fet\tRIP r1  10.0.0.0"⟩ := by decide +kernel

end NetworkConsole
