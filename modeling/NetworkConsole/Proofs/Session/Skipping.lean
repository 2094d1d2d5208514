import NetworkConsole.Proofs.Command.Grammar
import NetworkConsole.Proofs.Session.Events
import NetworkConsole.Proofs.Session.Script
import NetworkConsole.Proofs.Session.Standard
import NetworkConsole.Proofs.Text.Trim

/-! Lines that a script passes over. Trimming finds the same first character as recognition, which
takes the line in words; so a line is passed over when it has no word or when its first word starts
with the mark of a comment, and neither is a command. -/
namespace NetworkConsole

namespace Script

def IsBlankLine (line : String) : Prop := Text.AllBlank line.toList

def commentMarks : List Char := ['!', '#']

/-- The first character that is not blank marks a comment. -/
def IsComment (line : String) : Prop := ∃ mark ∈ commentMarks, Text.firstMark? line.toList = some mark

end Script

theorem isSkipped_iff (line : String) :
    isSkipped line = true ↔ Script.IsBlankLine line ∨ Script.IsComment line := by
  have hmark := Text.head?_trim line
  rw [isSkipped, Script.IsBlankLine, Script.IsComment, ← Text.firstMark?_eq_none_iff, ← hmark]
  cases (Text.trim line).toList with
  | nil => simp
  | cons c rest => simp [Script.commentMarks]

theorem isSkipped_trim (line : String) : isSkipped (Text.trim line) = isSkipped line := by
  rw [Bool.eq_iff_iff, isSkipped_iff, isSkipped_iff]
  simp only [Script.IsBlankLine, Script.IsComment, ← Text.firstMark?_eq_none_iff,
    Text.firstMark?_trim]

theorem CommandKind.keywords_unmarked (kind : CommandKind) :
    ∀ keyword ∈ kind.keywords, ∀ c ∈ keyword.toList, c ∉ Script.commentMarks := by
  have hall : (all.all fun kind => kind.keywords.all fun keyword =>
      keyword.toList.all (· ∉ Script.commentMarks)) = true := by decide +kernel
  intro keyword hkeyword c hc
  exact of_decide_eq_true (keywords_all hall kind keyword hkeyword c hc)

/-- No letter of a keyword is written as the mark of a comment. -/
theorem Text.IsLetter.eq_of_mark {mark letter : Char} (h : IsLetter mark letter)
    (hmark : mark ∈ Script.commentMarks) : letter = mark := by
  simp only [Script.commentMarks, List.mem_cons, List.not_mem_nil, or_false] at hmark
  obtain hlower | ⟨hlong, -⟩ := h
  · obtain rfl | rfl := hmark <;> exact hlower.symm.trans (by decide)
  · obtain rfl | rfl := hmark <;> exact absurd hlong (by decide)

theorem Text.not_spells_of_mark {word keyword : String} {mark : Char}
    (hword : word.toList.head? = some mark) (hmark : mark ∈ Script.commentMarks)
    (hkeyword : ∀ c ∈ keyword.toList, c ∉ Script.commentMarks) : ¬ Spells word keyword := by
  intro hspells
  obtain ⟨rest, hchars⟩ := List.head?_eq_some_iff.1 hword
  rw [Spells, hchars] at hspells
  obtain ⟨letter, letters, hletter, -, hkeywordChars⟩ := List.forall₂_cons_left_iff.1 hspells
  obtain rfl := hletter.eq_of_mark hmark
  exact hkeyword letter (by rw [hkeywordChars]; exact List.mem_cons_self) hmark

namespace Token

theorem ofLine_emptyLine_iff_blank (line : String) :
    ofLine line = .error .emptyLine ↔ Script.IsBlankLine line := by
  rw [ofLine_emptyLine_iff, Script.IsBlankLine, ← Text.firstMark?_eq_none_iff,
    Text.firstMark?_eq_words]
  cases hwords : Text.words line with
  | nil => simp
  | cons word words =>
    have hword : Text.IsWord word :=
      Text.isWord_of_mem_words (hwords ▸ List.mem_cons_self : word ∈ Text.words line)
    simpa using hword.ne_empty

theorem ofLine_of_comment {line : String} (h : Script.IsComment line) :
    ofLine line = .error .unrecognized := by
  obtain ⟨mark, hmark, hfirst⟩ := h
  rw [Text.firstMark?_eq_words] at hfirst
  obtain ⟨word, hword, hhead⟩ := Option.bind_eq_some_iff.1 hfirst
  obtain ⟨words, hwords⟩ := List.head?_eq_some_iff.1 hword
  refine (ofLine_unrecognized_iff line).2 ⟨by rw [hwords]; exact List.cons_ne_nil word words, ?_⟩
  rintro kind arguments ⟨spelled, hparts, hspelled⟩
  -- the first keyword would have to be spelled by the word with the mark
  cases hkeywords : kind.keywords with
  | nil => exact kind.keywords_ne_nil hkeywords
  | cons keyword keywords =>
    rw [hkeywords] at hspelled
    obtain ⟨first, others, hspells, -, rfl⟩ := List.forall₂_cons_right_iff.1 hspelled
    rw [hwords, List.cons_append, List.cons.injEq] at hparts
    obtain ⟨rfl, -⟩ := hparts
    exact Text.not_spells_of_mark hhead hmark
      (kind.keywords_unmarked keyword (hkeywords ▸ List.mem_cons_self)) hspells

end Token

theorem Command.ofLine_of_error {line : String} {e : RecognitionError}
    (h : Token.ofLine line = .error e) : ofLine line = .error (.recognition e) := by
  simp only [ofLine, h]

/-- Only recognition fails with a cause of recognition. -/
theorem Session.ofLine_of_recognition {σ : Type} {table : Dispatch σ} {line quoted : String}
    {session : Session σ} {e : RecognitionError}
    (h : (session.submit table line).outcome = .error ⟨quoted, .recognition e⟩) :
    Token.ofLine line = .error e := by
  have hcourse := session.submit_course table line
  generalize session.submit table line = turn at hcourse h
  cases hcourse with
  | unrecognized htoken =>
    cases h
    exact htoken
  | mistyped _ hcommand =>
    cases h
    cases Token.stage_of_command hcommand
  | @failed _ _ _ cause _ _ _ _ _ hresult =>
    cases cause <;> cases h
  | refused | unserved | done => cases h

/-- What a script passes over are the blank lines and the comments, and these are no commands: a
blank line is the empty line of recognition, a comment is not recognised. So no outcome of a script is
that of an empty line, and a line that has no outcome, though the script has not stopped before it,
would have failed in recognition and left the session alone. -/
theorem skipping_exact {σ : Type} (table : Dispatch σ) :
    (∀ line, isSkipped line = true ↔ Script.IsBlankLine line ∨ Script.IsComment line) ∧
    (∀ line, Script.IsBlankLine line → Token.ofLine line = .error .emptyLine) ∧
    (∀ line, Script.IsComment line → Token.ofLine line = .error .unrecognized) ∧
    (∀ line, isSkipped line = false → Token.ofLine line ≠ .error .emptyLine) ∧
    ∀ script stop (session : Session σ),
      let outcomes := (Script.run table stop script session).outcomes
      (∀ entry ∈ outcomes, ∀ quoted, entry.2 ≠ .error ⟨quoted, .recognition .emptyLine⟩) ∧
      ∀ i line, (Text.lines script)[i]? = some line → i + 1 ∉ outcomes.map Prod.fst →
        (stop = true → ∀ entry ∈ outcomes, Script.Failed entry → i + 1 ≤ entry.1) →
        ∃ e, Token.ofLine line = .error e ∧ ∀ other : Session σ,
          (other.submit table line).outcome = .error ⟨line, .recognition e⟩ ∧
            (other.submit table line).session = other := by
  have hkept : ∀ line, isSkipped line = false → Token.ofLine line ≠ .error .emptyLine := by
    intro line hskip hempty
    have hblank := (Token.ofLine_emptyLine_iff_blank line).1 hempty
    rw [(isSkipped_iff line).2 (.inl hblank)] at hskip
    cases hskip
  refine ⟨isSkipped_iff, fun line => (Token.ofLine_emptyLine_iff_blank line).2,
    fun line => Token.ofLine_of_comment, hkept, fun script stop session => ⟨?_, ?_⟩⟩
  · intro entry hentry quoted hempty
    obtain ⟨line, before, hline, houtcome⟩ := Script.exists_turn_of_mem hentry
    obtain ⟨_, _, _, hskip⟩ := (Script.mem_commandLines_iff script entry.1 line).1 hline
    exact hkept line hskip (Session.ofLine_of_recognition (houtcome ▸ hempty))
  · intro i line hline hout hstop
    have hnumbered := Script.numbered_run table stop script session
    have hskip : isSkipped line = true := by
      by_contra hskip
      exact hout ((hnumbered.places (i + 1)).2
        ⟨⟨i, line, rfl, hline, by simpa using hskip⟩, hstop⟩)
    obtain ⟨e, he⟩ : ∃ e, Token.ofLine line = .error e := by
      obtain hblank | hcomment := (isSkipped_iff line).1 hskip
      · exact ⟨_, (Token.ofLine_emptyLine_iff_blank line).2 hblank⟩
      · exact ⟨_, Token.ofLine_of_comment hcomment⟩
    exact ⟨e, he, fun other => other.submit_unread table (Command.ofLine_of_error he)⟩

/-- The script stops at its fourth line. Of the lines before it an em space is blank and the second one
is a comment behind blanks. -/
theorem skipping_exact_stopped :
    let table : Dispatch MemoryStore := .standard
    let session : Session MemoryStore := ⟨.empty, {}⟩
    let script := "\u2003\n  # note\r\nadd router r1\nadd router\n! end"
    let outcomes := (Script.run table true script session).outcomes
    outcomes.map Prod.fst = [3, 4] ∧ isSkipped "\u2003" = true ∧ isSkipped "  # note" = true ∧
      isSkipped "add router" = false ∧ Token.ofLine "add router" ≠ .error .emptyLine ∧
      ∃ e e', Token.ofLine "\u2003" = .error e ∧ Token.ofLine "  # note" = .error e' ∧ e ≠ e' ∧
        (session.submit table "  # note").session = session := by
  intro table session script outcomes
  obtain ⟨_, _, _, hkept, hscript⟩ := skipping_exact table
  obtain ⟨-, hleft⟩ := hscript script true session
  have hnumbers : outcomes.map Prod.fst = [3, 4] := by decide +kernel
  have hbefore : ∀ entry ∈ outcomes, 3 ≤ entry.1 := by
    intro entry hentry
    have hnumber : entry.1 ∈ [3, 4] := hnumbers ▸ List.mem_map_of_mem hentry
    simp only [List.mem_cons, List.not_mem_nil, or_false] at hnumber
    omega
  have hout : ∀ i < 2, i + 1 ∉ outcomes.map Prod.fst := by
    intro i hi
    rw [hnumbers]
    simp only [List.mem_cons, List.not_mem_nil, or_false]
    omega
  obtain ⟨e, he, -⟩ := hleft 0 "\u2003" (by decide +kernel) (hout 0 (by decide))
    fun _ entry hentry _ => Nat.le_trans (by decide) (hbefore entry hentry)
  obtain ⟨e', he', hleave⟩ := hleft 1 "  # note" (by decide +kernel) (hout 1 (by decide))
    fun _ entry hentry _ => Nat.le_trans (by decide) (hbefore entry hentry)
  have hdiffer : e ≠ e' := by
    rintro rfl
    exact absurd (he.trans he'.symm) (by decide +kernel)
  exact ⟨hnumbers, by decide +kernel, by decide +kernel, by decide +kernel,
    hkept "add router" (by decide +kernel), e, e', he, he', hdiffer, (hleave session).2⟩

end NetworkConsole
