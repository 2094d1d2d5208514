import Mathlib.Data.List.TakeWhile
import NetworkConsole.Proofs.Text.Words

/-! Trimming takes blanks from both ends of a text and nothing else. The words stay, and where a
character is left the first one is that with which the first word starts. -/
namespace NetworkConsole.Text

/-- The text consists of blanks. -/
def AllBlank (text : List Char) : Prop := ∀ c ∈ text, isBlank c = true

/-- The first character that is not blank. -/
def firstMark? (text : List Char) : Option Char := text.find? (!isBlank ·)

variable {text blanks : List Char} {ws : List String}

theorem firstMark?_eq_none_iff : firstMark? text = none ↔ AllBlank text := by
  simp [firstMark?, AllBlank]

theorem firstMark?_blanks_append (h : AllBlank blanks) (text : List Char) :
    firstMark? (blanks ++ text) = firstMark? text := by
  have hnone : blanks.find? (!isBlank ·) = none := firstMark?_eq_none_iff.2 h
  rw [firstMark?, List.find?_append, hnone, Option.none_or]
  rfl

theorem firstMark?_cons {c : Char} (hc : isBlank c = false) (text : List Char) :
    firstMark? (c :: text) = some c := by
  simp [firstMark?, hc]

/-- The first word starts with the first character that is not blank. -/
theorem firstMark?_of_laid (h : Laid ws text) :
    firstMark? text = ws.head?.bind (·.toList.head?) := by
  induction h with
  | nil => rfl
  | @blank _ text c hc _ ih =>
    have hblank : AllBlank [c] := by simpa [AllBlank] using hc
    rw [← ih]
    exact firstMark?_blanks_append hblank text
  | @word _ text word hword _ _ _ =>
    have hne : word.toList ≠ [] := fun h => hword.ne_empty (String.toList_eq_nil_iff.1 h)
    obtain ⟨c, rest, hchars⟩ := List.exists_cons_of_ne_nil hne
    have hc : isBlank c = false := hword.unbroken c (by rw [hchars]; exact List.mem_cons_self)
    rw [hchars, List.cons_append, firstMark?_cons hc, List.head?_cons, Option.bind_some, hchars,
      List.head?_cons]

theorem firstMark?_eq_words (text : String) :
    firstMark? text.toList = (words text).head?.bind (·.toList.head?) :=
  firstMark?_of_laid ((words_eq_iff text _).1 rfl)

theorem Laid.blanks_append (hblanks : AllBlank blanks) (h : Laid ws text) :
    Laid ws (blanks ++ text) := by
  induction blanks with
  | nil => exact h
  | cons c blanks ih =>
    obtain ⟨hc, hrest⟩ := List.forall_mem_cons.1 hblanks
    exact (ih hrest).blank hc

theorem Laid.append_blanks (h : Laid ws text) (hblanks : AllBlank blanks) :
    Laid ws (text ++ blanks) := by
  induction h with
  | nil => simpa using Laid.nil.blanks_append hblanks
  | blank hc _ ih => exact ih.blank hc
  | @word _ text word hword hend _ ih =>
    rw [List.append_assoc]
    refine ih.word hword fun c hc => ?_
    cases text with
    | nil => exact hblanks c (List.mem_of_mem_head? hc)
    | cons first rest => exact hend c hc

theorem trimStart_eq (text : List Char) :
    ∃ before, AllBlank before ∧ text = before ++ trimStart text :=
  ⟨text.takeWhile isBlank, fun _ => List.mem_takeWhile_imp, List.takeWhile_append_dropWhile.symm⟩

theorem trimEnd_eq (text : List Char) :
    ∃ behind, AllBlank behind ∧ text = trimEnd text ++ behind := by
  obtain ⟨before, hblank, htext⟩ := trimStart_eq text.reverse
  refine ⟨before.reverse, fun c hc => hblank c (List.mem_reverse.1 hc), ?_⟩
  rw [List.reverse_eq_iff, List.reverse_append] at htext
  exact htext

/-- Around the trimmed text there is nothing but blanks. -/
theorem exists_trim (text : String) :
    ∃ before behind, AllBlank before ∧ AllBlank behind ∧
      text.toList = before ++ ((trim text).toList ++ behind) := by
  obtain ⟨before, hbefore, hstart⟩ := trimStart_eq text.toList
  obtain ⟨behind, hbehind, hend⟩ := trimEnd_eq (trimStart text.toList)
  refine ⟨before, behind, hbefore, hbehind, ?_⟩
  rw [trim, String.toList_ofList, ← hend]
  exact hstart

theorem words_trim (text : String) : words (trim text) = words text := by
  obtain ⟨before, behind, hbefore, hbehind, htext⟩ := exists_trim text
  have hlaid : Laid (words (trim text)) (trim text).toList := (words_eq_iff _ _).1 rfl
  refine ((words_eq_iff text _).2 ?_).symm
  rw [htext]
  exact (hlaid.append_blanks hbehind).blanks_append hbefore

theorem firstMark?_trim (text : String) :
    firstMark? (trim text).toList = firstMark? text.toList := by
  rw [firstMark?_eq_words, words_trim, ← firstMark?_eq_words]

/-- A trimmed text starts with what is not blank. -/
theorem head?_trim (text : String) : (trim text).toList.head? = firstMark? text.toList := by
  obtain ⟨behind, -, hend⟩ := trimEnd_eq (trimStart text.toList)
  have hstart : (trimStart text.toList).head? = firstMark? text.toList :=
    (List.find?_not_eq_head?_dropWhile isBlank text.toList).symm
  have hmark := firstMark?_trim text
  rw [trim, String.toList_ofList] at hmark ⊢
  cases hpart : trimEnd (trimStart text.toList) with
  | nil =>
    rw [← hmark, hpart]
    rfl
  | cons c rest =>
    rw [hend, hpart] at hstart
    exact hstart

end NetworkConsole.Text
