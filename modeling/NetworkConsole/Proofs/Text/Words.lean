import NetworkConsole.Proofs.Text.Spelling
import NetworkConsole.Text.Blank

/-! The words of a text as a relation between the two: how a text is laid out, from words and the
blanks around them. The words that are read from a text are the only ones that it can be laid out
from; with single spaces between them they can be read again. -/
namespace NetworkConsole.Text

/-- A word has a character, and none of its characters is blank. -/
structure IsWord (word : String) : Prop where
  ne_empty : word ≠ ""
  unbroken : ∀ c ∈ word.toList, isBlank c = false

instance (word : String) : Decidable (IsWord word) :=
  decidable_of_iff ((!word.toList.isEmpty && word.toList.all (!isBlank ·)) = true) <| by
    simp only [Bool.and_eq_true, Bool.not_eq_true', List.isEmpty_eq_false_iff, List.all_eq_true,
      ne_eq, String.toList_eq_nil_iff]
    exact ⟨fun h => ⟨h.1, h.2⟩, fun h => ⟨h.ne_empty, h.unbroken⟩⟩

theorem IsWord.solid {word : String} (h : IsWord word) : Solid word := fun hspace =>
  absurd (h.unbroken ' ' hspace) (by decide)

/-- The text consists of the words, in their order, and of blanks. Each word ends where the text
does or before a blank. -/
inductive Laid : List String → List Char → Prop where
  | nil : Laid [] []
  | blank {words : List String} {text : List Char} {c : Char} (hc : isBlank c = true)
      (h : Laid words text) : Laid words (c :: text)
  | word {words : List String} {text : List Char} {word : String} (hword : IsWord word)
      (hend : ∀ c ∈ text.head?, isBlank c = true) (h : Laid words text) :
      Laid (word :: words) (word.toList ++ text)

theorem words_blank {c : Char} (hc : isBlank c = true) (text : List Char) :
    words (String.ofList (c :: text)) = words (String.ofList text) := by
  simp [words, List.splitOnP_cons_eq_if_modifyHead, hc]

theorem words_word {word : String} (hword : IsWord word) {text : List Char}
    (hend : ∀ c ∈ text.head?, isBlank c = true) :
    words (String.ofList (word.toList ++ text)) = word :: words (String.ofList text) := by
  have hsplit : word.toList.splitOnP isBlank = [word.toList] :=
    List.splitOnP_eq_singleton hword.unbroken
  cases text with
  | nil => simp [words, hsplit, hword.ne_empty, List.splitOnP_nil]
  | cons c rest =>
    have hc : isBlank c = true := hend c rfl
    rw [words_blank hc]
    simp [words, List.splitOnP_append_cons _ _ hc, hsplit, hword.ne_empty]

theorem words_of_laid {ws : List String} {text : List Char} (h : Laid ws text) :
    words (String.ofList text) = ws := by
  induction h with
  | nil => simp [words, List.splitOnP_nil]
  | blank hc _ ih => rw [words_blank hc, ih]
  | word hword hend _ ih => rw [words_word hword hend, ih]

theorem Laid.word_append {ws : List String} {text first : List Char} (h : Laid ws text)
    (hne : first ≠ []) (hfirst : ∀ c ∈ first, isBlank c = false)
    (hend : ∀ c ∈ text.head?, isBlank c = true) :
    Laid (String.ofList first :: ws) (first ++ text) := by
  have hword : IsWord (String.ofList first) := ⟨by simpa using hne, by simpa using hfirst⟩
  simpa using Laid.word hword hend h

/-- A character that is not blank makes a word of its own or becomes the first one of a word. -/
theorem Laid.cons {ws : List String} {text : List Char} (h : Laid ws text) {c : Char}
    (hc : isBlank c = false) : ∃ ws, Laid ws (c :: text) := by
  have hsingle : ∀ x ∈ [c], isBlank x = false := by simpa using hc
  cases h with
  | nil => exact ⟨_, Laid.nil.word_append (List.cons_ne_nil c []) hsingle (by simp)⟩
  | blank hblank h =>
    exact ⟨_, (h.blank hblank).word_append (List.cons_ne_nil c []) hsingle (by simpa using hblank)⟩
  | @word _ _ word hword hend h =>
    have hlonger : ∀ x ∈ c :: word.toList, isBlank x = false :=
      List.forall_mem_cons.2 ⟨hc, hword.unbroken⟩
    exact ⟨_, h.word_append (List.cons_ne_nil c word.toList) hlonger hend⟩

theorem exists_laid (text : List Char) : ∃ ws, Laid ws text := by
  induction text with
  | nil => exact ⟨[], .nil⟩
  | cons c text ih =>
    obtain ⟨ws, h⟩ := ih
    cases hc : isBlank c with
    | true => exact ⟨ws, h.blank hc⟩
    | false => exact h.cons hc

theorem words_eq_iff (text : String) (ws : List String) :
    words text = ws ↔ Laid ws text.toList := by
  constructor
  · rintro rfl
    obtain ⟨ws, hws⟩ := exists_laid text.toList
    have hwords := words_of_laid hws
    rw [String.ofList_toList] at hwords
    rwa [hwords]
  · intro h
    rw [← words_of_laid h, String.ofList_toList]

theorem Laid.isWord {ws : List String} {text : List Char} (h : Laid ws text) :
    ∀ w ∈ ws, IsWord w := by
  induction h with
  | nil => simp
  | blank _ _ ih => exact ih
  | word hword _ _ ih => exact List.forall_mem_cons.2 ⟨hword, ih⟩

theorem isWord_of_mem_words {text w : String} (h : w ∈ words text) : IsWord w :=
  ((words_eq_iff text _).1 rfl).isWord w h

/-- The pieces of a text between single spaces. -/
def splitSpaces (text : String) : List String := (text.toList.splitOn ' ').map String.ofList

theorem splitSpaces_append (x y : String) :
    splitSpaces (x ++ " " ++ y) = splitSpaces x ++ splitSpaces y := by
  have hsplit : (x ++ " " ++ y).toList.splitOn ' ' = x.toList.splitOn ' ' ++ y.toList.splitOn ' ' := by
    rw [String.toList_append, String.toList_append, List.append_assoc]
    exact List.splitOn_append_cons_self x.toList y.toList
  rw [splitSpaces, hsplit, List.map_append]
  rfl

/-- Solid words are read back from between the spaces. -/
theorem splitSpaces_spaced {ws : List String} (hws : ∀ w ∈ ws, Solid w) (hne : ws ≠ []) :
    splitSpaces (spaced ws) = ws := by
  have hsplit : (spaced ws).toList.splitOn ' ' = ws.map String.toList := by
    rw [spaced, String.toList_intercalate]
    exact List.splitOn_intercalate ' ' (by simpa [Solid] using hws) (by simpa using hne)
  simp [splitSpaces, hsplit, Function.comp_def]

theorem spaced_cons (w : String) {ws : List String} (hne : ws ≠ []) :
    spaced (w :: ws) = w ++ " " ++ spaced ws := String.intercalate_cons_of_ne_nil hne

/-- Words with single spaces between them are read again. -/
theorem words_spaced {ws : List String} (hws : ∀ w ∈ ws, IsWord w) : words (spaced ws) = ws := by
  rw [words_eq_iff]
  induction ws with
  | nil => exact .nil
  | cons w ws ih =>
    obtain ⟨hw, hrest⟩ := List.forall_mem_cons.1 hws
    by_cases hne : ws = []
    · subst hne
      have hlast : (spaced [w]).toList = w.toList ++ [] := by simp [spaced]
      rw [hlast]
      exact .word hw nofun .nil
    · have hspace : (spaced (w :: ws)).toList = w.toList ++ ' ' :: (spaced ws).toList := by
        simp [spaced_cons w hne]
      have hblank : isBlank ' ' = true := by decide
      rw [hspace]
      exact .word hw (by simpa using hblank) (.blank hblank (ih hrest))

theorem spaced_append {xs ys : List String} (hxs : xs ≠ []) (hys : ys ≠ []) :
    spaced (xs ++ ys) = spaced xs ++ " " ++ spaced ys := by
  induction xs with
  | nil => exact absurd rfl hxs
  | cons x xs ih =>
    cases xs with
    | nil => exact spaced_cons x hys
    | cons y xs =>
      rw [List.cons_append, spaced_cons x (by simp), ih (by simp), spaced_cons x (by simp)]
      simp only [String.append_assoc]

theorem notMem_spaced {c : Char} (hc : c ≠ ' ') {ws : List String} (hws : ∀ w ∈ ws, c ∉ w.toList) :
    c ∉ (spaced ws).toList := by
  induction ws with
  | nil => simp [spaced]
  | cons w ws ih =>
    obtain ⟨hw, hrest⟩ := List.forall_mem_cons.1 hws
    by_cases hne : ws = []
    · simpa [hne, spaced] using hw
    · simp [spaced_cons w hne, hw, hc, ih hrest]

theorem spaced_eq_empty_iff {ws : List String} (hws : ∀ w ∈ ws, IsWord w) :
    spaced ws = "" ↔ ws = [] := by
  cases ws with
  | nil => simp [spaced]
  | cons w ws =>
    have hw := (hws w List.mem_cons_self).ne_empty
    by_cases hne : ws = []
    · simp [hne, spaced, hw]
    · simp [spaced_cons w hne, hw]

end NetworkConsole.Text
