import NetworkConsole.Proofs.Text.Words
import NetworkConsole.Text.Column

/-! Words of texts that are put together with spaces. A text that fills its column or runs over it is
still ended by the space before the next column, so a row has the words of its columns. -/
namespace NetworkConsole.Text

theorem IsWord.append {x y : String} (hx : IsWord x) (hy : IsWord y) : IsWord (x ++ y) where
  ne_empty := by simp [hx.ne_empty]
  unbroken := by
    intro c hc
    rw [String.toList_append, List.mem_append] at hc
    exact hc.elim (hx.unbroken c) (hy.unbroken c)

theorem words_append_space (x y : String) : words (x ++ " " ++ y) = words x ++ words y := by
  have hspace : (x ++ " " ++ y).toList = x.toList ++ ' ' :: y.toList := by simp
  have hblank : isBlank ' ' = true := by decide
  rw [words, hspace, List.splitOnP_append_cons _ _ hblank, List.filter_append, List.map_append]
  rfl

theorem words_empty : words "" = [] := by simp [words, List.splitOnP_nil]

theorem words_of_isWord {word : String} (h : IsWord word) : words word = [word] := by
  rw [words_eq_iff, ← List.append_nil word.toList]
  exact .word h nofun .nil

/-- Spaces that fill a column have no words. -/
theorem words_padRight (width : Nat) (text : String) : words (padRight width text) = words text := by
  rw [padRight]
  induction width - text.length with
  | zero => simp
  | succ n ih =>
    have hlast : text ++ String.ofList (List.replicate (n + 1) ' ') =
        text ++ String.ofList (List.replicate n ' ') ++ " " ++ "" := by
      simp [← String.toList_inj, List.replicate_succ']
    rw [hlast, words_append_space, ih, words_empty, List.append_nil]

theorem words_indented (text : String) : words ("  " ++ text) = words text := by
  have hspaces : "  " ++ text = "" ++ " " ++ ("" ++ " " ++ text) := by simp [← String.toList_inj]
  rw [hspaces, words_append_space, words_append_space, words_empty, List.nil_append, List.nil_append]

end NetworkConsole.Text
