import NetworkConsole.Text.Line

/-! Lines of a text in two parts. Where the first part ends its last line, no line reaches over the
border, and the lines of the whole are those of the parts. -/
namespace NetworkConsole.Text

/-- The text is empty or ends its last line. -/
def Complete (text : String) : Prop := text = "" ∨ ∃ rest, text = rest ++ "\n"

def feeds (text : String) : Nat := text.toList.count '\n'

theorem linesOfPieces_append (xs : List (List Char)) {ys : List (List Char)} (hys : ys ≠ []) :
    linesOfPieces (xs ++ ys) = xs.map dropReturn ++ linesOfPieces ys := by
  induction xs with
  | nil => rfl
  | cons piece rest ih =>
    cases hrest : rest ++ ys with
    | nil => exact absurd (List.append_eq_nil_iff.1 hrest).2 hys
    | cons next more =>
      rw [List.cons_append, hrest, linesOfPieces, ← hrest, ih]
      rfl

/-- A line feed ends the lines before it and leaves those after it alone. -/
theorem linesOfPieces_feed (xs ys : List Char) :
    linesOfPieces ((xs ++ '\n' :: ys).splitOn '\n') =
      (xs.splitOn '\n').map dropReturn ++ linesOfPieces (ys.splitOn '\n') := by
  rw [List.splitOn, List.splitOnP_append_cons xs ys rfl]
  exact linesOfPieces_append _ (List.splitOnP_ne_nil _ ys)

theorem lines_feed (rest text : String) :
    lines (rest ++ "\n" ++ text) =
      (rest.toList.splitOn '\n').map (String.ofList ∘ dropReturn) ++ lines text := by
  rw [lines, String.toList_append, String.toList_append, List.append_assoc]
  rw [show "\n".toList ++ text.toList = '\n' :: text.toList from rfl, linesOfPieces_feed,
    List.map_append, List.map_map]
  rfl

theorem lines_ended (rest : String) :
    lines (rest ++ "\n") = (rest.toList.splitOn '\n').map (String.ofList ∘ dropReturn) := by
  have hlines := lines_feed rest ""
  rwa [String.append_empty, show lines "" = [] from rfl, List.append_nil] at hlines

theorem lines_append {first : String} (h : Complete first) (second : String) :
    lines (first ++ second) = lines first ++ lines second := by
  obtain rfl | ⟨rest, rfl⟩ := h
  · rw [String.empty_append]
    rfl
  · rw [lines_feed, lines_ended]

theorem length_splitOn (xs : List Char) : (xs.splitOn '\n').length = xs.count '\n' + 1 := by
  induction xs with
  | nil => rfl
  | cons c xs ih =>
    rw [List.splitOn] at ih ⊢
    rw [List.splitOnP_cons_eq_if_modifyHead]
    by_cases hc : c = '\n' <;> simp [hc, ih]

/-- Every line of a complete text has its line feed. -/
theorem length_lines {text : String} (h : Complete text) : (lines text).length = feeds text := by
  obtain rfl | ⟨rest, rfl⟩ := h
  · rfl
  · rw [lines_ended, List.length_map, length_splitOn, feeds]
    simp

theorem length_linesOfPieces_le (pieces : List (List Char)) :
    (linesOfPieces pieces).length ≤ pieces.length := by
  induction pieces with
  | nil => exact Nat.le_refl 0
  | cons piece rest ih =>
    cases rest with
    | nil =>
      rw [linesOfPieces]
      split
      · exact Nat.zero_le _
      · exact Nat.le_refl 1
    | cons next more => exact Nat.succ_le_succ ih

theorem length_lines_le (text : String) : (lines text).length ≤ feeds text + 1 := by
  rw [lines, List.length_map, feeds, ← length_splitOn]
  exact length_linesOfPieces_le _

theorem feeds_append (first second : String) :
    feeds (first ++ second) = feeds first + feeds second := by
  simp [feeds]

/-- A text can be cut behind each of its line feeds. -/
theorem exists_complete {text : String} {n : Nat} (h : n ≤ feeds text) :
    ∃ before behind, text = before ++ behind ∧ Complete before ∧ feeds before = n := by
  induction n with
  | zero => exact ⟨"", text, String.empty_append.symm, .inl rfl, rfl⟩
  | succ n ih =>
    obtain ⟨before, behind, rfl, -, hfeeds⟩ := ih (Nat.le_of_succ_le h)
    have hmore : 0 < behind.toList.count '\n' := by
      rw [feeds_append, hfeeds, feeds] at h
      omega
    obtain ⟨line, rest, hbehind, hline⟩ :=
      List.eq_append_cons_of_mem (List.count_pos_iff.1 hmore)
    refine ⟨before ++ String.ofList line ++ "\n", String.ofList rest, ?_, .inr ⟨_, rfl⟩, ?_⟩
    · rw [← String.toList_inj]
      simp [hbehind]
    · have hnone : feeds (String.ofList line) = 0 := by
        rw [feeds, String.toList_ofList, List.count_eq_zero]
        exact hline
      rw [feeds_append, feeds_append, hfeeds, hnone]
      rfl

/-- A text can be cut in front of each of its lines. -/
theorem exists_cut {text : String} {front rest : List String} {line : String}
    (h : lines text = front ++ line :: rest) :
    ∃ before behind, text = before ++ behind ∧ Complete before ∧ lines before = front ∧
      lines behind = line :: rest := by
  have hfront : front.length ≤ feeds text := by
    have hlength := length_lines_le text
    rw [h, List.length_append, List.length_cons] at hlength
    omega
  obtain ⟨before, behind, rfl, hcomplete, hfeeds⟩ := exists_complete hfront
  rw [lines_append hcomplete] at h
  obtain ⟨hbefore, hbehind⟩ := List.append_inj h ((length_lines hcomplete).trans hfeeds)
  exact ⟨before, behind, rfl, hcomplete, hbefore, hbehind⟩

end NetworkConsole.Text
