import Mathlib.Data.List.Basic
import NetworkConsole.Store.Path

/-! Paths put together. The components of a file in a directory are those of the directory and one more,
whatever the text of the directory, if the name of the file is a component of its own. -/
namespace NetworkConsole.Path

theorem pieces_ne_nil (path : String) : pieces path ≠ [] := by
  simp [pieces, List.splitOn, List.splitOnP_ne_nil]

theorem pieces_slash (x y : String) : pieces (x ++ "/" ++ y) = pieces x ++ pieces y := by
  have hsplit : (x ++ "/" ++ y).toList.splitOn '/' = x.toList.splitOn '/' ++ y.toList.splitOn '/' := by
    rw [String.toList_append, String.toList_append, List.append_assoc]
    exact List.splitOn_append_cons_self x.toList y.toList
  rw [pieces, hsplit, List.map_append]
  rfl

theorem pieces_slash_end (x : String) : pieces (x ++ "/") = pieces x ++ [""] := by
  rw [← String.append_empty (s := x ++ "/"), pieces_slash]
  rfl

/-- A text without slashes is a single piece. -/
theorem pieces_of_notMem {text : String} (h : '/' ∉ text.toList) : pieces text = [text] := by
  have hsplit : text.toList.splitOn '/' = [text.toList] := by
    refine List.splitOnP_eq_singleton fun c hc => ?_
    rw [beq_eq_false_iff_ne]
    rintro rfl
    exact h hc
  rw [pieces, hsplit, List.map_singleton, String.ofList_toList]

theorem isAbsolute_append {x : String} (h : x ≠ "") (y : String) :
    isAbsolute (x ++ y) = isAbsolute x := by
  cases hx : x.toList with
  | nil => exact absurd (String.toList_eq_nil_iff.1 hx) h
  | cons c cs => simp [isAbsolute, hx]

theorem isAbsolute_of_notMem {text : String} (h : '/' ∉ text.toList) : isAbsolute text = false := by
  rw [isAbsolute, beq_eq_false_iff_ne]
  exact fun hhead => h (List.mem_of_mem_head? hhead)

/-- The front of a path ends with its first slash. -/
theorem front_slash (x y : String) : front (x ++ "/" ++ y) = front (x ++ "/") := by
  have hne : x ++ "/" ≠ "" := fun h => by simpa using congrArg String.toList h
  have hfirst : (pieces (x ++ "/" ++ y)).head? = (pieces (x ++ "/")).head? := by
    rw [pieces_slash, pieces_slash_end, List.head?_append_of_ne_nil _ (pieces_ne_nil x),
      List.head?_append_of_ne_nil _ (pieces_ne_nil x)]
  rw [front, front, isAbsolute_append hne, hfirst]

theorem components_slash (x y : String) :
    components (x ++ "/" ++ y) = components (x ++ "/") ++ (pieces y).filterMap component? := by
  have hnone : [""].filterMap component? = [] := rfl
  rw [components, components, front_slash, pieces_slash, pieces_slash_end, List.filterMap_append,
    List.filterMap_append, hnone, List.append_nil, List.append_assoc]

/-- A slash at the end says nothing, unless nothing is before it. -/
theorem components_slash_end {x : String} (h : x ≠ "") : components (x ++ "/") = components x := by
  have hnone : [""].filterMap component? = [] := rfl
  have hfront : front (x ++ "/") = front x := by
    rw [front, front, isAbsolute_append h, pieces_slash_end,
      List.head?_append_of_ne_nil _ (pieces_ne_nil x)]
  rw [components, components, hfront, pieces_slash_end, List.filterMap_append, hnone,
    List.append_nil]

/-- Without slashes a text is one component or none. -/
theorem components_of_notMem {text : String} (h : '/' ∉ text.toList) :
    components text =
      if text = "" then [] else if text = "." then [.current] else if text = ".." then [.parent]
      else [.entry text] := by
  have hpieces := pieces_of_notMem h
  rw [components, front, isAbsolute_of_notMem h, hpieces]
  by_cases hempty : text = ""
  · simp [hempty, component?]
  by_cases hcurrent : text = "."
  · simp [hcurrent, component?]
  by_cases hparent : text = ".."
  · simp [hparent, component?]
  simp [hempty, hcurrent, hparent, component?]

theorem components_join {file : String} (hslash : '/' ∉ file.toList)
    (hplain : components file = [.entry file]) (directory : String) :
    components (join directory file) = components directory ++ [.entry file] := by
  have hpiece : (pieces file).filterMap component? = [.entry file] := by
    rw [pieces_of_notMem hslash]
    rw [components_of_notMem hslash] at hplain
    split at hplain
    · cases hplain
    split at hplain
    · cases hplain
    split at hplain
    · cases hplain
    next hempty hcurrent hparent => simp [component?, hempty, hcurrent, hparent]
  rw [join, isAbsolute_of_notMem hslash, Bool.false_or]
  by_cases hempty : directory = ""
  · subst hempty
    exact hplain
  rw [if_neg (by simpa using hempty)]
  split
  · next hlast =>
    obtain ⟨parent, hparent⟩ := List.getLast?_eq_some_iff.1 hlast
    obtain rfl : directory = String.ofList parent ++ "/" := by
      rw [← String.toList_inj, hparent]
      simp
    rw [components_slash, hpiece]
  · rw [components_slash, components_slash_end hempty, hpiece]

end NetworkConsole.Path
