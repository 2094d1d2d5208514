import Mathlib.Data.List.Induction
import NetworkConsole.Table

/-! What a sequence of additions leaves behind. Of a list without repetitions the first occurrence of
each element stays; of the writes to a table the first one gives a key its place and the last one its
value. -/
namespace NetworkConsole

section Distinct
variable {α : Type} [DecidableEq α]

theorem eraseDups_concat (l : List α) (a : α) :
    (l ++ [a]).eraseDups = if a ∈ l then l.eraseDups else l.eraseDups ++ [a] := by
  rw [List.eraseDups_append]
  by_cases h : a ∈ l <;> simp [List.removeAll, h, List.eraseDups_cons]

theorem filter_eraseDups (p : α → Bool) (l : List α) :
    l.eraseDups.filter p = (l.filter p).eraseDups := by
  induction l using List.reverseRecOn with
  | nil => rfl
  | append_singleton l a ih =>
    rw [eraseDups_concat, List.filter_append, apply_ite (List.filter p), List.filter_append, ih]
    by_cases hp : p a = true
    · rw [List.filter_cons_of_pos hp, List.filter_nil, eraseDups_concat]
      simp [List.mem_filter, hp]
    · simp [List.filter_cons_of_neg hp]

end Distinct

namespace KeyedTable
variable {κ α : Type} [DecidableEq κ]

/-- The table that some writes leave, made one after the other. -/
def ofWrites (writes : List (κ × α)) : KeyedTable κ α :=
  writes.foldl (fun table write => table.insert write.1 write.2) .empty

theorem ofWrites_concat (writes : List (κ × α)) (write : κ × α) :
    ofWrites (writes ++ [write]) = (ofWrites writes).insert write.1 write.2 :=
  List.foldl_append

theorem keys_ofWrites (writes : List (κ × α)) :
    (ofWrites writes).keys = (writes.map Prod.fst).eraseDups := by
  induction writes using List.reverseRecOn with
  | nil => rfl
  | append_singleton writes write ih =>
    rw [ofWrites_concat, keys_insert, List.map_append, List.map_singleton, eraseDups_concat, ih]
    simp only [List.mem_eraseDups]

theorem get?_ofWrites (writes : List (κ × α)) (key : κ) :
    (ofWrites writes).get? key = ((writes.filter (·.1 = key)).getLast?).map Prod.snd := by
  induction writes using List.reverseRecOn with
  | nil => rfl
  | append_singleton writes write ih =>
    rw [ofWrites_concat, get?_insert, List.filter_append, List.getLast?_append, ih]
    by_cases h : key = write.1
    · simp [h]
    · simp [h, Ne.symm h]

theorem mem_entries_iff (table : KeyedTable κ α) (key : κ) (value : α) :
    (key, value) ∈ table.entries ↔ table.get? key = some value := by
  constructor
  · exact get?_of_mem
  · intro h
    rw [get?, Option.map_eq_some_iff] at h
    obtain ⟨entry, hfind, rfl⟩ := h
    have hkey : entry.1 = key := by simpa using List.find?_some hfind
    rw [← hkey]
    exact List.mem_of_find?_eq_some hfind

end KeyedTable
end NetworkConsole
