/-! Tables from keys to values that keep the order in which the keys were first entered. A key occurs
once; writing it again replaces its value and leaves its place. -/
namespace NetworkConsole

def upsert {κ α : Type} [DecidableEq κ] (key : κ) (value : α) : List (κ × α) → List (κ × α)
  | [] => [(key, value)]
  | entry :: rest => if entry.1 = key then (key, value) :: rest else entry :: upsert key value rest

variable {κ α : Type} [DecidableEq κ]

theorem upsert_keys (key : κ) (value : α) (entries : List (κ × α)) :
    (upsert key value entries).map Prod.fst =
      if key ∈ entries.map Prod.fst then entries.map Prod.fst
      else entries.map Prod.fst ++ [key] := by
  induction entries with
  | nil => simp [upsert]
  | cons entry rest ih =>
    by_cases h : entry.1 = key
    · simp [upsert, h]
    · have hne : key ≠ entry.1 := fun e => h e.symm
      by_cases hm : key ∈ rest.map Prod.fst <;> simp_all [upsert]

theorem upsert_keys_nodup (key : κ) (value : α) {entries : List (κ × α)}
    (h : (entries.map Prod.fst).Nodup) : ((upsert key value entries).map Prod.fst).Nodup := by
  rw [upsert_keys]
  split
  · exact h
  · next hm =>
    refine List.nodup_append.2 ⟨h, by simp, ?_⟩
    intro a ha b hb hab
    obtain rfl := List.mem_singleton.1 hb
    exact hm (hab ▸ ha)

theorem find?_upsert (key : κ) (value : α) (entries : List (κ × α)) (other : κ) :
    (upsert key value entries).find? (·.1 = other) =
      if other = key then some (key, value) else entries.find? (·.1 = other) := by
  induction entries with
  | nil => by_cases h : key = other <;> simp [upsert, h, eq_comm]
  | cons entry rest ih =>
    by_cases h : entry.1 = key
    · by_cases ho : other = key
      · simp [upsert, h, ho]
      · simp [upsert, h, ho, Ne.symm ho]
    · by_cases ho : entry.1 = other
      · have hne : other ≠ key := fun e => h (ho.trans e)
        simp [upsert, ho, hne]
      · simp [upsert, h, ho, ih]

@[ext] structure KeyedTable (κ α : Type) where
  entries : List (κ × α)
  nodup : (entries.map Prod.fst).Nodup
  deriving DecidableEq

/-- A table whose keys are names. -/
abbrev Table : Type → Type := KeyedTable String

namespace KeyedTable

def empty {κ α : Type} : KeyedTable κ α := ⟨[], List.nodup_nil⟩

def get? (table : KeyedTable κ α) (key : κ) : Option α :=
  (table.entries.find? (·.1 = key)).map Prod.snd

def contains (table : KeyedTable κ α) (key : κ) : Bool := (table.get? key).isSome

def insert (table : KeyedTable κ α) (key : κ) (value : α) : KeyedTable κ α :=
  ⟨upsert key value table.entries, upsert_keys_nodup key value table.nodup⟩

section Keys
omit [DecidableEq κ]

/-- Replaces every value by its image. -/
def map {β : Type} (f : α → β) (table : KeyedTable κ α) : KeyedTable κ β where
  entries := table.entries.map fun entry => (entry.1, f entry.2)
  nodup := by simpa [Function.comp_def] using table.nodup

def keys (table : KeyedTable κ α) : List κ := table.entries.map Prod.fst

def size (table : KeyedTable κ α) : Nat := table.entries.length

def isEmpty (table : KeyedTable κ α) : Bool := table.entries.isEmpty

@[simp] theorem keys_empty : (empty : KeyedTable κ α).keys = [] := rfl

@[simp] theorem keys_map {β : Type} (f : α → β) (table : KeyedTable κ α) :
    (table.map f).keys = table.keys := by
  simp [keys, map, Function.comp_def]

theorem length_keys (table : KeyedTable κ α) : table.keys.length = table.size := by
  simp [keys, size]

theorem isEmpty_iff (table : KeyedTable κ α) : table.isEmpty = true ↔ table.keys = [] := by
  simp [isEmpty, keys]

end Keys

@[simp] theorem get?_empty (key : κ) : (empty : KeyedTable κ α).get? key = none := rfl

@[simp] theorem get?_insert (table : KeyedTable κ α) (key : κ) (value : α) (other : κ) :
    (table.insert key value).get? other =
      if other = key then some value else table.get? other := by
  by_cases h : other = key <;> simp [get?, insert, find?_upsert, h]

@[simp] theorem get?_map {β : Type} (f : α → β) (table : KeyedTable κ α) (key : κ) :
    (table.map f).get? key = (table.get? key).map f := by
  simp [get?, map, List.find?_map, Function.comp_def]

theorem keys_insert (table : KeyedTable κ α) (key : κ) (value : α) :
    (table.insert key value).keys =
      if key ∈ table.keys then table.keys else table.keys ++ [key] :=
  upsert_keys key value table.entries

theorem contains_iff (table : KeyedTable κ α) (key : κ) :
    table.contains key = true ↔ key ∈ table.keys := by
  simp [contains, get?, keys]

theorem mem_keys_iff (table : KeyedTable κ α) (key : κ) :
    key ∈ table.keys ↔ ∃ value, table.get? key = some value := by
  rw [← contains_iff, contains, Option.isSome_iff_exists]

theorem mem_keys_insert (table : KeyedTable κ α) (key : κ) (value : α) (other : κ) :
    other ∈ (table.insert key value).keys ↔ other = key ∨ other ∈ table.keys := by
  rw [keys_insert]
  split
  · next hmem => exact ⟨.inr, fun h => h.elim (fun heq => heq ▸ hmem) id⟩
  · rw [List.mem_append, List.mem_singleton, or_comm]

/-- An entry is found under its key, since no other entry has it. -/
theorem get?_of_mem {table : KeyedTable κ α} {entry : κ × α} (h : entry ∈ table.entries) :
    table.get? entry.1 = some entry.2 := by
  obtain ⟨entries, nodup⟩ := table
  simp only [get?] at h ⊢
  induction entries with
  | nil => simp at h
  | cons first rest ih =>
    rw [List.map_cons, List.nodup_cons] at nodup
    rcases List.mem_cons.1 h with rfl | h
    · simp
    · have hne : first.1 ≠ entry.1 := fun e => nodup.1 (e ▸ List.mem_map_of_mem h)
      simpa [hne] using ih nodup.2 h

/-- The keys in their order and the value under each key make the table. -/
theorem ext_get? {table other : KeyedTable κ α} (hkeys : table.keys = other.keys)
    (hget : ∀ key, table.get? key = other.get? key) : table = other := by
  have hlength : table.entries.length = other.entries.length := by
    simpa [keys] using congrArg List.length hkeys
  refine KeyedTable.ext (List.ext_getElem hlength fun i hi hj => ?_)
  have hkey : table.entries[i].1 = other.entries[i].1 := by
    have := List.getElem_of_eq hkeys (by simpa [keys] using hi)
    simpa [keys] using this
  have hvalue : some table.entries[i].2 = some other.entries[i].2 := by
    rw [← get?_of_mem (List.getElem_mem hi), ← get?_of_mem (List.getElem_mem hj), hget, hkey]
  exact Prod.ext hkey (Option.some.inj hvalue)

/-- Of two values written under one key the later stays. -/
theorem insert_insert (table : KeyedTable κ α) (key : κ) (first second : α) :
    (table.insert key first).insert key second = table.insert key second := by
  refine ext_get? ?_ fun other => ?_
  · by_cases h : key ∈ table.keys <;> simp [keys_insert, h]
  · by_cases h : other = key <;> simp [h]

theorem map_insert {β : Type} (f : α → β) (table : KeyedTable κ α) (key : κ) (value : α) :
    (table.insert key value).map f = (table.map f).insert key (f value) := by
  refine ext_get? ?_ fun other => ?_
  · simp [keys_insert]
  · by_cases h : other = key <;> simp [h]

/-- Writing what is there already changes nothing. -/
theorem insert_get? {table : KeyedTable κ α} {key : κ} {value : α}
    (h : table.get? key = some value) : table.insert key value = table := by
  refine ext_get? ?_ fun other => ?_
  · rw [keys_insert, if_pos ((table.mem_keys_iff key).2 ⟨value, h⟩)]
  · by_cases ho : other = key <;> simp [ho, h]

end KeyedTable
end NetworkConsole
