import NetworkConsole.Proofs.Network.Unbroken
import NetworkConsole.Proofs.Store.Path
import NetworkConsole.Store.Directory
import NetworkConsole.Store.Memory

/-! A directory of files beside a store in memory. Names of devices are file names, and distinct ones
have distinct files, so the directory takes whatever the memory takes; the lines of a configuration can
be read back from its file. -/
namespace NetworkConsole

/-- What stands between the line feeds of a text. -/
def Text.pieces (text : String) : List String := (text.toList.splitOn '\n').map String.ofList

namespace DirectoryStore

theorem isFileName_iff (name : String) :
    isFileName name = true ↔
      (name ≠ "" ∧ name ≠ "." ∧ name ≠ "..") ∧
        '/' ∉ name.toList ∧ '\\' ∉ name.toList ∧ ':' ∉ name.toList := by
  have hmarks : (name.toList.all fun c => c != '/' && c != '\\' && c != ':') = true ↔
      '/' ∉ name.toList ∧ '\\' ∉ name.toList ∧ ':' ∉ name.toList := by
    simp only [List.all_eq_true, Bool.and_eq_true, bne_iff_ne, forall_and, and_assoc, ne_eq,
      ← List.forall_mem_ne']
  rw [isFileName, Bool.and_eq_true, hmarks, and_comm]
  refine and_congr_left fun hseparators => ?_
  rw [Path.components_of_notMem hseparators.1]
  by_cases hempty : name = ""
  · simp [hempty]
  by_cases hcurrent : name = "."
  · simp [hcurrent]
  by_cases hparent : name = ".."
  · simp [hparent]
  simp [hempty, hcurrent, hparent]

theorem isFileName_of_isName {name : String} (h : isName name = true) : isFileName name = true := by
  have hword := (Text.isName_iff name).1 h
  have hspecial : name ∉ ["", ".", ".."] := by
    intro hmem
    obtain ⟨first, rest, hname, hfirst, _⟩ := hword
    have hhead : ∀ special ∈ ["", ".", ".."], special.toList.head?.all (!·.isAlphanum) := by decide
    have hnone := hhead name hmem
    rw [hname] at hnone
    simp [hfirst] at hnone
  rw [isFileName_iff]
  exact ⟨by simpa using hspecial, hword.notMem (by decide) (by decide),
    hword.notMem (by decide) (by decide), hword.notMem (by decide) (by decide)⟩

/-- The file of a device is an entry of the directory. -/
theorem components_path {name : String} (h : isFileName name = true) (store : DirectoryStore) :
    Path.components (store.path name) =
      Path.components store.directory ++ [.entry (fileName name)] := by
  have hslash : '/' ∉ (fileName name).toList := by
    simp [fileName, ((isFileName_iff name).1 h).2.1]
  refine Path.components_join hslash ?_ store.directory
  have hlength : ∀ special ∈ ["", ".", ".."], fileName name ≠ special := by
    intro special hspecial hsame
    have hshort : ∀ special ∈ ["", ".", ".."], special.length ≤ 2 := by decide
    have hle := hshort special hspecial
    rw [← hsame, fileName, String.length_append] at hle
    exact absurd (Nat.le_trans (Nat.le_add_left _ _) hle) (by decide)
  simp only [List.forall_mem_cons, List.not_mem_nil, false_imp_iff, forall_const, and_true] at hlength
  obtain ⟨hempty, hcurrent, hparent⟩ := hlength
  rw [Path.components_of_notMem hslash, if_neg hempty, if_neg hcurrent, if_neg hparent]

/-- Distinct devices have distinct files, also as the system reads their paths. -/
theorem eq_of_components_path {store : DirectoryStore} {name other : String}
    (hname : isFileName name = true) (hother : isFileName other = true)
    (h : Path.components (store.path name) = Path.components (store.path other)) : name = other := by
  rw [components_path hname, components_path hother, List.append_cancel_left_eq] at h
  simpa [fileName] using h

theorem path_inj (store : DirectoryStore) {name other : String} (hname : isFileName name = true)
    (hother : isFileName other = true) : store.path name = store.path other ↔ name = other :=
  ⟨fun h => eq_of_components_path hname hother (congrArg Path.components h), congrArg store.path⟩

/-- With four bytes for the extension the name of the file has at most 255. -/
theorem refusal?_eq_none {store : DirectoryStore} (hobstacle : store.obstacle = none) {name : String}
    (hname : isName name = true) (hsize : name.utf8ByteSize ≤ 251) :
    store.refusal? (fileName name) = none := by
  have hnull : '\x00' ∉ (fileName name).toList := by
    have := ((Text.isName_iff name).1 hname).notMem (c := '\x00') (by decide) (by decide)
    simp [fileName, this]
  have hbytes : (fileName name).utf8ByteSize ≤ 255 := by
    rw [fileName, String.utf8ByteSize_append, show ".cfg".utf8ByteSize = 4 from rfl]
    omega
  simp [refusal?, hobstacle, hnull, Nat.not_lt.2 hbytes]

theorem pieces_content {lines : List String} (hlines : ∀ line ∈ lines, Text.OneLine line)
    (hne : lines ≠ []) : Text.pieces (content lines) = lines ++ [""] := by
  have hcontent : content lines = String.intercalate "\n" (lines ++ [""]) := by
    rw [String.intercalate_append_of_ne_nil hne (by simp), String.intercalate_singleton,
      String.append_empty, content]
  have hpieces : (content lines).toList.splitOn '\n' = (lines ++ [""]).map String.toList := by
    rw [hcontent, String.toList_intercalate, show "\n".toList = ['\n'] from rfl,
      List.splitOn_intercalate]
    · intro piece hpiece
      obtain ⟨line, hline, rfl⟩ := List.mem_map.1 hpiece
      obtain hold | hlast := List.mem_append.1 hline
      · exact hlines line hold
      · obtain rfl := List.mem_singleton.1 hlast
        decide
    · simp
  rw [Text.pieces, hpieces, List.map_map]
  simp

/-- The store has its files in the directory, one for each configuration in memory and no other. -/
structure Mirrors (directory : String) (store : DirectoryStore) (memory : MemoryStore) : Prop where
  directory_eq : store.directory = directory
  obstacle : store.obstacle = none
  names : ∀ name ∈ memory.configs.keys, isFileName name = true
  keys : store.files.keys = memory.configs.keys.map store.path
  content : ∀ name report, memory.get? name = some report →
    store.files.get? (store.path name) = some (content report)

theorem mirrors_empty (directory : String) : Mirrors directory { directory } {} where
  directory_eq := rfl
  obstacle := rfl
  names := by
    intro name h
    cases h
  keys := rfl
  content := by
    intro name report h
    cases h

theorem save_of_name {store : DirectoryStore} (hobstacle : store.obstacle = none)
    {name : String} (hname : isName name = true) (hsize : name.utf8ByteSize ≤ 251)
    (report : List String) :
    ConfigStore.save store name report =
      (.ok (), { store with
        made := true
        files := store.files.insert (store.path name) (content report) }) := by
  have hrefusal : { store with made := true }.refusal? (fileName name) = none :=
    refusal?_eq_none hobstacle hname hsize
  have hmade : (store.made || store.obstacle.isNone) = true := by simp [hobstacle]
  simp only [ConfigStore.save, isFileName_of_isName hname, Bool.not_true, Bool.false_eq_true, if_false,
    hmade, hrefusal]
  rfl

namespace Mirrors
variable {directory : String} {store : DirectoryStore} {memory : MemoryStore}

theorem path_eq (h : Mirrors directory store memory) (name : String) :
    store.path name = Path.join directory (name ++ ".cfg") := by
  rw [path, h.directory_eq, fileName]

theorem path_mem_keys (h : Mirrors directory store memory) {name : String}
    (hname : isFileName name = true) :
    store.path name ∈ store.files.keys ↔ name ∈ memory.configs.keys := by
  rw [h.keys, List.mem_map]
  constructor
  · rintro ⟨other, hother, hsame⟩
    obtain rfl := (store.path_inj (h.names other hother) hname).1 hsame
    exact hother
  · intro hmem
    exact ⟨name, hmem, rfl⟩

/-- A name without a file gets one behind the others. -/
theorem keys_insert (h : Mirrors directory store memory) {name : String}
    (hname : isFileName name = true) (report : List String) :
    (store.files.insert (store.path name) (DirectoryStore.content report)).keys =
      (memory.configs.insert name report).keys.map store.path := by
  have hpath := h.path_mem_keys hname
  by_cases hmem : name ∈ memory.configs.keys
  · rw [KeyedTable.keys_insert, if_pos (hpath.2 hmem), KeyedTable.keys_insert, if_pos hmem, h.keys]
  · rw [KeyedTable.keys_insert, if_neg (mt hpath.1 hmem), KeyedTable.keys_insert, if_neg hmem, h.keys,
      List.map_append, List.map_singleton]

theorem save (h : Mirrors directory store memory) {name : String} (hname : isName name = true)
    (hsize : name.utf8ByteSize ≤ 251) (report : List String) :
    Mirrors directory (ConfigStore.save store name report).2
      (ConfigStore.save memory name report).2 := by
  have hfile := isFileName_of_isName hname
  have hnames : ∀ other ∈ (memory.configs.insert name report).keys, isFileName other = true := by
    intro other hother
    obtain rfl | hold := (KeyedTable.mem_keys_insert _ _ _ _).1 hother
    · exact hfile
    · exact h.names other hold
  rw [save_of_name h.obstacle hname hsize]
  refine ⟨h.directory_eq, h.obstacle, hnames, h.keys_insert hfile report, fun other kept hkept => ?_⟩
  change (store.files.insert (store.path name) _).get? (store.path other) = _
  have hother := hnames other ((KeyedTable.mem_keys_iff _ _).2 ⟨kept, hkept⟩)
  simp only [ConfigStore.save, MemoryStore.get?, KeyedTable.get?_insert] at hkept
  rw [KeyedTable.get?_insert]
  by_cases ho : other = name
  · rw [if_pos ho] at hkept
    cases hkept
    rw [if_pos (congrArg store.path ho)]
  · rw [if_neg ho] at hkept
    rw [if_neg fun hsame => ho ((store.path_inj hother hfile).1 hsame)]
    exact h.content other kept hkept

end Mirrors
end DirectoryStore
end NetworkConsole
