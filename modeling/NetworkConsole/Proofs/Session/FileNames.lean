import NetworkConsole.Proofs.Command.Typing
import NetworkConsole.Proofs.Session.Soundness
import NetworkConsole.Proofs.Store.Directory

/-! Names of configuration files. A save stays inside its directory: a name that could lead out of it is
refused before anything is made, and any other name has a file of its own in the directory. Names of
devices are never refused, and no line can save under another name. -/
namespace NetworkConsole

namespace DirectoryStore

/-- The name stands for a directory or has a character that separates the parts of a path, here or on
other systems. -/
def Reserved (name : String) : Prop :=
  (name = "" ∨ name = "." ∨ name = "..") ∨
    '/' ∈ name.toList ∨ '\\' ∈ name.toList ∨ ':' ∈ name.toList

theorem not_reserved_iff (name : String) : ¬ Reserved name ↔ isFileName name = true := by
  rw [isFileName_iff, Reserved]
  simp only [not_or, ne_eq]

/-- A save is refused for its name, fails with the system and leaves the files, or writes the file of
the name. -/
theorem save_cases (store : DirectoryStore) (name : String) (lines : List String) :
    (Reserved name ∧ ConfigStore.save store name lines = (.error (.invalidName name), store)) ∨
      ¬ Reserved name ∧
        ((∃ reason made, ConfigStore.save store name lines =
            (.error (.system reason), { store with made })) ∨
          ConfigStore.save store name lines = (.ok (), { store with
            made := true
            files := store.files.insert (store.path name) (content lines) })) := by
  by_cases hname : isFileName name = true
  · refine .inr ⟨(not_reserved_iff name).2 hname, ?_⟩
    simp only [ConfigStore.save, hname, Bool.not_true, Bool.false_eq_true, if_false]
    split
    · next reason _ => exact .inl ⟨reason, _, rfl⟩
    · next hrefusal =>
      have hobstacle : store.obstacle = none := by
        rw [refusal?] at hrefusal
        split at hrefusal
        · exact hrefusal
        · next hnone => simpa using hnone
      simp [hobstacle, path]
  · refine .inl ⟨not_not.1 fun h => hname ((not_reserved_iff name).1 h), ?_⟩
    simp only [ConfigStore.save, hname, Bool.not_false, if_true]

theorem not_reserved_of_isName {name : String} (h : isName name = true) : ¬ Reserved name :=
  (not_reserved_iff name).2 (isFileName_of_isName h)

theorem save_eq_invalidName_iff (store : DirectoryStore) (name : String) (lines : List String) :
    ConfigStore.save store name lines = (.error (.invalidName name), store) ↔ Reserved name := by
  obtain ⟨hreserved, hsave⟩ | ⟨hfree, ⟨reason, made, hsave⟩ | hsave⟩ := store.save_cases name lines
  · exact iff_of_true hsave hreserved
  · exact iff_of_false (by simp [hsave]) hfree
  · exact iff_of_false (by simp [hsave]) hfree

theorem reserved_of_invalidName {store : DirectoryStore} {name other : String} {lines : List String}
    (h : (ConfigStore.save store name lines).1 = .error (.invalidName other)) : Reserved name := by
  obtain ⟨hreserved, _⟩ | ⟨_, ⟨_, _, hsave⟩ | hsave⟩ := store.save_cases name lines
  · exact hreserved
  · simp [hsave] at h
  · simp [hsave] at h

theorem directory_save (store : DirectoryStore) (name : String) (lines : List String) :
    (ConfigStore.save store name lines).2.directory = store.directory := by
  obtain ⟨_, hsave⟩ | ⟨_, ⟨_, _, hsave⟩ | hsave⟩ := store.save_cases name lines <;> rw [hsave]

/-- A save leaves all files but that of its name. -/
theorem get?_save_of_ne (store : DirectoryStore) (name : String) (lines : List String) {file : String}
    (h : file ≠ store.path name) :
    (ConfigStore.save store name lines).2.files.get? file = store.files.get? file := by
  obtain ⟨_, hsave⟩ | ⟨_, ⟨_, _, hsave⟩ | hsave⟩ := store.save_cases name lines
  · rw [hsave]
  · rw [hsave]
  · rw [hsave, KeyedTable.get?_insert, if_neg h]

end DirectoryStore

/-- Only a save fails with the store, and it fails because the store refuses. -/
theorem Command.execute_store_error {σ : Type} [ConfigStore σ] {command : Command}
    {session : Session σ} {e : StoreError} (h : (command.execute session).1 = .error (.store e)) :
    ∃ name, command = .save name ∧ session.Refuses name e := by
  cases command with
  | addDevice | connect | setInterface | setHostname | route | filter =>
    obtain ⟨_, hcause⟩ := Session.change_error h
    cases hcause
  | showInterfaces | showRouting | showAccess | showCli =>
    obtain ⟨_, hcause⟩ := Session.inspect_error h
    cases hcause
  | save name =>
    rw [execute, Session.save] at h
    split at h
    · cases h
    · next d hd =>
      simp only at h
      split at h
      · next cause store hsave =>
        cases h
        exact ⟨name, rfl, d, hd, congrArg Prod.fst hsave⟩
      · cases h
  | showTopology | showHistory | clearCli | clearAll | help => cases h

/-- The store error of a line is that of a save under a name. -/
theorem Session.submit_store_error {σ : Type} [ConfigStore σ] {table : Dispatch σ}
    (htable : table.StandardMade) {line : String} {session : Session σ} {e : LineError}
    (he : (session.submit table line).outcome = .error e) {cause : StoreError}
    (hcause : e.cause = .store cause) :
    ∃ name, isName name = true ∧ session.Refuses name cause := by
  have hcourse := submit_course table line session
  generalize session.submit table line = turn at hcourse he
  cases hcourse with
  | unrecognized | refused | unserved =>
    cases he
    cases hcause
  | mistyped _ hcommand =>
    cases he
    obtain ⟨_, herror⟩ | ⟨_, hok, _⟩ := Token.command_cases _
    · cases hcommand.symm.trans herror
      cases hcause
    · cases hcommand.symm.trans hok
  | @failed token command handler error after _ hcommand _ hhandler hresult =>
    cases he
    obtain ⟨served, rfl⟩ := htable _ _ hhandler
    obtain rfl : error = .store cause := by
      cases error <;> simp_all [ExecutionError.cause]
    have hexecute : (command.execute session).1 = .error (.store cause) := by
      by_cases hkind : Instruction.kind ⟨token.raw, command⟩ = served
      · rw [Handler.standard_of_eq hkind] at hresult
        exact congrArg Prod.fst hresult
      · rw [Handler.standard_of_ne hkind] at hresult
        cases hresult
    obtain ⟨name, rfl, hrefuses⟩ := Command.execute_store_error hexecute
    exact ⟨name, Token.grammatical_of_command hcommand, hrefuses⟩
  | done => cases he

/-- A save is refused for its name exactly if the name is reserved, and then nothing is made. Every
other name has a file of its own, directly below the directory of the store, and no save touches another
file. Names of devices are not reserved, so that no line of any session is refused for a name. -/
theorem file_names_safe :
    (∀ (store : DirectoryStore) (name : String) (lines : List String),
      let saved := ConfigStore.save store name lines
      (saved = (.error (.invalidName name), store) ↔ DirectoryStore.Reserved name) ∧
        (∀ other, saved.1 = .error (.invalidName other) →
          DirectoryStore.Reserved name ∧ saved.2 = store) ∧
        (¬ DirectoryStore.Reserved name → Path.components (store.path name) =
          Path.components store.directory ++ [.entry (name ++ ".cfg")]) ∧
        saved.2.directory = store.directory ∧
        (∀ file, file ≠ store.path name → saved.2.files.get? file = store.files.get? file) ∧
        (saved.1 = .ok () → saved.2.files.get? (store.path name) =
          some (String.intercalate "\n" lines ++ "\n"))) ∧
      (∀ (store : DirectoryStore) (name other : String),
        ¬ DirectoryStore.Reserved name → ¬ DirectoryStore.Reserved other →
          Path.components (store.path name) = Path.components (store.path other) → name = other) ∧
      (∀ text value, ArgumentType.name.read? text = some value →
        value = .identifier text ∧ ¬ DirectoryStore.Reserved text) ∧
      ∀ (session : Session DirectoryStore) (registrations : List Registration) (line : String) e,
        (session.submit (Dispatch.standard.applyAll registrations) line).outcome = .error e →
          ∀ name, e.cause ≠ .store (.invalidName name) := by
  refine ⟨fun store name lines => ?_, fun store name other hname hother => ?_,
    fun text value hread => ?_, fun session registrations line e he name hcause => ?_⟩
  · refine ⟨store.save_eq_invalidName_iff name lines, fun other hother => ?_, fun hfree => ?_,
      store.directory_save name lines, fun _ => store.get?_save_of_ne name lines, ?_⟩
    · have hreserved := DirectoryStore.reserved_of_invalidName hother
      rw [(store.save_eq_invalidName_iff name lines).2 hreserved]
      exact ⟨hreserved, rfl⟩
    · exact DirectoryStore.components_path ((DirectoryStore.not_reserved_iff name).1 hfree) store
    · obtain ⟨_, hsave⟩ | ⟨_, ⟨_, _, hsave⟩ | hsave⟩ := store.save_cases name lines
      · simp [hsave]
      · simp [hsave]
      · simp [hsave, DirectoryStore.content]
  · rw [DirectoryStore.not_reserved_iff] at hname hother
    exact DirectoryStore.eq_of_components_path hname hother
  · simp only [ArgumentType.read?, Option.ite_none_right_eq_some, Option.some.injEq] at hread
    exact ⟨hread.2.symm, DirectoryStore.not_reserved_of_isName hread.1⟩
  · obtain ⟨device, hdevice, _, _, hrefuses⟩ :=
      Session.submit_store_error (Dispatch.standardMade_applyAll registrations) he hcause
    exact DirectoryStore.not_reserved_of_isName hdevice
      (DirectoryStore.reserved_of_invalidName hrefuses)

end NetworkConsole
