import NetworkConsole.Proofs.Session.StoreIndependence
import NetworkConsole.Proofs.Session.WellFormed
import NetworkConsole.Proofs.Store.Directory

/-! What stores hold after a session. A store in memory has for each name the report of its last save;
a directory has the same in files, since every name that can be saved is a file name and no line of a
report is broken. -/
namespace NetworkConsole

namespace Session

section Saves
variable {σ : Type} [ConfigStore σ] {session : Session σ}

/-- The line is a save of the name, and it succeeds. -/
def Saves (session : Session σ) (line name : String) : Prop :=
  Command.ofLine line = .ok (.save name) ∧
    ∃ answer, (session.submit .standard line).outcome = .ok answer

/-- The line at the place is a save of the name, and it succeeds. -/
def SavesAt (session : Session σ) (lines : List String) (i : Nat) (name : String) : Prop :=
  ∃ line, lines[i]? = some line ∧ (session.after .standard (lines.take i)).Saves line name

theorem Saves.admits {line name : String} (h : session.Saves line name) :
    session.network.AdmitsSave line name := by
  obtain ⟨hline, answer, hok⟩ := h
  refine ⟨hline, ?_⟩
  cases hcheck : (Command.save name).check session.network with
  | error e => cases hok.symm.trans (submit_inadmissible .standard hline hcheck).1
  | ok _ => rfl

theorem not_savesAt_nil (i : Nat) (name : String) : ¬ session.SavesAt [] i name := by
  rintro ⟨line, hline, _⟩
  cases hline

theorem SavesAt.lt_length {lines : List String} {i : Nat} {name : String}
    (h : session.SavesAt lines i name) : i < lines.length := by
  obtain ⟨line, hline, _⟩ := h
  exact (List.getElem?_eq_some_iff.1 hline).1

theorem savesAt_concat (lines : List String) (line : String) (i : Nat) (name : String) :
    session.SavesAt (lines ++ [line]) i name ↔
      session.SavesAt lines i name ∨
        i = lines.length ∧ (session.after .standard lines).Saves line name := by
  obtain hlt | rfl | hgt := lt_trichotomy i lines.length
  · rw [SavesAt, SavesAt, List.getElem?_append_left hlt,
      List.take_append_of_le_length (Nat.le_of_lt hlt)]
    simp [Nat.ne_of_lt hlt]
  · simp [SavesAt]
  · have hnot : ¬ session.SavesAt lines i name := fun h => Nat.lt_asymm hgt h.lt_length
    have hlonger : ¬ session.SavesAt (lines ++ [line]) i name := by
      intro h
      have hlt := h.lt_length
      rw [List.length_append, List.length_singleton] at hlt
      omega
    simp [hnot, hlonger, Nat.ne_of_gt hgt]

theorem savesAt_outcome {lines : List String} {i : Nat} {name : String}
    (h : session.SavesAt lines i name) :
    ∃ d, (session.after .standard (lines.take i)).network.device name = .ok d ∧
      ∀ line, lines[i]? = some line →
        ((session.after .standard (lines.take i)).submit .standard line).outcome =
          .ok (.saved name d.cliReport) := by
  obtain ⟨line, hline, hsaves⟩ := h
  obtain ⟨d, hd, houtcome, _⟩ := submit_save hsaves.admits
  obtain ⟨_, answer, hok⟩ := hsaves
  refine ⟨d, hd, fun other hother => ?_⟩
  cases hline.symm.trans hother
  rw [houtcome] at hok ⊢
  rw [hok, ConfigStore.outcome_ok hok]

end Saves

section Memory
variable {session : Session MemoryStore}

theorem saves_iff_admits {line name : String} :
    session.Saves line name ↔ session.network.AdmitsSave line name := by
  refine ⟨Saves.admits, fun h => ?_⟩
  obtain ⟨d, _, houtcome, _⟩ := submit_save h
  exact ⟨h.1, _, houtcome⟩

/-- A store in memory after one line. -/
theorem get?_submit (session : Session MemoryStore) (line name : String) :
    (session.Saves line name ∧ ∃ d, session.network.device name = .ok d ∧
        (session.submit .standard line).session.store.get? name = some d.cliReport) ∨
      (¬ session.Saves line name ∧
        (session.submit .standard line).session.store.get? name = session.store.get? name) := by
  rw [saves_iff_admits]
  by_cases hsave : ∃ other, session.network.AdmitsSave line other
  · obtain ⟨other, hsave⟩ := hsave
    obtain ⟨d, hd, _, hsession⟩ := submit_save hsave
    rw [hsession]
    by_cases hname : name = other
    · subst hname
      exact .inl ⟨hsave, d, hd, by simp [ConfigStore.save, MemoryStore.get?]⟩
    · refine .inr ⟨fun h => ?_, by simp [ConfigStore.save, MemoryStore.get?, hname]⟩
      cases hsave.1.symm.trans h.1
      exact hname rfl
  · have hnone : ∀ other, ¬ session.network.AdmitsSave line other := not_exists.1 hsave
    exact .inr ⟨hnone name, by rw [submit_store hnone]⟩

/-- The last save of each name counts, and of its device what it was then. -/
theorem get?_after (session : Session MemoryStore) (lines : List String) (name : String) :
    (∃ i d, session.SavesAt lines i name ∧ (∀ j, i < j → ¬ session.SavesAt lines j name) ∧
        (session.after .standard (lines.take i)).network.device name = .ok d ∧
        (session.after .standard lines).store.get? name = some d.cliReport) ∨
      ((∀ i, ¬ session.SavesAt lines i name) ∧
        (session.after .standard lines).store.get? name = session.store.get? name) := by
  -- From the end: the last line saves the name, or the lines before it decide.
  induction lines using List.reverseRecOn with
  | nil => exact .inr ⟨fun i => not_savesAt_nil i name, rfl⟩
  | append_singleton lines line ih =>
    have hafter : session.after .standard (lines ++ [line]) =
        ((session.after .standard lines).submit .standard line).session :=
      after_append .standard lines [line] session
    rw [hafter]
    obtain ⟨hsaves, d, hd, hget⟩ | ⟨hnot, hget⟩ :=
      get?_submit (session.after .standard lines) line name
    · refine .inl ⟨lines.length, d, ?_, fun j hj hlater => ?_, ?_, hget⟩
      · exact (savesAt_concat lines line _ name).2 (.inr ⟨rfl, hsaves⟩)
      · have hlt := hlater.lt_length
        rw [List.length_append, List.length_singleton] at hlt
        omega
      · rwa [List.take_left]
    · have hsame : ∀ i, session.SavesAt (lines ++ [line]) i name ↔ session.SavesAt lines i name := by
        intro i
        rw [savesAt_concat, or_iff_left fun h => hnot h.2]
      simp only [hsame, hget]
      obtain ⟨i, d, hi, hlast, hd, hi'⟩ | hnone := ih
      · refine .inl ⟨i, d, hi, hlast, ?_, hi'⟩
        rwa [List.take_append_of_le_length (Nat.le_of_lt hi.lt_length)]
      · exact .inr hnone

theorem get?_of_last {session : Session MemoryStore} {lines : List String} {i : Nat} {name : String}
    {d : Device} (hi : session.SavesAt lines i name)
    (hlast : ∀ j, i < j → ¬ session.SavesAt lines j name)
    (hd : (session.after .standard (lines.take i)).network.device name = .ok d) :
    (session.after .standard lines).store.get? name = some d.cliReport := by
  obtain ⟨i', d', hi', hlast', hd', hget⟩ | ⟨hnone, _⟩ := session.get?_after lines name
  · obtain rfl : i = i' := by
      by_contra hne
      obtain hlt | hgt := Nat.lt_or_gt_of_ne hne
      · exact hlast i' hlt hi'
      · exact hlast' i hgt hi
    obtain rfl : d = d' := Except.ok.inj (hd.symm.trans hd')
    exact hget
  · exact absurd hi (hnone i)

theorem get?_of_unsaved {session : Session MemoryStore} {lines : List String} {name : String}
    (hnone : ∀ i, ¬ session.SavesAt lines i name) :
    (session.after .standard lines).store.get? name = session.store.get? name := by
  obtain ⟨i, _, hi, _⟩ | ⟨_, hget⟩ := session.get?_after lines name
  · exact absurd hi (hnone i)
  · exact hget

theorem mem_keys_after (session : Session MemoryStore) (lines : List String) {name : String}
    (hempty : session.store.get? name = none) :
    name ∈ (session.after .standard lines).store.configs.keys ↔
      ∃ i, session.SavesAt lines i name := by
  rw [KeyedTable.mem_keys_iff]
  obtain ⟨i, d, hi, _, _, hget⟩ | ⟨hnone, hget⟩ := session.get?_after lines name
  · exact iff_of_true ⟨d.cliReport, hget⟩ ⟨i, hi⟩
  · refine iff_of_false (fun h => ?_) (not_exists.2 hnone)
    obtain ⟨report, hreport⟩ := h
    cases hreport.symm.trans (hget.trans hempty)

end Memory

/-- A directory in the place of the memory: the network is the same, and the files hold the same. -/
structure Paired (directory : String) (session : Session MemoryStore)
    (twin : Session DirectoryStore) : Prop where
  network : session.network = twin.network
  store : DirectoryStore.Mirrors directory twin.store session.store

namespace Paired
variable {directory : String} {session : Session MemoryStore} {twin : Session DirectoryStore}

theorem submit (h : Paired directory session twin) {line : String}
    (hsize : ∀ name, session.Saves line name → name.utf8ByteSize ≤ 251) :
    (session.submit .standard line).outcome = (twin.submit .standard line).outcome ∧
      Paired directory (session.submit .standard line).session
        (twin.submit .standard line).session := by
  by_cases hsave : ∃ name, session.network.AdmitsSave line name
  · obtain ⟨name, hsave⟩ := hsave
    have hname : isName name = true := Command.grammatical_of_line hsave.1
    have hshort := hsize name (saves_iff_admits.2 hsave)
    obtain ⟨d, hd, houtcome, hsession⟩ := submit_save hsave
    obtain ⟨d', hd', houtcome', hsession'⟩ := submit_save (h.network ▸ hsave)
    obtain rfl : d = d' := Except.ok.inj (hd.symm.trans (h.network ▸ hd'))
    rw [houtcome, houtcome', hsession, hsession']
    refine ⟨?_, h.network, h.store.save hname hshort d.cliReport⟩
    rw [ConfigStore.outcome, ConfigStore.outcome,
      DirectoryStore.save_of_name h.store.obstacle hname hshort]
    rfl
  · have hnone : ∀ name, ¬ session.network.AdmitsSave line name := not_exists.1 hsave
    refine ⟨submit_outcome_congr h.network hnone, submit_network_congr h.network line, ?_⟩
    rw [submit_store hnone, submit_store fun name => h.network ▸ hnone name]
    exact h.store

theorem after (h : Paired directory session twin) {lines : List String}
    (hsize : ∀ i name, session.SavesAt lines i name → name.utf8ByteSize ≤ 251) (n : Nat) :
    Paired directory (session.after .standard (lines.take n))
      (twin.after .standard (lines.take n)) := by
  induction n with
  | zero => exact h
  | succ n ih =>
    rw [List.take_add_one, after_append, after_append]
    cases hline : lines[n]? with
    | none => exact ih
    | some line => exact (ih.submit fun name hname => hsize n name ⟨line, hline, hname⟩).2

end Paired

/-- The memory refuses nothing. -/
theorem submit_not_store {session : Session MemoryStore} (h : session.network.skeleton.Coherent)
    (line : String) (e : StoreError) :
    (session.submit .standard line).outcome ≠ .error ⟨line, .store e⟩ := by
  intro he
  cases hline : Command.ofLine line with
  | error cause =>
    cases he.symm.trans (session.submit_unread .standard hline).1
    obtain ⟨_, hcause⟩ | ⟨_, hcause⟩ := Command.cause_of_line hline <;> cases hcause
  | ok command =>
    cases hcheck : command.check session.network with
    | error _ => cases he.symm.trans (submit_inadmissible .standard hline hcheck).1
    | ok _ =>
      have houtcome := (submit_standard hline hcheck).1
      obtain ⟨answer, hok⟩ | ⟨_, _, _, ⟨_, _, hrefused⟩, _⟩ :=
        Command.execute_of_admitted h ((Command.check_ok_iff _ command).1 hcheck)
      · rw [hok] at houtcome
        cases he.symm.trans houtcome
      · cases hrefused

section Reports
variable {σ : Type} [ConfigStore σ]

theorem after_coherent (store : σ) (lines : List String) :
    ((Session.mk .empty store).after .standard lines).network.skeleton.Coherent := by
  rw [after_linesOperations]
  exact Network.coherent_run _

/-- The lines of the report on a device of a session are not broken. -/
theorem oneLine_cliReport (store : σ) (lines : List String) {name : String} {d : Device}
    (hd : ((Session.mk .empty store).after .standard lines).network.device name = .ok d) :
    ∀ line ∈ d.cliReport, Text.OneLine line := by
  rw [after_linesOperations] at hd
  have hempty : Network.empty.skeleton.Coherent := Network.coherent_run []
  exact Device.oneLine_cliReport
    (Network.All.lines Device.kept_wellFormed (Network.all_empty _) hempty lines name d hd)
    (Network.All.lines Device.kept_unbroken (Network.all_empty _) hempty lines name d hd)

/-- What a session saved is not empty, and its lines are not broken. -/
theorem oneLine_saved {lines : List String} {name : String} {report : List String}
    (hreport : ((Session.mk .empty ({} : MemoryStore)).after .standard lines).store.get? name =
      some report) :
    report ≠ [] ∧ ∀ line ∈ report, Text.OneLine line := by
  obtain ⟨i, d, _, _, hd, hget⟩ | ⟨_, hget⟩ := get?_after (Session.mk .empty {}) lines name
  · obtain rfl : d.cliReport = report := Option.some.inj (hget.symm.trans hreport)
    exact ⟨List.cons_ne_nil _ _, oneLine_cliReport _ _ hd⟩
  · cases hreport.symm.trans hget

end Reports
end Session

/-- What the stores hold after any lines. A save is answered with the number of lines of its report, and
what the last one of a name handed out stays in the memory, whatever follows it; a name that was not
saved has nothing. If the saved names have no more than 251 bytes, a directory in the place of the memory
makes no difference to any outcome, and it has one file for each saved name, with the same lines. -/
theorem saved_configurations (directory : String) (lines : List String) :
    let session := Session.mk .empty ({} : MemoryStore)
    let memory := (session.after .standard lines).store
    (∀ i name, session.SavesAt lines i name →
      let before := session.after .standard (lines.take i)
      ∃ d, before.network.device name = .ok d ∧
        let report := s!"! {d.hostname} ({d.kind})" :: d.cli
        (∀ line, lines[i]? = some line → (before.submit .standard line).outcome =
          .ok ⟨[s!"Saved configuration of {name} ({report.length} lines)"],
            .saved name report.length⟩) ∧
        ((∀ j, i < j → ¬ session.SavesAt lines j name) → memory.get? name = some report)) ∧
    (∀ name, (∀ i, ¬ session.SavesAt lines i name) → memory.get? name = none) ∧
    ((∀ i name, session.SavesAt lines i name → name.utf8ByteSize ≤ 251) →
      let twin := Session.mk .empty ({ directory } : DirectoryStore)
      let files := (twin.after .standard lines).store.files
      (∀ i line, lines[i]? = some line →
        let outcome := ((twin.after .standard (lines.take i)).submit .standard line).outcome
        outcome = ((session.after .standard (lines.take i)).submit .standard line).outcome ∧
          ∀ e, outcome ≠ .error ⟨line, .store e⟩) ∧
      (∀ file, files.contains file = true ↔
        ∃ i name, session.SavesAt lines i name ∧ file = Path.join directory (name ++ ".cfg")) ∧
      ∀ name report, memory.get? name = some report →
        ∃ text, files.get? (Path.join directory (name ++ ".cfg")) = some text ∧
          Text.pieces text = report ++ [""]) := by
  intro session memory
  refine ⟨fun i name hi => ?_, fun name hnone => Session.get?_of_unsaved hnone, fun hsize => ?_⟩
  · obtain ⟨d, hd, houtcome⟩ := Session.savesAt_outcome hi
    exact ⟨d, hd, houtcome, fun hlast => Session.get?_of_last hi hlast hd⟩
  · intro twin files
    have hpaired : Session.Paired directory session twin :=
      ⟨rfl, DirectoryStore.mirrors_empty directory⟩
    have hfinal := hpaired.after hsize lines.length
    rw [List.take_length] at hfinal
    refine ⟨fun i line hline => ?_, fun file => ?_, fun name report hreport => ?_⟩
    · obtain ⟨houtcome, _⟩ :=
        (hpaired.after hsize i).submit fun name h => hsize i name ⟨line, hline, h⟩
      refine ⟨houtcome.symm, fun e => ?_⟩
      rw [← houtcome]
      exact Session.submit_not_store (Session.after_coherent _ _) line e
    · rw [KeyedTable.contains_iff, hfinal.store.keys, List.mem_map]
      constructor
      · rintro ⟨name, hname, rfl⟩
        obtain ⟨i, hi⟩ := (session.mem_keys_after lines rfl).1 hname
        exact ⟨i, name, hi, hfinal.store.path_eq name⟩
      · rintro ⟨i, name, hi, rfl⟩
        exact ⟨name, (session.mem_keys_after lines rfl).2 ⟨i, hi⟩, hfinal.store.path_eq name⟩
    · rw [← hfinal.store.path_eq name]
      refine ⟨DirectoryStore.content report, hfinal.store.content name report hreport, ?_⟩
      obtain ⟨hne, hlines⟩ := Session.oneLine_saved hreport
      exact DirectoryStore.pieces_content hlines hne

/-- A device is saved twice, then everything is cleared and a switch takes its name; the stores still
have the router as it was at the second save. -/
theorem saved_configurations_router :
    let lines := ["add router r1", "save r1", "set hostname r1 core", "SAVE r1", "clear all",
      "add switch r1", "set hostname r1 edge"]
    (Session.mk .empty ({} : MemoryStore)).SavesAt lines 3 "r1" ∧
      ((Session.mk .empty ({} : MemoryStore)).after .standard lines).store.get? "r1" =
        some ["! core (router)", "hostname core"] ∧
      ((Session.mk .empty ({} : MemoryStore)).after .standard lines).store.get? "r2" = none ∧
      ∃ text,
        ((Session.mk .empty ({ directory := "configs" } : DirectoryStore)).after
            .standard lines).store.files.get? "configs/r1.cfg" = some text ∧
          Text.pieces text = ["! core (router)", "hostname core", ""] := by
  intro lines
  obtain ⟨hsaves, hnone, hdirectory⟩ := saved_configurations "configs" lines
  have hcommands : lines.map Command.ofLine =
      [.ok (.addDevice .router "r1"), .ok (.save "r1"), .ok (.setHostname "r1" "core"),
        .ok (.save "r1"), .ok .clearAll, .ok (.addDevice .switch "r1"),
        .ok (.setHostname "r1" "edge")] := by decide +kernel
  have honly : ∀ i name, (Session.mk .empty ({} : MemoryStore)).SavesAt lines i name →
      i ≤ 3 ∧ name = "r1" := by
    rintro i name ⟨line, hline, hsave, -⟩
    have hcommand : (lines.map Command.ofLine)[i]? = some (.ok (.save name)) := by
      rw [List.getElem?_map, hline, Option.map_some, hsave]
    rw [hcommands] at hcommand
    clear hline hsaves hnone hdirectory
    match i with
    | 0 | 2 | 4 | 5 | 6 => cases hcommand
    | 1 | 3 =>
      cases hcommand
      exact ⟨by decide, rfl⟩
    | i + 7 => cases hcommand
  have hsave : (Session.mk .empty ({} : MemoryStore)).SavesAt lines 3 "r1" := by
    have hline : lines[3]? = some "SAVE r1" := rfl
    have hadmits : ((Session.mk .empty ({} : MemoryStore)).after .standard
        (lines.take 3)).network.AdmitsSave "SAVE r1" "r1" :=
      ⟨by decide +kernel, by decide +kernel⟩
    exact ⟨_, hline, Session.saves_iff_admits.2 hadmits⟩
  have hlast : ∀ j, 3 < j → ¬ (Session.mk .empty ({} : MemoryStore)).SavesAt lines j "r1" := by
    intro j hj h
    exact Nat.not_lt.2 (honly j "r1" h).1 hj
  have hother : ∀ i, ¬ (Session.mk .empty ({} : MemoryStore)).SavesAt lines i "r2" := by
    intro i h
    exact absurd (honly i "r2" h).2 (by decide)
  have hsize : ∀ i name, (Session.mk .empty ({} : MemoryStore)).SavesAt lines i name →
      name.utf8ByteSize ≤ 251 := by
    intro i name h
    rw [(honly i name h).2]
    decide
  obtain ⟨d, hd, _, hget⟩ := hsaves 3 "r1" hsave
  have hreport : (((Session.mk .empty ({} : MemoryStore)).after .standard
      (lines.take 3)).network.device "r1").map Device.cliReport =
      .ok ["! core (router)", "hostname core"] := by decide +kernel
  rw [hd] at hreport
  have hkept := (hget hlast).trans (congrArg some (Except.ok.inj hreport))
  exact ⟨hsave, hkept, hnone "r2" hother, (hdirectory hsize).2.2 "r1" _ hkept⟩

end NetworkConsole
