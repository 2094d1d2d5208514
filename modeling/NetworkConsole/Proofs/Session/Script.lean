import Mathlib.Data.List.Basic
import NetworkConsole.Proofs.Text.Line
import NetworkConsole.Session.Script
import NetworkConsole.Store.Memory

/-! Laws of scripts. A script in two parts is the one part after the other; stopping at an error cuts
the outcomes behind the first failure; the numbers are the places of the lines that count. -/
namespace NetworkConsole

/-- A list up to its first entry of some sort, with that entry; all of the list where there is none. -/
structure UpToFirst {α : Type} (p : α → Prop) (part whole : List α) : Prop where
  initial : part <+: whole
  all : (∀ a ∈ whole, ¬ p a) → part = whole
  holds : (∃ a ∈ whole, p a) → ∃ a ∈ part, p a
  shortest : ∀ other, other <+: whole → (∃ a ∈ other, p a) → part <+: other

namespace UpToFirst
variable {α : Type} {p : α → Prop} {a : α} {part whole : List α}

theorem nil : UpToFirst p [] [] where
  initial := List.prefix_rfl
  all := fun _ => rfl
  holds := id
  shortest := fun _ _ _ => List.nil_prefix

theorem stop (ha : p a) : UpToFirst p [a] (a :: whole) where
  initial := List.cons_prefix_cons.2 ⟨rfl, List.nil_prefix⟩
  all := fun h => absurd ha (h a List.mem_cons_self)
  holds := fun _ => ⟨a, List.mem_cons_self, ha⟩
  shortest := by
    rintro other hother ⟨b, hb, -⟩
    cases other with
    | nil => cases hb
    | cons c cs =>
      obtain ⟨rfl, -⟩ := List.cons_prefix_cons.1 hother
      exact List.cons_prefix_cons.2 ⟨rfl, List.nil_prefix⟩

theorem cons (ha : ¬ p a) (h : UpToFirst p part whole) : UpToFirst p (a :: part) (a :: whole) where
  initial := List.cons_prefix_cons.2 ⟨rfl, h.initial⟩
  all := fun hall => congrArg _ (h.all fun b hb => hall b (List.mem_cons_of_mem a hb))
  holds := by
    rintro ⟨b, hb, hp⟩
    obtain rfl | hb := List.mem_cons.1 hb
    · exact absurd hp ha
    · obtain ⟨c, hc, hp⟩ := h.holds ⟨b, hb, hp⟩
      exact ⟨c, List.mem_cons_of_mem a hc, hp⟩
  shortest := by
    rintro other hother ⟨b, hb, hp⟩
    cases other with
    | nil => cases hb
    | cons c cs =>
      obtain ⟨rfl, hcs⟩ := List.cons_prefix_cons.1 hother
      obtain rfl | hb := List.mem_cons.1 hb
      · exact absurd hp ha
      · exact List.cons_prefix_cons.2 ⟨rfl, h.shortest cs hcs ⟨b, hb, hp⟩⟩

/-- Where a measure of the entries ascends, the part has its values up to that of the entry which
ends it. -/
theorem mem_iff {measure : α → Nat} (h : UpToFirst p part whole)
    (hwhole : (whole.map measure).Pairwise (· < ·)) (n : Nat) :
    n ∈ part.map measure ↔
      n ∈ whole.map measure ∧ ∀ a ∈ part, p a → n ≤ measure a := by
  obtain ⟨behind, hbehind⟩ := h.initial
  rw [← hbehind, List.map_append] at hwhole ⊢
  obtain ⟨hpart, -, hacross⟩ := List.pairwise_append.1 hwhole
  constructor
  · intro hn
    refine ⟨List.mem_append_left _ hn, fun a ha hp => ?_⟩
    -- the part up to `a` has an entry of the sort, so nothing of the part is behind `a`
    obtain ⟨xs, ys, rfl⟩ := List.append_of_mem ha
    have hshort : xs ++ a :: ys <+: xs ++ [a] :=
      h.shortest _ ⟨ys ++ behind, by rw [← hbehind]; simp⟩ ⟨a, by simp, hp⟩
    obtain rfl : ys = [] := by simpa using hshort.length_le
    rw [List.map_append] at hn hpart
    obtain hn | hn := List.mem_append.1 hn
    · exact Nat.le_of_lt ((List.pairwise_append.1 hpart).2.2 n hn _ List.mem_cons_self)
    · exact Nat.le_of_eq (List.mem_singleton.1 hn)
  · rintro ⟨hn, hbound⟩
    obtain hn | hn := List.mem_append.1 hn
    · exact hn
    · by_cases hexists : ∃ a ∈ whole, p a
      · obtain ⟨a, ha, hp⟩ := h.holds hexists
        exact absurd (hacross _ (List.mem_map_of_mem ha) n hn) (Nat.not_lt.2 (hbound a ha hp))
      · have hwhole : part ++ behind = part := by
          rw [hbehind, h.all fun a ha hp => hexists ⟨a, ha, hp⟩]
        rw [List.append_right_eq_self.1 hwhole] at hn
        cases hn

end UpToFirst

namespace Script
variable {σ : Type}

/-- The entries with their numbers moved up. -/
def renumber {α : Type} (n : Nat) (entries : List (Nat × α)) : List (Nat × α) :=
  entries.map (Prod.map (· + n) id)

theorem renumber_cons {α : Type} (n number : Nat) (value : α) (rest : List (Nat × α)) :
    renumber n ((number, value) :: rest) = (number + n, value) :: renumber n rest := rfl

def Failed (entry : Nat × LineOutcome) : Prop := ∃ e, entry.2 = .error e

theorem failed_iff (number : Nat) (turn : Turn σ) :
    Failed (number, turn.outcome) ↔ turn.failed = true := by
  rw [Failed, Turn.failed]
  cases turn.outcome <;> simp

theorem renumber_zipIdx (keep : String → Bool) (n : Nat) (lines : List String) :
    ((lines.zipIdx (1 + n)).filter fun entry => keep entry.1).map Prod.swap =
      renumber n (((lines.zipIdx 1).filter fun entry => keep entry.1).map Prod.swap) := by
  rw [Nat.add_comm, ← List.map_snd_add_zipIdx_eq_zipIdx, List.filter_map, renumber, List.map_map,
    List.map_map]
  rfl

/-- The second part is numbered from behind the line feeds of the first. -/
theorem commandLines_append {first : String} (h : Text.Complete first) (second : String) :
    commandLines (first ++ second) =
      commandLines first ++ renumber (Text.feeds first) (commandLines second) := by
  rw [commandLines, Text.lines_append h, List.zipIdx_append, List.filter_append, List.map_append,
    Text.length_lines h, renumber_zipIdx fun line => !isSkipped line]
  rfl

/-- A line that fails where the script is to stop is the last one. -/
theorem runLines_step (table : Dispatch σ) (stop : Bool) (number : Nat) (line : String)
    (rest : List (Nat × String)) (session : Session σ) :
    let turn := session.submit table line
    let run := runLines table stop rest turn.session
    runLines table stop ((number, line) :: rest) session =
      if turn.failed && stop then
        ⟨[(number, turn.outcome)], turn.session, turn.reports ++ [.stopped number]⟩
      else ⟨(number, turn.outcome) :: run.outcomes, run.session, turn.reports ++ run.reports⟩ := by
  intro turn run
  rw [runLines, runLinesM, pure_bind]
  split <;> rfl

theorem runLines_cons (table : Dispatch σ) (number : Nat) (line : String)
    (rest : List (Nat × String)) (session : Session σ) :
    let turn := session.submit table line
    let run := runLines table false rest turn.session
    runLines table false ((number, line) :: rest) session =
      ⟨(number, turn.outcome) :: run.outcomes, run.session, turn.reports ++ run.reports⟩ := by
  rw [runLines_step, Bool.and_false]
  rfl

theorem runLines_append (table : Dispatch σ) (xs ys : List (Nat × String)) (session : Session σ) :
    let first := runLines table false xs session
    let second := runLines table false ys first.session
    runLines table false (xs ++ ys) session =
      ⟨first.outcomes ++ second.outcomes, second.session, first.reports ++ second.reports⟩ := by
  intro first second
  induction xs generalizing session with
  | nil => rfl
  | cons entry rest ih =>
    obtain ⟨number, line⟩ := entry
    simp only [first, second, List.cons_append, runLines_cons, ih, List.append_assoc]

/-- Without stopping the numbers of the lines have no influence. -/
theorem runLines_renumber (table : Dispatch σ) (n : Nat) (lines : List (Nat × String))
    (session : Session σ) :
    let run := runLines table false lines session
    runLines table false (renumber n lines) session =
      ⟨renumber n run.outcomes, run.session, run.reports⟩ := by
  intro run
  induction lines generalizing session with
  | nil => rfl
  | cons entry rest ih =>
    obtain ⟨number, line⟩ := entry
    simp only [run, renumber_cons, runLines_cons, ih]

/-- The stop cuts the outcomes behind the first failure and changes none before it. -/
theorem upToFirst_runLines (table : Dispatch σ) (lines : List (Nat × String))
    (session : Session σ) :
    UpToFirst Failed (runLines table true lines session).outcomes
      (runLines table false lines session).outcomes := by
  induction lines generalizing session with
  | nil => exact .nil
  | cons entry rest ih =>
    obtain ⟨number, line⟩ := entry
    rw [runLines_cons, runLines_step]
    by_cases hfailed : (session.submit table line).failed = true
    · rw [if_pos (by rw [hfailed]; rfl)]
      exact .stop ((failed_iff number _).2 hfailed)
    · rw [if_neg (by simpa using hfailed)]
      exact .cons (fun h => hfailed ((failed_iff number _).1 h)) (ih _)

/-- A run leaves the session of the lines it has outcomes of. -/
theorem session_runLines (table : Dispatch σ) (stop : Bool) (lines : List (Nat × String))
    (session : Session σ) :
    let run := runLines table stop lines session
    run.session = session.after table ((lines.take run.outcomes.length).map Prod.snd) := by
  intro run
  induction lines generalizing session with
  | nil => rfl
  | cons entry rest ih =>
    obtain ⟨number, line⟩ := entry
    simp only [run, runLines_step]
    split
    · rfl
    · exact ih _

/-- Every outcome is that of a line, in the session that the lines before it leave. -/
theorem exists_turn_of_mem {table : Dispatch σ} {stop : Bool} {lines : List (Nat × String)}
    {session : Session σ} {entry : Nat × LineOutcome}
    (h : entry ∈ (runLines table stop lines session).outcomes) :
    ∃ line before, (entry.1, line) ∈ lines ∧
      entry.2 = (Session.submit table line before).outcome := by
  induction lines generalizing session with
  | nil => cases h
  | cons first rest ih =>
    obtain ⟨number, line⟩ := first
    have hfirst : entry = (number, (session.submit table line).outcome) → ∃ line' before,
        (entry.1, line') ∈ (number, line) :: rest ∧
          entry.2 = (Session.submit table line' before).outcome := by
      rintro rfl
      exact ⟨line, session, List.mem_cons_self, rfl⟩
    rw [runLines_step] at h
    split at h
    · exact hfirst (List.mem_singleton.1 h)
    · obtain hentry | hentry := List.mem_cons.1 h
      · exact hfirst hentry
      · obtain ⟨line', before, hline, houtcome⟩ := ih hentry
        exact ⟨line', before, List.mem_cons_of_mem _ hline, houtcome⟩

/-- The numbers of the processed lines. -/
structure Numbered (script : String) (stop : Bool) (outcomes : List (Nat × LineOutcome)) : Prop where
  ascending : (outcomes.map Prod.fst).Pairwise (· < ·)
  /-- Up to the failure that stops the script, each line that is not passed over has the number of
  its place, counted from one. -/
  places : ∀ n, n ∈ outcomes.map Prod.fst ↔
    (∃ i line, n = i + 1 ∧ (Text.lines script)[i]? = some line ∧ isSkipped line = false) ∧
      (stop = true → ∀ entry ∈ outcomes, Failed entry → n ≤ entry.1)

theorem commandLines_ascending (script : String) :
    ((commandLines script).map Prod.fst).Pairwise (· < ·) := by
  have hsub : ((commandLines script).map Prod.fst).Sublist
      (((Text.lines script).zipIdx 1).map Prod.snd) := by
    rw [commandLines, List.map_map]
    exact List.filter_sublist.map Prod.snd
  rw [List.zipIdx_map_snd] at hsub
  exact (List.pairwise_lt_range' ..).sublist hsub

theorem mem_commandLines_iff (script : String) (number : Nat) (line : String) :
    (number, line) ∈ commandLines script ↔
      ∃ i, number = i + 1 ∧ (Text.lines script)[i]? = some line ∧ isSkipped line = false := by
  have hentry : (number, line) ∈ commandLines script ↔
      (1 ≤ number ∧ (Text.lines script)[number - 1]? = some line) ∧ isSkipped line = false := by
    simp [commandLines, List.mk_mem_zipIdx_iff_le_and_getElem?_sub]
  rw [hentry]
  constructor
  · rintro ⟨⟨hpos, hline⟩, hskip⟩
    exact ⟨number - 1, by omega, hline, hskip⟩
  · rintro ⟨i, rfl, hline, hskip⟩
    exact ⟨⟨by omega, hline⟩, hskip⟩

theorem numbers_runLines (table : Dispatch σ) (lines : List (Nat × String))
    (session : Session σ) :
    (runLines table false lines session).outcomes.map Prod.fst = lines.map Prod.fst := by
  induction lines generalizing session with
  | nil => rfl
  | cons entry rest ih => rw [runLines_cons, List.map_cons, ih, List.map_cons]

theorem numbered_run (table : Dispatch σ) (stop : Bool) (script : String) (session : Session σ) :
    Numbered script stop (run table stop script session).outcomes := by
  have hcounted : ∀ n, n ∈ (commandLines script).map Prod.fst ↔
      ∃ i line, n = i + 1 ∧ (Text.lines script)[i]? = some line ∧ isSkipped line = false := by
    intro n
    rw [List.mem_map, exists_comm]
    simp only [Prod.exists, exists_and_right, exists_eq_right, mem_commandLines_iff]
  have hnumbers := numbers_runLines table (commandLines script) session
  have hascending := hnumbers ▸ commandLines_ascending script
  cases stop with
  | false =>
    refine ⟨hascending, fun n => ?_⟩
    rw [← hcounted, ← hnumbers]
    simp [run]
  | true =>
    have hfirst := upToFirst_runLines table (commandLines script) session
    refine ⟨hascending.sublist (hfirst.initial.sublist.map Prod.fst), fun n => ?_⟩
    rw [← hcounted, ← hnumbers]
    simp only [forall_const]
    exact hfirst.mem_iff hascending n

end Script

/-- A script that ends its lines and one behind it are run like the one they make together; a run
that stops at errors is the other up to its first failure; and the numbers of the outcomes are the
places of the lines. -/
theorem script_laws {σ : Type} (table : Dispatch σ) (session : Session σ) :
    (∀ first second, Text.Complete first →
      let before := Script.run table false first session
      let behind := Script.run table false second before.session
      Script.run table false (first ++ second) session =
        ⟨before.outcomes ++ Script.renumber (Text.feeds first) behind.outcomes, behind.session,
          before.reports ++ behind.reports⟩) ∧
    (∀ script,
      let stopped := Script.run table true script session
      UpToFirst Script.Failed stopped.outcomes (Script.run table false script session).outcomes ∧
        stopped.session = session.after table
          (((Script.commandLines script).take stopped.outcomes.length).map Prod.snd)) ∧
    ∀ script stop, Script.Numbered script stop (Script.run table stop script session).outcomes := by
  refine ⟨fun first second hfirst => ?_, fun script => ⟨?_, ?_⟩, fun script stop => ?_⟩
  · simp only [Script.run, Script.commandLines_append hfirst, Script.runLines_append,
      Script.runLines_renumber]
  · exact Script.upToFirst_runLines table _ session
  · exact Script.session_runLines table true _ session
  · exact Script.numbered_run table stop script session

/-- Carriage returns, a blank line and comments count as lines. The second `add router r1` fails, and
with it a script that stops there. -/
theorem script_laws_routers :
    let first := "! routers\r\nadd router r1\r\n\nadd router r1\r\n"
    let second := "  # more\nadd router r2\nexit"
    let table : Dispatch MemoryStore := .standard
    let session : Session MemoryStore := ⟨.empty, {}⟩
    let whole := Script.run table false (first ++ second) session
    let stopped := Script.run table true (first ++ second) session
    Text.Complete first ∧ whole.outcomes.map Prod.fst = [2, 4, 6, 7] ∧
      whole.session.network.names.keys = ["r1", "r2"] ∧
      stopped.outcomes.map Prod.fst = [2, 4] ∧ stopped.session.network.names.keys = ["r1"] := by
  intro first second table session whole stopped
  have hfirst : Text.Complete first := .inr ⟨"! routers\r\nadd router r1\r\n\nadd router r1\r", rfl⟩
  obtain ⟨hparts, hstop, -⟩ := script_laws table session
  have hwhole := hparts first second hfirst
  refine ⟨hfirst, ?_, ?_, by decide +kernel, ?_⟩
  · rw [congrArg Script.Run.outcomes hwhole]
    decide +kernel
  · rw [congrArg Script.Run.session hwhole]
    decide +kernel
  · rw [(hstop (first ++ second)).2]
    decide +kernel

end NetworkConsole
