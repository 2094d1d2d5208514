import NetworkConsole.Proofs.Session.Respelling
import NetworkConsole.Proofs.Session.Skipping
import NetworkConsole.Session.Conversation

/-! A conversation and a script with the same lines. The one trims a line before it looks at it, the
other takes it as it stands; since the command of a line depends on its words alone, both make the
same of it. A farewell cuts the conversation where it stands. -/
namespace NetworkConsole

theorem Command.ofLine_congr {first second : String} (h : Text.words first = Text.words second) :
    Command.ofLine first = Command.ofLine second := by
  simp only [Command.ofLine, Token.ofLine_eq, h]
  cases Text.words second with
  | nil => rfl
  | cons word words =>
    cases hkind : CommandKind.ofWords? (word :: words) with
    | none => simp only [hkind]
    | some kind =>
      simp only [hkind]
      rfl

namespace Session
variable {σ : Type}

theorem line_of_outcome {table : Dispatch σ} {line : String} {session : Session σ} {e : LineError}
    (h : (session.submit table line).outcome = .error e) : e.line = line := by
  have hcourse := session.submit_course table line
  generalize session.submit table line = turn at hcourse h
  cases hcourse with
  | unrecognized | mistyped | refused | unserved | failed =>
    cases h
    rfl
  | done => cases h

variable [ConfigStore σ] {table : Dispatch σ}

/-- Lines with the same words fare alike, and each is quoted as it was written. -/
theorem submit_same_words (htable : table.StandardMade) {first second : String}
    (h : Text.words first = Text.words second) (session : Session σ) :
    (session.submit table first).outcome =
        (session.submit table second).outcome.mapError (fun e => ⟨first, e.cause⟩) ∧
      (session.submit table first).session = (session.submit table second).session := by
  have hsame := Command.ofLine_congr h
  cases hsecond : Command.ofLine second with
  | error cause =>
    obtain ⟨houtcome, hsession⟩ := session.submit_unread table (hsame.trans hsecond)
    obtain ⟨houtcome', hsession'⟩ := session.submit_unread table hsecond
    rw [houtcome, houtcome', hsession, hsession']
    exact ⟨rfl, rfl⟩
  | ok command =>
    have hfirst := hsame.trans hsecond
    cases hcheck : command.check session.network with
    | error e =>
      obtain ⟨houtcome, hsession⟩ := submit_inadmissible table hfirst hcheck
      obtain ⟨houtcome', hsession'⟩ := submit_inadmissible table hsecond hcheck
      rw [houtcome, houtcome', hsession, hsession']
      exact ⟨rfl, rfl⟩
    | ok _ =>
      obtain ⟨houtcome, hsession⟩ := submit_checked table hfirst hcheck
      obtain ⟨houtcome', hsession'⟩ := submit_checked table hsecond hcheck
      rw [houtcome, houtcome', hsession, hsession', htable.perform_eq first second]
      refine ⟨?_, rfl⟩
      cases (table.perform second command session).1 <;> rfl

end Session

namespace Conversation
variable {σ : Type}

/-- The line is a farewell when it is trimmed. -/
def Ends (line : String) : Prop := isFarewell (Text.trim line) = true

instance : DecidablePred Ends := fun line =>
  inferInstanceAs (Decidable (isFarewell (Text.trim line) = true))

/-- The outcomes of the lines that are not passed over, each with the number of its line; `n` is the
number of the first line. -/
def numbered : Nat → List (Option LineOutcome) → List (Nat × LineOutcome)
  | _, [] => []
  | n, none :: rest => numbered (n + 1) rest
  | n, some outcome :: rest => (n, outcome) :: numbered (n + 1) rest

/-- The outcome, where an error quotes its line without the blanks around it. -/
def quoteTrimmed (outcome : LineOutcome) : LineOutcome :=
  outcome.mapError fun e => ⟨Text.trim e.line, e.cause⟩

/-- The conversation reads the lines of the text, and no more, and makes of them what the script
makes of them. -/
structure Follows (text : String) (conversation : Run σ) (script : Script.Run σ) : Prop where
  read : conversation.outcomes.length = (Text.lines text).length
  /-- The same lines are processed in the same order, with the same outcomes. -/
  processed : numbered 1 conversation.outcomes = script.outcomes.map (Prod.map id quoteTrimmed)
  /-- An error of the script quotes its line as it stands in the text. -/
  quoted : ∀ number e, (number, .error e) ∈ script.outcomes →
    ∃ i, number = i + 1 ∧ (Text.lines text)[i]? = some e.line
  session : conversation.session = script.session

/-- The part of a text before the first line that ends a conversation. -/
structure Opening (before text : String) : Prop where
  complete : Text.Complete before
  stays : ∀ line ∈ Text.lines before, ¬ Ends line
  ends : ∃ behind line rest, text = before ++ behind ∧ Text.lines behind = line :: rest ∧ Ends line

theorem hear_of_ends (table : Dispatch σ) {line : String} (h : Ends line) (session : Session σ) :
    hear table line session = none := if_pos h

theorem hear_of_skipped (table : Dispatch σ) {line : String} (hstays : ¬ Ends line)
    (hskip : isSkipped line = true) (session : Session σ) :
    hear table line session = some (none, session) := by
  rw [← isSkipped_trim] at hskip
  exact (if_neg hstays).trans (if_pos hskip)

theorem hear_of_command [ConfigStore σ] {table : Dispatch σ} (htable : table.StandardMade)
    {line : String} (hstays : ¬ Ends line) (hskip : isSkipped line = false) (session : Session σ) :
    hear table line session = some (some (quoteTrimmed (session.submit table line).outcome),
      (session.submit table line).session) := by
  have hheard : hear table line session =
      some (some (session.submit table (Text.trim line)).outcome,
        (session.submit table (Text.trim line)).session) := by
    rw [← isSkipped_trim] at hskip
    exact (if_neg hstays).trans (if_neg (by simp [hskip]))
  obtain ⟨houtcome, hsession⟩ := Session.submit_same_words htable (Text.words_trim line) session
  rw [hheard, houtcome, hsession, quoteTrimmed]
  cases hresult : (session.submit table line).outcome with
  | ok answer => rfl
  | error e =>
    obtain rfl := Session.line_of_outcome hresult
    rfl

theorem run_cons {table : Dispatch σ} {line : String} {session next : Session σ}
    {outcome : Option LineOutcome} (h : hear table line session = some (outcome, next))
    (lines : List String) :
    run table (line :: lines) session =
      ⟨outcome :: (run table lines next).outcomes, (run table lines next).session⟩ := by
  simp only [run, h]

/-- Nothing behind a farewell is heard. -/
theorem run_ends (table : Dispatch σ) {line : String} (h : Ends line) (lines rest : List String)
    (session : Session σ) :
    run table (lines ++ line :: rest) session = run table lines session := by
  induction lines generalizing session with
  | nil => simp only [List.nil_append, run, hear_of_ends table h]
  | cons first lines ih =>
    rw [List.cons_append, run, run]
    cases hear table first session with
    | none => rfl
    | some heard => simp only [ih]

/-- Line for line the two runs keep the same session. -/
theorem run_eq_runLines [ConfigStore σ] {table : Dispatch σ} (htable : table.StandardMade)
    {lines : List String} (hstays : ∀ line ∈ lines, ¬ Ends line) (n : Nat) (session : Session σ) :
    let kept := (lines.zipIdx n).filter fun entry => !isSkipped entry.1
    let script := Script.runLines table false (kept.map Prod.swap) session
    let conversation := run table lines session
    conversation.outcomes.length = lines.length ∧
      numbered n conversation.outcomes = script.outcomes.map (Prod.map id quoteTrimmed) ∧
      conversation.session = script.session := by
  -- a line that is passed over has a number as well, so the number goes along with the session
  induction lines generalizing n session with
  | nil => exact ⟨rfl, rfl, rfl⟩
  | cons line lines ih =>
    obtain ⟨hline, hlines⟩ := List.forall_mem_cons.1 hstays
    intro kept script conversation
    cases hskip : isSkipped line with
    | true =>
      obtain ⟨hlength, houtcomes, hsession⟩ := ih hlines (n + 1) session
      have hkept : kept = (lines.zipIdx (n + 1)).filter fun entry => !isSkipped entry.1 := by
        simp [kept, hskip]
      have hrun := run_cons (hear_of_skipped table hline hskip session) lines
      simp only [script, hkept, conversation, hrun]
      exact ⟨congrArg Nat.succ hlength, houtcomes, hsession⟩
    | false =>
      obtain ⟨hlength, houtcomes, hsession⟩ :=
        ih hlines (n + 1) (session.submit table line).session
      have hkept : kept =
          (line, n) :: (lines.zipIdx (n + 1)).filter fun entry => !isSkipped entry.1 := by
        simp [kept, hskip]
      have hrun := run_cons (hear_of_command htable hline hskip session) lines
      simp only [script, hkept, conversation, hrun, List.map_cons, Prod.swap_prod_mk,
        Script.runLines_cons, numbered, houtcomes]
      exact ⟨congrArg Nat.succ hlength, rfl, hsession⟩

theorem follows_script [ConfigStore σ] {table : Dispatch σ} (htable : table.StandardMade)
    {text : String} (hstays : ∀ line ∈ Text.lines text, ¬ Ends line) (session : Session σ) :
    Follows text (run table (Text.lines text) session) (Script.run table false text session) := by
  obtain ⟨hread, hprocessed, hsession⟩ := run_eq_runLines htable hstays 1 session
  refine ⟨hread, hprocessed, fun number e herror => ?_, hsession⟩
  obtain ⟨line, before, hline, houtcome⟩ := Script.exists_turn_of_mem herror
  obtain rfl := Session.line_of_outcome houtcome.symm
  obtain ⟨i, hnumber, hplace, -⟩ := (Script.mem_commandLines_iff text number e.line).1 hline
  exact ⟨i, hnumber, hplace⟩

theorem exists_opening {text : String} (h : ∃ line ∈ Text.lines text, Ends line) :
    ∃ before, Opening before text := by
  obtain ⟨farewell, hmem, hends⟩ := h
  obtain ⟨line, hfound⟩ := Option.isSome_iff_exists.1
    (List.find?_isSome.2 ⟨farewell, hmem, hends⟩ :
      ((Text.lines text).find? fun line => isFarewell (Text.trim line)).isSome)
  obtain ⟨hline, front, rest, hlines, hfront⟩ := List.find?_eq_some_iff_append.1 hfound
  obtain ⟨before, behind, htext, hcomplete, hbefore, hbehind⟩ := Text.exists_cut hlines
  refine ⟨before, hcomplete, fun other hother => ?_, behind, line, rest, htext, hbehind, hline⟩
  simpa [Ends] using hfront other (hbefore ▸ hother)

theorem Opening.run_eq {before text : String} (h : Opening before text) (table : Dispatch σ)
    (session : Session σ) :
    run table (Text.lines text) session = run table (Text.lines before) session := by
  obtain ⟨behind, line, rest, rfl, hbehind, hends⟩ := h.ends
  rw [Text.lines_append h.complete, hbehind]
  exact run_ends table hends _ _ _

end Conversation

/-- Where no line is a farewell, a conversation reads all lines of a text and does what a script of the
text does that stops at no error: it processes the same lines with the same outcomes, but for the
blanks around the line that an error quotes, and leaves the same network and store. Where some line is
a farewell it does the same with the part of the text before the first one, and there is such a part. -/
theorem conversation_follows_script {σ : Type} [ConfigStore σ] {table : Dispatch σ}
    (htable : table.StandardMade) (session : Session σ) (text : String) :
    let conversation := Conversation.run table (Text.lines text) session
    ((∀ line ∈ Text.lines text, ¬ Conversation.Ends line) →
      Conversation.Follows text conversation (Script.run table false text session)) ∧
    ((∃ line ∈ Text.lines text, Conversation.Ends line) →
      ∃ before, Conversation.Opening before text) ∧
    ∀ before, Conversation.Opening before text →
      Conversation.Follows before conversation (Script.run table false before session) := by
  intro conversation
  refine ⟨fun hstays => Conversation.follows_script htable hstays session,
    Conversation.exists_opening, fun before hopening => ?_⟩
  have hrun : conversation = Conversation.run table (Text.lines before) session :=
    hopening.run_eq table session
  rw [hrun]
  exact Conversation.follows_script htable hopening.stays session

/-- The conversation ends at the sixth line; `EXIT` is no farewell. Of the five lines before it two fail,
and what the script quotes with the blanks around it the conversation quotes without them. -/
theorem conversation_follows_script_quit :
    let table : Dispatch MemoryStore := .standard
    let session : Session MemoryStore := ⟨.empty, {}⟩
    let before := "\u2003add router r1\r\n# note\n  add router r1 \n\nEXIT\n"
    let text := before ++ "\u00A0quit\r\nadd router r2"
    let conversation := Conversation.run table (Text.lines text) session
    let script := Script.run table false before session
    let taken := Cause.constraint (.duplicateDevice "r1")
    table.StandardMade ∧ (∀ line ∈ Text.lines before, ¬ Conversation.Ends line) ∧
      Conversation.Opening before text ∧ Conversation.Follows before conversation script ∧
      Conversation.Follows before (Conversation.run table (Text.lines before) session) script ∧
      (∃ part, Conversation.Opening part text) ∧ script.outcomes.map Prod.fst = [1, 3, 5] ∧
      script.outcomes[1]? = some (3, .error ⟨"  add router r1 ", taken⟩) ∧
      (Conversation.numbered 1 conversation.outcomes)[1]? =
        some (3, .error ⟨"add router r1", taken⟩) := by
  intro table session before text conversation script taken
  have htable : table.StandardMade := Dispatch.standardMade_standard
  have hstays : ∀ line ∈ Text.lines before, ¬ Conversation.Ends line := by decide +kernel
  have hopening : Conversation.Opening before text := by
    refine ⟨.inr ⟨"\u2003add router r1\r\n# note\n  add router r1 \n\nEXIT", rfl⟩, hstays,
      "\u00A0quit\r\nadd router r2", "\u00A0quit", ["add router r2"], rfl, ?_, ?_⟩ <;>
      decide +kernel
  obtain ⟨-, hexists, hpart⟩ := conversation_follows_script htable session text
  have hends : ∃ line ∈ Text.lines text, Conversation.Ends line := by decide +kernel
  have hfollows : Conversation.Follows before conversation script := hpart before hopening
  have hquoted : script.outcomes[1]? = some (3, .error ⟨"  add router r1 ", taken⟩) := by
    decide +kernel
  refine ⟨htable, hstays, hopening, hfollows,
    (conversation_follows_script htable session before).1 hstays, hexists hends, by decide +kernel,
    hquoted, ?_⟩
  rw [hfollows.processed, List.getElem?_map, hquoted]
  decide +kernel

end NetworkConsole
