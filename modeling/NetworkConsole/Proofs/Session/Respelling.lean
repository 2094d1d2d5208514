import NetworkConsole.Proofs.Command.Respelling
import NetworkConsole.Proofs.Session.Standard
import NetworkConsole.Store.Memory

/-! The layout of a line and the case of its keywords do not matter. Once the command is read the line
is only quoted, and no standard handler looks at it. -/
namespace NetworkConsole

theorem Respelled.command {first second : String} (h : Respelled first second) :
    (∃ command, Command.ofLine first = .ok command ∧ Command.ofLine second = .ok command) ∨
      ∃ cause cause', Command.ofLine first = .error cause ∧ Command.ofLine second = .error cause' ∧
        cause.Agrees cause' := by
  obtain ⟨e, hfirst, hsecond⟩ | ⟨kind, hfirst, hsecond⟩ := h.recognised
  · simp only [Command.ofLine, hfirst, hsecond]
    exact .inr ⟨_, _, rfl, rfl, .same _⟩
  · simp only [Command.ofLine, hfirst, hsecond]
    exact Token.command_respelled (h.respells hfirst) first second

theorem Dispatch.StandardMade.perform_eq {σ : Type} [ConfigStore σ] {table : Dispatch σ}
    (h : table.StandardMade) (line other : String) (command : Command) (session : Session σ) :
    table.perform line command session = table.perform other command session := by
  rw [perform, perform]
  cases hhandler : table.handler? command.kind with
  | none => rfl
  | some handler =>
    obtain ⟨served, rfl⟩ := h _ _ hhandler
    rfl

/-- Two lines with the same words up to the case of keywords, on any session and any table of standard
handlers: both leave the same session, and they succeed with the same answer, or they fail in the same
stage with the same cause up to the spelling of a word that should be a keyword. -/
theorem respelling_immaterial {σ : Type} [ConfigStore σ] {table : Dispatch σ}
    (htable : table.StandardMade) {first second : String} (h : Respelled first second)
    (session : Session σ) :
    let turn := session.submit table first
    let other := session.submit table second
    turn.session = other.session ∧
      ((∃ answer, turn.outcome = .ok answer ∧ other.outcome = .ok answer) ∨
        ∃ cause cause', turn.outcome = .error ⟨first, cause⟩ ∧
          other.outcome = .error ⟨second, cause'⟩ ∧ cause.stage = cause'.stage ∧
          cause.Agrees cause') := by
  intro turn other
  obtain ⟨command, hfirst, hsecond⟩ | ⟨cause, cause', hfirst, hsecond, hagree⟩ := h.command
  · cases hcheck : command.check session.network with
    | error e =>
      obtain ⟨hturn, hsession⟩ := Session.submit_inadmissible table hfirst hcheck
      obtain ⟨hother, hsession'⟩ := Session.submit_inadmissible table hsecond hcheck
      exact ⟨hsession.trans hsession'.symm, .inr ⟨_, _, hturn, hother, rfl, .same _⟩⟩
    | ok _ =>
      obtain ⟨hturn, hsession⟩ := Session.submit_checked table hfirst hcheck
      obtain ⟨hother, hsession'⟩ := Session.submit_checked table hsecond hcheck
      rw [← htable.perform_eq first] at hother hsession'
      refine ⟨hsession.trans hsession'.symm, ?_⟩
      cases hresult : (table.perform first command session).1 with
      | error e =>
        rw [hresult] at hturn hother
        exact .inr ⟨e.cause, e.cause, hturn, hother, rfl, .same _⟩
      | ok answer =>
        rw [hresult] at hturn hother
        exact .inl ⟨answer, hturn, hother⟩
  · obtain ⟨hturn, hsession⟩ := session.submit_unread table hfirst
    obtain ⟨hother, hsession'⟩ := session.submit_unread table hsecond
    exact ⟨hsession.trans hsession'.symm, .inr ⟨cause, cause', hturn, hother, hagree.stage_eq, hagree⟩⟩

/-- A word that is no kind of device is quoted as it was written; all else is the same. -/
theorem respelling_immaterial_bridge :
    let first := "ADD\t Bridge r1"
    let second := "add bridge r1"
    let session := Session.mk .empty ({} : MemoryStore)
    Respelled first second ∧
      (session.submit .standard first).session = (session.submit .standard second).session ∧
      ∃ cause cause', (session.submit .standard first).outcome = .error ⟨first, cause⟩ ∧
        (session.submit .standard second).outcome = .error ⟨second, cause'⟩ ∧
        cause ≠ cause' ∧ cause.Agrees cause' := by
  intro first second session
  have hfirst : Text.words first = ["ADD", "Bridge", "r1"] := by decide +kernel
  have hsecond : Text.words second = ["add", "bridge", "r1"] := by decide +kernel
  have htoken : Token.ofLine first = .ok ⟨.add, ["Bridge", "r1"], first⟩ := by decide +kernel
  have h : Respelled first second := by
    refine ⟨by rw [hfirst, hsecond]; rfl, fun place x y hx hy => ?_⟩
    rw [hfirst] at hx
    rw [hsecond] at hy
    match place with
    | 0 =>
      cases hx
      cases hy
      refine .inr ⟨by decide +kernel, fun token hok => ?_⟩
      cases htoken.symm.trans hok
      exact .inl (by decide)
    | 1 =>
      cases hx
      cases hy
      refine .inr ⟨by decide +kernel, fun token hok => ?_⟩
      cases htoken.symm.trans hok
      exact .inr ⟨_, rfl, _, rfl⟩
    | 2 =>
      cases hx
      cases hy
      exact .inl rfl
    | place + 3 => cases hx
  obtain ⟨hsession, ⟨answer, hok, _⟩ | ⟨cause, cause', he, he', _, hagree⟩⟩ :=
    respelling_immaterial Dispatch.standardMade_standard h session
  · have hfailed : (session.submit .standard first).failed = true := by decide +kernel
    rw [Turn.failed, hok] at hfailed
    cases hfailed
  · refine ⟨h, hsession, cause, cause', he, he', ?_, hagree⟩
    rintro rfl
    have hdiffer : (session.submit .standard first).outcome.mapError LineError.cause ≠
        (session.submit .standard second).outcome.mapError LineError.cause := by decide +kernel
    rw [he, he'] at hdiffer
    exact hdiffer rfl

end NetworkConsole
