import Mathlib.Data.List.Induction
import NetworkConsole.Proofs.Network.Sections

/-! Where the subcommands of a device stand. Interfaces, OSPF and EIGRP repeat the header with every
setting. RIP does not, so a RIP statement stands in its section only where nothing but hostnames and
rules came since the statement before it. -/
namespace NetworkConsole

namespace DeviceEvent

def IsRip : DeviceEvent → Prop
  | .configured setting => setting.IsRip
  | .forgotten => False

/-- The event leaves the open section as it is, and is not part of it. -/
def Neutral : DeviceEvent → Prop
  | .configured setting => setting.header? = none
  | .forgotten => False

def statement? : DeviceEvent → Option Routing.Statement
  | .configured (.statement added) => some added
  | .configured _ | .forgotten => none

theorem isRip_iff (event : DeviceEvent) :
    event.IsRip ↔ ∃ added, event.statement? = some added ∧ added.protocol = .rip := by
  cases event with
  | configured setting => cases setting <;> simp [IsRip, statement?, Setting.IsRip]
  | forgotten => simp [IsRip, statement?]

/-- After the last RIP statement come only events that leave its section open. -/
def EndsInRip (events : List DeviceEvent) : Prop :=
  ∃ before event between, events = before ++ event :: between ∧ event.IsRip ∧
    ∀ other ∈ between, other.Neutral

/-- Every RIP statement that has not been forgotten is the first one or continues the section of the
one before it. -/
def RipUnbroken (events : List DeviceEvent) : Prop :=
  ∀ before event after, events = before ++ event :: after → event.IsRip → .forgotten ∉ after →
    (∃ earlier ∈ before, earlier.IsRip) → EndsInRip before

theorem split_concat {events before after : List DeviceEvent} {event found : DeviceEvent}
    (h : events ++ [event] = before ++ found :: after) :
    (after = [] ∧ before = events ∧ found = event) ∨
      ∃ rest, after = rest ++ [event] ∧ events = before ++ found :: rest := by
  obtain rfl | ⟨rest, last, rfl⟩ := after.eq_nil_or_concat
  · obtain ⟨hbefore, hevent⟩ := List.append_inj' h rfl
    exact .inl ⟨rfl, hbefore.symm, (List.singleton_inj.1 hevent).symm⟩
  · rw [List.concat_eq_append, ← List.cons_append, ← List.append_assoc] at h
    obtain ⟨hevents, hlast⟩ := List.append_inj' h rfl
    exact .inr ⟨rest, by rw [List.concat_eq_append, hlast], hevents⟩

theorem endsInRip_concat (events : List DeviceEvent) (event : DeviceEvent) :
    EndsInRip (events ++ [event]) ↔ event.IsRip ∨ event.Neutral ∧ EndsInRip events := by
  constructor
  · intro h
    obtain ⟨before, rip, between, hsplit, hrip, hneutral⟩ := h
    obtain ⟨-, -, rfl⟩ | ⟨rest, rfl, rfl⟩ := split_concat hsplit
    · exact .inl hrip
    · refine .inr ⟨hneutral event (by simp), before, rip, rest, rfl, hrip, ?_⟩
      intro other hother
      exact hneutral other (by simp [hother])
  · intro h
    obtain hrip | ⟨hneutral, before, rip, between, rfl, hrip, hbetween⟩ := h
    · exact ⟨events, event, [], rfl, hrip, by simp⟩
    · refine ⟨before, rip, between ++ [event], by simp, hrip, ?_⟩
      intro other hother
      obtain hold | hnew := List.mem_append.1 hother
      · exact hbetween other hold
      · exact List.mem_singleton.1 hnew ▸ hneutral

theorem ripUnbroken_forgotten (events : List DeviceEvent) :
    RipUnbroken (events ++ [.forgotten]) := by
  intro before event after hsplit hrip hkept
  obtain ⟨-, -, rfl⟩ | ⟨rest, rfl, -⟩ := split_concat hsplit
  · exact hrip.elim
  · simp at hkept

theorem ripUnbroken_configured (events : List DeviceEvent) (setting : Setting) :
    RipUnbroken (events ++ [.configured setting]) ↔
      RipUnbroken events ∧
        (setting.IsRip → (∃ earlier ∈ events, earlier.IsRip) → EndsInRip events) := by
  constructor
  · intro h
    constructor
    · intro before event after hsplit hrip hkept
      exact h before event (after ++ [.configured setting]) (by simp [hsplit]) hrip
        (by simpa using hkept)
    · intro hrip
      exact h events (.configured setting) [] rfl hrip (by simp)
  · intro h before event after hsplit hrip hkept
    obtain ⟨-, rfl, rfl⟩ | ⟨rest, rfl, rfl⟩ := split_concat hsplit
    · exact h.2 hrip
    · exact h.1 before event rest rfl hrip (by simpa using hkept)

end DeviceEvent

namespace Device

theorem statements_replay (d : Device) (events : List DeviceEvent) :
    (d.replay events).routing.statements =
      d.routing.statements ++ events.filterMap DeviceEvent.statement? := by
  induction events generalizing d with
  | nil => simp [replay]
  | cons event rest ih =>
    rw [replay, List.foldl_cons, ← replay, ih]
    cases event with
    | configured setting =>
      cases setting <;>
        simp [after, configure, put, List.filterMap_cons, DeviceEvent.statement?]
    | forgotten => simp [after, forget, List.filterMap_cons, DeviceEvent.statement?]

/-- A device that started blank runs RIP when one of its events is a RIP statement. -/
theorem continuesRip_replay_iff {id : DeviceId} {name : String} {kind : DeviceKind}
    (events : List DeviceEvent) (setting : Setting) :
    ((blank id name kind).replay events).ContinuesRip setting ↔
      setting.IsRip ∧ ∃ earlier ∈ events, earlier.IsRip := by
  refine and_congr_right fun _ => ?_
  rw [Routing.Config.ofProtocol, statements_replay, blank, List.nil_append, ne_eq,
    List.filter_eq_nil_iff]
  simp only [List.mem_filterMap, decide_eq_true_eq, not_forall, not_not, DeviceEvent.isRip_iff]
  constructor
  · intro h
    obtain ⟨added, ⟨earlier, hearlier, hadded⟩, hrip⟩ := h
    exact ⟨earlier, hearlier, added, hadded, hrip⟩
  · intro h
    obtain ⟨earlier, hearlier, added, hadded, hrip⟩ := h
    exact ⟨added, ⟨earlier, hearlier, hadded⟩, hrip⟩

/-- The lines that are left of a log after some events, with the settings that generated them. -/
def sources (d : Device) : List DeviceEvent → List Generated → List Generated
  | [], log => log
  | .configured setting :: events, log =>
    (d.configure setting).sources events (log ++ d.generated setting)
  | .forgotten :: events, _ => d.forget.sources events []

theorem sources_append (d : Device) (xs ys : List DeviceEvent) (log : List Generated) :
    d.sources (xs ++ ys) log = (d.replay xs).sources ys (d.sources xs log) := by
  induction xs generalizing d log with
  | nil => rfl
  | cons event rest ih =>
    cases event with
    | configured setting => exact ih (d.configure setting) (log ++ d.generated setting)
    | forgotten => exact ih d.forget []

theorem lines_generated (d : Device) (setting : Setting) :
    Generated.lines (d.generated setting) = d.linesFor setting := by
  simp [Generated.lines, generated, Function.comp_def]

theorem lines_sources {d : Device} {log : List Generated} (h : Generated.lines log = d.cli)
    (events : List DeviceEvent) :
    Generated.lines (d.sources events log) = (d.replay events).cli := by
  induction events generalizing d log with
  | nil => exact h
  | cons event rest ih =>
    cases event with
    | configured setting =>
      have hlog : Generated.lines (log ++ d.generated setting) = (d.configure setting).cli := by
        rw [Generated.lines, List.map_append, ← Generated.lines, ← Generated.lines, h,
          lines_generated]
        rfl
      exact ih hlog
    | forgotten =>
      have hlog : Generated.lines [] = d.forget.cli := rfl
      exact ih hlog

section Blank
variable (id : DeviceId) (name : String) (kind : DeviceKind)

/-- The log of a device that was added blank. -/
def ownLog (events : List DeviceEvent) : List Generated := (blank id name kind).sources events []

theorem ownLog_configured (events : List DeviceEvent) (setting : Setting) :
    ownLog id name kind (events ++ [.configured setting]) =
      ownLog id name kind events ++ ((blank id name kind).replay events).generated setting := by
  rw [ownLog, sources_append]
  rfl

theorem ownLog_forgotten (events : List DeviceEvent) :
    ownLog id name kind (events ++ [.forgotten]) = [] := by
  rw [ownLog, sources_append]
  rfl

/-- Everything but RIP is in place, whatever happened to the device. -/
theorem inSections_notRip (events : List DeviceEvent) :
    Generated.InSections (fun setting => ¬ setting.IsRip) (ownLog id name kind events) := by
  induction events using List.reverseRecOn with
  | nil => exact Generated.inSections_nil
  | append_singleton events event ih =>
    cases event with
    | configured setting =>
      rw [ownLog_configured, inSections_generated]
      exact ⟨ih, fun hnot hcontinues => absurd hcontinues.1 hnot⟩
    | forgotten =>
      rw [ownLog_forgotten]
      exact Generated.inSections_nil

/-- In a log that is in place the RIP section is open exactly when the last events leave it open. -/
theorem sectionAfter_eq_rip_iff {events : List DeviceEvent}
    (h : Generated.InSections (fun _ => True) (ownLog id name kind events)) :
    Text.sectionAfter (Generated.lines (ownLog id name kind events)) = some "router rip" ↔
      DeviceEvent.EndsInRip events := by
  induction events using List.reverseRecOn with
  | nil => simp [ownLog, sources, Generated.lines, Text.sectionAfter, DeviceEvent.EndsInRip]
  | append_singleton events event ih =>
    rw [DeviceEvent.endsInRip_concat]
    cases event with
    | configured setting =>
      rw [ownLog_configured] at h ⊢
      obtain ⟨hold, hopen⟩ := (inSections_generated _ _ _).1 h
      obtain ⟨hcontinued, hopened⟩ :=
        sectionAfter_generated ((blank id name kind).replay events) setting
          (ownLog id name kind events)
      by_cases hcontinues : ((blank id name kind).replay events).ContinuesRip setting
      · rw [hcontinued hcontinues, hopen trivial hcontinues, Setting.header?_eq_rip_iff]
        simp [DeviceEvent.IsRip, hcontinues.1]
      · rw [hopened hcontinues]
        cases hheader : setting.header? with
        | none =>
          have hrip : ¬ setting.IsRip := by
            rw [← Setting.header?_eq_rip_iff, hheader]
            simp
          simp [DeviceEvent.IsRip, DeviceEvent.Neutral, hrip, hheader, ih hold]
        | some header =>
          rw [Option.some_or, ← hheader, Setting.header?_eq_rip_iff]
          simp [DeviceEvent.IsRip, DeviceEvent.Neutral, hheader]
    | forgotten =>
      rw [ownLog_forgotten]
      simp [Generated.lines, Text.sectionAfter, DeviceEvent.IsRip, DeviceEvent.Neutral]

/-- All subcommands are in place exactly when no RIP statement was cut off from its section. -/
theorem inSections_iff (events : List DeviceEvent) :
    Generated.InSections (fun _ => True) (ownLog id name kind events) ↔
      DeviceEvent.RipUnbroken events := by
  induction events using List.reverseRecOn with
  | nil => simp [ownLog, sources, Generated.inSections_nil, DeviceEvent.RipUnbroken]
  | append_singleton events event ih =>
    cases event with
    | configured setting =>
      rw [ownLog_configured, inSections_generated, DeviceEvent.ripUnbroken_configured, ← ih,
        continuesRip_replay_iff]
      refine and_congr_right fun hold => ?_
      have hopen := sectionAfter_eq_rip_iff id name kind hold
      constructor
      · intro h hrip hearlier
        rw [← hopen, h trivial ⟨hrip, hearlier⟩, Setting.header?_eq_rip_iff]
        exact hrip
      · intro h _ hcontinues
        rw [hopen.2 (h hcontinues.1 hcontinues.2), eq_comm, Setting.header?_eq_rip_iff]
        exact hcontinues.1
    | forgotten =>
      rw [ownLog_forgotten]
      exact iff_of_true Generated.inSections_nil (DeviceEvent.ripUnbroken_forgotten events)

end Blank
end Device
end NetworkConsole
