import NetworkConsole.Proofs.Network.Configuring
import NetworkConsole.Proofs.Session.Soundness

/-! What a configuring operation touches, and that the user is shown what it logs. -/
namespace NetworkConsole

/-- The command that makes the setting on a device. -/
def Setting.command (setting : Setting) (device : String) : Command :=
  match setting with
  | .interface name address mask => .setInterface device name address mask
  | .hostname given => .setHostname device given
  | .statement added => .route device added
  | .rule number action entry => .filter device number action entry

section
variable {σ : Type} {net after : Network} {reply : Reply}

/-- A session that answers with the output of a reply. -/
theorem Session.change_of_map {α : Type} {f : α → Reply} {step : Network.Change α}
    (hok : Network.Change.map f step net = (.ok reply, after)) {answer : α → Answer}
    (houtput : ∀ a, (answer a).output = (f a).output) (store : σ) :
    ∃ shown, (Session.mk net store).change step answer = (.ok shown, ⟨after, store⟩) ∧
      shown.output = reply.output := by
  rw [Network.Change.map] at hok
  cases hstep : step net with
  | mk result next =>
    cases result with
    | error e => simp [hstep, Except.map] at hok
    | ok a =>
      simp only [hstep, Except.map, Prod.mk.injEq, Except.ok.injEq] at hok
      obtain ⟨rfl, rfl⟩ := hok
      exact ⟨answer a, by simp only [Session.change, hstep], houtput a⟩

theorem Setting.execute_command [ConfigStore σ] {setting : Setting} {device : String}
    (hok : setting.change device net = (.ok reply, after)) (store : σ) :
    ∃ answer, (setting.command device).execute ⟨net, store⟩ = (.ok answer, ⟨after, store⟩) ∧
      answer.output = reply.output := by
  cases setting with
  | interface | hostname | statement | rule =>
    exact Session.change_of_map hok (fun _ => rfl) store

end

/-- A configuring operation that succeeds changes one aspect of its device and nothing else, and it
logs, on this device and in the history, the lines that it answers with and that the handler of its
command shows. Adding devices and links logs nothing. -/
theorem configuring_frame {net : Network} (h : net.Reachable) :
    (∀ (setting : Setting) (device : String) (reply : Reply) (after : Network),
      setting.change device net = (.ok reply, after) →
        net.Frame device setting.aspect reply.output after ∧
          ∀ (σ : Type) [ConfigStore σ] (store : σ) (raw : String),
            let command := setting.command device
            ∃ answer, Handler.standard command.kind ⟨raw, command⟩ ⟨net, store⟩ =
                (.ok answer, ⟨after, store⟩) ∧ answer.output = reply.output) ∧
    (∀ name kind, net.SameLogs (Network.addDevice name kind net).2) ∧
    ∀ a b cable, net.SameLogs (Network.addLink a b cable net).2 := by
  refine ⟨fun setting device reply after hok => ⟨Network.frame_change h.coherent hok, ?_⟩,
    Network.sameLogs_addDevice h.coherent, Network.sameLogs_addLink h.coherent⟩
  intro σ _ store raw command
  rw [Handler.standard_of_kind]
  exact Setting.execute_command hok store

/-- The second RIP statement of a device shows one line. -/
theorem configuring_frame_rip :
    let net := Network.run [.addDevice "r1" .router, .addDevice "r2" .router,
      .addStatement "r1" (.rip (.ofOctets 10 0 0 0))] .empty
    let setting := Setting.statement (.rip (.ofOctets 172 16 0 0))
    let after := (setting.change "r1" net).2
    let command := setting.command "r1"
    net.Reachable ∧ net.Frame "r1" (.statements .rip) ["network 172.16.0.0"] after ∧
      (∃ answer, Handler.standard .setRip ⟨"set rip r1 172.16.0.0", command⟩
          ⟨net, ({} : MemoryStore)⟩ = (.ok answer, ⟨after, {}⟩) ∧
        answer.output = ["network 172.16.0.0"]) ∧
      net.SameLogs (Network.addDevice "r3" .host net).2 ∧
      net.SameLogs (Network.addLink "r1" "r2" .fiber net).2 := by
  intro net setting after command
  have hnet : net.Reachable := .operation (.operation (.operation .empty _) _) _
  have hreply : (setting.change "r1" net).1 = .ok (.generated ["network 172.16.0.0"]) := by
    decide +kernel
  obtain ⟨hsettings, hdevices, hlinks⟩ := configuring_frame hnet
  obtain ⟨hframe, hshown⟩ := hsettings setting "r1" _ after (Prod.ext hreply rfl)
  exact ⟨hnet, hframe, hshown MemoryStore {} _, hdevices "r3" .host, hlinks "r1" "r2" .fiber⟩

end NetworkConsole
