import Protohackers.SpeedDaemon.Actor
import Protohackers.SpeedDaemon.Registry

namespace SpeedDaemonProof

open SpeedDaemonModel

def registryOp (controller : Controller) : ControllerMessage → RegistryOp
  | .addDispatcher id roads ticketSender => .addDispatcher id roads ticketSender
  | .removeDispatcher id => .removeDispatcher id
  | .plate plate => .sendTickets (controller.signal plate).2

theorem Actor.receive_ok {actor actor' : Actor} {message : ControllerMessage}
    {channels channels' : Channels} (received : actor.receive message channels = .ok (actor', channels')) :
    (registryOp actor.controller message).apply actor.dispatchers channels =
      .ok () (actor'.dispatchers, channels') := by
  cases message with
  | addDispatcher id roads ticketSender =>
    simp only [Actor.receive] at received
    split at received <;> cases received
    simpa [registryOp, RegistryOp.apply]
  | removeDispatcher id => cases received; rfl
  | plate plate =>
    simp only [Actor.receive] at received
    split at received <;> cases received
    simpa [registryOp, RegistryOp.apply]

theorem System.step_cases {system system' : System} {action : Action}
    (stepped : system.step action = .ok system') :
    system' = system ∨
      system' = { system with
        connections := system.connections ++ [.open Session.initial]
        written := system.written ++ [[]] } ∨
      (∃ index connection event, system.connections.get? index = some connection ∧
        system' = { system with
          connections := system.connections.set index (connection.step event system.world).1
          world := (connection.step event system.world).2.1
          written := system.written.set index
            (system.written.getD index [] ++ (connection.step event system.world).2.2) }) ∨
      ∃ message inbox actor channels, system.world.inbox = message :: inbox ∧
        system.actor.receive message system.world.channels = .ok (actor, channels) ∧
        system' = { system with actor, world := { system.world with inbox, channels } } := by
  cases action with
  | accept =>
    cases stepped
    exact .inr (.inl rfl)
  | acceptError => cases stepped
  | connection index event =>
    simp only [System.step] at stepped
    split at stepped <;> cases stepped
    · exact .inr (.inr (.inl ⟨index, _, event, ‹_›, rfl⟩))
    · exact .inl rfl
  | receive =>
    simp only [System.step] at stepped
    split at stepped
    · cases stepped
      exact .inl rfl
    · split at stepped <;> cases stepped
      exact .inr (.inr (.inr ⟨_, _, _, _, ‹_›, ‹_›, rfl⟩))

theorem System.step_unroutable {system system' : System} {action : Action}
    (unroutable : Unroutable system.actor.dispatchers) (stepped : system.step action = .ok system') :
    Unroutable system'.actor.dispatchers := by
  rcases System.step_cases stepped with rfl | rfl | ⟨_, _, _, -, rfl⟩ | ⟨_, _, _, _, -, received, rfl⟩
  · exact unroutable
  · exact unroutable
  · exact unroutable
  · exact unroutable.step (Actor.receive_ok received)

theorem System.run_invariant (invariant : System → Prop)
    (step : ∀ {system system' : System} {action : Action}, invariant system →
      system.step action = .ok system' → invariant system')
    (schedule : List Action) {system final : System} (holds : invariant system)
    (ran : system.run schedule = .ok final) : invariant final := by
  induction schedule generalizing system with
  | nil => cases ran; exact holds
  | cons action actions ih =>
    simp only [System.run] at ran
    split at ran
    · exact ih (step holds ‹_›) ran
    · cases ran

def vanishingDispatcherSchedule : List Action :=
  [.accept, .accept, .accept,
    .connection 0 (.receive (.iAmCamera ⟨66, 8, 60⟩)), .connection 0 (.receive (.plate ⟨"UN1X", 0⟩)),
    .connection 1 (.receive (.iAmCamera ⟨66, 9, 60⟩)), .connection 1 (.receive (.plate ⟨"UN1X", 45⟩)),
    .receive, .receive,
    .connection 2 (.receive (.iAmDispatcher ⟨[66]⟩)),
    .connection 2 (.receive (.unknown 0x21 (by decide))),
    .receive]

theorem actor_stops_when_dispatcher_vanishes :
    System.initial.run vanishingDispatcherSchedule = .error (.send ⟨⟨"UN1X", 66, 8, 0, 9, 45, 8000⟩⟩) := by
  rfl

def canonicalTicketSchedule : List Action :=
  [.accept, .connection 0 (.receive (.iAmCamera ⟨123, 8, 60⟩)), .connection 0 (.receive (.plate ⟨"UN1X", 0⟩)),
    .accept, .connection 1 (.receive (.iAmCamera ⟨123, 9, 60⟩)), .connection 1 (.receive (.plate ⟨"UN1X", 45⟩)),
    .accept, .connection 2 (.receive (.iAmDispatcher ⟨[123]⟩)),
    .receive, .receive, .receive,
    .connection 2 .deliver]

end SpeedDaemonProof
