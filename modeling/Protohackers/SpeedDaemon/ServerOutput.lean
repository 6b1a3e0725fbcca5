import Protohackers.SpeedDaemon.ServerChannels

namespace SpeedDaemonProof

open SpeedDaemonModel List

def heartbeatKept (heartbeat : Heartbeat) : Turn → Prop
  | .ok (session, written) _ =>
    session.heartbeat = heartbeat ∧ (Wire.ServerMessage.heartbeat ∈ written → heartbeat.isValid = true) ∨
      heartbeat.isSetted = false ∧ written = [] ∧ ∃ period, session.heartbeat = heartbeat.setPeriod period
  | .error _ _ => True

theorem heartbeatTick_kept (session : Session) (world : World) :
    heartbeatKept session.heartbeat (heartbeatTick session world) := by
  unfold heartbeatTick
  split <;> simp_all [heartbeatKept]

theorem handleClient_kept (heartbeat : Heartbeat) (event : Event) (world : World) :
    heartbeatKept heartbeat (handleClient heartbeat event world) := by
  cases event with
  | receive frame =>
    cases frame with
    | wantHeartbeat message => cases set : heartbeat.isSetted <;> simp [handleClient, heartbeatKept, set]
    | iAmCamera message => simp only [handleClient]; split <;> simp [heartbeatKept]
    | _ => simp [handleClient, heartbeatKept]
  | tick => exact heartbeatTick_kept _ world
  | _ => simp [handleClient, heartbeatKept]

theorem handleCamera_kept (iAmCamera : Wire.IAmCamera) (guard : CameraGuard) (heartbeat : Heartbeat)
    (event : Event) (world : World) : heartbeatKept heartbeat (handleCamera iAmCamera guard heartbeat event world) := by
  cases event with
  | receive frame =>
    cases frame with
    | wantHeartbeat message => cases set : heartbeat.isSetted <;> simp [handleCamera, heartbeatKept, set]
    | _ => simp [handleCamera, heartbeatKept]
  | tick => exact heartbeatTick_kept _ world
  | _ => simp [handleCamera, heartbeatKept]

theorem handleDispatcher_kept (iAmDispatcher : Wire.IAmDispatcher) (guard : DispatcherGuard) (received : Nat)
    (heartbeat : Heartbeat) (event : Event) (world : World) :
    heartbeatKept heartbeat (handleDispatcher iAmDispatcher guard received heartbeat event world) := by
  cases event with
  | receive frame =>
    cases frame with
    | wantHeartbeat message => cases set : heartbeat.isSetted <;> simp [handleDispatcher, heartbeatKept, set]
    | _ => simp [handleDispatcher, heartbeatKept]
  | tick => exact heartbeatTick_kept _ world
  | deliver =>
    cases next : (pushesTo world.channels.sent guard.id)[received]? <;>
      simp [handleDispatcher, heartbeatKept, next]
  | endOfStream => simp [handleDispatcher, heartbeatKept]

theorem Session.step_kept (session : Session) (event : Event) (world : World) :
    heartbeatKept session.heartbeat (session.step event world) := by
  obtain ⟨role, heartbeat⟩ := session
  cases role with
  | client => exact handleClient_kept heartbeat event world
  | camera iAmCamera guard => exact handleCamera_kept iAmCamera guard heartbeat event world
  | dispatcher iAmDispatcher guard received =>
    exact handleDispatcher_kept iAmDispatcher guard received heartbeat event world

def dispatcherTurn (role : Role) : Turn → Prop
  | .ok (session, written) _ =>
    ((roleDispatcher role).isSome → (roleDispatcher session.role).isSome) ∧
      ∀ message ∈ written, message = .heartbeat ∨
        (roleDispatcher session.role).isSome ∧ ∃ ticket, message = .ticket ticket
  | .error _ _ => True

theorem heartbeatTurn_dispatcherTurn {role : Role} {turn : Turn} (heartbeats : heartbeatTurn turn)
    (reads : roleDispatcher role = none) : dispatcherTurn role turn := by
  rcases turn with ⟨⟨session, written⟩, _⟩ | _
  · exact ⟨by simp [reads], fun message member => .inl (heartbeats message member)⟩
  · trivial

theorem Session.step_dispatcherTurn (session : Session) (event : Event) (world : World) :
    dispatcherTurn session.role (session.step event world) := by
  obtain ⟨role, heartbeat⟩ := session
  cases role with
  | client => exact heartbeatTurn_dispatcherTurn (handleClient_heartbeats heartbeat event world) rfl
  | camera iAmCamera guard =>
    exact heartbeatTurn_dispatcherTurn (handleCamera_heartbeats iAmCamera guard heartbeat event world) rfl
  | dispatcher iAmDispatcher guard received =>
    have delivers := handleDispatcher_delivers iAmDispatcher guard received heartbeat event world
    simp only [Session.step]
    generalize handleDispatcher iAmDispatcher guard received heartbeat event world = turn at delivers ⊢
    rcases turn with ⟨⟨session, written⟩, _⟩ | _
    · rcases delivers with ⟨role, heartbeats⟩ | ⟨ticket, -, role, rfl⟩ <;>
        refine ⟨fun _ => by simp [role, roleDispatcher, roleRoads], fun message member => ?_⟩
      · exact .inl (heartbeats message member)
      · exact .inr ⟨by simp [role, roleDispatcher, roleRoads], ticket, mem_singleton.mp member⟩
    · trivial

def Disciplined : Connection → List Wire.ServerMessage → Prop
  | .open session, written =>
    (∀ message ∈ written, message = .heartbeat ∨
      (roleDispatcher session.role).isSome ∧ ∃ ticket, message = .ticket ticket) ∧
      (session.heartbeat.isValid = false → Wire.ServerMessage.heartbeat ∉ written) ∧
      (session.heartbeat.isValid = true → session.heartbeat.isSetted = true)
  | .closed, _ => True

theorem setPeriod_isSetted (heartbeat : Heartbeat) (period : Nat) : (heartbeat.setPeriod period).isSetted = true :=
  rfl

theorem Connection.step_disciplined (connection : Connection) (event : Event) (world : World)
    {written : List Wire.ServerMessage} (disciplined : Disciplined connection written) :
    Disciplined (connection.step event world).1 (written ++ (connection.step event world).2.2) := by
  cases connection with
  | closed => trivial
  | «open» session =>
    obtain ⟨kinds, silent, running⟩ := disciplined
    have kept := Session.step_kept session event world
    have roles := Session.step_dispatcherTurn session event world
    simp only [Connection.step]
    split
    · rename_i session' out world' stepped
      rw [stepped] at kept roles
      obtain ⟨stays, kinds'⟩ := roles
      refine ⟨fun message member => ?_, fun stopped => ?_, fun runs => ?_⟩
      · rcases mem_append.mp member with old | new
        · exact (kinds message old).imp_right fun ⟨dispatcher, ticket⟩ => ⟨stays dispatcher, ticket⟩
        · exact kinds' message new
      · rcases kept with ⟨same, writes⟩ | ⟨unset, rfl, -⟩
        · rw [same] at stopped
          rw [mem_append, not_or]
          exact ⟨silent stopped, fun member => absurd (writes member) (by simp [stopped])⟩
        · rw [append_nil]
          exact silent (Bool.eq_false_iff.mpr fun valid => by simp [running valid] at unset)
      · rcases kept with ⟨same, -⟩ | ⟨-, -, period, set⟩
        · rw [same] at runs ⊢
          exact running runs
        · rw [set]
          exact setPeriod_isSetted _ _
    · trivial

theorem forall₂_set {α β : Type} {R : α → β → Prop} {as : List α} {bs : List β}
    (related : Forall₂ R as bs) (index : Nat) {a : α} {b : β} (holds : R a b) :
    Forall₂ R (as.set index a) (bs.set index b) := by
  induction related generalizing index with
  | nil => exact .nil
  | cons head tail ih =>
    cases index with
    | zero => exact .cons holds tail
    | succ index => exact .cons head (ih index)

theorem forall₂_get? {α β : Type} {R : α → β → Prop} {as : List α} {bs : List β}
    (related : Forall₂ R as bs) {index : Nat} {a : α} (found : as.get? index = some a) :
    ∃ b, bs.get? index = some b ∧ R a b := by
  induction related generalizing index with
  | nil => cases found
  | cons head tail ih =>
    cases index with
    | zero => cases found; exact ⟨_, rfl, head⟩
    | succ index => exact ih found

theorem System.step_disciplined {system system' : System} {action : Action}
    (disciplined : Forall₂ Disciplined system.connections system.written) (stepped : system.step action = .ok system') :
    Forall₂ Disciplined system'.connections system'.written := by
  rcases System.step_cases stepped with rfl | rfl | ⟨index, connection, event, found, rfl⟩ |
    ⟨_, _, _, _, -, -, rfl⟩
  · exact disciplined
  · exact rel_append disciplined (.cons ⟨nofun, fun _ => not_mem_nil _, nofun⟩ .nil)
  · obtain ⟨written, atIndex, holds⟩ := forall₂_get? disciplined found
    rw [getD_eq_getElem?_getD, ← get?_eq_getElem?, atIndex]
    exact forall₂_set disciplined index (Connection.step_disciplined connection event system.world holds)
  · exact disciplined

/-- What a connection writes while it is open: Heartbeats, and Tickets only if it is a dispatcher;
    and no Heartbeat at all unless its heartbeat runs, that is a `WantHeartbeat` set a period that
    is not zero. -/
theorem System.reachable_output_discipline {schedule : List Action} {system : System}
    (reached : System.initial.run schedule = .ok system) :
    ∀ index session written, system.connections.get? index = some (.open session) →
      system.written.get? index = some written →
        (∀ message ∈ written, message = .heartbeat ∨
          (roleDispatcher session.role).isSome ∧ ∃ ticket, message = .ticket ticket) ∧
          (session.heartbeat.isValid = false → Wire.ServerMessage.heartbeat ∉ written) := by
  intro index session written found wrote
  have disciplined := System.run_invariant (fun system => Forall₂ Disciplined system.connections system.written)
    System.step_disciplined schedule (by exact .nil) reached
  obtain ⟨written', atIndex, ⟨kinds, silent, -⟩⟩ := forall₂_get? disciplined found
  cases wrote.symm.trans atIndex
  exact ⟨kinds, silent⟩

theorem canonical_output_discipline :
    ∃ system, System.initial.run canonicalTicketSchedule = .ok system ∧
      ∀ index session written, system.connections.get? index = some (.open session) →
        system.written.get? index = some written →
          (∀ message ∈ written, message = .heartbeat ∨
            (roleDispatcher session.role).isSome ∧ ∃ ticket, message = .ticket ticket) ∧
            (session.heartbeat.isValid = false → Wire.ServerMessage.heartbeat ∉ written) :=
  ⟨_, rfl, @System.reachable_output_discipline canonicalTicketSchedule _ rfl⟩

end SpeedDaemonProof
