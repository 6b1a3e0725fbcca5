import Mathlib.Data.List.Nodup
import Protohackers.SpeedDaemon.Session

namespace SpeedDaemonProof

open SpeedDaemonModel

def forwardPlates (world : World) (plates : List Plate) : World :=
  { world with inbox := world.inbox ++ plates.map .plate }

@[simp] theorem forwardPlates_nil (world : World) : forwardPlates world [] = world := by
  simp [forwardPlates]

theorem handleCamera_keeps (iAmCamera : Wire.IAmCamera) (guard : CameraGuard) (heartbeat : Heartbeat)
    (event : Event) (world : World) :
    match handleCamera iAmCamera guard heartbeat event world with
    | .ok (session, _) world' =>
      session.role = .camera iAmCamera guard ∧ ∃ plates, world' = forwardPlates world plates
    | .error _ world' => world' = world := by
  have unchanged : ∃ plates, world = forwardPlates world plates := ⟨[], (forwardPlates_nil world).symm⟩
  cases event with
  | receive frame =>
    cases frame with
    | plate message => exact ⟨rfl, [_], rfl⟩
    | wantHeartbeat message =>
      cases set : heartbeat.isSetted
      · simpa [handleCamera, set] using unchanged
      · simp [handleCamera, set]
    | _ => rfl
  | tick => cases valid : heartbeat.isValid <;> simpa [handleCamera, heartbeatTick, valid] using unchanged
  | deliver => exact ⟨rfl, unchanged⟩
  | endOfStream => rfl

theorem handleDispatcher_keeps (iAmDispatcher : Wire.IAmDispatcher) (guard : DispatcherGuard)
    (received : Nat) (heartbeat : Heartbeat) (event : Event) (world : World) :
    match handleDispatcher iAmDispatcher guard received heartbeat event world with
    | .ok (session, _) world' => (∃ received', session.role = .dispatcher iAmDispatcher guard received') ∧
      world' = world
    | .error _ world' => world' = world := by
  cases event with
  | receive frame =>
    cases frame with
    | wantHeartbeat message => cases set : heartbeat.isSetted <;> simp [handleDispatcher, set]
    | _ => rfl
  | tick => cases valid : heartbeat.isValid <;> simp [handleDispatcher, heartbeatTick, valid]
  | deliver =>
    cases next : (pushesTo world.channels.sent guard.id)[received]? <;> simp [handleDispatcher, next]
  | endOfStream => rfl

theorem handleClient_cases (heartbeat : Heartbeat) (event : Event) (world : World) :
    (∃ iAmCamera, event = .receive (.iAmCamera iAmCamera)) ∨
      (∃ iAmDispatcher, handleClient heartbeat event world =
        .ok (⟨.dispatcher iAmDispatcher ⟨world.nextId⟩ 0, heartbeat⟩, [])
          (DispatcherGuard.new world iAmDispatcher.roads).2) ∨
      match handleClient heartbeat event world with
      | .ok (session, _) world' => session.role = .client ∧ world' = world
      | .error _ world' => world' = world := by
  cases event with
  | receive frame =>
    cases frame with
    | iAmCamera iAmCamera => exact .inl ⟨iAmCamera, rfl⟩
    | iAmDispatcher iAmDispatcher => exact .inr (.inl ⟨iAmDispatcher, rfl⟩)
    | wantHeartbeat message =>
      cases set : heartbeat.isSetted <;> simp [handleClient, set]
    | _ => exact .inr (.inr rfl)
  | tick => cases valid : heartbeat.isValid <;> simp [handleClient, heartbeatTick, valid]
  | _ => exact .inr (.inr (by simp [handleClient]))

theorem filterMap_cons_toList {α β : Type} (f : α → Option β) (item : α) (rest : List α) :
    (item :: rest).filterMap f = (f item).toList ++ rest.filterMap f := by
  cases known : f item <;> simp [known]

theorem filterMap_set {α β : Type} (f : α → Option β) {items : List α} {index : Nat} {item : α}
    (found : items.get? index = some item) (replacement : α) :
    items.filterMap f =
        (items.take index).filterMap f ++ (f item).toList ++ (items.drop (index + 1)).filterMap f ∧
      (items.set index replacement).filterMap f =
        (items.take index).filterMap f ++ (f replacement).toList ++ (items.drop (index + 1)).filterMap f := by
  obtain ⟨bound, rfl⟩ := List.get?_eq_some.mp found
  have split := List.take_append_drop index items
  rw [List.drop_eq_getElem_cons bound] at split
  rw [List.set_eq_take_append_cons_drop, if_pos bound]
  constructor
  · conv => lhs; rw [← split]
    rw [List.filterMap_append, filterMap_cons_toList, List.append_assoc]
    rfl
  · rw [List.filterMap_append, filterMap_cons_toList, List.append_assoc]

theorem sublist_of_kept {β : Type} (before after : List β) {item item' : Option β}
    (kept : item' = item ∨ item' = none) :
    (before ++ item'.toList ++ after).Sublist (before ++ item.toList ++ after) := by
  rcases kept with rfl | rfl
  · exact List.Sublist.refl _
  · exact ((List.Sublist.refl before).append (List.nil_sublist _)).append (List.Sublist.refl after)

theorem mem_around {α : Type} {before after : List α} {item other : α} :
    other ∈ before ++ [item] ++ after ↔ other ∈ before ++ after ∨ other = item := by
  rw [List.append_assoc, List.singleton_append, List.perm_middle.mem_iff, List.mem_cons, or_comm]

theorem fresh_middle {before after : List Nat} {next : Nat} (distinct : (before ++ after).Nodup)
    (below : ∀ id ∈ before ++ after, id < next) :
    (before ++ [next] ++ after).Nodup ∧ ∀ id ∈ before ++ [next] ++ after, id < next + 1 := by
  refine ⟨?_, fun id member => ?_⟩
  · rw [List.append_assoc, List.singleton_append]
    exact List.nodup_middle.mpr (List.nodup_cons.mpr ⟨fun stale => Nat.lt_irrefl _ (below _ stale), distinct⟩)
  · simp only [List.mem_append, List.mem_singleton] at member
    rcases member with (member | rfl) | member
    · exact Nat.lt_succ_of_lt (below id (List.mem_append_left _ member))
    · exact Nat.lt_succ_self _
    · exact Nat.lt_succ_of_lt (below id (List.mem_append_right _ member))

def ticketsOf (written : List Wire.ServerMessage) : List Ticket :=
  written.filterMap fun
    | .ticket ticket => some ticket
    | _ => none

@[simp] theorem ticketsOf_append (first second : List Wire.ServerMessage) :
    ticketsOf (first ++ second) = ticketsOf first ++ ticketsOf second :=
  List.filterMap_append _ _ _

@[simp] theorem ticketsOf_error (written : List Wire.ServerMessage) (msg : String) :
    ticketsOf (written ++ [.error msg]) = ticketsOf written := by
  simp [ticketsOf]

def Heartbeats (written : List Wire.ServerMessage) : Prop := ∀ message ∈ written, message = .heartbeat

theorem ticketsOf_heartbeats {written : List Wire.ServerMessage} (heartbeats : Heartbeats written) :
    ticketsOf written = [] :=
  List.filterMap_eq_nil_iff.mpr fun message member => by rw [heartbeats message member]

def heartbeatTurn : Turn → Prop
  | .ok (_, written) _ => Heartbeats written
  | .error _ _ => True

theorem heartbeatTick_heartbeats (session : Session) (world : World) :
    heartbeatTurn (heartbeatTick session world) := by
  unfold heartbeatTick
  split <;> simp [heartbeatTurn, Heartbeats]

theorem handleClient_heartbeats (heartbeat : Heartbeat) (event : Event) (world : World) :
    heartbeatTurn (handleClient heartbeat event world) := by
  cases event with
  | receive frame => cases frame <;> simp only [handleClient] <;> (try split) <;> simp [heartbeatTurn, Heartbeats]
  | tick => exact heartbeatTick_heartbeats _ world
  | _ => simp [handleClient, heartbeatTurn, Heartbeats]

theorem handleCamera_heartbeats (iAmCamera : Wire.IAmCamera) (guard : CameraGuard) (heartbeat : Heartbeat)
    (event : Event) (world : World) : heartbeatTurn (handleCamera iAmCamera guard heartbeat event world) := by
  cases event with
  | receive frame => cases frame <;> simp only [handleCamera] <;> (try split) <;> simp [heartbeatTurn, Heartbeats]
  | tick => exact heartbeatTick_heartbeats _ world
  | _ => simp [handleCamera, heartbeatTurn, Heartbeats]

theorem handleDispatcher_delivers (iAmDispatcher : Wire.IAmDispatcher) (guard : DispatcherGuard)
    (received : Nat) (heartbeat : Heartbeat) (event : Event) (world : World) :
    match handleDispatcher iAmDispatcher guard received heartbeat event world with
    | .ok (session, written) _ =>
      session.role = .dispatcher iAmDispatcher guard received ∧ Heartbeats written ∨
        ∃ ticket, (pushesTo world.channels.sent guard.id)[received]? = some ticket ∧
          session.role = .dispatcher iAmDispatcher guard (received + 1) ∧ written = [.ticket ticket]
    | .error _ _ => True := by
  cases event with
  | receive frame =>
    cases frame with
    | wantHeartbeat message => cases set : heartbeat.isSetted <;> simp [handleDispatcher, set, Heartbeats]
    | _ => trivial
  | tick => cases valid : heartbeat.isValid <;> simp [handleDispatcher, heartbeatTick, valid, Heartbeats]
  | deliver =>
    cases next : (pushesTo world.channels.sent guard.id)[received]? <;>
      simp [handleDispatcher, next, Heartbeats]
  | endOfStream => trivial

end SpeedDaemonProof
