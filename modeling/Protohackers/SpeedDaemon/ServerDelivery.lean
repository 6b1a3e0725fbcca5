import Protohackers.SpeedDaemon.ServerRegistry

namespace SpeedDaemonProof

open SpeedDaemonModel List

def readerPushes (sent : List (Nat × Ticket)) : Option Nat → List Ticket
  | some id => pushesTo sent id
  | none => []

@[simp] theorem readerPushes_append (first second : List (Nat × Ticket)) (reader : Option Nat) :
    readerPushes (first ++ second) reader = readerPushes first reader ++ readerPushes second reader := by
  cases reader <;> simp [readerPushes]

def roleReceived : Role → Nat
  | .dispatcher _ _ received => received
  | _ => 0

inductive WroteInOrder (sent : List (Nat × Ticket)) (reader : Option Nat) :
    Connection → List Wire.ServerMessage → Prop
  | live {session : Session} {written : List Wire.ServerMessage}
      (reads : reader = roleDispatcher session.role)
      (counted : roleReceived session.role ≤ (readerPushes sent reader).length)
      (tickets : ticketsOf written = (readerPushes sent reader).take (roleReceived session.role)) :
      WroteInOrder sent reader (.open session) written
  | closed {written : List Wire.ServerMessage} (tickets : ticketsOf written <+: readerPushes sent reader) :
      WroteInOrder sent reader .closed written

section WroteInOrder

variable {sent : List (Nat × Ticket)} {reader : Option Nat} {connection : Connection}
  {written : List Wire.ServerMessage}

theorem WroteInOrder.isPrefix (wrote : WroteInOrder sent reader connection written) :
    ticketsOf written <+: readerPushes sent reader := by
  cases wrote with
  | live _ _ tickets => exact tickets ▸ take_prefix _ _
  | closed tickets => exact tickets

theorem WroteInOrder.append_sent (wrote : WroteInOrder sent reader connection written)
    (later : List (Nat × Ticket)) : WroteInOrder (sent ++ later) reader connection written := by
  cases wrote with
  | live reads counted tickets =>
    refine .live reads ?_ ?_ <;> rw [readerPushes_append]
    · exact Nat.le_trans counted (length_append _ _ ▸ Nat.le_add_right _ _)
    · rw [take_append_of_le_length counted, tickets]
  | closed tickets => exact .closed (tickets.trans (readerPushes_append .. ▸ prefix_append _ _))

theorem WroteInOrder.close {session : Session} (wrote : WroteInOrder sent reader (.open session) written)
    (msg : String) : WroteInOrder sent reader .closed (written ++ [.error msg]) :=
  .closed ((ticketsOf_error written msg).symm ▸ wrote.isPrefix)

theorem WroteInOrder.unread {session : Session} (unread : roleDispatcher session.role = none)
    (quiet : ticketsOf written = []) : WroteInOrder sent none (.open session) written := by
  obtain ⟨role, heartbeat⟩ := session
  cases role with
  | dispatcher => cases unread
  | _ => exact .live unread.symm (Nat.zero_le _) quiet

end WroteInOrder

inductive LedgerStep (world : World) (reader : Option Nat) (written : List Wire.ServerMessage) :
    Connection × World × List Wire.ServerMessage → Prop
  | keep {stepped : Connection × World × List Wire.ServerMessage}
      (wrote : WroteInOrder world.channels.sent reader stepped.1 (written ++ stepped.2.2)) :
      LedgerStep world reader written stepped
  | register {stepped : Connection × World × List Wire.ServerMessage} (fresh : reader = none)
      (wrote : WroteInOrder world.channels.sent (some world.nextId) stepped.1 (written ++ stepped.2.2))
      (next : stepped.2.1.nextId = world.nextId + 1) :
      LedgerStep world reader written stepped

section LedgerStep

variable (event : Event) (world : World) {reader : Option Nat} {written : List Wire.ServerMessage}

theorem client_ledgerStep (heartbeat : Heartbeat)
    (wrote : WroteInOrder world.channels.sent reader (.open ⟨.client, heartbeat⟩) written) :
    LedgerStep world reader written ((Connection.open ⟨.client, heartbeat⟩).step event world) := by
  obtain ⟨rfl, quiet⟩ : reader = none ∧ ticketsOf written = [] := by
    cases wrote with
    | live reads _ tickets => exact ⟨reads, tickets⟩
  have silent := handleClient_heartbeats heartbeat event world
  rcases handleClient_cases heartbeat event world with ⟨iAmCamera, rfl⟩ | ⟨iAmDispatcher, registered⟩ |
    keeps
  · rcases registered : CameraGuard.new world.cameras iAmCamera.road iAmCamera.limit with
      ⟨_ | guard, cameras⟩ <;>
      simp only [Connection.step, Session.step, handleClient, registered, Session.release]
    · exact .keep (wrote.close _)
    · exact .keep (.unread rfl (by rw [append_nil, quiet]))
  · simp only [Connection.step, Session.step, registered]
    exact .register rfl (.live rfl (Nat.zero_le _) (by rw [append_nil, quiet]; rfl)) rfl
  · simp only [Connection.step, Session.step]
    split <;> rename_i stepped <;> rw [stepped] at keeps silent
    · simp only [heartbeatTurn] at silent
      exact .keep (.unread (by rw [keeps.1]; rfl) (by rw [ticketsOf_append, quiet, ticketsOf_heartbeats silent]; rfl))
    · exact .keep (wrote.close _)

theorem camera_ledgerStep (iAmCamera : Wire.IAmCamera) (guard : CameraGuard) (heartbeat : Heartbeat)
    (wrote : WroteInOrder world.channels.sent reader (.open ⟨.camera iAmCamera guard, heartbeat⟩) written) :
    LedgerStep world reader written ((Connection.open ⟨.camera iAmCamera guard, heartbeat⟩).step event world) := by
  obtain ⟨rfl, quiet⟩ : reader = none ∧ ticketsOf written = [] := by
    cases wrote with
    | live reads _ tickets => exact ⟨reads, tickets⟩
  have keeps := handleCamera_keeps iAmCamera guard heartbeat event world
  have silent := handleCamera_heartbeats iAmCamera guard heartbeat event world
  simp only [Connection.step, Session.step]
  split <;> rename_i stepped <;> rw [stepped] at keeps silent
  · simp only [heartbeatTurn] at silent
    exact .keep (.unread (by rw [keeps.1]; rfl) (by rw [ticketsOf_append, quiet, ticketsOf_heartbeats silent]; rfl))
  · exact .keep (wrote.close _)

theorem dispatcher_ledgerStep (iAmDispatcher : Wire.IAmDispatcher) (guard : DispatcherGuard)
    (received : Nat) (heartbeat : Heartbeat)
    (wrote : WroteInOrder world.channels.sent reader
      (.open ⟨.dispatcher iAmDispatcher guard received, heartbeat⟩) written) :
    LedgerStep world reader written
      ((Connection.open ⟨.dispatcher iAmDispatcher guard received, heartbeat⟩).step event world) := by
  obtain ⟨rfl, counted, tickets⟩ : reader = some guard.id ∧
      received ≤ (pushesTo world.channels.sent guard.id).length ∧
      ticketsOf written = (pushesTo world.channels.sent guard.id).take received := by
    cases wrote with
    | live reads counted tickets => subst reads; exact ⟨rfl, counted, tickets⟩
  have delivers := handleDispatcher_delivers iAmDispatcher guard received heartbeat event world
  simp only [Connection.step, Session.step]
  split <;> rename_i stepped <;> rw [stepped] at delivers
  · refine .keep ?_
    rcases delivers with ⟨role, silent⟩ | ⟨ticket, next, role, delivered⟩
    · refine .live (by rw [role]; rfl) (by rw [role]; exact counted) ?_
      rw [role, ticketsOf_append, ticketsOf_heartbeats silent, append_nil, tickets]
      rfl
    · refine .live (by rw [role]; rfl) (by rw [role]; exact (getElem?_eq_some_iff.mp next).1) ?_
      rw [role, ticketsOf_append, delivered, tickets]
      show _ = take (received + 1) (pushesTo world.channels.sent guard.id)
      rw [take_succ, next]
      rfl
  · exact .keep (wrote.close _)

theorem Connection.step_ledgerStep (connection : Connection)
    (wrote : WroteInOrder world.channels.sent reader connection written) :
    LedgerStep world reader written (connection.step event world) := by
  cases connection with
  | closed => exact .keep (by simpa only [Connection.step, append_nil] using wrote)
  | «open» session =>
    obtain ⟨role, heartbeat⟩ := session
    cases role with
    | client => exact client_ledgerStep event world heartbeat wrote
    | camera iAmCamera guard => exact camera_ledgerStep event world iAmCamera guard heartbeat wrote
    | dispatcher iAmDispatcher guard received =>
      exact dispatcher_ledgerStep event world iAmDispatcher guard received heartbeat wrote

end LedgerStep

structure LedgerEntry where
  connection : Connection
  reader : Option Nat
  written : List Wire.ServerMessage

structure Delivered (system : System) (ledger : List LedgerEntry) : Prop where
  connections : ledger.map LedgerEntry.connection = system.connections
  written : ledger.map LedgerEntry.written = system.written
  distinct : (ledger.filterMap LedgerEntry.reader).Nodup
  fresh : ∀ id ∈ ledger.filterMap LedgerEntry.reader, id < system.world.nextId
  ordered : ∀ entry ∈ ledger,
    WroteInOrder system.world.channels.sent entry.reader entry.connection entry.written

theorem Delivered.accept {system : System} {ledger : List LedgerEntry} (delivered : Delivered system ledger) :
    Delivered { system with
        connections := system.connections ++ [.open Session.initial]
        written := system.written ++ [[]] }
      (ledger ++ [⟨.open Session.initial, none, []⟩]) := by
  refine ⟨?_, ?_, ?_, ?_, fun entry member => ?_⟩
  · rw [map_append, delivered.connections]; rfl
  · rw [map_append, delivered.written]; rfl
  · simpa using delivered.distinct
  · simpa using delivered.fresh
  · rcases mem_append.mp member with old | new
    · exact delivered.ordered entry old
    · rw [mem_singleton.mp new]
      exact .live rfl (Nat.zero_le _) rfl

theorem Delivered.set {system : System} {ledger : List LedgerEntry} (delivered : Delivered system ledger)
    (index : Nat) (entry : LedgerEntry) {world' : World} (sent : world'.channels.sent = system.world.channels.sent)
    (distinct : ((ledger.set index entry).filterMap LedgerEntry.reader).Nodup)
    (fresh : ∀ id ∈ (ledger.set index entry).filterMap LedgerEntry.reader, id < world'.nextId)
    (wrote : WroteInOrder system.world.channels.sent entry.reader entry.connection entry.written) :
    Delivered { system with
        connections := system.connections.set index entry.connection
        world := world'
        written := system.written.set index entry.written } (ledger.set index entry) := by
  refine ⟨?_, ?_, distinct, fresh, fun other member => ?_⟩
  · rw [map_set, delivered.connections]
  · rw [map_set, delivered.written]
  · dsimp only
    rw [sent]
    rcases mem_or_eq_of_mem_set member with old | rfl
    · exact delivered.ordered other old
    · exact wrote

theorem Delivered.connection {system : System} {ledger : List LedgerEntry}
    (delivered : Delivered system ledger) {index : Nat} {connection : Connection}
    (found : system.connections.get? index = some connection) (event : Event) :
    ∃ ledger', Delivered { system with
      connections := system.connections.set index (connection.step event system.world).1
      world := (connection.step event system.world).2.1
      written := system.written.set index
        (system.written.getD index [] ++ (connection.step event system.world).2.2) } ledger' := by
  rw [← delivered.connections, get?_eq_getElem?, getElem?_map, Option.map_eq_some'] at found
  obtain ⟨entry, atIndex, rfl⟩ := found
  have writtenAt : system.written.getD index [] = entry.written := by
    rw [← delivered.written, getD_eq_getElem?_getD, getElem?_map, atIndex]
    rfl
  have effect := Connection.step_channelEffect entry.connection event system.world
  have stepped := Connection.step_ledgerStep event system.world entry.connection
    (delivered.ordered entry (getElem?_mem atIndex))
  generalize entry.connection.step event system.world = after at effect stepped ⊢
  obtain ⟨connection', world', out⟩ := after
  have sent := effect.sent_eq
  have grows := effect.nextId_le
  rw [writtenAt]
  have split := filterMap_set LedgerEntry.reader (get?_eq_getElem? .. ▸ atIndex)
  have old := (split entry).1
  cases stepped with
  | keep wrote =>
    refine ⟨_, delivered.set index ⟨connection', entry.reader, entry.written ++ out⟩ sent ?_
      (fun id member => ?_) wrote⟩
    · rw [(split _).2, ← old]
      exact delivered.distinct
    · rw [(split _).2, ← old] at member
      exact Nat.lt_of_lt_of_le (delivered.fresh id member) grows
  | register none wrote next =>
    have below := delivered.fresh
    have distinct := delivered.distinct
    rw [old, none] at below distinct
    simp only [Option.toList, append_nil] at below distinct
    have grown := fresh_middle distinct below
    dsimp only at next
    refine ⟨_, delivered.set index ⟨connection', some system.world.nextId, entry.written ++ out⟩ sent ?_ ?_ wrote⟩
    · rw [(split _).2]
      exact grown.1
    · rw [(split _).2, next]
      exact grown.2

theorem Delivered.receive {system : System} {ledger : List LedgerEntry} (delivered : Delivered system ledger)
    {message : ControllerMessage} {inbox : List ControllerMessage} {actor : Actor} {channels : Channels}
    (received : system.actor.receive message system.world.channels = .ok (actor, channels)) :
    Delivered { system with actor, world := { system.world with inbox, channels } } ledger := by
  obtain ⟨pushes, sent, -⟩ := @RegistryOp.apply_pushes _ (_, _) (_, _) (Actor.receive_ok received)
  dsimp only at sent
  exact ⟨delivered.connections, delivered.written, delivered.distinct, delivered.fresh,
    fun entry member => sent ▸ (delivered.ordered entry member).append_sent pushes⟩

theorem System.step_delivered {system system' : System} {action : Action} {ledger : List LedgerEntry}
    (delivered : Delivered system ledger) (stepped : system.step action = .ok system') :
    ∃ ledger', Delivered system' ledger' := by
  rcases System.step_cases stepped with rfl | rfl | ⟨_, _, event, found, rfl⟩ | ⟨_, _, _, _, -, received, rfl⟩
  · exact ⟨ledger, delivered⟩
  · exact ⟨_, delivered.accept⟩
  · exact delivered.connection found event
  · exact ⟨ledger, delivered.receive received⟩

theorem System.reachable_delivered {schedule : List Action} {system : System}
    (reached : System.initial.run schedule = .ok system) : ∃ ledger, Delivered system ledger :=
  System.run_invariant (fun system => ∃ ledger, Delivered system ledger)
    (fun ⟨_, delivered⟩ stepped => System.step_delivered delivered stepped) schedule
    (by exact ⟨[], rfl, rfl, nodup_nil, nofun, nofun⟩) reached

theorem Delivered.live_dispatcher {system : System} {ledger : List LedgerEntry}
    (delivered : Delivered system ledger) {index : Nat} {iAmDispatcher : Wire.IAmDispatcher}
    {guard : DispatcherGuard} {received : Nat} {heartbeat : Heartbeat}
    (live : system.connections.get? index = some (.open ⟨.dispatcher iAmDispatcher guard received, heartbeat⟩)) :
    ∃ written, system.written.get? index = some written ∧
      received ≤ (pushesTo system.world.channels.sent guard.id).length ∧
      ticketsOf written = (pushesTo system.world.channels.sent guard.id).take received := by
  rw [← delivered.connections, get?_eq_getElem?, getElem?_map, Option.map_eq_some'] at live
  obtain ⟨entry, atIndex, same⟩ := live
  have ordered := delivered.ordered entry (getElem?_mem atIndex)
  rw [same] at ordered
  refine ⟨entry.written, by rw [← delivered.written, get?_eq_getElem?, getElem?_map, atIndex]; rfl, ?_⟩
  cases ordered with
  | live reads counted tickets =>
    rw [reads] at counted tickets
    exact ⟨counted, tickets⟩

theorem Delivered.written_prefix {system : System} {ledger : List LedgerEntry} (delivered : Delivered system ledger) :
    ∀ written ∈ system.written, ∃ id, ticketsOf written <+: pushesTo system.world.channels.sent id := by
  intro written member
  rw [← delivered.written] at member
  obtain ⟨entry, inLedger, rfl⟩ := mem_map.mp member
  have ordered := (delivered.ordered entry inLedger).isPrefix
  cases reader : entry.reader with
  | none =>
    rw [reader] at ordered
    exact ⟨0, (prefix_nil.mp ordered) ▸ nil_prefix⟩
  | some id =>
    rw [reader] at ordered
    exact ⟨id, ordered⟩

/-- End to end: every connection has written its tickets in the order the controller emitted
    them. -/
theorem System.reachable_written_in_emission_order {schedule : List Action} {system : System}
    (reached : System.initial.run schedule = .ok system) :
    ∀ written ∈ system.written,
      (ticketsOf written).Sublist (emittedTickets (actorCalls System.initial schedule)) := by
  intro written member
  obtain ⟨ledger, delivered⟩ := System.reachable_delivered reached
  obtain ⟨id, initial⟩ := delivered.written_prefix written member
  exact initial.sublist.trans ((System.reachable_ordered reached).pushes id)

theorem canonical_written_in_emission_order :
    ∃ system, System.initial.run canonicalTicketSchedule = .ok system ∧
      ∀ written ∈ system.written,
        (ticketsOf written).Sublist (emittedTickets (actorCalls System.initial canonicalTicketSchedule)) :=
  ⟨_, rfl, System.reachable_written_in_emission_order rfl⟩

theorem flatMap_pushesTo_subperm (sent : List (Nat × Ticket)) {channels : List Nat}
    (distinct : channels.Nodup) : channels.flatMap (pushesTo sent) <+~ sent.map Prod.snd := by
  induction channels generalizing sent with
  | nil => exact nil_subperm
  | cons channel rest ih =>
    obtain ⟨fresh, distinct⟩ := nodup_cons.mp distinct
    have others : rest.flatMap (pushesTo sent) =
        rest.flatMap (pushesTo (sent.filter fun push => !decide (push.1 = channel))) := by
      refine flatMap_congr fun other member => ?_
      simp only [pushesTo, filter_filter]
      congr 1
      refine filter_congr fun push _ => ?_
      by_cases same : push.1 = other
      · simp [same, show other ≠ channel from fun h => fresh (h ▸ member)]
      · simp [same]
    rw [flatMap_cons, others]
    refine ((subperm_append_left _).mpr (ih _ distinct)).trans ?_
    rw [pushesTo, ← map_append]
    exact ((filter_append_perm _ sent).map Prod.snd).subperm

theorem ledger_tickets_sublist (sent : List (Nat × Ticket)) (ledger : List LedgerEntry)
    (ordered : ∀ entry ∈ ledger, ticketsOf entry.written <+: readerPushes sent entry.reader) :
    (ledger.map LedgerEntry.written).flatMap ticketsOf <+
      (ledger.filterMap LedgerEntry.reader).flatMap (pushesTo sent) := by
  induction ledger with
  | nil => exact Sublist.refl _
  | cons entry rest ih =>
    rw [map_cons, flatMap_cons, filterMap_cons_toList, flatMap_append]
    refine Sublist.append ?_ (ih fun other member => ordered other (mem_cons_of_mem _ member))
    have first := (ordered entry (mem_cons_self _ _)).sublist
    cases reader : entry.reader with
    | none => simpa [reader, readerPushes] using first
    | some id => simpa [reader, readerPushes] using first

/-- No ticket is written to more sockets, or more often, than `run` sent it, and every ticket
    written was emitted by the controller. -/
theorem System.reachable_tickets_written_once {schedule : List Action} {system : System}
    (reached : System.initial.run schedule = .ok system) :
    system.written.flatMap ticketsOf <+~ system.world.channels.sent.map Prod.snd ∧
      system.written.flatMap ticketsOf <+~ emittedTickets (actorCalls System.initial schedule) := by
  obtain ⟨ledger, delivered⟩ := System.reachable_delivered reached
  have once : system.written.flatMap ticketsOf <+~ system.world.channels.sent.map Prod.snd := by
    rw [← delivered.written]
    exact (ledger_tickets_sublist _ ledger fun entry member => (delivered.ordered entry member).isPrefix).subperm.trans
      (flatMap_pushesTo_subperm _ delivered.distinct)
  exact ⟨once, once.trans ((sublist_append_right _ _).subperm.trans
    (runRegistry_conserved _ [] (actorCalls_run schedule reached)).symm.subperm)⟩

theorem canonical_tickets_written_once :
    ∃ system, System.initial.run canonicalTicketSchedule = .ok system ∧
      system.written.flatMap ticketsOf <+~ system.world.channels.sent.map Prod.snd ∧
        system.written.flatMap ticketsOf <+~ emittedTickets (actorCalls System.initial canonicalTicketSchedule) :=
  ⟨_, rfl, System.reachable_tickets_written_once rfl⟩

example : (System.initial.run canonicalTicketSchedule).map System.written =
    .ok [[], [], [.ticket ⟨"UN1X", 123, 8, 0, 9, 45, 8000⟩]] := by
  rfl

end SpeedDaemonProof
