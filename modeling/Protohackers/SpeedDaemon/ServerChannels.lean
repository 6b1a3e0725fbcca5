import Protohackers.SpeedDaemon.Turns
import Protohackers.SpeedDaemon.ActorRun

namespace SpeedDaemonProof

open SpeedDaemonModel

def namedSender : ControllerMessage → Option Nat
  | .addDispatcher _ _ ticketSender => some ticketSender
  | _ => none

def removedDispatcher : ControllerMessage → Option Nat
  | .removeDispatcher id => some id
  | _ => none

def roleRoads : Role → Option (Nat × List UInt16)
  | .dispatcher iAmDispatcher guard _ => some (guard.id, iAmDispatcher.roads)
  | _ => none

def connectionRoads : Connection → Option (Nat × List UInt16)
  | .open session => roleRoads session.role
  | .closed => none

def roleDispatcher (role : Role) : Option Nat := (roleRoads role).map Prod.fst

def connectionDispatcher (connection : Connection) : Option Nat := (connectionRoads connection).map Prod.fst

def liveDispatchers (connections : List Connection) : List Nat :=
  connections.filterMap connectionDispatcher

theorem liveDispatchers_eq (connections : List Connection) :
    liveDispatchers connections = (connections.filterMap connectionRoads).map Prod.fst := by
  rw [liveDispatchers, List.map_filterMap]
  rfl

inductive ChannelEffect (world : World) (reader : Option (Nat × List UInt16)) :
    World → Option (Nat × List UInt16) → Prop
  | keep {world' : World} (added : List ControllerMessage) (inbox : world'.inbox = world.inbox ++ added)
      (unnamed : added.filterMap namedSender = []) (unremoved : added.filterMap removedDispatcher = [])
      (channels : world'.channels = world.channels) (nextId : world'.nextId = world.nextId) :
      ChannelEffect world reader world' reader
  | drop {world' : World} (dispatcher : Nat × List UInt16) (reading : reader = some dispatcher)
      (inbox : world'.inbox = world.inbox ++ [.removeDispatcher dispatcher.1])
      (channels : world'.channels = world.channels.close dispatcher.1) (nextId : world'.nextId = world.nextId) :
      ChannelEffect world reader world' none
  | register (roads : List UInt16) (fresh : reader = none) :
      ChannelEffect world reader (DispatcherGuard.new world roads).2 (some (world.nextId, roads))

theorem ChannelEffect.unchanged {world world' : World} {reader : Option (Nat × List UInt16)}
    (inbox : world'.inbox = world.inbox) (channels : world'.channels = world.channels)
    (nextId : world'.nextId = world.nextId) : ChannelEffect world reader world' reader :=
  .keep [] (by simp [inbox]) rfl rfl channels nextId

section ChannelEffect

variable {world world' : World} {reader reader' : Option (Nat × List UInt16)}

theorem ChannelEffect.sent_eq (effect : ChannelEffect world reader world' reader') :
    world'.channels.sent = world.channels.sent := by
  cases effect with
  | keep _ _ _ _ channels => rw [channels]
  | drop _ _ _ channels => rw [channels]; rfl
  | register => rfl

theorem ChannelEffect.nextId_le (effect : ChannelEffect world reader world' reader') :
    world.nextId ≤ world'.nextId := by
  cases effect with
  | keep _ _ _ _ _ nextId => exact nextId ▸ Nat.le_refl _
  | drop _ _ _ _ nextId => exact nextId ▸ Nat.le_refl _
  | register => exact Nat.le_succ _

end ChannelEffect

theorem client_channelEffect (heartbeat : Heartbeat) (event : Event) (world : World) :
    ChannelEffect world none ((Connection.open ⟨.client, heartbeat⟩).step event world).2.1
      (connectionRoads ((Connection.open ⟨.client, heartbeat⟩).step event world).1) := by
  rcases handleClient_cases heartbeat event world with ⟨iAmCamera, rfl⟩ | ⟨iAmDispatcher, registered⟩ |
    keeps
  · rcases registered : CameraGuard.new world.cameras iAmCamera.road iAmCamera.limit with
      ⟨_ | guard, cameras⟩ <;>
      simp only [Connection.step, Session.step, handleClient, registered, Session.release] <;>
      exact .unchanged rfl rfl rfl
  · simp only [Connection.step, Session.step, registered]
    exact .register _ rfl
  · simp only [Connection.step, Session.step]
    split <;> rename_i stepped <;> rw [stepped] at keeps
    · obtain ⟨role, rfl⟩ := keeps
      dsimp only [connectionRoads]
      rw [role]
      exact .unchanged rfl rfl rfl
    · subst keeps
      exact .unchanged rfl rfl rfl

theorem Connection.step_channelEffect (connection : Connection) (event : Event) (world : World) :
    ChannelEffect world (connectionRoads connection) (connection.step event world).2.1
      (connectionRoads (connection.step event world).1) := by
  cases connection with
  | closed => exact .unchanged rfl rfl rfl
  | «open» session =>
    obtain ⟨role, heartbeat⟩ := session
    cases role with
    | client => exact client_channelEffect heartbeat event world
    | camera iAmCamera guard =>
      have keeps := handleCamera_keeps iAmCamera guard heartbeat event world
      simp only [Connection.step, Session.step]
      split <;> rename_i stepped <;> rw [stepped] at keeps
      · obtain ⟨role, plates, rfl⟩ := keeps
        dsimp only [connectionRoads]
        rw [role]
        exact .keep _ rfl (by simp [namedSender]) (by simp [removedDispatcher]) rfl rfl
      · subst keeps
        exact .unchanged rfl rfl rfl
    | dispatcher iAmDispatcher guard received =>
      have keeps := handleDispatcher_keeps iAmDispatcher guard received heartbeat event world
      simp only [Connection.step, Session.step]
      split <;> rename_i stepped <;> rw [stepped] at keeps
      · obtain ⟨⟨received', role⟩, rfl⟩ := keeps
        dsimp only [connectionRoads]
        rw [role]
        exact .unchanged rfl rfl rfl
      · subst keeps
        exact .drop _ rfl rfl rfl rfl

structure ChannelsFresh (system : System) : Prop where
  distinct : (liveDispatchers system.connections).Nodup
  live : ∀ id ∈ liveDispatchers system.connections, id < system.world.nextId
  queued : ∀ message ∈ system.world.inbox, ∀ sender ∈ namedSender message, sender < system.world.nextId
  registered : ∀ dispatcher ∈ system.actor.dispatchers.dispatchers,
    dispatcher.ticketSender < system.world.nextId
  sent : ∀ push ∈ system.world.channels.sent, push.1 < system.world.nextId

theorem ChannelsFresh.settle {system : System} (fresh : ChannelsFresh system) {world' : World}
    {connections' : List Connection} {written' : List (List Wire.ServerMessage)}
    (shrinks : (liveDispatchers connections').Sublist (liveDispatchers system.connections))
    {added : List ControllerMessage} (inbox : world'.inbox = system.world.inbox ++ added)
    (unnamed : added.filterMap namedSender = []) (sent : world'.channels.sent = system.world.channels.sent)
    (nextId : world'.nextId = system.world.nextId) :
    ChannelsFresh { system with connections := connections', world := world', written := written' } := by
  refine ⟨fresh.distinct.sublist shrinks, fun id member => ?_, fun message member sender named => ?_,
    fun dispatcher member => ?_, fun push member => ?_⟩ <;> dsimp only at * <;> rw [nextId]
  · exact fresh.live id (shrinks.subset member)
  · rw [inbox] at member
    rcases List.mem_append.mp member with old | new
    · exact fresh.queued message old sender named
    · have none := List.filterMap_eq_nil_iff.mp unnamed message new
      simp [none] at named
  · exact fresh.registered dispatcher member
  · rw [sent] at member
    exact fresh.sent push member

theorem ChannelsFresh.connection {system : System} (fresh : ChannelsFresh system) {world' : World}
    {reader reader' : Option (Nat × List UInt16)} {before after : List Nat} {connections' : List Connection}
    {written' : List (List Wire.ServerMessage)} (effect : ChannelEffect system.world reader world' reader')
    (old : liveDispatchers system.connections = before ++ (reader.map Prod.fst).toList ++ after)
    (new : liveDispatchers connections' = before ++ (reader'.map Prod.fst).toList ++ after) :
    ChannelsFresh { system with connections := connections', world := world', written := written' } := by
  cases effect with
  | keep added inbox unnamed _ channels nextId =>
    exact fresh.settle (by rw [old, new]) inbox unnamed (by rw [channels]) nextId
  | drop _ _ inbox channels nextId =>
    exact fresh.settle (by rw [old, new]; exact sublist_of_kept before after (.inr rfl)) inbox rfl
      (by rw [channels]; rfl) nextId
  | register roads empty =>
    subst empty
    simp only [Option.map, Option.toList, List.append_nil] at old
    have grown := fresh_middle (old ▸ fresh.distinct) (old ▸ fresh.live)
    refine ⟨?_, fun id member => ?_, fun message member sender named => ?_,
      fun dispatcher member => ?_, fun push member => ?_⟩ <;>
      simp only [DispatcherGuard.new] at * <;> rw [new] at *
    · exact grown.1
    · exact grown.2 id member
    · rcases List.mem_append.mp member with old | new
      · exact Nat.lt_succ_of_lt (fresh.queued message old sender named)
      · simp only [List.mem_singleton] at new
        subst new
        simp only [namedSender, Option.mem_def, Option.some.injEq] at named
        omega
    · exact Nat.lt_succ_of_lt (fresh.registered dispatcher member)
    · exact Nat.lt_succ_of_lt (fresh.sent push member)

theorem RegistryOp.apply_registered {op : RegistryOp} {before after : Dispatchers × Channels}
    (step : op.apply before.1 before.2 = .ok () after) :
    ∀ dispatcher ∈ after.1.dispatchers, dispatcher ∈ before.1.dispatchers ∨
      op = .addDispatcher dispatcher.id dispatcher.roads dispatcher.ticketSender := by
  intro dispatcher member
  rcases RegistryOp.apply_ok step with ⟨id, -, same, -⟩ | ⟨registered, -, -⟩
  · rw [same] at member
    exact .inl (List.mem_filter.mp member).1
  · rw [registered] at member
    cases op with
    | addDispatcher id roads ticketSender =>
      rcases List.mem_append.mp member with old | new
      · exact .inl old
      · rw [List.mem_singleton] at new
        subst new
        exact .inr rfl
    | _ => exact .inl member

theorem registryOp_eq_addDispatcher {controller : Controller} {message : ControllerMessage} {id : Nat}
    {roads : List UInt16} {ticketSender : Nat}
    (op : registryOp controller message = .addDispatcher id roads ticketSender) :
    message = .addDispatcher id roads ticketSender := by
  cases message <;> cases op
  rfl

theorem ChannelsFresh.receive {system : System} (fresh : ChannelsFresh system)
    {message : ControllerMessage} {inbox : List ControllerMessage} {actor : Actor} {channels : Channels}
    (queue : system.world.inbox = message :: inbox)
    (received : system.actor.receive message system.world.channels = .ok (actor, channels)) :
    ChannelsFresh { system with actor, world := { system.world with inbox, channels } } := by
  have applied := Actor.receive_ok received
  have registered : ∀ dispatcher ∈ actor.dispatchers.dispatchers,
      dispatcher.ticketSender < system.world.nextId := by
    intro dispatcher member
    rcases @RegistryOp.apply_registered _ (_, _) (_, _) applied dispatcher member with old | new
    · exact fresh.registered dispatcher old
    · rw [registryOp_eq_addDispatcher new] at queue
      exact fresh.queued _ (queue ▸ List.mem_cons_self _ _) _ rfl
  obtain ⟨pushes, sent, routed⟩ := @RegistryOp.apply_pushes _ (_, _) (_, _) applied
  refine ⟨fresh.distinct, fresh.live, fun later member => fresh.queued later
    (queue ▸ List.mem_cons_of_mem _ member), registered, fun push member => ?_⟩
  dsimp only at sent member
  rw [sent] at member
  rcases List.mem_append.mp member with old | new
  · exact fresh.sent push old
  · obtain ⟨dispatcher, present, sender, -⟩ := routed push new
    exact sender ▸ registered dispatcher present

theorem liveDispatchers_accept (connections : List Connection) :
    liveDispatchers (connections ++ [.open Session.initial]) = liveDispatchers connections := by
  simp [liveDispatchers, connectionDispatcher, connectionRoads, roleRoads, Session.initial]

theorem System.step_channelsFresh {system system' : System} {action : Action}
    (fresh : ChannelsFresh system) (stepped : system.step action = .ok system') :
    ChannelsFresh system' := by
  rcases System.step_cases stepped with rfl | rfl | ⟨index, connection, event, found, rfl⟩ |
    ⟨message, inbox, actor, channels, queue, received, rfl⟩
  · exact fresh
  · have same := liveDispatchers_accept system.connections
    exact ⟨same ▸ fresh.distinct, same ▸ fresh.live, fresh.queued, fresh.registered, fresh.sent⟩
  · obtain ⟨before, after⟩ := filterMap_set connectionDispatcher found (connection.step event system.world).1
    exact fresh.connection (Connection.step_channelEffect connection event system.world) before after
  · exact fresh.receive queue received

end SpeedDaemonProof
