import Protohackers.SpeedDaemon.ServerDelivery

namespace SpeedDaemonProof

open SpeedDaemonModel List

structure RoadsTracked (system : System) (roadsOf : Nat → List UInt16) : Prop where
  live : ∀ dispatcher ∈ system.connections.filterMap connectionRoads, roadsOf dispatcher.1 = dispatcher.2
  queued : ∀ id roads ticketSender, ControllerMessage.addDispatcher id roads ticketSender ∈ system.world.inbox →
    roadsOf ticketSender = roads
  registered : ∀ dispatcher ∈ system.actor.dispatchers.dispatchers,
    roadsOf dispatcher.ticketSender = dispatcher.roads
  sent : ∀ push ∈ system.world.channels.sent, push.2.road ∈ roadsOf push.1

theorem update_below (roadsOf : Nat → List UInt16) {nextId id : Nat} (roads : List UInt16)
    (below : id < nextId) : Function.update roadsOf nextId roads id = roadsOf id :=
  Function.update_noteq (Nat.ne_of_lt below) _ _

theorem RoadsTracked.connection {system : System} {roadsOf : Nat → List UInt16}
    (fresh : ChannelsFresh system) (tracked : RoadsTracked system roadsOf) {world' : World}
    {reader reader' : Option (Nat × List UInt16)} {before after : List (Nat × List UInt16)}
    {connections' : List Connection} {written' : List (List Wire.ServerMessage)}
    (effect : ChannelEffect system.world reader world' reader')
    (old : system.connections.filterMap connectionRoads = before ++ reader.toList ++ after)
    (new : connections'.filterMap connectionRoads = before ++ reader'.toList ++ after) :
    ∃ roadsOf', RoadsTracked { system with connections := connections', world := world', written := written' }
      roadsOf' := by
  have settle : ∀ {added : List ControllerMessage},
      (connections'.filterMap connectionRoads).Sublist (system.connections.filterMap connectionRoads) →
      world'.inbox = system.world.inbox ++ added → added.filterMap namedSender = [] →
      world'.channels.sent = system.world.channels.sent →
      ∃ roadsOf', RoadsTracked { system with connections := connections', world := world', written := written' }
        roadsOf' := by
    intro added shrinks inbox unnamed sent
    refine ⟨roadsOf, fun dispatcher member => tracked.live dispatcher (shrinks.subset member),
      fun id roads ticketSender member => ?_, tracked.registered, fun push member => ?_⟩ <;> dsimp only at member
    · rw [inbox] at member
      rcases mem_append.mp member with old | new
      · exact tracked.queued id roads ticketSender old
      · cases filterMap_eq_nil_iff.mp unnamed _ new
    · exact tracked.sent push (sent ▸ member)
  cases effect with
  | keep _ inbox unnamed _ channels _ => exact settle (by rw [old, new]) inbox unnamed (by rw [channels])
  | drop _ _ inbox channels _ =>
    exact settle (by rw [old, new]; exact sublist_of_kept before after (.inr rfl)) inbox rfl (by rw [channels]; rfl)
  | register roads empty =>
    subst empty
    simp only [Option.toList, append_nil] at old new
    have below : ∀ dispatcher ∈ before ++ after, dispatcher.1 < system.world.nextId := fun dispatcher member =>
      fresh.live _ (by rw [liveDispatchers_eq, old]; exact mem_map_of_mem _ member)
    refine ⟨Function.update roadsOf system.world.nextId roads, fun dispatcher member => ?_,
      fun id roads' ticketSender member => ?_, fun dispatcher member => ?_, fun push member => ?_⟩ <;>
      dsimp only [DispatcherGuard.new] at member
    · rw [new] at member
      rcases mem_around.mp member with member | rfl
      · rw [update_below _ _ (below _ member)]
        exact tracked.live _ (old ▸ member)
      · exact Function.update_same _ _ _
    · rcases mem_append.mp member with old | new
      · rw [update_below _ _ (fresh.queued _ old ticketSender rfl)]
        exact tracked.queued id roads' ticketSender old
      · obtain ⟨-, rfl, rfl⟩ := ControllerMessage.addDispatcher.inj (mem_singleton.mp new)
        exact Function.update_same _ _ _
    · rw [update_below _ _ (fresh.registered dispatcher member)]
      exact tracked.registered dispatcher member
    · rw [update_below _ _ (fresh.sent push member)]
      exact tracked.sent push member

theorem RoadsTracked.receive {system : System} {roadsOf : Nat → List UInt16}
    (tracked : RoadsTracked system roadsOf) {message : ControllerMessage} {inbox : List ControllerMessage}
    {actor : Actor} {channels : Channels} (queue : system.world.inbox = message :: inbox)
    (received : system.actor.receive message system.world.channels = .ok (actor, channels)) :
    RoadsTracked { system with actor, world := { system.world with inbox, channels } } roadsOf := by
  have applied := Actor.receive_ok received
  have registered : ∀ dispatcher ∈ actor.dispatchers.dispatchers,
      roadsOf dispatcher.ticketSender = dispatcher.roads := by
    intro dispatcher member
    rcases @RegistryOp.apply_registered _ (_, _) (_, _) applied dispatcher member with old | new
    · exact tracked.registered dispatcher old
    · rw [registryOp_eq_addDispatcher new] at queue
      exact tracked.queued _ _ _ (queue ▸ mem_cons_self _ _)
  obtain ⟨pushes, sent, routed⟩ := @RegistryOp.apply_pushes _ (_, _) (_, _) applied
  refine ⟨tracked.live, fun id roads ticketSender member => tracked.queued id roads ticketSender
    (queue ▸ mem_cons_of_mem _ member), registered, fun push member => ?_⟩
  dsimp only at sent member
  rw [sent] at member
  rcases mem_append.mp member with old | new
  · exact tracked.sent push old
  · obtain ⟨dispatcher, present, sender, road⟩ := routed push new
    rw [← sender, registered dispatcher present]
    exact road

theorem System.step_roadsTracked {system system' : System} {action : Action} {roadsOf : Nat → List UInt16}
    (fresh : ChannelsFresh system) (tracked : RoadsTracked system roadsOf)
    (stepped : system.step action = .ok system') : ∃ roadsOf', RoadsTracked system' roadsOf' := by
  rcases System.step_cases stepped with rfl | rfl | ⟨index, connection, event, found, rfl⟩ |
    ⟨message, inbox, actor, channels, queue, received, rfl⟩
  · exact ⟨roadsOf, tracked⟩
  · have same : (system.connections ++ [Connection.open Session.initial]).filterMap connectionRoads =
        system.connections.filterMap connectionRoads := by
      simp [connectionRoads, roleRoads, Session.initial]
    exact ⟨roadsOf, same ▸ tracked.live, tracked.queued, tracked.registered, tracked.sent⟩
  · obtain ⟨before, after⟩ := filterMap_set connectionRoads found (connection.step event system.world).1
    exact tracked.connection fresh (Connection.step_channelEffect connection event system.world) before after
  · exact ⟨roadsOf, tracked.receive queue received⟩

theorem System.reachable_roads_tracked {schedule : List Action} {system : System}
    (reached : System.initial.run schedule = .ok system) : ∃ roadsOf, RoadsTracked system roadsOf :=
  (System.run_invariant (fun system => ChannelsFresh system ∧ ∃ roadsOf, RoadsTracked system roadsOf)
    (fun ⟨fresh, _, tracked⟩ stepped =>
      ⟨System.step_channelsFresh fresh stepped, System.step_roadsTracked fresh tracked stepped⟩)
    schedule (by exact ⟨⟨nodup_nil, nofun, nofun, nofun, nofun⟩, fun _ => [], nofun, nofun, nofun, nofun⟩)
    reached).2

/-- Every ticket a dispatcher connection has written is for one of the roads it declared. -/
theorem System.reachable_tickets_on_dispatcher_roads {schedule : List Action} {system : System}
    (reached : System.initial.run schedule = .ok system) :
    ∀ index iAmDispatcher guard received heartbeat written,
      system.connections.get? index = some (.open ⟨.dispatcher iAmDispatcher guard received, heartbeat⟩) →
      system.written.get? index = some written →
      ∀ ticket ∈ ticketsOf written, ticket.road ∈ iAmDispatcher.roads := by
  intro index iAmDispatcher guard received heartbeat written live wrote ticket member
  obtain ⟨roadsOf, tracked⟩ := System.reachable_roads_tracked reached
  obtain ⟨ledger, delivered⟩ := System.reachable_delivered reached
  obtain ⟨written', wrote', -, tickets⟩ := delivered.live_dispatcher live
  cases wrote.symm.trans wrote'
  rw [tickets] at member
  obtain ⟨push, selected, rfl⟩ := mem_map.mp (mem_of_mem_take member)
  obtain ⟨inSent, onChannel⟩ := mem_filter.mp selected
  have declared : roadsOf guard.id = iAmDispatcher.roads :=
    tracked.live (guard.id, iAmDispatcher.roads) (mem_filterMap.mpr ⟨_, get?_mem live, rfl⟩)
  rw [← declared, ← of_decide_eq_true onChannel]
  exact tracked.sent push inSent

theorem canonical_tickets_on_dispatcher_roads :
    ∃ system, System.initial.run canonicalTicketSchedule = .ok system ∧
      ∀ index iAmDispatcher guard received heartbeat written,
        system.connections.get? index = some (.open ⟨.dispatcher iAmDispatcher guard received, heartbeat⟩) →
        system.written.get? index = some written →
        ∀ ticket ∈ ticketsOf written, ticket.road ∈ iAmDispatcher.roads :=
  ⟨_, rfl, @System.reachable_tickets_on_dispatcher_roads canonicalTicketSchedule _ rfl⟩

end SpeedDaemonProof
