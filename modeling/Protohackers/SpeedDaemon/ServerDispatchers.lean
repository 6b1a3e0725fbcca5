import Protohackers.SpeedDaemon.ServerDelivery

namespace SpeedDaemonProof

open SpeedDaemonModel List

theorem mem_split_of_append {α : Type} {queue added before after : List α} {item : α}
    (split : queue ++ added = before ++ item :: after) :
    item ∈ added ∨ ∃ rest, queue = before ++ item :: rest ∧ after = rest ++ added := by
  rcases append_eq_append_iff.mp split with ⟨middle, -, grown⟩ | ⟨middle, shrunk, moved⟩
  · exact .inl (grown ▸ mem_append_right _ (mem_cons_self _ _))
  · cases middle with
    | nil =>
      rw [nil_append] at moved
      exact .inl (moved ▸ mem_cons_self _ _)
    | cons head rest =>
      obtain ⟨rfl, rfl⟩ := cons.inj moved
      exact .inr ⟨rest, shrunk, rfl⟩

theorem Actor.receive_registry {actor actor' : Actor} {message : ControllerMessage}
    {channels channels' : Channels} (received : actor.receive message channels = .ok (actor', channels')) :
    (∀ dispatcher ∈ actor'.dispatchers.dispatchers,
      dispatcher ∈ actor.dispatchers.dispatchers ∧ removedDispatcher message ≠ some dispatcher.id ∨
        message = .addDispatcher dispatcher.id dispatcher.roads dispatcher.ticketSender) ∧
      (∀ dispatcher ∈ actor.dispatchers.dispatchers, removedDispatcher message ≠ some dispatcher.id →
        dispatcher ∈ actor'.dispatchers.dispatchers) ∧
      ∀ id roads ticketSender, message = .addDispatcher id roads ticketSender →
        ⟨id, roads, ticketSender⟩ ∈ actor'.dispatchers.dispatchers := by
  cases message with
  | removeDispatcher id =>
    cases received
    simp only [Dispatchers.removeDispatcher, mem_filter, removedDispatcher, ne_eq, Option.some.injEq,
      decide_eq_true_eq]
    exact ⟨fun _ member => .inl ⟨member.1, fun same => member.2 same.symm⟩,
      fun _ member kept => ⟨member, fun same => kept same.symm⟩, nofun⟩
  | addDispatcher id roads ticketSender =>
    rcases RegistryOp.apply_ok (Actor.receive_ok received) with ⟨_, op, -⟩ | ⟨registered, -⟩
    · cases op
    · simp only [registered, registryOp, RegistryOp.register, removedDispatcher]
      refine ⟨fun dispatcher member => ?_, fun _ member _ => mem_append_left _ member,
        fun _ _ _ same => by cases same; exact mem_append_right _ (mem_singleton_self _)⟩
      rcases mem_append.mp member with old | new
      · exact .inl ⟨old, nofun⟩
      · exact .inr (by rw [mem_singleton.mp new])
  | plate plate =>
    rcases RegistryOp.apply_ok (Actor.receive_ok received) with ⟨_, op, -⟩ | ⟨registered, -⟩
    · cases op
    · simp only [registered, registryOp, RegistryOp.register, removedDispatcher]
      exact ⟨fun _ member => .inl ⟨member, nofun⟩, fun _ member _ => member, fun _ _ _ => nofun⟩

structure RegistryTracked (system : System) : Prop where
  registered : ∀ dispatcher ∈ system.actor.dispatchers.dispatchers, dispatcher.ticketSender = dispatcher.id ∧
    ((dispatcher.id, dispatcher.roads) ∈ system.connections.filterMap connectionRoads ∨
      .removeDispatcher dispatcher.id ∈ system.world.inbox)
  queued : ∀ before id roads ticketSender after,
    system.world.inbox = before ++ .addDispatcher id roads ticketSender :: after → ticketSender = id ∧
      ((id, roads) ∈ system.connections.filterMap connectionRoads ∨ .removeDispatcher id ∈ after)
  live : ∀ dispatcher ∈ system.connections.filterMap connectionRoads,
    ⟨dispatcher.1, dispatcher.2, dispatcher.1⟩ ∈ system.actor.dispatchers.dispatchers ∨
      .addDispatcher dispatcher.1 dispatcher.2 dispatcher.1 ∈ system.world.inbox
  removed : ∀ id, .removeDispatcher id ∈ system.world.inbox →
    id ∉ liveDispatchers system.connections ∧ id < system.world.nextId

theorem RegistryTracked.settle {system : System} (tracked : RegistryTracked system) {world' : World}
    {connections' : List Connection} {written' : List (List Wire.ServerMessage)}
    {added : List ControllerMessage} (inbox : world'.inbox = system.world.inbox ++ added)
    (grows : system.world.nextId ≤ world'.nextId)
    (stays : ∀ dispatcher ∈ system.connections.filterMap connectionRoads,
      dispatcher ∈ connections'.filterMap connectionRoads ∨ .removeDispatcher dispatcher.1 ∈ added)
    (arrives : ∀ dispatcher ∈ connections'.filterMap connectionRoads,
      dispatcher ∈ system.connections.filterMap connectionRoads ∨
        .addDispatcher dispatcher.1 dispatcher.2 dispatcher.1 ∈ added)
    (adds : ∀ id roads ticketSender, .addDispatcher id roads ticketSender ∈ added →
      ticketSender = id ∧ (id, roads) ∈ connections'.filterMap connectionRoads)
    (removes : ∀ id, .removeDispatcher id ∈ added → id ∉ liveDispatchers connections' ∧ id < world'.nextId)
    (departed : ∀ id ∈ liveDispatchers connections', id < system.world.nextId →
      id ∈ liveDispatchers system.connections) :
    RegistryTracked { system with connections := connections', world := world', written := written' } := by
  have queues : ∀ {message}, message ∈ system.world.inbox → message ∈ world'.inbox :=
    fun member => inbox ▸ mem_append_left _ member
  have queuing : ∀ {message}, message ∈ added → message ∈ world'.inbox :=
    fun member => inbox ▸ mem_append_right _ member
  refine ⟨fun dispatcher member => ?_, fun before id roads ticketSender after split => ?_,
    fun dispatcher member => ?_, fun id member => ?_⟩
  · obtain ⟨sender, live | leaving⟩ := tracked.registered dispatcher member
    · exact ⟨sender, (stays _ live).imp (fun live => live) queuing⟩
    · exact ⟨sender, .inr (queues leaving)⟩
  · dsimp only at split
    rw [inbox] at split
    rcases mem_split_of_append split with new | ⟨rest, old, rfl⟩
    · exact ⟨(adds id roads ticketSender new).1, .inl (adds id roads ticketSender new).2⟩
    · obtain ⟨sender, live | leaving⟩ := tracked.queued before id roads ticketSender rest old
      · exact ⟨sender, (stays _ live).imp (fun live => live) (mem_append_right _)⟩
      · exact ⟨sender, .inr (mem_append_left _ leaving)⟩
  · rcases arrives dispatcher member with old | new
    · exact (tracked.live dispatcher old).imp (fun registered => registered) queues
    · exact .inr (queuing new)
  · dsimp only at member
    rw [inbox] at member
    rcases mem_append.mp member with old | new
    · obtain ⟨gone, below⟩ := tracked.removed id old
      exact ⟨fun live => gone (departed id live below), Nat.lt_of_lt_of_le below grows⟩
    · exact removes id new

theorem RegistryTracked.connection {system : System} (fresh : ChannelsFresh system)
    (tracked : RegistryTracked system) {world' : World} {reader reader' : Option (Nat × List UInt16)}
    {before after : List (Nat × List UInt16)} {connections' : List Connection}
    {written' : List (List Wire.ServerMessage)} (effect : ChannelEffect system.world reader world' reader')
    (old : system.connections.filterMap connectionRoads = before ++ reader.toList ++ after)
    (new : connections'.filterMap connectionRoads = before ++ reader'.toList ++ after) :
    RegistryTracked { system with connections := connections', world := world', written := written' } := by
  cases effect with
  | keep added inbox unnamed unremoved _ nextId =>
    have same : connections'.filterMap connectionRoads = system.connections.filterMap connectionRoads := by
      rw [old, new]
    have sameIds : liveDispatchers connections' = liveDispatchers system.connections := by
      rw [liveDispatchers_eq, liveDispatchers_eq, same]
    refine tracked.settle inbox (nextId ▸ Nat.le_refl _) (fun _ live => .inl (same ▸ live))
      (fun _ live => .inl (same ▸ live)) (fun _ _ _ member => ?_) (fun _ member => ?_)
      (fun _ live _ => sameIds ▸ live)
    · cases filterMap_eq_nil_iff.mp unnamed _ member
    · cases filterMap_eq_nil_iff.mp unremoved _ member
  | drop dispatcher reading inbox _ nextId =>
    subst reading
    simp only [Option.toList, append_nil] at old new
    have moved : ∀ {other}, other ∈ system.connections.filterMap connectionRoads ↔
        other ∈ connections'.filterMap connectionRoads ∨ other = dispatcher := by
      intro other
      rw [old, new]
      exact mem_around
    have distinct := fresh.distinct
    rw [liveDispatchers_eq, old] at distinct
    simp only [map_append, map_cons, append_assoc, singleton_append] at distinct
    have leaving : dispatcher.1 ∉ liveDispatchers connections' := by
      rw [liveDispatchers_eq, new, map_append]
      exact (nodup_cons.mp (nodup_middle.mp distinct)).1
    have below : dispatcher.1 < system.world.nextId := fresh.live _ (by rw [liveDispatchers_eq, old]; simp)
    refine tracked.settle inbox (nextId ▸ Nat.le_refl _)
      (fun _ live => (moved.mp live).imp_right fun same => by rw [same]; exact mem_singleton_self _)
      (fun _ live => .inl (moved.mpr (.inl live))) (fun _ _ _ member => by simp at member)
      (fun id member => ?_) (fun id live _ => ?_)
    · rw [mem_singleton, ControllerMessage.removeDispatcher.injEq] at member
      subst member
      exact ⟨leaving, nextId ▸ below⟩
    · rw [liveDispatchers_eq] at live ⊢
      obtain ⟨other, member, rfl⟩ := mem_map.mp live
      exact mem_map_of_mem _ (moved.mpr (.inl member))
  | register roads empty =>
    subst empty
    simp only [Option.toList, append_nil] at old new
    have moved : ∀ {other}, other ∈ connections'.filterMap connectionRoads ↔
        other ∈ system.connections.filterMap connectionRoads ∨ other = (system.world.nextId, roads) := by
      intro other
      rw [old, new]
      exact mem_around
    refine tracked.settle rfl (Nat.le_succ _) (fun _ live => .inl (moved.mpr (.inl live)))
      (fun _ live => (moved.mp live).imp_right fun same => by rw [same]; exact mem_singleton_self _)
      (fun id roads' ticketSender member => ?_) (fun _ member => by simp at member) (fun id live below => ?_)
    · simp only [mem_singleton, ControllerMessage.addDispatcher.injEq] at member
      obtain ⟨rfl, rfl, rfl⟩ := member
      exact ⟨rfl, moved.mpr (.inr rfl)⟩
    · rw [liveDispatchers_eq] at live ⊢
      obtain ⟨other, member, rfl⟩ := mem_map.mp live
      rcases moved.mp member with old | rfl
      · exact mem_map_of_mem _ old
      · exact absurd below (Nat.lt_irrefl _)

theorem RegistryTracked.receive {system : System} (tracked : RegistryTracked system)
    {message : ControllerMessage} {inbox : List ControllerMessage} {actor : Actor} {channels : Channels}
    (queue : system.world.inbox = message :: inbox)
    (received : system.actor.receive message system.world.channels = .ok (actor, channels)) :
    RegistryTracked { system with actor, world := { system.world with inbox, channels } } := by
  obtain ⟨kept, keeps, adds⟩ := Actor.receive_registry received
  have popped : ∀ {queued : ControllerMessage}, queued ∈ system.world.inbox → queued ≠ message →
      queued ∈ inbox := fun member other => by
    rw [queue] at member
    exact (mem_cons.mp member).resolve_left other
  refine ⟨fun dispatcher member => ?_, fun before id roads ticketSender after split => ?_,
    fun dispatcher live => ?_, fun id member => tracked.removed id (by rw [queue]; exact mem_cons_of_mem _ member)⟩
  · rcases kept dispatcher member with ⟨old, stays⟩ | new
    · obtain ⟨sender, live | leaving⟩ := tracked.registered dispatcher old
      · exact ⟨sender, .inl live⟩
      · exact ⟨sender, .inr (popped leaving fun same => stays (by rw [← same]; rfl))⟩
    · exact tracked.queued [] _ _ _ inbox (by rw [queue, new]; rfl)
  · exact tracked.queued (message :: before) id roads ticketSender after
      (by rw [queue]; exact congrArg (cons message) split)
  · rcases tracked.live dispatcher live with old | queued
    · refine .inl (keeps _ old fun removing => ?_)
      have leaving : message = .removeDispatcher dispatcher.1 := by
        cases message <;> cases removing
        rfl
      have gone := (tracked.removed dispatcher.1 (by rw [queue, leaving]; exact mem_cons_self _ _)).1
      exact gone (by rw [liveDispatchers_eq]; exact mem_map_of_mem _ live)
    · by_cases head : ControllerMessage.addDispatcher dispatcher.1 dispatcher.2 dispatcher.1 = message
      · exact .inl (adds _ _ _ head.symm)
      · exact .inr (popped queued head)

theorem System.step_registryTracked {system system' : System} {action : Action} (fresh : ChannelsFresh system)
    (tracked : RegistryTracked system) (stepped : system.step action = .ok system') : RegistryTracked system' := by
  rcases System.step_cases stepped with rfl | rfl | ⟨index, connection, event, found, rfl⟩ |
    ⟨message, inbox, actor, channels, queue, received, rfl⟩
  · exact tracked
  · have same : (system.connections ++ [Connection.open Session.initial]).filterMap connectionRoads =
        system.connections.filterMap connectionRoads := by
      simp [connectionRoads, roleRoads, Session.initial]
    have sameIds := liveDispatchers_accept system.connections
    exact ⟨fun dispatcher member => same ▸ tracked.registered dispatcher member, fun before id roads ticketSender
      after split => same ▸ tracked.queued before id roads ticketSender after split,
      fun dispatcher live => tracked.live dispatcher (same ▸ live), fun id member => sameIds ▸ tracked.removed id member⟩
  · obtain ⟨before, after⟩ := filterMap_set connectionRoads found (connection.step event system.world).1
    exact tracked.connection fresh (Connection.step_channelEffect connection event system.world) before after
  · exact tracked.receive queue received

theorem System.reachable_registry_tracked {schedule : List Action} {system : System}
    (reached : System.initial.run schedule = .ok system) : RegistryTracked system :=
  (System.run_invariant (fun system => ChannelsFresh system ∧ RegistryTracked system)
    (fun ⟨fresh, tracked⟩ stepped =>
      ⟨System.step_channelsFresh fresh stepped, System.step_registryTracked fresh tracked stepped⟩)
    schedule (by exact ⟨⟨nodup_nil, nofun, nofun, nofun, nofun⟩, nofun,
      fun before _ _ _ _ split => by simp [System.initial] at split, nofun, nofun⟩) reached).2

theorem System.reachable_unroutable {schedule : List Action} {system : System}
    (reached : System.initial.run schedule = .ok system) : Unroutable system.actor.dispatchers :=
  System.run_invariant (fun system => Unroutable system.actor.dispatchers) System.step_unroutable
    schedule (by simp [Unroutable, System.initial, Actor.default, Dispatchers.default]) reached

/-- Once `run` has read every queued message, its registry holds exactly the live dispatcher
    connections, each on the ticket channel its guard's id names and with the roads it declared,
    and no waiting ticket is for a road one of them covers. -/
theorem System.quiescent_registry_matches_dispatchers {schedule : List Action} {system : System}
    (reached : System.initial.run schedule = .ok system) (drained : system.world.inbox = []) :
    (∀ dispatcher, dispatcher ∈ system.actor.dispatchers.dispatchers ↔
      dispatcher.ticketSender = dispatcher.id ∧
        (dispatcher.id, dispatcher.roads) ∈ system.connections.filterMap connectionRoads) ∧
      ∀ ticket ∈ system.actor.dispatchers.pendingTickets,
        ∀ dispatcher ∈ system.connections.filterMap connectionRoads, ticket.road ∉ dispatcher.2 := by
  have tracked := System.reachable_registry_tracked reached
  have registered : ∀ dispatcher ∈ system.connections.filterMap connectionRoads,
      ⟨dispatcher.1, dispatcher.2, dispatcher.1⟩ ∈ system.actor.dispatchers.dispatchers :=
    fun dispatcher live => (tracked.live dispatcher live).resolve_right (by rw [drained]; exact not_mem_nil _)
  refine ⟨fun dispatcher => ⟨fun member => ?_, fun ⟨sender, live⟩ => ?_⟩, fun ticket waiting dispatcher live =>
    routed_eq_false.mp (System.reachable_unroutable reached ticket waiting) _ (registered dispatcher live)⟩
  · obtain ⟨sender, live | leaving⟩ := tracked.registered dispatcher member
    · exact ⟨sender, live⟩
    · rw [drained] at leaving
      cases leaving
  · obtain ⟨id, roads, ticketSender⟩ := dispatcher
    dsimp only at sender live
    subst sender
    exact registered _ live

theorem canonical_registry_matches_dispatchers :
    ∃ system, System.initial.run canonicalTicketSchedule = .ok system ∧ system.world.inbox = [] ∧
      (∀ dispatcher, dispatcher ∈ system.actor.dispatchers.dispatchers ↔
        dispatcher.ticketSender = dispatcher.id ∧
          (dispatcher.id, dispatcher.roads) ∈ system.connections.filterMap connectionRoads) ∧
        ∀ ticket ∈ system.actor.dispatchers.pendingTickets,
          ∀ dispatcher ∈ system.connections.filterMap connectionRoads, ticket.road ∉ dispatcher.2 :=
  ⟨_, rfl, rfl, @System.quiescent_registry_matches_dispatchers canonicalTicketSchedule _ rfl rfl⟩

end SpeedDaemonProof
