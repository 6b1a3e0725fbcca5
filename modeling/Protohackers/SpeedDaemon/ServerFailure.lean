import Protohackers.SpeedDaemon.ServerChannels

namespace SpeedDaemonProof

open SpeedDaemonModel List

theorem RegistryOp.apply_error {op : RegistryOp} {registry : Dispatchers} {channels : Channels}
    {err : SendError} {after : Dispatchers × Channels} (failed : op.apply registry channels = .error err after) :
    ∃ dispatcher ∈ op.register registry.dispatchers,
      err.ticket.road ∈ dispatcher.roads ∧ dispatcher.ticketSender ∈ channels.closed := by
  have covering : ∀ {dispatchers : List Dispatcher},
      (∃ sender, findSender dispatchers err.ticket.road = some sender ∧ sender ∈ channels.closed) →
      ∃ dispatcher ∈ dispatchers, err.ticket.road ∈ dispatcher.roads ∧ dispatcher.ticketSender ∈ channels.closed := by
    rintro dispatchers ⟨sender, found, gone⟩
    obtain ⟨dispatcher, member, rfl, road⟩ := findSender_eq_some found
    exact ⟨dispatcher, member, road, gone⟩
  obtain ⟨registry', channels'⟩ := after
  cases op with
  | removeDispatcher id => cases failed
  | addDispatcher id roads ticketSender => exact covering (Dispatchers.sendPendingTickets_fails failed).2
  | sendTickets tickets => exact covering (Dispatchers.sendPendingTickets_fails failed).2

theorem RegistryOp.apply_closed {op : RegistryOp} {registry registry' : Dispatchers} {channels channels' : Channels}
    (step : op.apply registry channels = .ok () (registry', channels')) : channels'.closed = channels.closed := by
  rcases RegistryOp.apply_ok step with ⟨_, -, -, rfl⟩ | ⟨-, -, rfl⟩ <;> rfl

theorem Actor.receive_error {actor : Actor} {message : ControllerMessage} {channels : Channels}
    {err : SendError} (failed : actor.receive message channels = .error err) :
    ∃ after, (registryOp actor.controller message).apply actor.dispatchers channels = .error err after := by
  cases message with
  | removeDispatcher id => cases failed
  | _ =>
    simp only [Actor.receive] at failed
    split at failed
    · cases failed
    · cases failed
      exact ⟨_, ‹_›⟩

structure ChannelsOpen (system : System) : Prop where
  below : ∀ id ∈ system.world.channels.closed, id < system.world.nextId
  live : ∀ id ∈ liveDispatchers system.connections, id ∉ system.world.channels.closed

theorem ChannelsOpen.connection {system : System} (fresh : ChannelsFresh system) (opened : ChannelsOpen system)
    {world' : World} {reader reader' : Option (Nat × List UInt16)} {before after : List Nat}
    {connections' : List Connection} {written' : List (List Wire.ServerMessage)}
    (effect : ChannelEffect system.world reader world' reader')
    (old : liveDispatchers system.connections = before ++ (reader.map Prod.fst).toList ++ after)
    (new : liveDispatchers connections' = before ++ (reader'.map Prod.fst).toList ++ after) :
    ChannelsOpen { system with connections := connections', world := world', written := written' } := by
  cases effect with
  | keep _ _ _ _ channels nextId =>
    refine ⟨fun id member => ?_, fun id member => ?_⟩ <;> dsimp only at member ⊢
    · rw [channels] at member
      exact nextId ▸ opened.below id member
    · rw [channels]
      exact opened.live id (old ▸ new ▸ member)
  | drop dispatcher reading _ channels nextId =>
    subst reading
    simp only [Option.map, Option.toList, append_nil] at old new
    refine ⟨fun id member => ?_, fun id member => ?_⟩ <;> dsimp only at member ⊢
    · rw [channels] at member
      rw [nextId]
      rcases mem_cons.mp member with rfl | earlier
      · exact fresh.live _ (by rw [old]; exact mem_around.mpr (.inr rfl))
      · exact opened.below id earlier
    · rw [channels]
      have distinct := fresh.distinct
      rw [old, append_assoc, singleton_append] at distinct
      rw [new] at member
      rintro (_ | ⟨_, earlier⟩)
      · exact (nodup_cons.mp (nodup_middle.mp distinct)).1 member
      · exact opened.live id (old ▸ mem_around.mpr (.inl member)) earlier
  | register roads empty =>
    subst empty
    simp only [Option.map, Option.toList, append_nil] at old new
    refine ⟨fun id member => Nat.lt_succ_of_lt (opened.below id member), fun id member => ?_⟩
    dsimp only [DispatcherGuard.new] at member ⊢
    rw [new] at member
    rcases mem_around.mp member with member | rfl
    · exact opened.live id (old ▸ member)
    · exact fun gone => Nat.lt_irrefl _ (opened.below _ gone)

theorem System.step_channelsOpen {system system' : System} {action : Action} (fresh : ChannelsFresh system)
    (opened : ChannelsOpen system) (stepped : system.step action = .ok system') : ChannelsOpen system' := by
  rcases System.step_cases stepped with rfl | rfl | ⟨index, connection, event, found, rfl⟩ |
    ⟨_, _, _, _, -, received, rfl⟩
  · exact opened
  · have same := liveDispatchers_accept system.connections
    exact ⟨opened.below, same ▸ opened.live⟩
  · obtain ⟨before, after⟩ := filterMap_set connectionDispatcher found (connection.step event system.world).1
    exact opened.connection fresh (Connection.step_channelEffect connection event system.world) before after
  · have closed := RegistryOp.apply_closed (Actor.receive_ok received)
    exact ⟨closed ▸ opened.below, closed ▸ opened.live⟩

theorem System.reachable_channels_open {schedule : List Action} {system : System}
    (reached : System.initial.run schedule = .ok system) : ChannelsOpen system :=
  (System.run_invariant (fun system => ChannelsFresh system ∧ ChannelsOpen system)
    (fun ⟨fresh, opened⟩ stepped =>
      ⟨System.step_channelsFresh fresh stepped, System.step_channelsOpen fresh opened stepped⟩)
    schedule (by exact ⟨⟨nodup_nil, nofun, nofun, nofun, nofun⟩, nofun, nofun⟩) reached).2

/-- The only ways `run` stops: from every reachable state a step fails only when
    `listener.accept` returns an error, or when `recv` routes a ticket to a dispatcher registered
    for the ticket's road whose connection has already closed and dropped its receiver. -/
theorem System.reachable_step_errors {schedule : List Action} {system : System}
    (reached : System.initial.run schedule = .ok system) {action : Action} {err : RunError}
    (failed : system.step action = .error err) :
    action = .acceptError ∧ err = .accept ∨
      action = .receive ∧ ∃ sendError, err = .send sendError ∧
        ∃ message inbox, system.world.inbox = message :: inbox ∧
          ∃ dispatcher ∈ (registryOp system.actor.controller message).register system.actor.dispatchers.dispatchers,
            sendError.ticket.road ∈ dispatcher.roads ∧ dispatcher.ticketSender ∈ system.world.channels.closed ∧
              dispatcher.ticketSender ∉ liveDispatchers system.connections := by
  have opened := System.reachable_channels_open reached
  cases action with
  | accept => cases failed
  | acceptError =>
    cases failed
    exact .inl ⟨rfl, rfl⟩
  | connection index event =>
    simp only [System.step] at failed
    split at failed <;> cases failed
  | receive =>
    simp only [System.step] at failed
    split at failed
    · cases failed
    · rename_i message inbox queue
      split at failed
      · cases failed
      · cases failed
        obtain ⟨after, applied⟩ := Actor.receive_error ‹_›
        obtain ⟨dispatcher, member, road, gone⟩ := RegistryOp.apply_error applied
        exact .inr ⟨rfl, _, rfl, message, inbox, queue, dispatcher, member, road, gone,
          fun live => opened.live _ live gone⟩

theorem vanishing_dispatcher_step_fails :
    ∃ system, System.initial.run vanishingDispatcherSchedule.dropLast = .ok system ∧
      system.step .receive = .error (.send ⟨⟨"UN1X", 66, 8, 0, 9, 45, 8000⟩⟩) ∧
      (Action.receive = .acceptError ∧ RunError.send ⟨⟨"UN1X", 66, 8, 0, 9, 45, 8000⟩⟩ = .accept ∨
        Action.receive = .receive ∧ ∃ sendError, RunError.send ⟨⟨"UN1X", 66, 8, 0, 9, 45, 8000⟩⟩ = .send sendError ∧
          ∃ message inbox, system.world.inbox = message :: inbox ∧
            ∃ dispatcher ∈ (registryOp system.actor.controller message).register system.actor.dispatchers.dispatchers,
              sendError.ticket.road ∈ dispatcher.roads ∧ dispatcher.ticketSender ∈ system.world.channels.closed ∧
                dispatcher.ticketSender ∉ liveDispatchers system.connections) :=
  ⟨_, rfl, rfl, @System.reachable_step_errors vanishingDispatcherSchedule.dropLast _ rfl .receive
    (.send ⟨⟨"UN1X", 66, 8, 0, 9, 45, 8000⟩⟩) rfl⟩

end SpeedDaemonProof
