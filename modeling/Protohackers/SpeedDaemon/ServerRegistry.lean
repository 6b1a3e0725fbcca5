import Protohackers.SpeedDaemon.ServerChannels

namespace SpeedDaemonProof

open SpeedDaemonModel

theorem drainPending_open (dispatchers : List Dispatcher) (tickets deferred : List Ticket)
    (sent : List (Nat × Ticket)) :
    drainPending dispatchers tickets deferred ⟨[], sent⟩ =
      .ok (deferred ++ tickets.filter fun ticket => !routed dispatchers ticket)
        ⟨[], sent ++ tickets.filterMap (route dispatchers)⟩ := by
  induction tickets generalizing deferred sent with
  | nil => simp [drainPending]
  | cons ticket rest ih =>
    cases found : findSender dispatchers ticket.road <;>
      simp [drainPending, found, ih, Channels.send, routed, route]

theorem Dispatchers.sendPendingTickets_open (self : Dispatchers) (sent : List (Nat × Ticket)) :
    self.sendPendingTickets ⟨[], sent⟩ =
      .ok () ({ self with
          pendingTickets := self.pendingTickets.filter fun ticket => !routed self.dispatchers ticket },
        ⟨[], sent ++ self.pendingTickets.filterMap (route self.dispatchers)⟩) := by
  simp only [Dispatchers.sendPendingTickets, drainPending_open, List.nil_append]

theorem RegistryOp.apply_reopened {op : RegistryOp} {registry registry' : Dispatchers}
    {channels channels' : Channels} (step : op.apply registry channels = .ok () (registry', channels')) :
    op.apply registry ⟨[], channels.sent⟩ = .ok () (registry', ⟨[], channels'.sent⟩) := by
  cases op with
  | removeDispatcher id => cases step; rfl
  | addDispatcher id roads ticketSender =>
    obtain ⟨rfl, rfl⟩ := Dispatchers.sendPendingTickets_ok step
    exact Dispatchers.sendPendingTickets_open _ _
  | sendTickets tickets =>
    obtain ⟨rfl, rfl⟩ := Dispatchers.sendPendingTickets_ok step
    exact Dispatchers.sendPendingTickets_open _ _

theorem runRegistry_append (first second : List RegistryOp) (registry : Dispatchers)
    (channels : Channels) :
    runRegistry (first ++ second) registry channels =
      (runRegistry first registry channels).bind fun state => runRegistry second state.1 state.2 := by
  induction first generalizing registry channels with
  | nil => rfl
  | cons op rest ih =>
    simp only [List.cons_append, runRegistry]
    split
    · exact ih _ _
    · rfl

def actorCall (system : System) : Action → List RegistryOp
  | .receive =>
    match system.world.inbox with
    | message :: _ => [registryOp system.actor.controller message]
    | [] => []
  | _ => []

def actorCalls (system : System) : List Action → List RegistryOp
  | [] => []
  | action :: actions =>
    match system.step action with
    | .ok next => actorCall system action ++ actorCalls next actions
    | .error _ => actorCall system action

theorem actorCall_step {system next : System} {action : Action}
    (stepped : system.step action = .ok next) :
    runRegistry (actorCall system action) system.actor.dispatchers ⟨[], system.world.channels.sent⟩ =
      some (next.actor.dispatchers, ⟨[], next.world.channels.sent⟩) := by
  cases action with
  | accept => cases stepped; rfl
  | acceptError => cases stepped
  | connection index event =>
    simp only [System.step] at stepped
    split at stepped
    · rename_i connection _
      cases stepped
      simp only [actorCall, runRegistry,
        (Connection.step_channelEffect connection event system.world).sent_eq]
    · cases stepped
      rfl
  | receive =>
    simp only [System.step] at stepped
    split at stepped
    · rename_i empty
      cases stepped
      simp only [actorCall, empty, runRegistry]
    · rename_i message inbox queue
      split at stepped
      · rename_i actor channels received
        cases stepped
        simp only [actorCall, queue, runRegistry,
          RegistryOp.apply_reopened (Actor.receive_ok received)]
      · cases stepped

theorem actorCalls_run (schedule : List Action) {system final : System}
    (ran : system.run schedule = .ok final) :
    runRegistry (actorCalls system schedule) system.actor.dispatchers ⟨[], system.world.channels.sent⟩ =
      some (final.actor.dispatchers, ⟨[], final.world.channels.sent⟩) := by
  induction schedule generalizing system with
  | nil => cases ran; rfl
  | cons action actions ih =>
    simp only [System.run] at ran
    split at ran
    · rename_i next stepped
      simp only [actorCalls, stepped, runRegistry_append, actorCall_step stepped, Option.bind_some]
      exact ih ran
    · cases ran

/-- A server run refines the registry runs of `Registry`: the registry and the sent tickets of every
    reachable state are what the registry calls `run` made produce from the default registry, and
    every ticket the controller has emitted waits in the queue or has been sent to a dispatcher,
    exactly once. -/
theorem System.reachable_tickets_conserved {schedule : List Action} {system : System}
    (reached : System.initial.run schedule = .ok system) :
    runRegistry (actorCalls System.initial schedule) Dispatchers.default ⟨[], []⟩ =
        some (system.actor.dispatchers, ⟨[], system.world.channels.sent⟩) ∧
      (emittedTickets (actorCalls System.initial schedule)).Perm
        (system.actor.dispatchers.pendingTickets ++ system.world.channels.sent.map Prod.snd) :=
  ⟨actorCalls_run schedule reached, runRegistry_conserved _ [] (actorCalls_run schedule reached)⟩

theorem canonical_tickets_conserved :
    ∃ system, System.initial.run canonicalTicketSchedule = .ok system ∧
      runRegistry (actorCalls System.initial canonicalTicketSchedule) Dispatchers.default ⟨[], []⟩ =
        some (system.actor.dispatchers, ⟨[], system.world.channels.sent⟩) ∧
      (emittedTickets (actorCalls System.initial canonicalTicketSchedule)).Perm
        (system.actor.dispatchers.pendingTickets ++ system.world.channels.sent.map Prod.snd) :=
  ⟨_, rfl, System.reachable_tickets_conserved rfl⟩

structure SendersFresh (world : World) (handled : List Nat) : Prop where
  distinct : (handled ++ world.inbox.filterMap namedSender).Nodup
  below : ∀ sender ∈ handled ++ world.inbox.filterMap namedSender, sender < world.nextId

theorem SendersFresh.effect {world world' : World} {handled : List Nat} (fresh : SendersFresh world handled)
    {reader reader' : Option (Nat × List UInt16)} (effect : ChannelEffect world reader world' reader') :
    SendersFresh world' handled := by
  have settle : ∀ {added : List ControllerMessage}, world'.inbox = world.inbox ++ added →
      added.filterMap namedSender = [] → world'.nextId = world.nextId → SendersFresh world' handled := by
    intro added inbox unnamed nextId
    have same : world'.inbox.filterMap namedSender = world.inbox.filterMap namedSender := by
      rw [inbox, List.filterMap_append, unnamed, List.append_nil]
    exact ⟨same ▸ fresh.distinct, nextId ▸ same ▸ fresh.below⟩
  cases effect with
  | keep _ inbox unnamed _ _ nextId => exact settle inbox unnamed nextId
  | drop _ _ inbox _ nextId => exact settle inbox rfl nextId
  | register roads =>
    have senders : handled ++ (DispatcherGuard.new world roads).2.inbox.filterMap namedSender =
        handled ++ world.inbox.filterMap namedSender ++ [world.nextId] := by
      simp [DispatcherGuard.new, namedSender]
    refine ⟨?_, fun sender member => ?_⟩ <;> rw [senders] at *
    · exact List.nodup_append.mpr ⟨fresh.distinct, List.nodup_singleton _,
        fun earlier old new => Nat.lt_irrefl _ (List.mem_singleton.mp new ▸ fresh.below earlier old)⟩
    · rcases List.mem_append.mp member with old | new
      · exact Nat.lt_succ_of_lt (fresh.below sender old)
      · rw [List.mem_singleton.mp new]
        exact Nat.lt_succ_self _

theorem SendersFresh.step {system next : System} {action : Action} {handled : List Nat}
    (fresh : SendersFresh system.world handled) (stepped : system.step action = .ok next) :
    SendersFresh next.world (handled ++ (actorCall system action).filterMap RegistryOp.sender?) := by
  cases action with
  | accept =>
    cases stepped
    simpa [actorCall] using fresh
  | acceptError => cases stepped
  | connection index event =>
    simp only [System.step] at stepped
    split at stepped <;> cases stepped
    · simpa [actorCall] using fresh.effect (Connection.step_channelEffect _ event system.world)
    · simpa [actorCall] using fresh
  | receive =>
    simp only [System.step] at stepped
    split at stepped
    · rename_i empty
      cases stepped
      simpa [actorCall, empty] using fresh
    · rename_i message inbox queue
      split at stepped <;> cases stepped
      have moved : handled ++ (actorCall system .receive).filterMap RegistryOp.sender? ++
          inbox.filterMap namedSender = handled ++ system.world.inbox.filterMap namedSender := by
        cases message <;> simp [actorCall, queue, registryOp, RegistryOp.sender?, namedSender]
      exact ⟨moved ▸ fresh.distinct, moved ▸ fresh.below⟩

theorem SendersFresh.run (schedule : List Action) {system final : System} {handled : List Nat}
    (fresh : SendersFresh system.world handled) (ran : system.run schedule = .ok final) :
    SendersFresh final.world (handled ++ (actorCalls system schedule).filterMap RegistryOp.sender?) := by
  induction schedule generalizing system handled with
  | nil =>
    cases ran
    simpa [actorCalls] using fresh
  | cons action actions ih =>
    simp only [System.run] at ran
    split at ran
    · rename_i next stepped
      simpa [actorCalls, stepped, List.filterMap_append] using ih (fresh.step stepped) ran
    · cases ran

theorem System.reachable_ordered {schedule : List Action} {system : System}
    (reached : System.initial.run schedule = .ok system) :
    Ordered (emittedTickets (actorCalls System.initial schedule))
      ((actorCalls System.initial schedule).filterMap RegistryOp.sender?) system.actor.dispatchers
      ⟨[], system.world.channels.sent⟩ := by
  have initial : SendersFresh System.initial.world [] := ⟨by simp [System.initial], by simp [System.initial]⟩
  have fresh := SendersFresh.run schedule initial reached
  exact runRegistry_ordered _ [] (by simpa using fresh.distinct.of_append_left) (actorCalls_run schedule reached)

/-- In every reachable state, the tickets sent on each channel, and those still waiting, come in
    the order the controller emitted them. -/
theorem System.reachable_emission_order {schedule : List Action} {system : System}
    (reached : System.initial.run schedule = .ok system) :
    system.actor.dispatchers.pendingTickets.Sublist (emittedTickets (actorCalls System.initial schedule)) ∧
      ∀ sender, (pushesTo system.world.channels.sent sender).Sublist
        (emittedTickets (actorCalls System.initial schedule)) :=
  have ordered := System.reachable_ordered reached
  ⟨ordered.pending, ordered.pushes⟩

theorem canonical_emission_order :
    ∃ system, System.initial.run canonicalTicketSchedule = .ok system ∧
      system.actor.dispatchers.pendingTickets.Sublist
        (emittedTickets (actorCalls System.initial canonicalTicketSchedule)) ∧
      ∀ sender, (pushesTo system.world.channels.sent sender).Sublist
        (emittedTickets (actorCalls System.initial canonicalTicketSchedule)) :=
  ⟨_, rfl, System.reachable_emission_order rfl⟩

end SpeedDaemonProof
