import Mathlib.Data.List.Nodup
import Protohackers.SpeedDaemon.Dispatchers

namespace SpeedDaemonProof

open SpeedDaemonModel

inductive RegistryOp where
  | addDispatcher (id : Nat) (roads : List UInt16) (ticketSender : Nat)
  | removeDispatcher (id : Nat)
  | sendTickets (tickets : List Ticket)
deriving DecidableEq, Repr

def RegistryOp.apply : RegistryOp → Dispatchers → Channels →
    EStateM.Result SendError (Dispatchers × Channels) Unit
  | .addDispatcher id roads ticketSender, registry, channels =>
    registry.addDispatcher id roads ticketSender channels
  | .removeDispatcher id, registry, channels => .ok () (registry.removeDispatcher id, channels)
  | .sendTickets tickets, registry, channels => registry.sendTickets tickets channels

def RegistryOp.batch : RegistryOp → List Ticket
  | .sendTickets tickets => tickets
  | _ => []

def RegistryOp.sender? : RegistryOp → Option Nat
  | .addDispatcher _ _ ticketSender => some ticketSender
  | _ => none

def runRegistry : List RegistryOp → Dispatchers → Channels → Option (Dispatchers × Channels)
  | [], registry, channels => some (registry, channels)
  | op :: ops, registry, channels =>
    match op.apply registry channels with
    | .ok () (registry, channels) => runRegistry ops registry channels
    | .error _ _ => none

def emittedTickets (ops : List RegistryOp) : List Ticket := ops.flatMap RegistryOp.batch

@[simp] theorem emittedTickets_append (done later : List RegistryOp) :
    emittedTickets (done ++ later) = emittedTickets done ++ emittedTickets later := by
  simp [emittedTickets]

def RegistryOp.register : RegistryOp → List Dispatcher → List Dispatcher
  | .addDispatcher id roads ticketSender, dispatchers => dispatchers ++ [⟨id, roads, ticketSender⟩]
  | _, dispatchers => dispatchers

theorem RegistryOp.apply_ok {op : RegistryOp} {registry registry' : Dispatchers}
    {channels channels' : Channels}
    (step : op.apply registry channels = .ok () (registry', channels')) :
    (∃ id, op = .removeDispatcher id ∧ registry' = registry.removeDispatcher id ∧
        channels' = channels) ∨
      registry'.dispatchers = op.register registry.dispatchers ∧
      registry'.pendingTickets = (registry.pendingTickets ++ op.batch).filter
        (fun ticket => !routed registry'.dispatchers ticket) ∧
      channels' = { channels with sent := channels.sent ++
        (registry.pendingTickets ++ op.batch).filterMap (route registry'.dispatchers) } := by
  cases op with
  | removeDispatcher id => cases step; exact .inl ⟨id, rfl, rfl, rfl⟩
  | addDispatcher id roads ticketSender =>
    obtain ⟨rfl, rfl⟩ := Dispatchers.sendPendingTickets_ok step
    simp [RegistryOp.batch, RegistryOp.register]
  | sendTickets tickets =>
    obtain ⟨rfl, rfl⟩ := Dispatchers.sendPendingTickets_ok step
    simp [RegistryOp.batch, RegistryOp.register]

theorem route_target {dispatchers : List Dispatcher} {tickets : List Ticket} {push : Nat × Ticket}
    (member : push ∈ tickets.filterMap (route dispatchers)) :
    ∃ dispatcher ∈ dispatchers, dispatcher.ticketSender = push.1 ∧ push.2.road ∈ dispatcher.roads := by
  obtain ⟨ticket, -, routedTo⟩ := List.mem_filterMap.mp member
  simp only [route, Option.map_eq_some'] at routedTo
  obtain ⟨sender, found, rfl⟩ := routedTo
  exact findSender_eq_some found

theorem RegistryOp.apply_pushes {op : RegistryOp} {before after : Dispatchers × Channels}
    (step : op.apply before.1 before.2 = .ok () after) :
    ∃ pushes, after.2.sent = before.2.sent ++ pushes ∧
      ∀ push ∈ pushes, ∃ dispatcher ∈ after.1.dispatchers,
        dispatcher.ticketSender = push.1 ∧ push.2.road ∈ dispatcher.roads := by
  rcases RegistryOp.apply_ok step with ⟨id, -, -, same⟩ | ⟨-, -, sent⟩
  · exact ⟨[], by simp [same], by simp⟩
  · exact ⟨_, by rw [sent], fun push member => route_target member⟩

theorem runRegistry_invariant (invariant : List RegistryOp → Dispatchers × Channels → Prop)
    (ops : List RegistryOp)
    (step : ∀ done op rest state state', ops = done ++ op :: rest → invariant done state →
      op.apply state.1 state.2 = .ok () state' → invariant (done ++ [op]) state')
    (start : Dispatchers × Channels) {final : Dispatchers × Channels} (initial : invariant [] start)
    (run : runRegistry ops start.1 start.2 = some final) : invariant ops final := by
  suffices later : ∀ rest done state, ops = done ++ rest → invariant done state →
      runRegistry rest state.1 state.2 = some final → invariant ops final from
    later ops [] start rfl initial run
  intro rest
  induction rest with
  | nil =>
    intro done state split holds run
    cases run
    simpa [split] using holds
  | cons op rest ih =>
    intro done state split holds run
    simp only [runRegistry] at run
    split at run
    · rename_i registry channels applied
      exact ih (done ++ [op]) (registry, channels) (by simp [split])
        (step done op rest state _ split holds applied) run
    · cases run

def Conserved (emitted : List Ticket) (registry : Dispatchers) (channels : Channels) : Prop :=
  emitted.Perm (registry.pendingTickets ++ channels.sent.map Prod.snd)

theorem perm_after_drain (dispatchers : List Dispatcher) {emitted queue sent : List Ticket}
    (conserved : emitted.Perm (queue ++ sent)) :
    emitted.Perm (queue.filter (fun ticket => !routed dispatchers ticket) ++
      (sent ++ queue.filter (routed dispatchers))) := by
  have split := (List.filter_append_perm (routed dispatchers) queue).symm
  refine conserved.trans ((split.append_right sent).trans ?_)
  simpa only [List.append_assoc] using @List.perm_append_comm _ (queue.filter (routed dispatchers))
    (queue.filter (fun ticket => !routed dispatchers ticket) ++ sent)

theorem Conserved.step {op : RegistryOp} {emitted : List Ticket} {registry registry' : Dispatchers}
    {channels channels' : Channels} (conserved : Conserved emitted registry channels)
    (step : op.apply registry channels = .ok () (registry', channels')) :
    Conserved (emitted ++ op.batch) registry' channels' := by
  rcases RegistryOp.apply_ok step with ⟨id, rfl, rfl, rfl⟩ | ⟨-, pending, rfl⟩
  · simpa [RegistryOp.batch, Conserved, Dispatchers.removeDispatcher] using conserved
  · have extended : (emitted ++ op.batch).Perm
        ((registry.pendingTickets ++ op.batch) ++ channels.sent.map Prod.snd) := by
      rw [List.append_assoc]
      exact (conserved.append_right _).trans
        (by rw [List.append_assoc]; exact List.Perm.append_left _ List.perm_append_comm)
    simp only [Conserved, pending, List.map_append, route_snd]
    exact perm_after_drain _ extended

def Unroutable (registry : Dispatchers) : Prop :=
  ∀ ticket ∈ registry.pendingTickets, routed registry.dispatchers ticket = false

theorem Unroutable.step {op : RegistryOp} {registry registry' : Dispatchers}
    {channels channels' : Channels} (unroutable : Unroutable registry)
    (step : op.apply registry channels = .ok () (registry', channels')) : Unroutable registry' := by
  rcases RegistryOp.apply_ok step with ⟨id, -, rfl, -⟩ | ⟨-, pending, -⟩
  · intro ticket waiting
    have uncovered := routed_eq_false.mp (unroutable ticket waiting)
    exact routed_eq_false.mpr fun dispatcher member => uncovered dispatcher (List.mem_filter.mp member).1
  · intro ticket waiting
    rw [pending] at waiting
    simpa using (List.mem_filter.mp waiting).2

theorem runRegistry_conserved (ops : List RegistryOp) (closed : List Nat)
    {final : Dispatchers × Channels} (run : runRegistry ops Dispatchers.default ⟨closed, []⟩ = some final) :
    Conserved (emittedTickets ops) final.1 final.2 :=
  runRegistry_invariant (fun done state => Conserved (emittedTickets done) state.1 state.2) ops
    (fun _ _ _ _ _ _ conserved step => by simpa [emittedTickets] using Conserved.step conserved step)
    (Dispatchers.default, ⟨closed, []⟩) (by simp [Conserved, Dispatchers.default, emittedTickets]) run

theorem registry_conserves_tickets (ops : List RegistryOp) (closed : List Nat)
    (final : Dispatchers × Channels)
    (run : runRegistry ops Dispatchers.default ⟨closed, []⟩ = some final) :
    (emittedTickets ops).Perm (final.1.pendingTickets ++ final.2.sent.map Prod.snd) ∧
      ∀ (op : RegistryOp) (before after : Dispatchers × Channels),
        op.apply before.1 before.2 = .ok () after →
        ∃ pushes, after.2.sent = before.2.sent ++ pushes ∧
          ∀ push ∈ pushes, ∃ dispatcher ∈ after.1.dispatchers,
            dispatcher.ticketSender = push.1 ∧ push.2.road ∈ dispatcher.roads :=
  ⟨runRegistry_conserved ops closed run, fun _ _ _ step => RegistryOp.apply_pushes step⟩

def lateDispatcherOps : List RegistryOp :=
  [.sendTickets [⟨"UN1X", 66, 8, 0, 9, 45, 8000⟩], .addDispatcher 0 [66, 99] 0]

def lateDispatcherFinal : Dispatchers × Channels :=
  (⟨[⟨0, [66, 99], 0⟩], []⟩, ⟨[], [(0, ⟨"UN1X", 66, 8, 0, 9, 45, 8000⟩)]⟩)

theorem late_dispatcher_conserves_tickets :
    runRegistry lateDispatcherOps Dispatchers.default ⟨[], []⟩ = some lateDispatcherFinal ∧
      (emittedTickets lateDispatcherOps).Perm (lateDispatcherFinal.1.pendingTickets ++
        lateDispatcherFinal.2.sent.map Prod.snd) ∧
      ∀ (op : RegistryOp) (before after : Dispatchers × Channels),
        op.apply before.1 before.2 = .ok () after →
        ∃ pushes, after.2.sent = before.2.sent ++ pushes ∧
          ∀ push ∈ pushes, ∃ dispatcher ∈ after.1.dispatchers,
            dispatcher.ticketSender = push.1 ∧ push.2.road ∈ dispatcher.roads :=
  have run : runRegistry lateDispatcherOps Dispatchers.default ⟨[], []⟩ = some lateDispatcherFinal := by
    decide
  ⟨run, registry_conserves_tickets lateDispatcherOps [] lateDispatcherFinal run⟩

theorem filterMap_route_of_unroutable {dispatchers : List Dispatcher} {tickets : List Ticket}
    (unrouted : ∀ ticket ∈ tickets, routed dispatchers ticket = false) :
    tickets.filterMap (route dispatchers) = [] := by
  refine List.filterMap_eq_nil_iff.mpr fun ticket member => ?_
  have none := unrouted ticket member
  cases found : findSender dispatchers ticket.road <;> simp_all [route, routed]

theorem findSender_append_unrouted {dispatchers : List Dispatcher} {road : UInt16}
    (unrouted : ∀ dispatcher ∈ dispatchers, road ∉ dispatcher.roads) (added : Dispatcher) :
    findSender (dispatchers ++ [added]) road =
      if road ∈ added.roads then some added.ticketSender else none := by
  have none_before : dispatchers.find? (fun dispatcher => road ∈ dispatcher.roads) = none :=
    List.find?_eq_none.mpr fun dispatcher member => by simpa using unrouted dispatcher member
  by_cases covered : road ∈ added.roads <;> simp [findSender, List.find?_append, none_before, covered]

theorem drain_after_add {dispatchers : List Dispatcher} (added : Dispatcher) {tickets : List Ticket}
    (unrouted : ∀ ticket ∈ tickets, routed dispatchers ticket = false) :
    tickets.filterMap (route (dispatchers ++ [added])) =
        (tickets.filter fun ticket => ticket.road ∈ added.roads).map (fun ticket => (added.ticketSender, ticket)) ∧
      tickets.filter (fun ticket => !routed (dispatchers ++ [added]) ticket) =
        tickets.filter fun ticket => ticket.road ∉ added.roads := by
  induction tickets with
  | nil => exact ⟨rfl, rfl⟩
  | cons ticket rest ih =>
    obtain ⟨pushed, kept⟩ := ih fun later member => unrouted later (List.mem_cons_of_mem _ member)
    have found := findSender_append_unrouted (routed_eq_false.mp (unrouted ticket (List.mem_cons_self _ _))) added
    simp only [List.filterMap_cons, List.filter_cons, pushed, kept]
    by_cases covered : ticket.road ∈ added.roads <;> simp [route, routed, found, covered]

theorem pending_tickets_unroutable (ops : List RegistryOp) (closed : List Nat)
    (final : Dispatchers × Channels)
    (run : runRegistry ops Dispatchers.default ⟨closed, []⟩ = some final) :
    (∀ ticket ∈ final.1.pendingTickets, ∀ dispatcher ∈ final.1.dispatchers,
      ticket.road ∉ dispatcher.roads) ∧
      (∀ id roads ticketSender after,
        (RegistryOp.addDispatcher id roads ticketSender).apply final.1 final.2 = .ok () after →
        after.1.dispatchers = final.1.dispatchers ++ [⟨id, roads, ticketSender⟩] ∧
          after.2.sent = final.2.sent ++ (final.1.pendingTickets.filter fun ticket => ticket.road ∈ roads).map
            (fun ticket => (ticketSender, ticket)) ∧
          after.1.pendingTickets = final.1.pendingTickets.filter fun ticket => ticket.road ∉ roads) ∧
      ∀ tickets after, (RegistryOp.sendTickets tickets).apply final.1 final.2 = .ok () after →
        after.2.sent = final.2.sent ++ tickets.filterMap (route final.1.dispatchers) ∧
          after.1.pendingTickets = final.1.pendingTickets ++
            tickets.filter fun ticket => !routed final.1.dispatchers ticket := by
  have unroutable : Unroutable final.1 :=
    runRegistry_invariant (fun _ state => Unroutable state.1) ops
      (fun _ _ _ _ _ _ holds step => holds.step step)
      (Dispatchers.default, ⟨closed, []⟩) (by simp [Unroutable, Dispatchers.default]) run
  refine ⟨fun ticket waiting => routed_eq_false.mp (unroutable ticket waiting),
    fun id roads ticketSender ⟨registry', channels'⟩ step => ?_, fun tickets ⟨registry', channels'⟩ step => ?_⟩
  · obtain ⟨rfl, rfl⟩ := Dispatchers.sendPendingTickets_ok step
    obtain ⟨pushed, kept⟩ := drain_after_add ⟨id, roads, ticketSender⟩ unroutable
    exact ⟨rfl, congrArg (final.2.sent ++ ·) pushed, kept⟩
  · obtain ⟨rfl, rfl⟩ := Dispatchers.sendPendingTickets_ok step
    have waiting : final.1.pendingTickets.filter (fun ticket => !routed final.1.dispatchers ticket) =
        final.1.pendingTickets := List.filter_eq_self.mpr fun ticket member => by simp [unroutable ticket member]
    constructor <;> simp only [List.filterMap_append, filterMap_route_of_unroutable unroutable, List.nil_append,
      List.filter_append, waiting]

def waitingTicketState : Dispatchers × Channels := (⟨[], [⟨"UN1X", 66, 8, 0, 9, 45, 8000⟩]⟩, ⟨[], []⟩)

theorem waiting_ticket_goes_to_new_dispatcher :
    runRegistry (lateDispatcherOps.take 1) Dispatchers.default ⟨[], []⟩ = some waitingTicketState ∧
      (∀ ticket ∈ waitingTicketState.1.pendingTickets, ∀ dispatcher ∈ waitingTicketState.1.dispatchers,
        ticket.road ∉ dispatcher.roads) ∧
      (∀ id roads ticketSender after,
        (RegistryOp.addDispatcher id roads ticketSender).apply waitingTicketState.1 waitingTicketState.2 =
          .ok () after →
        after.1.dispatchers = waitingTicketState.1.dispatchers ++ [⟨id, roads, ticketSender⟩] ∧
          after.2.sent = waitingTicketState.2.sent ++ (waitingTicketState.1.pendingTickets.filter
            fun ticket => ticket.road ∈ roads).map (fun ticket => (ticketSender, ticket)) ∧
          after.1.pendingTickets = waitingTicketState.1.pendingTickets.filter fun ticket => ticket.road ∉ roads) ∧
      ∀ tickets after, (RegistryOp.sendTickets tickets).apply waitingTicketState.1 waitingTicketState.2 = .ok () after →
        after.2.sent = waitingTicketState.2.sent ++ tickets.filterMap (route waitingTicketState.1.dispatchers) ∧
          after.1.pendingTickets = waitingTicketState.1.pendingTickets ++
            tickets.filter fun ticket => !routed waitingTicketState.1.dispatchers ticket :=
  have run : runRegistry (lateDispatcherOps.take 1) Dispatchers.default ⟨[], []⟩ = some waitingTicketState := by
    decide
  ⟨run, pending_tickets_unroutable _ [] _ run⟩

theorem pushesTo_route_sublist (dispatchers : List Dispatcher) (tickets : List Ticket) (sender : Nat) :
    (pushesTo (tickets.filterMap (route dispatchers)) sender).Sublist tickets := by
  induction tickets with
  | nil => simp [pushesTo]
  | cons ticket rest ih =>
    cases found : findSender dispatchers ticket.road with
    | none => simpa [List.filterMap_cons, route, found] using ih.cons ticket
    | some target =>
      by_cases same : target = sender
      · simpa [List.filterMap_cons, route, found, pushesTo, same] using ih.cons₂ ticket
      · simpa [List.filterMap_cons, route, found, pushesTo, same] using ih.cons ticket

theorem route_after_add {dispatchers : List Dispatcher} (added : Dispatcher) {tickets : List Ticket}
    (unrouted : ∀ ticket ∈ tickets, routed dispatchers ticket = false) :
    ∀ push ∈ tickets.filterMap (route (dispatchers ++ [added])), push.1 = added.ticketSender := by
  intro push member
  obtain ⟨ticket, waiting, routedTo⟩ := List.mem_filterMap.mp member
  simp only [route, Option.map_eq_some'] at routedTo
  obtain ⟨sender, found, rfl⟩ := routedTo
  obtain ⟨target, member', rfl, covers⟩ := findSender_eq_some found
  rcases List.mem_append.mp member' with old | new
  · exact absurd covers (routed_eq_false.mp (unrouted ticket waiting) target old)
  · simp [List.mem_singleton.mp new]

structure Ordered (emitted : List Ticket) (senders : List Nat) (registry : Dispatchers)
    (channels : Channels) : Prop where
  pending : registry.pendingTickets.Sublist emitted
  pushes : ∀ sender, (pushesTo channels.sent sender).Sublist emitted
  registered : ∀ dispatcher ∈ registry.dispatchers, dispatcher.ticketSender ∈ senders
  pushed : ∀ push ∈ channels.sent, push.1 ∈ senders
  unroutable : Unroutable registry

theorem pushesTo_eq_nil {sent : List (Nat × Ticket)} {sender : Nat}
    (other : ∀ push ∈ sent, push.1 ≠ sender) : pushesTo sent sender = [] := by
  simp only [pushesTo, List.map_eq_nil_iff, List.filter_eq_nil_iff, decide_eq_true_eq]
  exact other

theorem Ordered.step {op : RegistryOp} {emitted : List Ticket} {senders : List Nat}
    {registry registry' : Dispatchers} {channels channels' : Channels}
    (ordered : Ordered emitted senders registry channels)
    (fresh : ∀ sender ∈ op.sender?, sender ∉ senders)
    (step : op.apply registry channels = .ok () (registry', channels')) :
    Ordered (emitted ++ op.batch) (senders ++ op.sender?.toList) registry' channels' := by
  have unroutable := ordered.unroutable.step step
  cases op with
  | removeDispatcher id =>
    cases step
    simp only [RegistryOp.batch, RegistryOp.sender?, Option.toList, List.append_nil]
    exact ⟨ordered.pending, ordered.pushes,
      fun dispatcher member => ordered.registered dispatcher (List.mem_filter.mp member).1,
      ordered.pushed, unroutable⟩
  | sendTickets tickets =>
    obtain ⟨rfl, rfl⟩ := Dispatchers.sendPendingTickets_ok step
    have quiet := filterMap_route_of_unroutable ordered.unroutable
    simp only [RegistryOp.sender?, Option.toList, List.append_nil]
    refine ⟨(List.filter_sublist _).trans (ordered.pending.append (List.Sublist.refl _)),
      fun sender => ?_, ordered.registered, ?_, unroutable⟩
    · simpa [quiet] using (ordered.pushes sender).append (pushesTo_route_sublist _ tickets sender)
    · intro push member
      rcases List.mem_append.mp member with old | new
      · exact ordered.pushed push old
      · obtain ⟨dispatcher, registeredAt, sender, -⟩ := route_target new
        exact sender ▸ ordered.registered dispatcher registeredAt
  | addDispatcher id roads ticketSender =>
    obtain ⟨rfl, rfl⟩ := Dispatchers.sendPendingTickets_ok step
    have newcomer : ticketSender ∉ senders := fresh ticketSender rfl
    have toNew := route_after_add ⟨id, roads, ticketSender⟩ ordered.unroutable
    refine ⟨by simpa [RegistryOp.batch] using (List.filter_sublist _).trans ordered.pending,
      fun sender => ?_, ?_, ?_, unroutable⟩
    · by_cases same : sender = ticketSender
      · subst same
        have none : pushesTo channels.sent sender = [] :=
          pushesTo_eq_nil fun push old same => newcomer (same ▸ ordered.pushed push old)
        simpa [RegistryOp.batch, none] using
          (pushesTo_route_sublist _ registry.pendingTickets sender).trans ordered.pending
      · have none : pushesTo (registry.pendingTickets.filterMap
            (route (registry.dispatchers ++ [⟨id, roads, ticketSender⟩]))) sender = [] :=
          pushesTo_eq_nil fun push new equal => same (equal ▸ toNew push new)
        simpa [RegistryOp.batch, none] using ordered.pushes sender
    · intro dispatcher member
      rcases List.mem_append.mp member with old | new
      · exact List.mem_append_left _ (ordered.registered dispatcher old)
      · rw [List.mem_singleton.mp new]
        exact List.mem_append_right _ (List.mem_singleton_self _)
    · intro push member
      rcases List.mem_append.mp member with old | new
      · exact List.mem_append_left _ (ordered.pushed push old)
      · rw [toNew push new]
        exact List.mem_append_right _ (List.mem_singleton_self _)

theorem runRegistry_ordered (ops : List RegistryOp) (closed : List Nat) {final : Dispatchers × Channels}
    (fresh : (ops.filterMap RegistryOp.sender?).Nodup)
    (run : runRegistry ops Dispatchers.default ⟨closed, []⟩ = some final) :
    Ordered (emittedTickets ops) (ops.filterMap RegistryOp.sender?) final.1 final.2 := by
  refine runRegistry_invariant (fun done state => Ordered (emittedTickets done)
    (done.filterMap RegistryOp.sender?) state.1 state.2) ops ?_
    (Dispatchers.default, ⟨closed, []⟩)
    ⟨by simp [Dispatchers.default], by simp [pushesTo], by simp [Dispatchers.default], by simp,
      by simp [Unroutable, Dispatchers.default]⟩ run
  intro done op rest state state' split ordered step
  have disjoint : ∀ sender ∈ op.sender?, sender ∉ done.filterMap RegistryOp.sender? := by
    intro sender added earlier
    rw [split, List.filterMap_append, List.filterMap_cons_some (Option.mem_def.mp added)] at fresh
    exact (List.nodup_append.mp fresh).2.2 earlier (List.mem_cons_self _ _)
  have next := ordered.step disjoint step
  cases found : op.sender? <;> simp_all [emittedTickets, List.filterMap_append]

theorem registry_preserves_emission_order (ops : List RegistryOp) (closed : List Nat)
    (final : Dispatchers × Channels) (fresh : (ops.filterMap RegistryOp.sender?).Nodup)
    (run : runRegistry ops Dispatchers.default ⟨closed, []⟩ = some final) :
    final.1.pendingTickets.Sublist (emittedTickets ops) ∧
      ∀ sender, (pushesTo final.2.sent sender).Sublist (emittedTickets ops) :=
  have ordered := runRegistry_ordered ops closed fresh run
  ⟨ordered.pending, ordered.pushes⟩

theorem late_dispatcher_keeps_emission_order :
    (lateDispatcherOps.filterMap RegistryOp.sender?).Nodup ∧
      runRegistry lateDispatcherOps Dispatchers.default ⟨[], []⟩ = some lateDispatcherFinal ∧
      lateDispatcherFinal.1.pendingTickets.Sublist (emittedTickets lateDispatcherOps) ∧
      ∀ sender, (pushesTo lateDispatcherFinal.2.sent sender).Sublist (emittedTickets lateDispatcherOps) :=
  have fresh : (lateDispatcherOps.filterMap RegistryOp.sender?).Nodup := by decide
  have run : runRegistry lateDispatcherOps Dispatchers.default ⟨[], []⟩ = some lateDispatcherFinal := by
    decide
  ⟨fresh, run, registry_preserves_emission_order lateDispatcherOps [] lateDispatcherFinal fresh run⟩

end SpeedDaemonProof
