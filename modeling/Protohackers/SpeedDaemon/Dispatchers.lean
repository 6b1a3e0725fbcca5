import Protohackers.SpeedDaemon.Wire

namespace SpeedDaemonModel

structure Channels where
  closed : List Nat
  sent : List (Nat × Ticket)
deriving DecidableEq, Repr

structure SendError where
  ticket : Ticket
deriving DecidableEq, Repr

def Channels.send (channels : Channels) (sender : Nat) (ticket : Ticket) : Except SendError Channels :=
  if sender ∈ channels.closed then .error ⟨ticket⟩
  else .ok { channels with sent := channels.sent ++ [(sender, ticket)] }

def pushesTo (sent : List (Nat × Ticket)) (sender : Nat) : List Ticket :=
  (sent.filter fun push => push.1 = sender).map Prod.snd

@[simp] theorem pushesTo_append (first second : List (Nat × Ticket)) (sender : Nat) :
    pushesTo (first ++ second) sender = pushesTo first sender ++ pushesTo second sender := by
  simp [pushesTo]

def Channels.close (channels : Channels) (receiver : Nat) : Channels :=
  { channels with closed := receiver :: channels.closed }

structure Dispatcher where
  id : Nat
  roads : List UInt16
  ticketSender : Nat
deriving DecidableEq, Repr

structure Dispatchers where
  dispatchers : List Dispatcher
  pendingTickets : List Ticket
deriving DecidableEq, Repr

def Dispatchers.default : Dispatchers := ⟨[], []⟩

def findSender (dispatchers : List Dispatcher) (road : UInt16) : Option Nat :=
  (dispatchers.find? fun dispatcher => road ∈ dispatcher.roads).map Dispatcher.ticketSender

def drainPending (dispatchers : List Dispatcher) :
    List Ticket → List Ticket → Channels → EStateM.Result SendError Channels (List Ticket)
  | [], deferred, channels => .ok deferred channels
  | ticket :: rest, deferred, channels =>
    match findSender dispatchers ticket.road with
    | some sender =>
      match channels.send sender ticket with
      | .ok channels => drainPending dispatchers rest deferred channels
      | .error err => .error err channels
    | none => drainPending dispatchers rest (deferred ++ [ticket]) channels

def Dispatchers.sendPendingTickets (self : Dispatchers) (channels : Channels) :
    EStateM.Result SendError (Dispatchers × Channels) Unit :=
  match drainPending self.dispatchers self.pendingTickets [] channels with
  | .ok deferred channels => .ok () ({ self with pendingTickets := [] ++ deferred }, channels)
  | .error err channels => .error err ({ self with pendingTickets := [] }, channels)

def Dispatchers.addDispatcher (self : Dispatchers) (id : Nat) (roads : List UInt16)
    (ticketSender : Nat) (channels : Channels) :
    EStateM.Result SendError (Dispatchers × Channels) Unit :=
  { self with dispatchers := self.dispatchers ++ [Dispatcher.mk id roads ticketSender] }.sendPendingTickets
    channels

def Dispatchers.removeDispatcher (self : Dispatchers) (removedId : Nat) : Dispatchers :=
  { self with dispatchers := self.dispatchers.filter fun dispatcher => dispatcher.id ≠ removedId }

def Dispatchers.sendTickets (self : Dispatchers) (tickets : List Ticket) (channels : Channels) :
    EStateM.Result SendError (Dispatchers × Channels) Unit :=
  { self with pendingTickets := self.pendingTickets ++ tickets }.sendPendingTickets channels

def routed (dispatchers : List Dispatcher) (ticket : Ticket) : Bool :=
  (findSender dispatchers ticket.road).isSome

def route (dispatchers : List Dispatcher) (ticket : Ticket) : Option (Nat × Ticket) :=
  (findSender dispatchers ticket.road).map fun sender => (sender, ticket)

theorem findSender_eq_none {dispatchers : List Dispatcher} {road : UInt16} :
    findSender dispatchers road = none ↔ ∀ dispatcher ∈ dispatchers, road ∉ dispatcher.roads := by
  simp [findSender, List.find?_eq_none]

theorem findSender_eq_some {dispatchers : List Dispatcher} {road : UInt16} {sender : Nat}
    (found : findSender dispatchers road = some sender) :
    ∃ dispatcher ∈ dispatchers, dispatcher.ticketSender = sender ∧ road ∈ dispatcher.roads := by
  simp only [findSender, Option.map_eq_some'] at found
  obtain ⟨dispatcher, first, rfl⟩ := found
  exact ⟨dispatcher, List.mem_of_find?_eq_some first, rfl, by simpa using List.find?_some first⟩

theorem routed_eq_false {dispatchers : List Dispatcher} {ticket : Ticket} :
    routed dispatchers ticket = false ↔ ∀ dispatcher ∈ dispatchers, ticket.road ∉ dispatcher.roads := by
  simp [routed, ← findSender_eq_none]

theorem route_snd (dispatchers : List Dispatcher) (tickets : List Ticket) :
    (tickets.filterMap (route dispatchers)).map Prod.snd = tickets.filter (routed dispatchers) := by
  induction tickets with
  | nil => rfl
  | cons ticket rest ih =>
    cases found : findSender dispatchers ticket.road <;>
      simp [List.filterMap_cons, route, routed, found, ih]

theorem drainPending_ok {dispatchers : List Dispatcher} {tickets deferred result : List Ticket}
    {channels after : Channels}
    (drained : drainPending dispatchers tickets deferred channels = .ok result after) :
    result = deferred ++ tickets.filter (fun ticket => !routed dispatchers ticket) ∧
      after = { channels with sent := channels.sent ++ tickets.filterMap (route dispatchers) } := by
  induction tickets generalizing deferred channels with
  | nil => cases drained; simp
  | cons ticket rest ih =>
    simp only [drainPending] at drained
    cases found : findSender dispatchers ticket.road with
    | none =>
      rw [found] at drained
      obtain ⟨rfl, rfl⟩ := ih drained
      simp [routed, route, found]
    | some sender =>
      rw [found] at drained
      by_cases gone : sender ∈ channels.closed
      · simp [Channels.send, gone] at drained
      · simp only [Channels.send, gone, if_false] at drained
        obtain ⟨rfl, rfl⟩ := ih drained
        simp [routed, route, found]

theorem Dispatchers.sendPendingTickets_ok {self self' : Dispatchers} {channels after : Channels}
    (sent : self.sendPendingTickets channels = .ok () (self', after)) :
    self' = { self with
        pendingTickets := self.pendingTickets.filter (fun ticket => !routed self.dispatchers ticket) } ∧
      after = { channels with
        sent := channels.sent ++ self.pendingTickets.filterMap (route self.dispatchers) } := by
  unfold Dispatchers.sendPendingTickets at sent
  split at sent
  · rename_i drained
    obtain ⟨rfl, rfl⟩ := drainPending_ok drained
    cases sent
    simp
  · cases sent

theorem Dispatchers.sendPendingTickets_error {self self' : Dispatchers} {channels after : Channels}
    {err : SendError} (failed : self.sendPendingTickets channels = .error err (self', after)) :
    self' = { self with pendingTickets := [] } := by
  unfold Dispatchers.sendPendingTickets at failed
  split at failed
  · cases failed
  · cases failed
    rfl

/-- A ticket for an uncovered road waits; the next batch routes a ticket to a dispatcher whose
    receiver is gone, and the failed send leaves the queue empty. -/
theorem failed_send_drops_waiting_tickets :
    Dispatchers.sendTickets ⟨[⟨0, [66], 0⟩], [⟨"RE05BKG", 368, 1234, 1000000, 1235, 1000060, 6000⟩]⟩
        [⟨"UN1X", 66, 8, 0, 9, 45, 8000⟩] ⟨[0], []⟩ =
      .error ⟨⟨"UN1X", 66, 8, 0, 9, 45, 8000⟩⟩ (⟨[⟨0, [66], 0⟩], []⟩, ⟨[0], []⟩) := rfl

theorem drainPending_error {dispatchers : List Dispatcher} {tickets deferred : List Ticket}
    {channels after : Channels} {err : SendError}
    (failed : drainPending dispatchers tickets deferred channels = .error err after) :
    err.ticket ∈ tickets ∧
      ∃ sender, findSender dispatchers err.ticket.road = some sender ∧ sender ∈ channels.closed := by
  induction tickets generalizing deferred channels with
  | nil => cases failed
  | cons ticket rest ih =>
    simp only [drainPending] at failed
    cases found : findSender dispatchers ticket.road with
    | none =>
      rw [found] at failed
      obtain ⟨member, later⟩ := ih failed
      exact ⟨List.mem_cons_of_mem _ member, later⟩
    | some sender =>
      rw [found] at failed
      by_cases gone : sender ∈ channels.closed
      · simp only [Channels.send, gone, if_true] at failed
        cases failed
        exact ⟨List.mem_cons_self _ _, sender, found, gone⟩
      · simp only [Channels.send, gone, if_false] at failed
        obtain ⟨member, later⟩ := ih failed
        exact ⟨List.mem_cons_of_mem _ member, later⟩

theorem Dispatchers.sendPendingTickets_fails {self self' : Dispatchers} {channels after : Channels}
    {err : SendError} (failed : self.sendPendingTickets channels = .error err (self', after)) :
    err.ticket ∈ self.pendingTickets ∧
      ∃ sender, findSender self.dispatchers err.ticket.road = some sender ∧ sender ∈ channels.closed := by
  unfold Dispatchers.sendPendingTickets at failed
  split at failed
  · cases failed
  · cases failed
    exact drainPending_error ‹_›

end SpeedDaemonModel
