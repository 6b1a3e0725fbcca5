import Protohackers.SpeedDaemon.Controller
import Protohackers.SpeedDaemon.Session

namespace SpeedDaemonModel

structure Actor where
  controller : Controller
  dispatchers : Dispatchers

def Actor.default : Actor := ⟨Controller.default, Dispatchers.default⟩

def Actor.receive (actor : Actor) (message : ControllerMessage) (channels : Channels) :
    Except SendError (Actor × Channels) :=
  match message with
  | .addDispatcher id roads ticketSender =>
    match actor.dispatchers.addDispatcher id roads ticketSender channels with
    | .ok () (dispatchers, channels) => .ok ({ actor with dispatchers }, channels)
    | .error err _ => .error err
  | .removeDispatcher id =>
    .ok ({ actor with dispatchers := actor.dispatchers.removeDispatcher id }, channels)
  | .plate plate =>
    let signalled := actor.controller.signal plate
    match actor.dispatchers.sendTickets signalled.2 channels with
    | .ok () (dispatchers, channels) => .ok (⟨signalled.1, dispatchers⟩, channels)
    | .error err _ => .error err

structure System where
  actor : Actor
  world : World
  connections : List Connection
  written : List (List Wire.ServerMessage)

def System.initial : System := ⟨Actor.default, ⟨Cameras.empty, [], ⟨[], []⟩, 0⟩, [], []⟩

inductive RunError where
  | accept
  | send (err : SendError)
deriving DecidableEq, Repr

inductive Action where
  | accept
  | acceptError
  | connection (index : Nat) (event : Event)
  | receive
deriving DecidableEq, Repr

def System.step (system : System) : Action → Except RunError System
  | .accept => .ok { system with
      connections := system.connections ++ [.open Session.initial]
      written := system.written ++ [[]] }
  | .acceptError => .error .accept
  | .connection index event =>
    match system.connections.get? index with
    | some connection =>
      let stepped := connection.step event system.world
      .ok { system with
        connections := system.connections.set index stepped.1
        world := stepped.2.1
        written := system.written.set index (system.written.getD index [] ++ stepped.2.2) }
    | none => .ok system
  | .receive =>
    match system.world.inbox with
    | [] => .ok system
    | message :: inbox =>
      match system.actor.receive message system.world.channels with
      | .ok (actor, channels) => .ok { system with actor, world := { system.world with inbox, channels } }
      | .error err => .error (.send err)

def System.run (system : System) : List Action → Except RunError System
  | [] => .ok system
  | action :: actions =>
    match system.step action with
    | .ok system => system.run actions
    | .error err => .error err

end SpeedDaemonModel
