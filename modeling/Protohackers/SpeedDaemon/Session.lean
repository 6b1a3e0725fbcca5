import Protohackers.SpeedDaemon.Dispatchers
import Protohackers.SpeedDaemon.Cameras

namespace SpeedDaemonModel

open Wire

structure Heartbeat where
  interval : Option Nat
  period : Option Nat
deriving DecidableEq, Repr

def Heartbeat.default : Heartbeat := ⟨none, none⟩

def Heartbeat.setPeriod (self : Heartbeat) (period : Nat) : Heartbeat :=
  { self with period := some period, interval := if period = 0 then none else some period }

def Heartbeat.new (period : Option Nat) : Heartbeat :=
  match period with
  | some period => Heartbeat.default.setPeriod period
  | none => Heartbeat.default

def Heartbeat.isValid (self : Heartbeat) : Bool :=
  match self.interval with
  | some period => period ≠ 0
  | none => false

def Heartbeat.isSetted (self : Heartbeat) : Bool := self.period.isSome

structure World where
  cameras : Cameras
  inbox : List ControllerMessage
  channels : Channels
  nextId : Nat

structure DispatcherGuard where
  id : Nat
deriving DecidableEq, Repr

def DispatcherGuard.new (world : World) (roads : List UInt16) : DispatcherGuard × World :=
  (⟨world.nextId⟩, { world with
    nextId := world.nextId + 1
    inbox := world.inbox ++ [.addDispatcher world.nextId roads world.nextId] })

def DispatcherGuard.drop (self : DispatcherGuard) (world : World) : World :=
  { world with inbox := world.inbox ++ [.removeDispatcher self.id] }

inductive Role where
  | client
  | camera (iAmCamera : IAmCamera) (guard : CameraGuard)
  | dispatcher (iAmDispatcher : IAmDispatcher) (guard : DispatcherGuard) (received : Nat)
deriving DecidableEq, Repr

structure Session where
  role : Role
  heartbeat : Heartbeat
deriving DecidableEq, Repr

def Session.initial : Session := ⟨.client, Heartbeat.new none⟩

inductive Event where
  | receive (frame : Frame)
  | endOfStream
  | tick
  | deliver
deriving DecidableEq, Repr

inductive SessionError where
  | unexpectedEof
  | invalidMessage (tag : UInt8)
  | invalidMsg (tag : UInt8)
  | invalidCamera (reason : String)
deriving DecidableEq, Repr

def SessionError.msg : SessionError → String
  | .unexpectedEof => "unexpected end of file"
  | .invalidMessage tag => "invalid message: 0x" ++ hexByte tag
  | .invalidMsg tag => "invalid msg: 0x" ++ hexByte tag
  | .invalidCamera reason => "invalid camera: " ++ reason

abbrev Turn := EStateM.Result SessionError World (Session × List ServerMessage)

def heartbeatTick (session : Session) (world : World) : Turn :=
  if session.heartbeat.isValid then .ok (session, [.heartbeat]) world else .ok (session, []) world

def handleClient (heartbeat : Heartbeat) : Event → World → Turn
  | .receive (.iAmCamera iAmCamera), world =>
    match CameraGuard.new world.cameras iAmCamera.road iAmCamera.limit with
    | (.ok guard, cameras) => .ok (⟨.camera iAmCamera guard, heartbeat⟩, []) { world with cameras }
    | (.error reason, cameras) => .error (.invalidCamera reason) { world with cameras }
  | .receive (.iAmDispatcher iAmDispatcher), world =>
    let (guard, world) := DispatcherGuard.new world iAmDispatcher.roads
    .ok (⟨.dispatcher iAmDispatcher guard 0, heartbeat⟩, []) world
  | .receive (.wantHeartbeat ⟨i⟩), world =>
    if !heartbeat.isSetted then .ok (⟨.client, heartbeat.setPeriod (i * 100).toNat⟩, []) world
    else .error (.invalidMessage WantHeartbeat.tag) world
  | .receive frame, world => .error (.invalidMessage frame.tag) world
  | .endOfStream, world => .error .unexpectedEof world
  | .tick, world => heartbeatTick ⟨.client, heartbeat⟩ world
  | .deliver, world => .ok (⟨.client, heartbeat⟩, []) world

def handleCamera (iAmCamera : IAmCamera) (guard : CameraGuard) (heartbeat : Heartbeat) :
    Event → World → Turn
  | .receive (.plate ⟨plate, timestamp⟩), world =>
    .ok (⟨.camera iAmCamera guard, heartbeat⟩, []) { world with
      inbox := world.inbox ++
        [.plate ⟨plate, iAmCamera.road, iAmCamera.limit, iAmCamera.mile, timestamp⟩] }
  | .receive (.wantHeartbeat ⟨i⟩), world =>
    if !heartbeat.isSetted then
      .ok (⟨.camera iAmCamera guard, heartbeat.setPeriod (i.toNat * 100)⟩, []) world
    else .error (.invalidMsg WantHeartbeat.tag) world
  | .receive frame, world => .error (.invalidMsg frame.tag) world
  | .endOfStream, world => .error .unexpectedEof world
  | .tick, world => heartbeatTick ⟨.camera iAmCamera guard, heartbeat⟩ world
  | .deliver, world => .ok (⟨.camera iAmCamera guard, heartbeat⟩, []) world

def handleDispatcher (iAmDispatcher : IAmDispatcher) (guard : DispatcherGuard) (received : Nat)
    (heartbeat : Heartbeat) : Event → World → Turn
  | .receive (.wantHeartbeat ⟨i⟩), world =>
    if !heartbeat.isSetted then
      .ok (⟨.dispatcher iAmDispatcher guard received, heartbeat.setPeriod (i.toNat * 100)⟩, []) world
    else .error (.invalidMsg WantHeartbeat.tag) world
  | .receive frame, world => .error (.invalidMsg frame.tag) world
  | .endOfStream, world => .error .unexpectedEof world
  | .tick, world => heartbeatTick ⟨.dispatcher iAmDispatcher guard received, heartbeat⟩ world
  | .deliver, world =>
    match (pushesTo world.channels.sent guard.id).get? received with
    | some ticket =>
      .ok (⟨.dispatcher iAmDispatcher guard (received + 1), heartbeat⟩, [.ticket ticket]) world
    | none => .ok (⟨.dispatcher iAmDispatcher guard received, heartbeat⟩, []) world

def Session.step (session : Session) (event : Event) (world : World) : Turn :=
  match session.role with
  | .client => handleClient session.heartbeat event world
  | .camera iAmCamera guard => handleCamera iAmCamera guard session.heartbeat event world
  | .dispatcher iAmDispatcher guard received =>
    handleDispatcher iAmDispatcher guard received session.heartbeat event world

def Session.release (session : Session) (world : World) : World :=
  match session.role with
  | .client => world
  | .camera _ guard => { world with cameras := guard.drop world.cameras }
  | .dispatcher _ guard _ => { guard.drop world with channels := world.channels.close guard.id }

inductive Connection where
  | open (session : Session)
  | closed
deriving DecidableEq, Repr

def Connection.step : Connection → Event → World → Connection × World × List ServerMessage
  | .open session, event, world =>
    match session.step event world with
    | .ok (session, written) world => (.open session, world, written)
    | .error err world => (.closed, session.release world, [.error err.msg])
  | .closed, _, world => (.closed, world, [])

def serve : Connection → List Event → World → Connection × World × List ServerMessage
  | connection, [], world => (connection, world, [])
  | connection, event :: events, world =>
    let first := connection.step event world
    let rest := serve first.1 events first.2.1
    (rest.1, rest.2.1, first.2.2 ++ rest.2.2)

end SpeedDaemonModel
