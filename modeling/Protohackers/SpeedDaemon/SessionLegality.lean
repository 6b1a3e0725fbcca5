import Protohackers.SpeedDaemon.Session

namespace SpeedDaemonProof

open SpeedDaemonModel
open Wire (Frame IAmCamera IAmDispatcher)

inductive SpecRole where
  | unidentified
  | camera (identity : IAmCamera)
  | dispatcher
deriving DecidableEq, Repr

/-- Modelled from the spec: the legal inputs of each role. `requested` says whether a
    WantHeartbeat came before; an IAmCamera is legal only if `cameras` holds no other limit for
    its road. -/
def legal (cameras : Cameras) : SpecRole → Bool → Frame → Bool
  | .unidentified, _, .iAmCamera identity =>
    ((cameras identity.road).map fun entry => decide (entry.1 = identity.limit)).getD true
  | .unidentified, _, .iAmDispatcher _ => true
  | _, requested, .wantHeartbeat _ => !requested
  | .camera _, _, .plate _ => true
  | _, _, _ => false

def SpecRole.next : SpecRole → Frame → SpecRole
  | .unidentified, .iAmCamera identity => .camera identity
  | .unidentified, .iAmDispatcher _ => .dispatcher
  | role, _ => role

/-- Modelled from the spec: the frames up to the first illegal one. -/
def legalPrefix (cameras : Cameras) : SpecRole → Bool → List Frame → List Frame
  | _, _, [] => []
  | role, requested, frame :: rest =>
    if legal cameras role requested frame then
      frame :: legalPrefix cameras (role.next frame) (requested || frame.isWantHeartbeat) rest
    else []

/-- Modelled from the spec: a camera's plates, tagged with its road, mile and limit. -/
def forwardedPlate : SpecRole → Frame → List Plate
  | .camera identity, .plate observed =>
    [⟨observed.plate, identity.road, identity.limit, identity.mile, observed.timestamp⟩]
  | _, _ => []

def forwardedPlates : SpecRole → List Frame → List Plate
  | _, [] => []
  | role, frame :: rest => forwardedPlate role frame ++ forwardedPlates (role.next frame) rest

def SpecRole.of : Role → SpecRole
  | .client => .unidentified
  | .camera identity _ => .camera identity
  | .dispatcher _ _ _ => .dispatcher

theorem legalPrefix_identified (cameras other : Cameras) {role : SpecRole}
    (identified : role ≠ .unidentified) (requested : Bool) (frames : List Frame) :
    legalPrefix cameras role requested frames = legalPrefix other role requested frames := by
  induction frames generalizing requested with
  | nil => rfl
  | cons frame rest ih =>
    have same : legal cameras role requested frame = legal other role requested frame := by
      cases role <;> cases frame <;> simp_all [legal]
    have stays : role.next frame = role := by cases role <;> cases frame <;> simp_all [SpecRole.next]
    simp only [legalPrefix, same, stays, ih]

def plates (world : World) : List Plate := world.inbox.filterMap ControllerMessage.plate?

@[simp] theorem plates_release (session : Session) (world : World) :
    plates (session.release world) = plates world := by
  obtain ⟨role, heartbeat⟩ := session
  cases role <;>
    simp [plates, Session.release, DispatcherGuard.drop, ControllerMessage.plate?]

theorem Session.step_legal {session : Session} {frame : Frame} {world : World}
    (accepted : legal world.cameras (SpecRole.of session.role) session.heartbeat.isSetted frame) :
    ∃ next world', session.step (.receive frame) world = .ok (next, []) world' ∧
      SpecRole.of next.role = (SpecRole.of session.role).next frame ∧
      next.heartbeat.isSetted = (session.heartbeat.isSetted || frame.isWantHeartbeat) ∧
      plates world' = plates world ++ forwardedPlate (SpecRole.of session.role) frame ∧
      ((SpecRole.of session.role).next frame = .unidentified → world'.cameras = world.cameras) := by
  obtain ⟨role, heartbeat⟩ := session
  cases role with
  | client =>
    cases frame with
    | iAmCamera identity =>
      rcases registered : CameraGuard.new world.cameras identity.road identity.limit with
        ⟨_ | guard, cameras⟩
      · obtain ⟨-, -, declared, count, found, conflict⟩ :=
          CameraGuard.new_rejected (congrArg Prod.fst registered)
        simp [legal, SpecRole.of, found, conflict] at accepted
      · simp [Session.step, handleClient, registered, SpecRole.of, SpecRole.next,
          Frame.isWantHeartbeat, and_assoc, exists_eq_left', plates, forwardedPlate]
    | wantHeartbeat message =>
      obtain ⟨interval⟩ := message
      simp_all [legal, Session.step, handleClient, SpecRole.of, SpecRole.next, Heartbeat.isSetted,
        Heartbeat.setPeriod, Frame.isWantHeartbeat, and_assoc, exists_eq_left', forwardedPlate]
    | _ => simp_all [legal, Session.step, handleClient, SpecRole.of, SpecRole.next, plates,
        DispatcherGuard.new, Frame.isWantHeartbeat, and_assoc, exists_eq_left', forwardedPlate, ControllerMessage.plate?]
  | camera identity guard =>
    cases frame with
    | plate observed =>
      obtain ⟨plate, timestamp⟩ := observed
      simp [Session.step, handleCamera, SpecRole.of, SpecRole.next, Frame.isWantHeartbeat,
        plates, forwardedPlate, ControllerMessage.plate?, and_assoc, exists_eq_left']
    | wantHeartbeat message =>
      obtain ⟨interval⟩ := message
      simp_all [legal, Session.step, handleCamera, SpecRole.of, SpecRole.next, Heartbeat.isSetted,
        Heartbeat.setPeriod, Frame.isWantHeartbeat, and_assoc, exists_eq_left', forwardedPlate]
    | _ => simp_all [legal, SpecRole.of]
  | dispatcher identity guard received =>
    cases frame with
    | wantHeartbeat message =>
      obtain ⟨interval⟩ := message
      simp_all [legal, Session.step, handleDispatcher, SpecRole.of, SpecRole.next,
        Heartbeat.isSetted, Heartbeat.setPeriod, Frame.isWantHeartbeat, and_assoc, exists_eq_left', forwardedPlate]
    | _ => simp_all [legal, SpecRole.of]

theorem Session.step_illegal {session : Session} {frame : Frame} {world : World}
    (refused : legal world.cameras (SpecRole.of session.role) session.heartbeat.isSetted frame = false) :
    ∃ err world', session.step (.receive frame) world = .error err world' ∧
      plates world' = plates world := by
  obtain ⟨role, heartbeat⟩ := session
  cases role with
  | client =>
    cases frame with
    | iAmCamera identity =>
      rcases registered : CameraGuard.new world.cameras identity.road identity.limit with
        ⟨_ | guard, cameras⟩
      · simp [Session.step, handleClient, registered, plates, and_assoc, exists_eq_left']
      · obtain ⟨-, -, agrees⟩ := CameraGuard.new_accepted (congrArg Prod.fst registered)
        cases found : world.cameras identity.road with
        | none => simp [legal, SpecRole.of, found] at refused
        | some entry =>
          simp [legal, SpecRole.of, found, agrees entry.1 entry.2 found] at refused
    | _ => simp_all [legal, Session.step, handleClient, SpecRole.of, and_assoc, exists_eq_left']
  | camera identity guard => cases frame <;> simp_all [legal, Session.step, handleCamera, SpecRole.of, and_assoc, exists_eq_left']
  | dispatcher identity guard received =>
    cases frame <;> simp_all [legal, Session.step, handleDispatcher, SpecRole.of, and_assoc, exists_eq_left']

theorem serve_closed (events : List Event) (world : World) :
    serve .closed events world = (.closed, world, []) := by
  induction events with
  | nil => rfl
  | cons event rest ih => simp [serve, Connection.step, ih]

theorem serve_append (connection : Connection) (first second : List Event) (world : World) :
    serve connection (first ++ second) world =
      ((serve (serve connection first world).1 second (serve connection first world).2.1).1,
        (serve (serve connection first world).1 second (serve connection first world).2.1).2.1,
        (serve connection first world).2.2 ++
          (serve (serve connection first world).1 second (serve connection first world).2.1).2.2) := by
  induction first generalizing connection world with
  | nil => simp [serve]
  | cons event rest ih => simp [serve, ih]

structure ServesLegalPrefix (session : Session) (world : World) (frames : List Frame) : Prop where
  forwards : plates (serve (.open session) (frames.map .receive) world).2.1 = plates world ++
    forwardedPlates (SpecRole.of session.role)
      (legalPrefix world.cameras (SpecRole.of session.role) session.heartbeat.isSetted frames)
  stops : serve (.open session) (frames.map .receive) world = serve (.open session)
    ((frames.take ((legalPrefix world.cameras (SpecRole.of session.role)
      session.heartbeat.isSetted frames).length + 1)).map .receive) world
  running : legalPrefix world.cameras (SpecRole.of session.role) session.heartbeat.isSetted frames =
      frames → (∃ next, (serve (.open session) (frames.map .receive) world).1 = .open next) ∧
    (serve (.open session) (frames.map .receive) world).2.2 = []
  closes : legalPrefix world.cameras (SpecRole.of session.role) session.heartbeat.isSetted frames ≠
      frames → (serve (.open session) (frames.map .receive) world).1 = .closed ∧
    ∃ msg, (serve (.open session) (frames.map .receive) world).2.2 = [.error msg]

theorem serves_legal_frames (frames : List Frame) :
    ∀ session world, ServesLegalPrefix session world frames := by
  induction frames with
  | nil => exact fun session world => ⟨by simp [serve, legalPrefix, forwardedPlates], rfl,
      fun _ => ⟨⟨session, rfl⟩, rfl⟩, fun different => absurd (by simp [legalPrefix]) different⟩
  | cons frame rest ih =>
    intro session world
    by_cases accepted : legal world.cameras (SpecRole.of session.role) session.heartbeat.isSetted frame
    · obtain ⟨next, world', stepped, role, requested, forwarded, cameras⟩ := Session.step_legal accepted
      have served : ∀ later : List Frame, serve (.open session) ((frame :: later).map .receive) world =
          serve (.open next) (later.map .receive) world' := by
        intro later
        simp [serve, Connection.step, stepped]
      have legalFrames : legalPrefix world.cameras (SpecRole.of session.role)
          session.heartbeat.isSetted (frame :: rest) =
          frame :: legalPrefix world'.cameras (SpecRole.of next.role) next.heartbeat.isSetted rest := by
        rw [legalPrefix, if_pos accepted, role, requested]
        by_cases identified : (SpecRole.of session.role).next frame = .unidentified
        · rw [cameras identified]
        · rw [legalPrefix_identified world.cameras world'.cameras identified]
      obtain ⟨forwards, stops, running, closes⟩ := ih next world'
      refine ⟨?_, ?_, ?_, ?_⟩
      · rw [served, forwards, legalFrames, forwardedPlates, forwarded, role, List.append_assoc]
      · rw [legalFrames, List.length_cons, List.take_succ_cons, served, served, stops]
      · rw [legalFrames, List.cons.injEq, served]
        exact fun same => running same.2
      · rw [legalFrames, ne_eq, List.cons.injEq, served]
        exact fun different => closes fun same => different ⟨rfl, same⟩
    · obtain ⟨err, world', stepped, same⟩ := Session.step_illegal (by simpa using accepted)
      have served : ∀ later : List Frame, serve (.open session) ((frame :: later).map .receive) world =
          (.closed, session.release world', [.error err.msg]) := by
        intro later
        simp [serve, Connection.step, stepped, serve_closed]
      have legalFrames : legalPrefix world.cameras (SpecRole.of session.role)
          session.heartbeat.isSetted (frame :: rest) = [] := by
        simp [legalPrefix, accepted]
      refine ⟨by rw [served, legalFrames]; simp [same, forwardedPlates], ?_,
        fun legalInput => by simp [legalFrames] at legalInput,
        fun _ => ⟨by rw [served], err.msg, by rw [served]⟩⟩
      rw [legalFrames, List.length_nil, List.take_succ_cons, List.take_zero, served, served]

theorem session_processes_longest_legal_input (frames : List Frame) (world : World) :
    plates (serve (.open Session.initial) (frames.map .receive) world).2.1 =
        plates world ++ forwardedPlates .unidentified (legalPrefix world.cameras .unidentified false frames) ∧
      serve (.open Session.initial) (frames.map .receive) world =
        serve (.open Session.initial)
          ((frames.take ((legalPrefix world.cameras .unidentified false frames).length + 1)).map .receive)
          world ∧
      (legalPrefix world.cameras .unidentified false frames = frames →
        (∃ session, (serve (.open Session.initial) (frames.map .receive) world).1 = .open session) ∧
        (serve (.open Session.initial) (frames.map .receive) world).2.2 = []) ∧
      (legalPrefix world.cameras .unidentified false frames ≠ frames →
        (serve (.open Session.initial) (frames.map .receive) world).1 = .closed ∧
        ∃ msg, (serve (.open Session.initial) (frames.map .receive) world).2.2 = [.error msg]) :=
  let served := serves_legal_frames frames Session.initial world
  ⟨served.forwards, served.stops, served.running, served.closes⟩

theorem Session.step_endOfStream (session : Session) (world : World) :
    session.step .endOfStream world = .error .unexpectedEof world := by
  obtain ⟨role, heartbeat⟩ := session
  cases role <;> rfl

theorem end_of_stream_writes_unexpected_eof (frames : List Frame) (world : World)
    (legalInput : legalPrefix world.cameras .unidentified false frames = frames) :
    ∃ session world', serve (.open Session.initial) (frames.map .receive) world = (.open session, world', []) ∧
      serve (.open Session.initial) (frames.map .receive ++ [.endOfStream]) world =
        (.closed, session.release world', [.error "unexpected end of file"]) := by
  obtain ⟨⟨session, opened⟩, quiet⟩ := (serves_legal_frames frames Session.initial world).running legalInput
  refine ⟨session, (serve (.open Session.initial) (frames.map .receive) world).2.1, ?_, ?_⟩
  · rw [← opened, ← quiet]
  · rw [serve_append, opened, quiet]
    simp [serve, Connection.step, Session.step_endOfStream, SessionError.msg]

/-- A camera that closes its stream after a legal IAmCamera and Plate is sent an Error. -/
theorem camera_end_of_stream_gets_error :
    (serve (.open Session.initial)
      ([.iAmCamera ⟨66, 8, 60⟩, .plate ⟨"UN1X", 0⟩].map .receive ++ [.endOfStream])
      ⟨Cameras.empty, [], ⟨[], []⟩, 0⟩).2.2 = [.error "unexpected end of file"] := by
  decide

theorem camera_session_end_of_stream :
    legalPrefix Cameras.empty .unidentified false [.iAmCamera ⟨66, 8, 60⟩, .plate ⟨"UN1X", 0⟩] =
        [.iAmCamera ⟨66, 8, 60⟩, .plate ⟨"UN1X", 0⟩] ∧
      ∃ session world', serve (.open Session.initial)
          ([.iAmCamera ⟨66, 8, 60⟩, .plate ⟨"UN1X", 0⟩].map .receive) ⟨Cameras.empty, [], ⟨[], []⟩, 0⟩ =
          (.open session, world', []) ∧
        serve (.open Session.initial)
          ([.iAmCamera ⟨66, 8, 60⟩, .plate ⟨"UN1X", 0⟩].map .receive ++ [.endOfStream])
          ⟨Cameras.empty, [], ⟨[], []⟩, 0⟩ = (.closed, session.release world', [.error "unexpected end of file"]) :=
  have legalInput : legalPrefix Cameras.empty .unidentified false
      [.iAmCamera ⟨66, 8, 60⟩, .plate ⟨"UN1X", 0⟩] = [.iAmCamera ⟨66, 8, 60⟩, .plate ⟨"UN1X", 0⟩] := by
    decide
  ⟨legalInput, end_of_stream_writes_unexpected_eof _ ⟨Cameras.empty, [], ⟨[], []⟩, 0⟩ legalInput⟩

/-- `u64::from(i * 100)` multiplies in `u32`: past 42949672 deciseconds the period wraps, and
    `2^30` turns heartbeats off, where the camera's `u64::from(i) * 100` keeps the full period. -/
theorem unidentified_heartbeat_period_wraps (world : World) (identity : IAmCamera) (guard : CameraGuard) :
    Session.initial.step (.receive (.wantHeartbeat ⟨42949673⟩)) world =
        .ok (⟨.client, ⟨some 4, some 4⟩⟩, []) world ∧
      Session.initial.step (.receive (.wantHeartbeat ⟨1073741824⟩)) world =
        .ok (⟨.client, ⟨none, some 0⟩⟩, []) world ∧
      (⟨.camera identity guard, Heartbeat.default⟩ : Session).step
          (.receive (.wantHeartbeat ⟨1073741824⟩)) world =
        .ok (⟨.camera identity guard, ⟨some 107374182400, some 107374182400⟩⟩, []) world :=
  ⟨rfl, rfl, rfl⟩

end SpeedDaemonProof
