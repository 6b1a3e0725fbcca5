import Protohackers.SpeedDaemon.Turns
import Protohackers.SpeedDaemon.ActorRun
import Protohackers.SpeedDaemon.Cameras

namespace SpeedDaemonProof

open SpeedDaemonModel

def roleCamera : Role → Option (UInt16 × UInt16)
  | .camera iAmCamera guard => some (guard.road, iAmCamera.limit)
  | _ => none

def connectionCamera : Connection → Option (UInt16 × UInt16)
  | .open session => roleCamera session.role
  | .closed => none

def liveCameras (connections : List Connection) : List (UInt16 × UInt16) :=
  connections.filterMap connectionCamera

inductive CameraEffect : Cameras → Option (UInt16 × UInt16) → Cameras → Option (UInt16 × UInt16) → Prop
  | keep (cameras : Cameras) (guard : Option (UInt16 × UInt16)) : CameraEffect cameras guard cameras guard
  | connect (cameras : Cameras) (road limit : UInt16) :
    CameraEffect cameras none (CameraGuard.new cameras road limit).2
      (match (CameraGuard.new cameras road limit).1 with
        | .ok guard => some (guard.road, limit)
        | .error _ => none)
  | disconnect (cameras : Cameras) (road limit : UInt16) :
    CameraEffect cameras (some (road, limit)) (CameraGuard.drop ⟨road⟩ cameras) none

theorem client_cameraEffect (heartbeat : Heartbeat) (event : Event) (world : World) :
    CameraEffect world.cameras none ((Connection.open ⟨.client, heartbeat⟩).step event world).2.1.cameras
      (connectionCamera ((Connection.open ⟨.client, heartbeat⟩).step event world).1) := by
  rcases handleClient_cases heartbeat event world with ⟨iAmCamera, rfl⟩ | ⟨iAmDispatcher, registered⟩ |
    keeps
  · have effect := CameraEffect.connect world.cameras iAmCamera.road iAmCamera.limit
    rcases registered : CameraGuard.new world.cameras iAmCamera.road iAmCamera.limit with
      ⟨_ | guard, cameras⟩ <;> rw [registered] at effect <;>
      simpa [Connection.step, Session.step, handleClient, registered, Session.release,
        connectionCamera, roleCamera] using effect
  · simp only [Connection.step, Session.step, registered]
    exact .keep _ _
  · simp only [Connection.step, Session.step]
    split <;> rename_i stepped <;> rw [stepped] at keeps
    · obtain ⟨role, rfl⟩ := keeps
      dsimp only [connectionCamera]
      rw [role]
      exact .keep _ _
    · subst keeps
      exact .keep _ _

theorem Connection.step_cameraEffect (connection : Connection) (event : Event) (world : World) :
    CameraEffect world.cameras (connectionCamera connection)
      (connection.step event world).2.1.cameras (connectionCamera (connection.step event world).1) := by
  cases connection with
  | closed => exact .keep _ _
  | «open» session =>
    obtain ⟨role, heartbeat⟩ := session
    cases role with
    | client => exact client_cameraEffect heartbeat event world
    | camera iAmCamera guard =>
      have keeps := handleCamera_keeps iAmCamera guard heartbeat event world
      simp only [Connection.step, Session.step]
      split <;> rename_i stepped <;> rw [stepped] at keeps
      · obtain ⟨role, plates, rfl⟩ := keeps
        dsimp only [connectionCamera]
        rw [role]
        exact .keep _ _
      · subst keeps
        exact .disconnect _ _ _
    | dispatcher iAmDispatcher guard received =>
      have keeps := handleDispatcher_keeps iAmDispatcher guard received heartbeat event world
      simp only [Connection.step, Session.step]
      split <;> rename_i stepped <;> rw [stepped] at keeps
      · obtain ⟨⟨received', role⟩, rfl⟩ := keeps
        dsimp only [connectionCamera]
        rw [role]
        exact .keep _ _
      · subst keeps
        exact .keep _ _

theorem CameraWorld.Consistent.perm {cameras : Cameras} {live live' : List (UInt16 × UInt16)}
    (consistent : CameraWorld.Consistent ⟨cameras, live⟩) (permuted : live.Perm live') :
    CameraWorld.Consistent ⟨cameras, live'⟩ :=
  ⟨fun road => (permuted.countP_eq _).symm.trans (consistent.count road), consistent.positive,
    fun road limit count found guard member =>
      consistent.limits road limit count found guard (permuted.mem_iff.mpr member)⟩

theorem CameraWorld.Consistent.effect {cameras cameras' : Cameras}
    {guard guard' : Option (UInt16 × UInt16)} {before after : List (UInt16 × UInt16)}
    (consistent : CameraWorld.Consistent ⟨cameras, before ++ guard.toList ++ after⟩)
    (effect : CameraEffect cameras guard cameras' guard') :
    CameraWorld.Consistent ⟨cameras', before ++ guard'.toList ++ after⟩ := by
  cases effect with
  | keep => exact consistent
  | connect road limit =>
    have stepped := consistent.connect road limit
    rcases registered : CameraGuard.new cameras road limit with ⟨_ | added, registry⟩ <;>
      simp only [CameraWorld.step, registered, Option.toList, List.append_nil, List.append_assoc,
        List.singleton_append] at stepped ⊢
    · exact stepped
    · exact stepped.perm ((List.perm_append_singleton _ _).append_left before)
  | disconnect road limit =>
    have stepped := consistent.disconnect before.length
    simpa [CameraWorld.step, List.eraseIdx_append_of_length_le, List.getElem_append_right] using stepped

def serverCameras (system : System) : CameraWorld :=
  ⟨system.world.cameras, liveCameras system.connections⟩

theorem System.step_cameras_consistent {system system' : System} {action : Action}
    (consistent : (serverCameras system).Consistent) (stepped : system.step action = .ok system') :
    (serverCameras system').Consistent := by
  rcases System.step_cases stepped with rfl | rfl | ⟨index, connection, event, found, rfl⟩ |
    ⟨_, _, _, _, -, -, rfl⟩
  · exact consistent
  · simpa [serverCameras, liveCameras, connectionCamera, roleCamera, Session.initial] using consistent
  · obtain ⟨before, after⟩ := filterMap_set connectionCamera found (connection.step event system.world).1
    unfold serverCameras liveCameras at consistent ⊢
    rw [before] at consistent
    rw [after]
    exact consistent.effect (Connection.step_cameraEffect connection event system.world)
  · exact consistent

theorem System.reachable_cameras_consistent {schedule : List Action} {system : System}
    (reached : System.initial.run schedule = .ok system) : (serverCameras system).Consistent :=
  System.run_invariant (fun system => (serverCameras system).Consistent) System.step_cameras_consistent
    schedule (by exact runCameras_consistent []) reached

/-- The camera registry over whole server runs: in every state a schedule reaches, it counts
    exactly the live camera connections of each road, holds no other road, and every live camera
    of a road declared the road's limit, so no two live cameras on one road declare different
    limits. -/
theorem System.reachable_cameras_agree {schedule : List Action} {system : System}
    (reached : System.initial.run schedule = .ok system) :
    (serverCameras system).Consistent ∧
      ∀ first ∈ liveCameras system.connections, ∀ second ∈ liveCameras system.connections,
        first.1 = second.1 → first.2 = second.2 := by
  have consistent := System.reachable_cameras_consistent reached
  refine ⟨consistent, fun first firstLive second secondLive sameRoad => ?_⟩
  obtain ⟨limit, count, found, -⟩ := consistent.registered ⟨first, firstLive, rfl⟩
  rw [consistent.limits _ limit count found first firstLive rfl,
    consistent.limits _ limit count found second secondLive sameRoad.symm]

theorem canonical_cameras_agree :
    ∃ system, System.initial.run canonicalTicketSchedule = .ok system ∧
      (serverCameras system).Consistent ∧
        ∀ first ∈ liveCameras system.connections, ∀ second ∈ liveCameras system.connections,
          first.1 = second.1 → first.2 = second.2 :=
  ⟨_, rfl, @System.reachable_cameras_agree canonicalTicketSchedule _ rfl⟩

end SpeedDaemonProof
