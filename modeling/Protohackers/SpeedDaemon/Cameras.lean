import Mathlib.Logic.Function.Basic
import Protohackers.SpeedDaemon.Wire

namespace SpeedDaemonModel

abbrev Cameras := UInt16 → Option (UInt16 × Nat)

def Cameras.empty : Cameras := fun _ => none

structure CameraGuard where
  road : UInt16
deriving DecidableEq, Repr

def CameraGuard.new (cameras : Cameras) (road limit : UInt16) : Except String CameraGuard × Cameras :=
  let (l, c) := (cameras road).getD (limit, 0)
  let cameras := Function.update cameras road (some (l, c))
  if l ≠ limit then (.error "limit conflict", cameras)
  else (.ok ⟨road⟩, Function.update cameras road (some (l, c + 1)))

def CameraGuard.drop (self : CameraGuard) (cameras : Cameras) : Cameras :=
  match cameras self.road with
  | some (l, c) =>
    if c - 1 = 0 then Function.update cameras self.road none
    else Function.update cameras self.road (some (l, c - 1))
  | none => cameras

theorem CameraGuard.new_rejected {cameras : Cameras} {road limit : UInt16} {err : String}
    (rejected : (CameraGuard.new cameras road limit).1 = .error err) :
    err = "limit conflict" ∧ (CameraGuard.new cameras road limit).2 = cameras ∧
      ∃ declared count, cameras road = some (declared, count) ∧ declared ≠ limit := by
  cases found : cameras road with
  | none => simp [CameraGuard.new, found] at rejected
  | some entry =>
    obtain ⟨declared, count⟩ := entry
    by_cases same : declared = limit
    · simp [CameraGuard.new, found, same] at rejected
    · simp only [CameraGuard.new, found, Option.getD_some, ne_eq, same, not_false_eq_true,
        if_true, Except.error.injEq] at rejected
      refine ⟨rejected.symm, ?_, declared, count, rfl, same⟩
      simp only [CameraGuard.new, found, Option.getD_some, ne_eq, same, not_false_eq_true, if_true]
      rw [← found, Function.update_eq_self]

theorem CameraGuard.new_accepted {cameras : Cameras} {road limit : UInt16} {guard : CameraGuard}
    (accepted : (CameraGuard.new cameras road limit).1 = .ok guard) :
    guard = ⟨road⟩ ∧ (CameraGuard.new cameras road limit).2 = Function.update cameras road
      (some (limit, ((cameras road).map Prod.snd).getD 0 + 1)) ∧
      ∀ declared count, cameras road = some (declared, count) → declared = limit := by
  cases found : cameras road with
  | none => simp_all [CameraGuard.new]
  | some entry =>
    obtain ⟨declared, count⟩ := entry
    by_cases same : declared = limit
    · subst same
      simp_all [CameraGuard.new]
    · simp [CameraGuard.new, found, same] at accepted

theorem CameraGuard.drop_known {cameras : Cameras} {road limit : UInt16} {count : Nat}
    (known : cameras road = some (limit, count)) : CameraGuard.drop ⟨road⟩ cameras =
      Function.update cameras road (if count - 1 = 0 then none else some (limit, count - 1)) := by
  simp only [CameraGuard.drop, known]
  split <;> rfl

end SpeedDaemonModel

namespace SpeedDaemonProof

open SpeedDaemonModel

structure CameraWorld where
  cameras : Cameras
  live : List (UInt16 × UInt16)

inductive CameraOp where
  | connect (road limit : UInt16)
  | disconnect (index : Nat)
deriving DecidableEq, Repr

def CameraWorld.step (world : CameraWorld) : CameraOp → CameraWorld
  | .connect road limit =>
    match CameraGuard.new world.cameras road limit with
    | (.ok guard, cameras) => ⟨cameras, world.live ++ [(guard.road, limit)]⟩
    | (.error _, cameras) => ⟨cameras, world.live⟩
  | .disconnect index =>
    match world.live.get? index with
    | some (road, _) => ⟨CameraGuard.drop ⟨road⟩ world.cameras, world.live.eraseIdx index⟩
    | none => world

def runCameras (ops : List CameraOp) : CameraWorld := ops.foldl CameraWorld.step ⟨Cameras.empty, []⟩

def liveCount (live : List (UInt16 × UInt16)) (road : UInt16) : Nat :=
  live.countP fun guard => guard.1 = road

structure CameraWorld.Consistent (world : CameraWorld) : Prop where
  count : ∀ road, liveCount world.live road = ((world.cameras road).map Prod.snd).getD 0
  positive : ∀ road limit count, world.cameras road = some (limit, count) → 0 < count
  limits : ∀ road limit count, world.cameras road = some (limit, count) →
    ∀ guard ∈ world.live, guard.1 = road → guard.2 = limit

@[simp] theorem liveCount_nil (road : UInt16) : liveCount [] road = 0 := rfl

@[simp] theorem liveCount_append (first second : List (UInt16 × UInt16)) (road : UInt16) :
    liveCount (first ++ second) road = liveCount first road + liveCount second road := by
  simp [liveCount, List.countP_append]

@[simp] theorem liveCount_cons (guard : UInt16 × UInt16) (rest : List (UInt16 × UInt16)) (road : UInt16) :
    liveCount (guard :: rest) road = liveCount rest road + if guard.1 = road then 1 else 0 := by
  simp [liveCount, List.countP_cons]

theorem liveCount_eq_zero {live : List (UInt16 × UInt16)} {road : UInt16} :
    liveCount live road = 0 ↔ ∀ guard ∈ live, guard.1 ≠ road := by
  simp [liveCount, List.countP_eq_zero]

theorem CameraWorld.Consistent.connect {world : CameraWorld} (consistent : world.Consistent)
    (road limit : UInt16) : (world.step (.connect road limit)).Consistent := by
  rcases registered : CameraGuard.new world.cameras road limit with ⟨_ | guard, cameras⟩
  · obtain ⟨-, same, -⟩ := CameraGuard.new_rejected (congrArg Prod.fst registered)
    rw [registered] at same
    subst same
    simpa [CameraWorld.step, registered] using consistent
  · obtain ⟨rfl, updated, agrees⟩ := CameraGuard.new_accepted (congrArg Prod.fst registered)
    rw [registered] at updated
    subst updated
    simp only [CameraWorld.step, registered]
    refine ⟨fun other => ?_, fun other declared count found => ?_,
      fun other declared count found guard member onRoad => ?_⟩ <;> dsimp only at *
    · by_cases same : other = road
      · subst same
        simp [consistent.count other]
      · simp [same, Ne.symm same, consistent.count other]
    · by_cases same : other = road
      · subst same
        simp only [Function.update_same, Option.some.injEq, Prod.mk.injEq] at found
        omega
      · rw [Function.update_noteq same] at found
        exact consistent.positive other declared count found
    · subst onRoad
      by_cases same : guard.1 = road
      · rw [same, Function.update_same] at found
        obtain ⟨rfl, -⟩ := Prod.mk.inj (Option.some.inj found)
        rcases List.mem_append.mp member with old | new
        · cases known : world.cameras road with
          | none =>
            have empty : liveCount world.live road = 0 := by simp [consistent.count, known]
            exact absurd same (liveCount_eq_zero.mp empty guard old)
          | some entry =>
            obtain ⟨declared, count⟩ := entry
            rw [consistent.limits road declared count known guard old same]
            exact agrees declared count known
        · rw [List.mem_singleton.mp new]
      · rw [Function.update_noteq same] at found
        rcases List.mem_append.mp member with old | new
        · exact consistent.limits guard.1 declared count found guard old rfl
        · exact absurd (congrArg Prod.fst (List.mem_singleton.mp new)) same

theorem split_at_index {live : List (UInt16 × UInt16)} {index : Nat} {guard : UInt16 × UInt16}
    (found : live.get? index = some guard) :
    ∃ before after, live = before ++ guard :: after ∧ live.eraseIdx index = before ++ after := by
  obtain ⟨bound, rfl⟩ := List.get?_eq_some.mp found
  refine ⟨live.take index, live.drop (index + 1), ?_, List.eraseIdx_eq_take_drop_succ live index⟩
  conv => lhs; rw [← List.take_append_drop index live]
  rw [List.drop_eq_getElem_cons bound]
  rfl

theorem CameraWorld.Consistent.disconnect {world : CameraWorld} (consistent : world.Consistent)
    (index : Nat) : (world.step (.disconnect index)).Consistent := by
  rw [CameraWorld.step]
  cases found : world.live.get? index with
  | none => exact consistent
  | some guard =>
    obtain ⟨road, limit⟩ := guard
    obtain ⟨before, after, split, erased⟩ := split_at_index found
    have remaining : ∀ other, liveCount world.live other =
        liveCount (before ++ after) other + if road = other then 1 else 0 := by
      intro other
      rw [split]
      simp only [liveCount_append, liveCount_cons]
      omega
    have kept : ∀ guard ∈ before ++ after, guard ∈ world.live := fun guard member => by
      rw [split]
      exact List.mem_append.mpr ((List.mem_append.mp member).imp id (List.mem_cons_of_mem _))
    have counted := consistent.count road
    rw [remaining road] at counted
    cases known : world.cameras road with
    | none => simp [known] at counted
    | some entry =>
      obtain ⟨declared, count⟩ := entry
      simp only [known, if_true, Option.map_some', Option.getD_some, liveCount_append] at counted
      dsimp only
      rw [erased, CameraGuard.drop_known known]
      refine ⟨fun other => ?_, fun other declared' count' present => ?_,
        fun other declared' count' present guard member onRoad => ?_⟩ <;> dsimp only at * <;>
        by_cases same : other = road
      · subst same
        rw [Function.update_same]
        split <;> simp <;> omega
      · rw [Function.update_noteq same, ← consistent.count other, remaining other, if_neg (Ne.symm same),
          Nat.add_zero]
      · subst same
        rw [Function.update_same] at present
        split at present
        · cases present
        · cases present
          omega
      · rw [Function.update_noteq same] at present
        exact consistent.positive other declared' count' present
      · subst same
        rw [Function.update_same] at present
        split at present
        · cases present
        · cases present
          exact consistent.limits _ _ _ known guard (kept guard member) onRoad
      · rw [Function.update_noteq same] at present
        exact consistent.limits other declared' count' present guard (kept guard member) onRoad

theorem CameraWorld.Consistent.step {world : CameraWorld} (consistent : world.Consistent) :
    ∀ op, (world.step op).Consistent
  | .connect road limit => consistent.connect road limit
  | .disconnect index => consistent.disconnect index

theorem runCameras_consistent (ops : List CameraOp) : (runCameras ops).Consistent := by
  suffices preserved : ∀ world : CameraWorld, world.Consistent →
      (ops.foldl CameraWorld.step world).Consistent from
    preserved _ ⟨by simp [liveCount, Cameras.empty], by simp [Cameras.empty], by simp [Cameras.empty]⟩
  induction ops with
  | nil => exact fun world consistent => consistent
  | cons op rest ih => exact fun world consistent => ih _ (consistent.step op)

theorem liveCount_pos {live : List (UInt16 × UInt16)} {road : UInt16} :
    0 < liveCount live road ↔ ∃ guard ∈ live, guard.1 = road := by
  simp [liveCount, List.countP_pos_iff]

theorem CameraWorld.Consistent.registered {world : CameraWorld} (consistent : world.Consistent)
    {road : UInt16} (present : ∃ guard ∈ world.live, guard.1 = road) :
    ∃ limit count, world.cameras road = some (limit, count) ∧ 0 < count := by
  have counted := consistent.count road
  have positive := liveCount_pos.mpr present
  cases known : world.cameras road with
  | none => simp [known] at counted; omega
  | some entry => exact ⟨entry.1, entry.2, rfl, by simp_all⟩

theorem camera_registry_tracks_live_guards (ops : List CameraOp) :
    (∀ road, ((runCameras ops).cameras road).isSome ↔
      ∃ guard ∈ (runCameras ops).live, guard.1 = road) ∧
    (∀ road limit count, (runCameras ops).cameras road = some (limit, count) →
      count = liveCount (runCameras ops).live road ∧
      ∀ guard ∈ (runCameras ops).live, guard.1 = road → guard.2 = limit) ∧
    (∀ road limit err, (CameraGuard.new (runCameras ops).cameras road limit).1 = .error err →
      err = "limit conflict" ∧
      (CameraGuard.new (runCameras ops).cameras road limit).2 = (runCameras ops).cameras) ∧
    (∀ guard ∈ (runCameras ops).live, ∃ limit count,
      (runCameras ops).cameras guard.1 = some (limit, count) ∧ 0 < count) := by
  have consistent := runCameras_consistent ops
  refine ⟨fun road => ⟨fun present => ?_, fun live => ?_⟩, fun road limit count found => ?_,
    fun road limit err rejected => ?_, fun guard member => consistent.registered ⟨guard, member, rfl⟩⟩
  · obtain ⟨⟨limit, count⟩, found⟩ := Option.isSome_iff_exists.mp present
    have counted := consistent.count road
    rw [found] at counted
    exact liveCount_pos.mp (by simpa [counted] using consistent.positive road limit count found)
  · obtain ⟨limit, count, found, -⟩ := consistent.registered live
    simp [found]
  · have counted := consistent.count road
    rw [found] at counted
    exact ⟨counted.symm, consistent.limits road limit count found⟩
  · obtain ⟨conflict, same, -⟩ := CameraGuard.new_rejected rejected
    exact ⟨conflict, same⟩

end SpeedDaemonProof
