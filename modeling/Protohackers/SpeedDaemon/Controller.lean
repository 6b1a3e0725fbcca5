import Protohackers.SpeedDaemon.Wire

namespace SpeedDaemonModel

/-- Modelled from the spec: `controller.rs` is not among the sources. One entry of a plate's
    observation sequence on a road. -/
structure Observation where
  timestamp : UInt32
  mile : UInt16
deriving DecidableEq, Repr

/-- Modelled from the spec: the observation store, per road and plate in timestamp order, and the
    ticketed days of each plate. -/
structure Controller where
  observations : UInt16 → String → List Observation
  ticketedDays : String → List Nat

def Controller.default : Controller := ⟨fun _ _ => [], fun _ => []⟩

/-- Modelled from the spec: `floor(timestamp / 86400)`. -/
def day (timestamp : UInt32) : Nat := timestamp.toNat / 86400

def daySpan (first second : Observation) : List Nat :=
  List.range' (day first.timestamp) (day second.timestamp + 1 - day first.timestamp)

def distance (first second : Observation) : Nat :=
  ((second.mile.toNat : Int) - first.mile.toNat).natAbs

def elapsed (first second : Observation) : Nat :=
  second.timestamp.toNat - first.timestamp.toNat

/-- Modelled from the spec: `speed_mph ≥ limit + 0.5`, with `speed_mph = dx·3600/dt`, that is
    `2·dx·3600 ≥ (2·limit + 1)·dt`. -/
def exceeds (limit : UInt16) (first second : Observation) : Bool :=
  (2 * limit.toNat + 1) * elapsed first second ≤ 2 * distance first second * 3600

/-- Modelled from the spec: `round(100·dx·3600/dt)`, halves up, clamped to `u16::MAX`. -/
def speed (first second : Observation) : UInt16 :=
  (min 65535 ((200 * distance first second * 3600 + elapsed first second) /
    (2 * elapsed first second))).toUInt16

/-- Modelled from the spec: step 3 over the candidate pairs in order, against the plate's
    ticketed days; the days afterwards and the tickets emitted. -/
def emitTickets (plate : String) (road limit : UInt16) :
    List (Observation × Observation) → List Nat → List Nat × List Ticket
  | [], days => (days, [])
  | (first, second) :: pairs, days =>
    if exceeds limit first second ∧ ∀ d ∈ daySpan first second, d ∉ days then
      let rest := emitTickets plate road limit pairs (days ++ daySpan first second)
      (rest.1, ⟨plate, road, first.mile, first.timestamp, second.mile, second.timestamp,
        speed first second⟩ :: rest.2)
    else emitTickets plate road limit pairs days

/-- Modelled from the spec: Plate ingestion. A timestamp the plate already has on the road keeps
    its first observation; otherwise the observation is inserted in order and paired with every
    earlier one, then with every later one. -/
def Controller.signal (self : Controller) (plate : Plate) : Controller × List Ticket :=
  let seen := self.observations plate.road plate.plate
  if seen.any fun observation => observation.timestamp = plate.timestamp then (self, [])
  else
    let observation : Observation := ⟨plate.timestamp, plate.mile⟩
    let earlier := seen.filter fun other => other.timestamp < plate.timestamp
    let later := seen.filter fun other => plate.timestamp < other.timestamp
    let pairs := earlier.map (fun other => (other, observation)) ++
      later.map (fun other => (observation, other))
    let emitted := emitTickets plate.plate plate.road plate.limit pairs (self.ticketedDays plate.plate)
    ({ observations := Function.update self.observations plate.road
          (Function.update (self.observations plate.road) plate.plate (earlier ++ observation :: later))
       ticketedDays := Function.update self.ticketedDays plate.plate emitted.1 }, emitted.2)

end SpeedDaemonModel
