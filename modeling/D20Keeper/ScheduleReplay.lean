/-
This file tracks `roundScheduleFromEvents` of the replay, which rebuilds the beacons and their
schedule from the logs of a coordinator. On the logs of a run it never throws, and the schedule it
builds answers `roundAt` as `BeaconBook` does. How the library writes an event into the texts of a
log and reads it back is a parameter.
-/

import D20Keeper.BookRun
import D20Keeper.JavaScript
import D20Keeper.RoundNumber

namespace D20

open Evm

/-! ### The replay -/

namespace RoundReplay

open Journal (ensure ensure_of)

/-- A block number, log index or timestamp as a log gives it: a bigint, a number or a text. -/
inductive Quantity
  | bigint (value : ℤ)
  | number (value : ℚ)
  | string (value : List Char)

/-- `RoundBeaconLog`. -/
structure RoundBeaconLog (Text : Type) where
  address : Address
  topics : List Text
  data : Text
  blockNumber : Quantity
  logIndex : Option Quantity
  index : Option Quantity
  blockTimestamp : Quantity
  removed : Bool

/-- A log that is read, with its block, its index and its time. -/
structure PlacedLog (Text : Type) where
  log : RoundBeaconLog Text
  block : ℕ
  index : ℕ
  time : ℕ

/-- `RegisteredRoundBeacon`. -/
structure RegisteredRoundBeacon where
  verifier : Address
  chainHash : Bytes32
  publicKey : Bytes
  genesis : ℕ
  period : ℕ
  identity : Bytes32

/-- `RoundEra`; a pending change is one from its `fromTime` on. -/
structure RoundEra where
  beaconId : ℕ
  since : ℕ
deriving DecidableEq

/-- `RoundSchedule`. -/
structure RoundSchedule where
  beacons : List RegisteredRoundBeacon
  eras : List RoundEra
  pending : Option RoundEra

variable (platform : Platform)

/-- `roundBeaconIdentity`. -/
def roundBeaconIdentity (verifier : Address) (chainHash : Bytes32)
    (publicKey : Bytes) (genesis period : ℕ) : Bytes32 :=
  platform.hash [.bytes32 (platform.domain "D20_ROUND_BEACON_V1"), .address verifier,
    .bytes32 chainHash, .bytes32 (platform.keccak256 publicKey), .uint genesis, .uint period]

/-- The events whose logs the replay reads. -/
def isBeaconEvent : Event → Bool
  | .beaconRegistered .. | .beaconScheduled .. | .beaconScheduleCancelled .. => true
  | _ => false

/-- What the library does with the texts of logs: the topics of the beacon events, `parseLog` and
`encodeEventLog`. The texts of an event are in lower case, its topic is the first of them, and they
are parsed to the event. -/
structure EventCodec (Text : Type) where
  toLowerCase : Text → Text
  isBeaconTopic : Text → Bool
  parseLog : List Text → Text → Except String (Option Event)
  encodeEventLog : Event → List Text × Text
  topic : ∀ event, (encodeEventLog event).1.head?.any (fun topic => isBeaconTopic (toLowerCase topic)) =
    isBeaconEvent event
  parses : ∀ event, isBeaconEvent event = true →
    parseLog (encodeEventLog event).1 (encodeEventLog event).2 = .ok (some event)
  lower : ∀ event, (encodeEventLog event).1.map toLowerCase = (encodeEventLog event).1 ∧
    toLowerCase (encodeEventLog event).2 = (encodeEventLog event).2

/-- The value of a hexadecimal digit in either case. -/
def hexValue (char : Char) : Option ℕ :=
  if char.isDigit then some (char.toNat - 48)
  else if 'a' ≤ char.toLower ∧ char.toLower ≤ 'f' then some (char.toLower.toNat - 87)
  else none

/-- The number that hexadecimal digits denote. -/
def hexDigits (digits : List Char) : Option ℕ :=
  digits.foldlM (fun value char => (hexValue char).map (value * 16 + ·)) 0

/-- The number of a text that is decimal without leading zeros, or hexadecimal behind its mark. -/
def integerText : List Char → Option ℕ
  | '0' :: 'x' :: digits => if digits = [] then none else hexDigits digits
  | ['0'] => some 0
  | chars =>
    if chars ≠ [] ∧ chars.all Char.isDigit ∧ chars.head? ≠ some '0' then
      some (Nat.ofDigitChars 10 chars 0)
    else none

/-- The non-negative integer of a quantity; a number must be a safe one. -/
def Quantity.integer : Quantity → Option ℕ
  | .bigint value => if 0 ≤ value then some value.toNat else none
  | .number value =>
    if JavaScript.isInteger value ∧ 0 ≤ value ∧ value ≤ 2 ^ 53 - 1 then some value.num.toNat else none
  | .string value => integerText value

/-- `position`. -/
def position (value : Option Quantity) (what : String) : Except String ℕ :=
  match value.bind Quantity.integer with
  | some value => .ok value
  | none => .error ("Invalid beacon log " ++ what)

section

variable {Text : Type} [DecidableEq Text] (codec : EventCodec Text)

/-- `decode`: the event of a log, which must be exactly the encoding of the event. -/
def decode (log : RoundBeaconLog Text) : Except String Event := do
  match ← codec.parseLog log.topics log.data with
  | none => .error "Invalid beacon event"
  | some event =>
    let again := codec.encodeEventLog event
    ensure (again.2 = codec.toLowerCase log.data ∧ again.1 = log.topics.map codec.toLowerCase)
      "Noncanonical beacon event"
    return event

end

/-- The body of the loop over the logs: what an event does at the time of its block. -/
def replayEvent (time : ℕ) (schedule : RoundSchedule) :
    Event → Except String RoundSchedule
  | .beaconRegistered beaconId identity verifier chainHash publicKey genesis period => do
    ensure (beaconId = schedule.beacons.length ∧ chainHash ≠ 0 ∧ 1 ≤ genesis ∧
      genesis ≤ 2 ^ 40 - 1 ∧ 1 ≤ period ∧ period ≤ 10 ∧
      roundBeaconIdentity platform verifier chainHash publicKey genesis period = identity ∧
      ∀ known ∈ schedule.beacons, known.identity ≠ identity) "Invalid beacon registration"
    return { schedule with
      beacons := schedule.beacons ++ [⟨verifier, chainHash, publicKey, genesis, period, identity⟩] }
  | .beaconScheduled beaconId fromTime => do
    ensure (beaconId < schedule.beacons.length) "A beacon schedule names an unregistered beacon"
    if schedule.eras = [] then do
      ensure (beaconId = 0 ∧ fromTime = time) "Invalid first beacon schedule"
      return { schedule with eras := [⟨beaconId, fromTime⟩] }
    else do
      ensure (time + 600 ≤ fromTime ∧ fromTime ≤ 2 ^ 40 - 1) "Invalid beacon schedule"
      return { schedule with
        eras := schedule.eras ++ (schedule.pending.filter (decide <| ·.since ≤ time)).toList
        pending := some ⟨beaconId, fromTime⟩ }
  | .beaconScheduleCancelled beaconId fromTime => do
    ensure (beaconId < schedule.beacons.length) "A beacon schedule names an unregistered beacon"
    ensure (schedule.pending = some ⟨beaconId, fromTime⟩ ∧ time < fromTime)
      "Invalid beacon schedule cancellation"
    return { schedule with pending := none }
  | _ => return schedule

/-- The order of logs: by block, and by index within a block. -/
def Before {Text : Type} (first second : PlacedLog Text) : Prop :=
  first.block < second.block ∨ first.block = second.block ∧ first.index ≤ second.index

section

variable {Text : Type}

instance decidableBefore : DecidableRel (@Before Text) := fun _ _ => inferInstanceAs (Decidable (_ ∨ _))

instance totalBefore : Std.Total (@Before Text) := ⟨fun _ _ => by unfold Before; omega⟩

instance transBefore : IsTrans (PlacedLog Text) Before := ⟨fun _ _ _ => by unfold Before; omega⟩

variable [DecidableEq Text] (codec : EventCodec Text)

/-- The loop over the logs in order, with the log before. -/
def replayFrom : Option (PlacedLog Text) → RoundSchedule → List (PlacedLog Text) →
    Except String RoundSchedule
  | _, schedule, [] => return schedule
  | previous, schedule, entry :: rest => do
    ensure (∀ earlier ∈ previous, ¬(earlier.block = entry.block ∧ earlier.index = entry.index))
      "A beacon log is repeated"
    ensure (∀ earlier ∈ previous, if earlier.block = entry.block then earlier.time = entry.time
      else earlier.time ≤ entry.time) "Beacon log timestamps go back"
    let event ← decode codec entry.log
    let next ← replayEvent platform entry.time schedule event
    replayFrom (some entry) next rest

omit [DecidableEq Text] in
/-- The logs of beacon events, which must be of the coordinator and not removed, with their
places. -/
def readLogs (coordinator : Address) : List (RoundBeaconLog Text) →
    Except String (List (PlacedLog Text))
  | [] => return []
  | log :: rest =>
    if log.topics.head?.any fun topic => codec.isBeaconTopic (codec.toLowerCase topic) then do
      ensure (log.address = coordinator) "A beacon event is from another address"
      ensure (log.removed = false) "A beacon log was removed"
      let block ← position (some log.blockNumber) "block number"
      let index ← position (log.logIndex.or log.index) "log index"
      let time ← position (some log.blockTimestamp) "block timestamp"
      return ⟨log, block, index, time⟩ :: (← readLogs coordinator rest)
    else readLogs coordinator rest

/-- `roundScheduleFromEvents`. -/
def roundScheduleFromEvents (coordinator : Address) (logs : List (RoundBeaconLog Text)) :
    Except String RoundSchedule := do
  let read ← readLogs codec coordinator logs
  let schedule ← replayFrom platform codec none ⟨[], [], none⟩ (read.insertionSort Before)
  ensure (schedule.eras ≠ []) "The beacon logs do not reach initialization"
  return schedule

end

/-- The loop of `roundAt` over the eras, newest first. -/
def latestEra (timestamp : ℕ) : List RoundEra → Option RoundEra
  | [] => none
  | [era] => some era
  | era :: older => if timestamp < era.since then latestEra timestamp older else some era

/-- `roundAt`: the beacon and the round that a request in a block with this timestamp binds. -/
def roundAt (schedule : RoundSchedule) (timestamp : ℕ) :
    Except String (ℕ × ℤ × RegisteredRoundBeacon) :=
  match (schedule.pending.filter (decide <| ·.since ≤ timestamp)).or
      (latestEra timestamp schedule.eras.reverse) with
  | none => .error "Cannot read properties of undefined"
  | some era =>
    match schedule.beacons[era.beaconId]? with
    | none => .error "Cannot read properties of undefined"
    | some beacon => do
      return (era.beaconId, ← roundFor beacon.genesis beacon.period timestamp roundLead, beacon)

/-! ### Logs in their places -/

/-- A quantity as a node or the library gives it. -/
inductive Quantity.Denotes : Quantity → ℕ → Prop
  | bigint (value : ℕ) : Denotes (.bigint value) value
  | number (value : ℕ) (safe : value ≤ 2 ^ 53 - 1) : Denotes (.number value) value
  | hex {digits : List Char} {value : ℕ} (some_ : digits ≠ []) (denoted : hexDigits digits = some value) :
      Denotes (.string ('0' :: 'x' :: digits)) value

theorem Quantity.Denotes.position {quantity : Quantity} {value : ℕ}
    (denotes : quantity.Denotes value) (what : String) :
    position (some quantity) what = .ok value := by
  have integer : quantity.integer = some value := by
    cases denotes with
    | bigint => rw [integer, if_pos (Int.natCast_nonneg value), Int.toNat_natCast]
    | number _ safe =>
      have cast : (value : ℚ) ≤ ((2 ^ 53 - 1 : ℕ) : ℚ) := Nat.cast_le.mpr safe
      have small : (value : ℚ) ≤ 2 ^ 53 - 1 := by
        norm_num at cast ⊢
        exact cast
      rw [integer, if_pos ⟨JavaScript.isInteger_natCast value, Nat.cast_nonneg value, small⟩]
      rfl
    | hex some_ denoted => rw [integer, integerText, if_neg some_, denoted]
  unfold RoundReplay.position
  rw [Option.bind_some, integer]

/-- A log of a chain with its place and its event. -/
structure ChainLog (Text : Type) extends PlacedLog Text where
  event : Event

/-- A log that shows its place and its event. -/
structure ChainLog.Shown {Text : Type} (codec : EventCodec Text) (coordinator : Address)
    (entry : ChainLog Text) : Prop where
  address : entry.log.address = coordinator
  removed : entry.log.removed = false
  block : entry.log.blockNumber.Denotes entry.block
  index : ∃ quantity ∈ entry.log.logIndex.or entry.log.index, quantity.Denotes entry.index
  time : entry.log.blockTimestamp.Denotes entry.time
  encoded : codec.encodeEventLog entry.event = (entry.log.topics, entry.log.data)

/-- Two logs as a chain orders them; a block has one timestamp. -/
def InPlace {Text : Type} (first second : PlacedLog Text) : Prop :=
  first.block < second.block ∨
    first.block = second.block ∧ first.index < second.index ∧ first.time = second.time

/-- The replay of events at their times, without the checks of the places of their logs. -/
def replayAll (schedule : RoundSchedule) (events : List (ℕ × Event)) :
    Except String RoundSchedule :=
  events.foldlM (fun now entry => replayEvent platform entry.1 now entry.2) schedule

variable {platform : Platform} {schedule : RoundSchedule}

theorem replayEvent_of_other {event : Event} (other : isBeaconEvent event = false) (time : ℕ) :
    replayEvent platform time schedule event = .ok schedule := by
  cases event <;> first | rfl | cases other

section

variable {Text : Type} {codec : EventCodec Text} {coordinator : Address}
  {logs recorded : List (ChainLog Text)} {entry : ChainLog Text}

/-- A log that is shown is taken for that of its event. -/
theorem ChainLog.Shown.topic (shown : entry.Shown codec coordinator) :
    (entry.log.topics.head?.any fun topic => codec.isBeaconTopic (codec.toLowerCase topic)) =
      isBeaconEvent entry.event := by
  rw [← codec.topic, shown.encoded]

/-- A log that is shown is decoded to its event. -/
theorem ChainLog.Shown.decode [DecidableEq Text] (shown : entry.Shown codec coordinator)
    (isBeacon : isBeaconEvent entry.event = true) : decode codec entry.log = .ok entry.event := by
  have parses := codec.parses entry.event isBeacon
  obtain ⟨topics, data⟩ := codec.lower entry.event
  rw [shown.encoded] at parses topics data
  unfold RoundReplay.decode
  rw [parses]
  show ensure _ _ >>= _ = _
  rw [shown.encoded, ensure_of ⟨data.symm, topics.symm⟩]
  rfl

/-- Logs that are shown are read. -/
theorem readLogs_eq (shown : ∀ entry ∈ logs, entry.Shown codec coordinator) :
    readLogs codec coordinator (logs.map fun entry => entry.log) =
      .ok ((logs.filter fun entry => isBeaconEvent entry.event).map ChainLog.toPlacedLog) := by
  induction logs with
  | nil => rfl
  | cons entry rest inductionHypothesis =>
    obtain ⟨here, others⟩ := List.forall_mem_cons.mp shown
    obtain ⟨quantity, given, index⟩ := here.index
    rw [List.map_cons, readLogs, here.topic, List.filter_cons]
    cases isBeacon : isBeaconEvent entry.event with
    | false => exact inductionHypothesis others
    | true =>
      rw [if_pos rfl, if_pos rfl, ensure_of here.address, ensure_of here.removed,
        here.block.position, Option.mem_def.mp given, index.position, here.time.position,
        inductionHypothesis others]
      rfl

/-- The place of a log is its own. -/
def Apart (first second : PlacedLog Text) : Prop :=
  ¬(first.block = second.block ∧ first.index = second.index)

instance symmApart : Std.Symm (@Apart Text) :=
  ⟨fun _ _ apart same => apart ⟨same.1.symm, same.2.symm⟩⟩

/-- Logs in their places are what sorting them gives, in whatever order they come. -/
theorem insertionSort_eq (placed : (recorded.map ChainLog.toPlacedLog).Pairwise InPlace)
    (same : logs.Perm recorded) :
    (logs.map ChainLog.toPlacedLog).insertionSort Before = recorded.map ChainLog.toPlacedLog := by
  have apart : (recorded.map ChainLog.toPlacedLog).Pairwise Apart :=
    placed.imp fun placed => by unfold InPlace at placed; unfold Apart; omega
  have before : (recorded.map ChainLog.toPlacedLog).Pairwise Before :=
    placed.imp fun placed => by unfold InPlace at placed; unfold Before; omega
  have shuffled := same.map ChainLog.toPlacedLog
  refine List.Perm.eq_of_pairwise (fun first second one two le ge => ?_)
    (List.pairwise_insertionSort Before _) before ((List.perm_insertionSort _ _).trans shuffled)
  by_contra different
  refine apart.forall (shuffled.subset ((List.mem_insertionSort _).mp one)) two different ?_
  unfold Before at le ge
  omega

/-- Logs in their places with times that do not go back pass the checks of the loop. -/
theorem replayFrom_eq [DecidableEq Text] (shown : ∀ entry ∈ logs, entry.Shown codec coordinator)
    (beacon : ∀ entry ∈ logs, isBeaconEvent entry.event = true)
    (placed : (logs.map ChainLog.toPlacedLog).Pairwise InPlace)
    (times : logs.Pairwise fun first second => first.time ≤ second.time)
    {previous : Option (PlacedLog Text)} (after : ∀ earlier ∈ previous, ∀ entry ∈ logs,
      InPlace earlier entry.toPlacedLog ∧ earlier.time ≤ entry.time) :
    replayFrom platform codec previous schedule (logs.map ChainLog.toPlacedLog) =
      replayAll platform schedule (logs.map fun entry => (entry.time, entry.event)) := by
  induction logs generalizing previous schedule with
  | nil => rfl
  | cons entry rest inductionHypothesis =>
    obtain ⟨here, shown⟩ := List.forall_mem_cons.mp shown
    obtain ⟨isBeacon, beacon⟩ := List.forall_mem_cons.mp beacon
    obtain ⟨first, placed⟩ := List.pairwise_cons.mp placed
    obtain ⟨firstTime, times⟩ := List.pairwise_cons.mp times
    have last := fun earlier member => after earlier member entry List.mem_cons_self
    unfold InPlace at last
    rw [List.map_cons, replayFrom,
      ensure_of fun earlier member => by have := last earlier member; omega,
      ensure_of fun earlier member => by have := last earlier member; split <;> omega,
      here.decode isBeacon]
    unfold replayAll
    rw [List.map_cons, List.foldlM_cons]
    refine bind_congr fun next => inductionHypothesis shown beacon placed times ?_
    intro earlier member other among
    cases member
    exact ⟨first _ (List.mem_map_of_mem among), firstTime other among⟩

/-- The replay may leave out the logs of other events. -/
theorem replayAll_filter : replayAll platform schedule
      ((logs.filter fun entry => isBeaconEvent entry.event).map fun entry =>
        (entry.time, entry.event)) =
    replayAll platform schedule (logs.map fun entry => (entry.time, entry.event)) := by
  unfold replayAll
  rw [List.foldlM_map, List.foldlM_map, List.foldlM_filter]
  congr 1
  funext now entry
  split
  · rfl
  · rename_i other
    exact (replayEvent_of_other (Bool.eq_false_iff.mpr other) _).symm

/-- The replay of the logs of a chain. -/
theorem roundScheduleFromEvents_eq [DecidableEq Text] {result : RoundSchedule}
    (shown : ∀ entry ∈ recorded, entry.Shown codec coordinator)
    (placed : (recorded.map ChainLog.toPlacedLog).Pairwise InPlace)
    (times : recorded.Pairwise fun first second => first.time ≤ second.time)
    (replayed : replayAll platform ⟨[], [], none⟩
      (recorded.map fun entry => (entry.time, entry.event)) = .ok result)
    (begun : result.eras ≠ []) (same : logs.Perm recorded) :
    roundScheduleFromEvents platform codec coordinator (logs.map fun entry => entry.log) =
      .ok result := by
  have kept : (recorded.filter fun entry => isBeaconEvent entry.event).Sublist recorded :=
    List.filter_sublist
  unfold roundScheduleFromEvents
  rw [readLogs_eq fun entry member => shown entry (same.subset member)]
  show (replayFrom _ _ _ _ (List.insertionSort _ _) >>= _) = _
  rw [insertionSort_eq (placed.sublist (kept.map _)) (same.filter _),
    replayFrom_eq (fun entry member => shown entry (kept.subset member))
    (fun entry member => (List.mem_filter.mp member).2) (placed.sublist (kept.map _))
    (times.sublist kept)
    fun _ member => absurd member (Option.not_mem_none _), replayAll_filter, replayed]
  show (ensure _ _ >>= _) = _
  rw [ensure_of begun]
  rfl

end

/-! ### The book -/

/-- What the replay keeps of an era. -/
def RoundEra.ofEra (era : Era) : RoundEra := ⟨era.beaconId, era.since⟩

/-- What the contract stores of a beacon. -/
def RegisteredRoundBeacon.stored (beacon : RegisteredRoundBeacon) : StoredBeacon :=
  ⟨beacon.verifier, beacon.genesis, beacon.period, beacon.chainHash, beacon.publicKey⟩

/-- A schedule of the replay has the beacons of a book. -/
structure Registers (book : BeaconBook) (schedule : RoundSchedule) : Prop where
  beacons : schedule.beacons.map RegisteredRoundBeacon.stored = book.beacons
  registered : ∀ beacon ∈ schedule.beacons, book.registered beacon.identity = true
  periods : ∀ beacon ∈ book.beacons, 0 < beacon.period ∧ beacon.period < 2 ^ 64
  room : book.beacons.length ≤ BeaconBook.maxBeacons

/-- A schedule of the replay is that of a book, whose eras are of registered beacons. -/
structure Tracks (book : BeaconBook) (schedule : RoundSchedule) : Prop
    extends Registers book schedule where
  eras : schedule.eras = book.begunEras.map RoundEra.ofEra
  pending : schedule.pending.toList = book.pendingEra.map RoundEra.ofEra
  named : ∀ era ∈ book.eras, ∃ beacon, book.beacons[era.beaconId]? = some beacon ∧
    era.genesis = beacon.genesis ∧ era.period = beacon.period

/-- The schedule with a beacon appended. -/
def RoundSchedule.enlist (platform : Platform) (schedule : RoundSchedule) (r : BeaconRegistration) :
    RoundSchedule :=
  { schedule with
    beacons := schedule.beacons ++ [⟨r.verifier, r.chainHash, r.publicKey, r.genesis, r.period,
      BeaconBook.identity platform r.verifier r.chainHash r.publicKey r.genesis r.period⟩] }

variable {book after : BeaconBook} {time timestamp : ℕ}

theorem latestEra_map (eras : List Era) : latestEra timestamp (eras.map RoundEra.ofEra) =
    (BeaconBook.scanPast timestamp eras).map RoundEra.ofEra := by
  induction eras with
  | nil => rfl
  | cons era older inductionHypothesis =>
    cases older with
    | nil => rfl
    | cons =>
      unfold latestEra BeaconBook.scanPast
      by_cases before : timestamp < era.since
      · rw [if_pos before]
        exact (if_pos before).trans inductionHypothesis
      · rw [if_neg before]
        exact if_neg before

theorem exists_eraAt (book : BeaconBook) (timestamp : ℕ) :
    ∃ era ∈ book.eras, book.eraAt timestamp = some era :=
  Timeline.exists_inForceOrFirst (by simp [BeaconBook.eras, BeaconBook.begunEras])

theorem Registers.length_eq (registers : Registers book schedule) :
    schedule.beacons.length = book.beacons.length := by
  rw [← registers.beacons, List.length_map]

/-- A registration is replayed. -/
theorem Registers.register (registers : Registers book schedule) {r : BeaconRegistration}
    (admissible : r.Admissible platform book) :
    replayEvent platform time schedule (r.event platform book) = .ok (schedule.enlist platform r) ∧
      Registers (book.enlist platform r) (schedule.enlist platform r) := by
  have room : book.beacons.length < 2 ^ 8 := Nat.lt_of_le_of_ne registers.room admissible.room
  have genesis : r.genesis % 2 ^ 40 = r.genesis := Nat.mod_eq_of_lt admissible.genesis_lt
  have small : r.period ≤ 10 := admissible.period_le
  have period : r.period % 2 ^ 16 = r.period := Nat.mod_eq_of_lt (by omega)
  constructor
  · unfold replayEvent BeaconRegistration.event
    dsimp only
    rw [ensure_of]
    · rfl
    · refine ⟨?_, admissible.chainHash_ne, admissible.genesis_pos, ?_, admissible.period_pos,
        small, rfl, fun known member same => ?_⟩
      · rw [registers.length_eq, Nat.mod_eq_of_lt room]
      · exact Nat.le_pred_of_lt admissible.genesis_lt
      · have taken := registers.registered known member
        rw [same, admissible.unregistered] at taken
        cases taken
  · unfold BeaconBook.enlist
    refine ⟨?_, fun beacon member => ?_, fun beacon member => ?_, ?_⟩
    · rw [genesis, period, ← registers.beacons]
      exact List.map_append
    · dsimp only
      rcases List.mem_append.mp member with old | new
      · rw [Function.update_apply, registers.registered beacon old, ite_self]
      · rw [List.mem_singleton.mp new]
        exact Function.update_self ..
    · rcases List.mem_append.mp member with old | new
      · exact registers.periods beacon old
      · rw [List.mem_singleton.mp new, period]
        exact ⟨admissible.period_pos, by dsimp only; omega⟩
    · rw [List.length_append]
      exact room

/-- The first schedule is replayed. -/
theorem Registers.startWith (registers : Registers book schedule) {block : Block}
    (unscheduled : schedule.eras = [] ∧ schedule.pending = none) (new : book.past = [])
    (early : block.timestamp < 2 ^ 40) (started : book.startWith block 0 = .ok after) :
    ∃ next, replayEvent platform block.timestamp schedule
      (.beaconScheduled 0 (block.timestamp % 2 ^ 64)) = .ok next ∧ Tracks after next := by
  unfold BeaconBook.startWith at started
  split at started
  · cases started
  · rename_i beacon known
    cases started
    obtain ⟨inside, -⟩ := List.getElem?_eq_some_iff.mp known
    have time : block.timestamp % 2 ^ 64 = block.timestamp := Nat.mod_eq_of_lt (by omega)
    refine ⟨⟨schedule.beacons, [⟨0, block.timestamp⟩], schedule.pending⟩, ?_, ?_⟩
    · unfold replayEvent
      dsimp only
      rw [time, ensure_of (registers.length_eq ▸ inside), if_pos unscheduled.1, ensure_of ⟨rfl, rfl⟩]
      rfl
    · refine ⟨⟨registers.beacons, registers.registered, registers.periods, registers.room⟩, ?_, ?_,
        fun era member => ?_⟩
      · unfold BeaconBook.begunEras BeaconBook.currentEra
        dsimp only
        rw [new, Nat.mod_eq_of_lt early]
        rfl
      · rw [unscheduled.2]
        rfl
      · unfold BeaconBook.eras BeaconBook.begunEras at member
        dsimp only at member
        rw [new] at member
        rw [List.mem_singleton.mp member]
        exact ⟨beacon, known, rfl, rfl⟩

namespace Tracks

variable (tracks : Tracks book schedule)

include tracks

theorem cut_eras (inTime : book.InTime time) :
    schedule.eras ++ (schedule.pending.filter (decide <| ·.since ≤ time)).toList =
      (Timeline.cut Era.since time book.eras).map RoundEra.ofEra := by
  unfold Timeline.cut BeaconBook.eras
  rw [List.filter_append, List.filter_eq_self.mpr fun era member =>
    decide_eq_true (inTime.begun era member), List.map_append, ← tracks.eras,
    Option.toList_filter, tracks.pending, List.filter_map]
  rfl

/-- A schedule that amends the one of a book is that of the book amended so. -/
theorem amended {next : RoundSchedule} (inTime : book.InTime time)
    (begun : after.begunEras = Timeline.cut Era.since time book.eras)
    (beacons : after.beacons = book.beacons) (registered : after.registered = book.registered)
    (named : ∀ era ∈ after.pendingEra, ∃ beacon, book.beacons[era.beaconId]? = some beacon ∧
      era.genesis = beacon.genesis ∧ era.period = beacon.period)
    (known : next.beacons = schedule.beacons)
    (eras : next.eras =
      schedule.eras ++ (schedule.pending.filter (decide <| ·.since ≤ time)).toList)
    (pending : next.pending.toList = after.pendingEra.map RoundEra.ofEra) : Tracks after next := by
  rw [tracks.cut_eras inTime, ← begun] at eras
  refine ⟨⟨?_, ?_, ?_, ?_⟩, eras, pending, fun era member => ?_⟩
  · rw [known, beacons]
    exact tracks.beacons
  · rw [known, registered]
    exact tracks.registered
  · rw [beacons]
    exact tracks.periods
  · rw [beacons]
    exact tracks.room
  · rw [beacons]
    rcases List.mem_append.mp member with old | new
    · rw [begun] at old
      exact tracks.named era (List.mem_filter.mp old).1
    · exact named era new

variable {block : Block} {beaconId fromTime : ℕ} (inTime : book.InTime block.timestamp)

include inTime

/-- A change that is scheduled is replayed. -/
theorem scheduleBeacon (scheduled : book.scheduleBeacon block beaconId fromTime = .ok after) :
    ∃ next, replayEvent platform block.timestamp schedule (.beaconScheduled beaconId fromTime) =
      .ok next ∧ Tracks after next := by
  obtain ⟨beacon, known, lead, small, begun, pending, beacons, registered, -⟩ :=
    inTime.scheduleBeacon_eras scheduled
  obtain ⟨inside, -⟩ := List.getElem?_eq_some_iff.mp known
  have started : schedule.eras ≠ [] := by
    rw [tracks.eras]
    simp [BeaconBook.begunEras]
  refine ⟨⟨schedule.beacons, schedule.eras ++
    (schedule.pending.filter (decide <| ·.since ≤ block.timestamp)).toList,
    some ⟨beaconId, fromTime⟩⟩, ?_, ?_⟩
  · unfold replayEvent
    dsimp only
    rw [ensure_of (tracks.length_eq ▸ inside), if_neg started, ensure_of ⟨lead, by omega⟩]
    rfl
  · refine tracks.amended inTime begun beacons registered (fun era member => ?_) rfl rfl ?_
    · rw [pending, List.mem_singleton] at member
      rw [member]
      exact ⟨beacon, known, rfl, rfl⟩
    · rw [pending]
      rfl

/-- A change that is cancelled is replayed. -/
theorem cancelSchedule (cancelled : book.cancelSchedule block = .ok (after, beaconId, fromTime)) :
    ∃ next, replayEvent platform block.timestamp schedule
      (.beaconScheduleCancelled beaconId fromTime) = .ok next ∧ Tracks after next := by
  obtain ⟨ahead, ⟨genesis, period, named⟩, begun, pending, beacons, registered, -⟩ :=
    inTime.cancelSchedule_eras cancelled
  obtain ⟨beacon, known, -⟩ := tracks.named ⟨beaconId, fromTime, genesis, period⟩
    (List.mem_append_right _ (named ▸ List.mem_singleton_self _))
  obtain ⟨inside, -⟩ := List.getElem?_eq_some_iff.mp known
  have waiting : schedule.pending = some ⟨beaconId, fromTime⟩ := by
    have listed := tracks.pending
    rw [named] at listed
    exact Option.toList_eq_singleton_iff.mp listed
  refine ⟨⟨schedule.beacons, schedule.eras, none⟩, ?_, ?_⟩
  · unfold replayEvent
    dsimp only
    rw [ensure_of (tracks.length_eq ▸ inside), ensure_of ⟨waiting, ahead⟩]
    rfl
  · refine tracks.amended inTime begun beacons registered (fun era member => ?_) rfl ?_ ?_
    · rw [pending] at member
      cases member
    · rw [waiting, Option.filter_some, if_neg (by simpa using ahead)]
      exact (List.append_nil _).symm
    · rw [pending]
      rfl

omit inTime

/-- The replay takes the era that a time resolves to. -/
theorem eraAt_eq : (schedule.pending.filter (decide <| ·.since ≤ timestamp)).or
    (latestEra timestamp schedule.eras.reverse) = (book.eraAt timestamp).map RoundEra.ofEra := by
  have pending := tracks.pending
  rw [tracks.eras, ← List.map_reverse, latestEra_map, BeaconBook.scanPast_reverse]
  unfold BeaconBook.eraAt Timeline.inForceOrFirst
  rw [BeaconBook.head?_eras]
  unfold BeaconBook.pendingEra at pending
  by_cases taken : book.schedule.nextFrom ≠ 0 ∧ book.schedule.nextFrom ≤ timestamp
  · rw [if_neg taken.1, List.map_singleton, Option.toList_eq_singleton_iff] at pending
    have begun : (RoundEra.ofEra book.nextEra).since ≤ timestamp := taken.2
    rw [BeaconBook.inForce_eras_of_taken taken, pending, Option.filter_some,
      if_pos (decide_eq_true begun)]
    rfl
  · rw [BeaconBook.inForce_eras_of_not_taken taken]
    suffices none_ : schedule.pending.filter (decide <| ·.since ≤ timestamp) = none by
      rw [none_, Option.none_or]
    rw [Option.filter_eq_none_iff]
    intro era member
    rw [← Option.mem_toList, pending] at member
    split at member
    · cases member
    · rename_i some_
      rw [List.map_singleton, List.mem_singleton] at member
      rw [member, decide_eq_true_iff]
      exact fun begun => taken ⟨some_, begun⟩

/-- The replay answers for every time as the book does. -/
theorem roundAt_eq (early : timestamp < 2 ^ 63) :
    ∃ beaconId round beacon, book.roundAt timestamp = .ok (beaconId, round) ∧
      roundAt schedule timestamp = .ok (beaconId, (round : ℕ), beacon) := by
  obtain ⟨era, member, resolved⟩ := exists_eraAt book timestamp
  obtain ⟨stored, known, genesis, period⟩ := tracks.named era member
  obtain ⟨positive, fits⟩ := tracks.periods stored (List.mem_of_getElem? known)
  rw [← tracks.beacons, List.getElem?_map, Option.map_eq_some_iff] at known
  obtain ⟨beacon, known, rfl⟩ := known
  refine ⟨era.beaconId, firstRound beacon.genesis beacon.period
    (timestamp + BeaconBook.roundLead), beacon, ?_, ?_⟩
  · rw [BeaconBook.roundAt_eq, resolved]
    dsimp only
    unfold BeaconBook.eraRound
    rw [genesis, period, BeaconBook.round_eq_firstRound positive fits early]
    rfl
  · have found : schedule.beacons[(RoundEra.ofEra era).beaconId]? = some beacon := known
    unfold roundAt
    rw [tracks.eraAt_eq, resolved, Option.map_some]
    dsimp only
    rw [found]
    dsimp only
    rw [show roundFor beacon.genesis beacon.period timestamp roundLead = _ from
      roundFor_eq_firstRound positive early]
    rfl

end Tracks

/-! ### Steps -/

variable {accepts : StoredBeacon → Nat → Bytes → Prop} {context : Context} {events : List Event}

theorem replayAll_singleton (event : Event) :
    replayAll platform schedule [(time, event)] = replayEvent platform time schedule event := by
  unfold replayAll
  rw [List.foldlM_cons]
  exact bind_pure _

theorem replayAll_of_others (others : ∀ event ∈ events, isBeaconEvent event = false) :
    replayAll platform schedule (events.map fun event => (time, event)) = .ok schedule := by
  induction events with
  | nil => rfl
  | cons event rest inductionHypothesis =>
    obtain ⟨here, others⟩ := List.forall_mem_cons.mp others
    unfold replayAll at *
    rw [List.map_cons, List.foldlM_cons, replayEvent_of_other here]
    exact inductionHypothesis others

theorem isBeaconEvent_of_plain {event : Event} (plain : event.ofBook = false) :
    isBeaconEvent event = false := by
  cases event <;> first | rfl | cases plain

/-- What an evolution logs is replayed. -/
theorem Tracks.evolve {first second : RoundExtension} (tracks : Tracks first.book schedule)
    (inTime : first.book.InTime context.block.timestamp)
    (evolves : RoundEvolves accepts context first second events) :
    ∃ next, replayAll context.platform schedule
      (events.map fun event => (context.block.timestamp, event)) = .ok next ∧
      Tracks second.book next := by
  cases evolves with
  | register r admissible =>
    obtain ⟨replayed, registers⟩ := tracks.toRegisters.register admissible
    refine ⟨_, (replayAll_singleton _).trans replayed, registers, tracks.eras, tracks.pending,
      fun era member => ?_⟩
    obtain ⟨beacon, known, same⟩ := tracks.named era member
    obtain ⟨inside, -⟩ := List.getElem?_eq_some_iff.mp known
    exact ⟨beacon, (List.getElem?_append_left inside).trans known, same⟩
  | schedule beaconId fromTime book scheduled =>
    obtain ⟨next, replayed, tracked⟩ := tracks.scheduleBeacon inTime scheduled
    exact ⟨next, (replayAll_singleton _).trans replayed, tracked⟩
  | cancel beaconId fromTime book cancelled =>
    obtain ⟨next, replayed, tracked⟩ := tracks.cancelSchedule inTime cancelled
    exact ⟨next, (replayAll_singleton _).trans replayed, tracked⟩
  | cache => exact ⟨schedule, replayAll_singleton _,
      ⟨tracks.beacons, tracks.registered, tracks.periods, tracks.room⟩, tracks.eras,
      tracks.pending, tracks.named⟩
  | keeper | backup => exact ⟨schedule, replayAll_singleton _, tracks⟩

/-- What a step logs is replayed. -/
theorem Tracks.step {flow next : RoundFlow} (tracks : Tracks flow.store.ext.book schedule)
    (inTime : flow.store.ext.book.InTime context.block.timestamp)
    (step : Step (roundRules accepts) context flow next) :
    ∃ (events : List Event) (later : RoundSchedule),
      next.logs = flow.logs ++ events.map (fun event => (context.block, event)) ∧
      replayAll context.platform schedule
        (events.map fun event => (context.block.timestamp, event)) = .ok later ∧
      Tracks next.store.ext.book later := by
  cases step.bookMove with
  | evolve events evolves requests nextRequestId logs =>
    obtain ⟨later, replayed, tracked⟩ := tracks.evolve inTime evolves
    exact ⟨events, later, logs, replayed, tracked⟩
  | create binding events assigned ext bound others nextRequestId plain logs =>
    refine ⟨_, schedule, logs, replayAll_of_others fun event member => ?_, ext ▸ tracks⟩
    rcases List.mem_append.mp member with old | new
    · exact isBeaconEvent_of_plain (plain event old)
    · rw [List.mem_singleton.mp new]
      rfl
  | other events ext bindings nextRequestId plain logs =>
    exact ⟨events, schedule, logs, replayAll_of_others fun event member =>
      isBeaconEvent_of_plain (plain event member), ext ▸ tracks⟩

/-- The times of logs, up to that of a block. -/
def InTimes (block : Block) (logs : List (Block × Event)) : Prop :=
  (∀ entry ∈ logs, entry.1.timestamp ≤ block.timestamp) ∧
    logs.Pairwise fun first second => first.1.timestamp ≤ second.1.timestamp

theorem InTimes.append {block : Block} {logs : List (Block × Event)} (times : InTimes block logs)
    (events : List Event) : InTimes block (logs ++ events.map fun event => (block, event)) := by
  have now : ∀ entry ∈ events.map (fun event => (block, event)), entry.1 = block := by
    intro entry member
    obtain ⟨event, -, rfl⟩ := List.mem_map.mp member
    rfl
  refine ⟨fun entry member => ?_, List.pairwise_append.mpr ⟨times.2, ?_, ?_⟩⟩
  · rcases List.mem_append.mp member with old | new
    · exact times.1 entry old
    · rw [now entry new]
  · exact List.pairwise_map.mpr (List.pairwise_of_forall fun _ _ => Nat.le_refl _)
  · intro first old second new
    rw [now second new]
    exact times.1 first old

/-- At a block: the logs are replayed to the schedule of the book, and their times are in order. -/
structure Replayed (platform : Platform) (block : Block) (flow : RoundFlow) : Prop where
  inTime : flow.store.ext.book.InTime block.timestamp
  replays : ∃ schedule, replayAll platform ⟨[], [], none⟩
    (flow.logs.map fun entry => (entry.1.timestamp, entry.2)) = .ok schedule ∧
    Tracks flow.store.ext.book schedule
  times : InTimes block flow.logs

theorem Replayed.step {flow next : RoundFlow} (kept : Replayed context.platform context.block flow)
    (step : Step (roundRules accepts) context flow next) :
    Replayed context.platform context.block next := by
  obtain ⟨schedule, replayed, tracks⟩ := kept.replays
  obtain ⟨events, later, logs, more, tracked⟩ := tracks.step kept.inTime step
  refine ⟨(step.inTime kept.inTime).1, ⟨later, ?_, tracked⟩, logs ▸ kept.times.append events⟩
  unfold replayAll at replayed more ⊢
  rw [logs, List.map_append, List.foldlM_append, replayed, List.map_map]
  exact more

end RoundReplay

/-! ### Runs -/

namespace RoundDeployment

open RoundReplay

variable (deployment : RoundDeployment)

/-- The logs of the coordinator as a chain records them, in its order. -/
structure Records {Text : Type} (codec : EventCodec Text)
    (submissions : List (Submission RoundMessage Views)) (logs : List (ChainLog Text)) : Prop where
  emitted : logs.map (fun entry => (entry.block, entry.time, entry.event)) =
    (deployment.stateAfter submissions).logs.map fun entry =>
      (entry.1.number, entry.1.timestamp, entry.2)
  shown : ∀ entry ∈ logs, entry.Shown codec deployment.self
  placed : (logs.map ChainLog.toPlacedLog).Pairwise InPlace

variable {deployment}

/-- The logs of the initialization are replayed. -/
theorem replayed_initial (early : deployment.block.timestamp < 2 ^ 40) :
    Replayed deployment.platform deployment.block (flowOf deployment.initial) := by
  have leaves := deployment.leaves
  have none_ : InTimes deployment.block [] :=
    ⟨fun _ member => absurd member List.not_mem_nil, List.Pairwise.nil⟩
  have blank : Registers .empty ⟨[], [], none⟩ := by
    refine ⟨rfl, ?_, ?_, Nat.zero_le _⟩ <;> exact fun _ member => absurd member List.not_mem_nil
  obtain ⟨registered, registers⟩ := blank.register leaves.admissible
  obtain ⟨next, scheduled, tracks⟩ := registers.startWith ⟨rfl, rfl⟩ rfl early leaves.started
  refine ⟨deployment.assigned_initial.inTime, ⟨next, ?_, tracks⟩, none_.append deployment.events⟩
  show replayAll _ _ ((deployment.events.map fun event => (deployment.block, event)).map _) = _
  rw [leaves.logged]
  show (replayEvent _ deployment.block.timestamp _ _ >>= fun later =>
    replayEvent _ deployment.block.timestamp later _ >>= fun last => pure last) = _
  rw [registered]
  exact (bind_pure _).trans scheduled

theorem keeps_replayed :
    deployment.plainContract.Keeps (fun earlier later => earlier.timestamp ≤ later.timestamp)
      fun block flow => Replayed deployment.platform block flow where
  step step _ kept := kept.step step
  advance le kept := ⟨kept.inTime.later le, kept.replays,
    fun entry member => (kept.times.1 entry member).trans le, kept.times.2⟩

variable {submissions : List (Submission RoundMessage Views)} {Text : Type} [DecidableEq Text]
  {codec : EventCodec Text} {logs recorded : List (ChainLog Text)}

/-- The replay of what a run logged has the schedule of its book. -/
theorem exists_schedule (ordered : deployment.TimeOrdered submissions)
    (early : deployment.block.timestamp < 2 ^ 40)
    (records : deployment.Records codec submissions recorded) (same : logs.Perm recorded) :
    ∃ schedule, roundScheduleFromEvents deployment.platform codec deployment.self
        (logs.map fun entry => entry.log) = .ok schedule ∧
      Tracks (deployment.bookAfter submissions) schedule := by
  have kept := (deployment.keeps_replayed.runAll ordered (deployment.hears_plain submissions)
    (deployment.inOrder _) (replayed_initial early)).2
  obtain ⟨schedule, replayed, tracks⟩ := kept.replays
  have emitted := records.emitted
  have times : recorded.map (fun entry => (entry.time, entry.event)) =
      (deployment.stateAfter submissions).logs.map fun entry => (entry.1.timestamp, entry.2) := by
    have := congrArg (List.map Prod.snd) emitted
    rwa [List.map_map, List.map_map] at this
  refine ⟨schedule, roundScheduleFromEvents_eq records.shown records.placed ?_ ?_ ?_ same, tracks⟩
  · have ascending : (recorded.map fun entry => (entry.time, entry.event)).Pairwise
        fun first second => first.1 ≤ second.1 := by
      rw [times]
      exact List.pairwise_map.mpr kept.times.2
    simpa only [List.pairwise_map] using ascending
  · rw [times]
    exact replayed
  · rw [tracks.eras]
    simp [BeaconBook.begunEras]

/-- The replay refines the book: on the logs of a run, in whatever order, it never throws, and it
answers for every time as the book does, so for the time of a request what the request is bound
to. -/
theorem schedule_replay_refines (deployment : RoundDeployment) {Text : Type} [DecidableEq Text]
    (codec : EventCodec Text) (submissions : List (Submission RoundMessage Views))
    (logs recorded : List (ChainLog Text))
    (ordered : deployment.TimeOrdered submissions)
    (early : deployment.block.timestamp < 2 ^ 40 ∧
      ∀ submission ∈ submissions, submission.block.timestamp < 2 ^ 40)
    (records : deployment.Records codec submissions recorded) (same : logs.Perm recorded) :
    ∃ schedule, roundScheduleFromEvents deployment.platform codec deployment.self
        (logs.map fun entry => entry.log) = .ok schedule ∧
      (∀ timestamp < 2 ^ 63, ∃ beaconId round beacon,
        (deployment.bookAfter submissions).roundAt timestamp = .ok (beaconId, round) ∧
        RoundReplay.roundAt schedule timestamp = .ok (beaconId, (round : ℕ), beacon)) ∧
      ∀ before submission after requestId, submissions = before ++ submission :: after →
        deployment.Makes before submission requestId →
        ∃ beacon, RoundReplay.roundAt schedule submission.block.timestamp =
          .ok ((deployment.bindingAfter submissions requestId).beaconId,
            (deployment.bindingAfter submissions requestId).round, beacon) := by
  obtain ⟨schedule, built, tracks⟩ := exists_schedule ordered early.1 records same
  refine ⟨schedule, built, fun timestamp => tracks.roundAt_eq, ?_⟩
  rintro before submission after requestId rfl makes
  have first : deployment.TimeOrdered (before ++ [submission]) := by
    rw [List.append_cons] at ordered
    exact (follows_append deployment.exec ordered).1
  have small : submission.block.timestamp < 2 ^ 63 :=
    (early.2 submission (by simp)).trans (by norm_num)
  obtain ⟨beaconId, round, beacon, answered, replayed⟩ := tracks.roundAt_eq small
  have bound := roundAt_of_makes first makes
  rw [roundAt_append first (Nat.le_refl _), ← roundAt_append ordered (Nat.le_refl _), answered] at bound
  obtain ⟨rfl, rfl⟩ := Prod.mk.inj (Except.ok.inj bound)
  refine ⟨beacon, ?_⟩
  rw [List.append_cons, deployment.bindingAfter_append (before ++ [submission]) after makes.2]
  exact replayed

/-- A codec that writes an event as it is. -/
def plainCodec : EventCodec Event where
  toLowerCase := id
  isBeaconTopic := isBeaconEvent
  parseLog _ data := .ok (some data)
  encodeEventLog event := ([event], event)
  topic _ := rfl
  parses _ _ := rfl
  lower _ := ⟨rfl, rfl⟩

/-- The logs of a run in one block, by their indices. -/
def blockLogs (deployment : RoundDeployment) (submissions : List (Submission RoundMessage Views)) :
    List (ChainLog Event) :=
  (deployment.stateAfter submissions).logs.mapIdx fun index entry =>
    ⟨⟨⟨deployment.self, [entry.2], entry.2, .bigint entry.1.number, some (.bigint index), none,
      .bigint entry.1.timestamp, false⟩, entry.1.number, index, entry.1.timestamp⟩, entry.2⟩

theorem schedule_replay_refines_default :
    ∃ schedule, roundScheduleFromEvents (default : RoundDeployment).platform plainCodec
        (default : RoundDeployment).self (((default : RoundDeployment).blockLogs
          [firstRequest, firstChange]).map fun entry => entry.log) = .ok schedule ∧
      ∃ beacon, RoundReplay.roundAt schedule 1 =
        .ok (((default : RoundDeployment).bindingAfter [firstRequest, firstChange] 1).beaconId,
          ((default : RoundDeployment).bindingAfter [firstRequest, firstChange] 1).round, beacon) := by
  have ordered : (default : RoundDeployment).TimeOrdered [firstRequest, firstChange] := by
    unfold TimeOrdered Follows
    decide +kernel
  have makes : (default : RoundDeployment).Makes [] firstRequest 1 := by
    unfold Makes
    decide +kernel
  have records : (default : RoundDeployment).Records plainCodec [firstRequest, firstChange]
      ((default : RoundDeployment).blockLogs [firstRequest, firstChange]) := by
    unfold blockLogs
    refine ⟨List.ext_getElem? fun index => ?_, fun log member => ?_, ?_⟩
    · rw [List.getElem?_map, List.getElem?_mapIdx, List.getElem?_map, Option.map_map]
      rfl
    · obtain ⟨_, _, rfl⟩ := List.mem_mapIdx.mp member
      exact ⟨rfl, rfl, .bigint _, ⟨_, rfl, .bigint _⟩, .bigint _, rfl⟩
    · unfold InPlace
      decide +kernel
  obtain ⟨schedule, built, -, bound⟩ := schedule_replay_refines default plainCodec
    [firstRequest, firstChange] _ _ ordered ⟨by decide, by decide +kernel⟩ records (List.Perm.refl _)
  exact ⟨schedule, built, bound [] firstRequest [firstChange] 1 rfl makes⟩

end RoundDeployment

end D20
