/-
This file models the migration of a keeper to another journal. The source and the destination own
locks by wallet and by coordinator, which they may share; a lock file holds the binding of the
journal that owns it, and a tombstone once the source is retired. The transition writes its marker
beside the source, its intent and a marker beside the destination, puts the destination in place,
revokes every lock of the source, grants every lock of the destination, records its completion and
takes the destination's marker away. A crash can fall between two of these writes or tear a binding
at any byte; a resumed migration first repairs the bindings that cannot be read.
-/

import D20Keeper.CrashWrites
import D20Keeper.Journal

namespace D20.Migration

open Journal (ensure ensure_eq_ok bind_eq_ok)

/-! ### Plans and bindings -/

/-- A value of a field of a binding. -/
inductive Scalar
  | number (value : ℕ)
  | text (value : String)
  deriving DecidableEq, Repr

/-- A binding as a JSON object, its fields in their order. -/
abbrev Json := List (String × Scalar)

/-- The check `identity` makes of an instance, which is 64 hexadecimal digits. -/
def identity (instanceId : String) : Except String Unit :=
  ensure (instanceId.toList.length = 64 ∧ instanceId.toList.all (fun digit => digit.isDigit ||
      ('a' ≤ digit && digit ≤ 'f') || ('A' ≤ digit && digit ≤ 'F')) = true)
    "Malformed source instance identity"

/-- The instance of one digit repeated. -/
def sampleInstance (digit : Char) : String := .ofList (.replicate 64 digit)

theorem identified_sample : ∀ instanceId ∈ [sampleInstance '1', sampleInstance '2'],
    identity instanceId = .ok () := by
  decide +kernel

/-- The plan of a migration: the two journals, their instances and the scopes they own. The source's
instance has passed its check, and the destination's is a hash in hexadecimal digits. -/
structure Plan where
  fromPath : String
  toPath : String
  oldCoordinator : ℕ
  newCoordinator : ℕ
  oldSender : ℕ
  newSender : ℕ
  oldInstance : String
  newInstance : String
  apart : fromPath ≠ toPath
  identified : ∀ instanceId ∈ [oldInstance, newInstance], identity instanceId = .ok ()

/-- The binding of the source or of the destination. -/
def Plan.binding (plan : Plan) (old : Bool) : Json :=
  [("version", .number 1), ("journal", .text (if old then plan.fromPath else plan.toPath)),
    ("instance", .text (if old then plan.oldInstance else plan.newInstance))]

/-- What a lock of the source holds once it is retired. -/
def Plan.tombstone (plan : Plan) : Json :=
  [("version", .number 2), ("retired_by_migration", .text plan.newInstance),
    ("destination", .text plan.toPath)]

theorem Plan.source_ne_destination (plan : Plan) : plan.binding true ≠ plan.binding false := by
  intro same
  unfold binding at same
  simp only [if_true, List.cons.injEq, Prod.mk.injEq, Scalar.text.injEq, true_and] at same
  exact plan.apart same.1

theorem Plan.tombstone_ne_binding (plan : Plan)
    (old : Bool) : plan.tombstone ≠ plan.binding old := by
  intro same
  unfold tombstone binding at same
  simp only [List.cons.injEq, Prod.mk.injEq, Scalar.number.injEq] at same
  exact absurd same.1.2 (by decide)

/-- How bindings are written to a file and read from it. What a torn file reads as is left open. -/
structure Codec (plan : Plan) where
  render : Json → List Char
  parse : List Char → Option Json
  whole : ∀ value ∈ [plan.binding true, plan.binding false, plan.tombstone],
    parse (render value) = some value
  empty : parse [] = none

/-! ### Locks -/

/-- What a lock is for. -/
inductive LockKind
  | coordinator
  | wallet
  deriving DecidableEq, Repr

/-- The name of a lock file. -/
structure LockName where
  kind : LockKind
  address : ℕ
  deriving DecidableEq, Repr

/-- A lock file with whose lock it is: the source's, the destination's or that of both. -/
structure Lock where
  name : LockName
  old : Bool
  new : Bool
  owned : old = true ∨ new = true
  bytes : List Char
  deriving DecidableEq

/-- The locks of one kind in the order of their paths. -/
def scopesOf (kind : LockKind) (old new : ℕ) : List Lock :=
  if old = new then [⟨⟨kind, old⟩, true, true, .inl rfl, []⟩]
  else if old < new then
    [⟨⟨kind, old⟩, true, false, .inl rfl, []⟩, ⟨⟨kind, new⟩, false, true, .inr rfl, []⟩]
  else [⟨⟨kind, new⟩, false, true, .inr rfl, []⟩, ⟨⟨kind, old⟩, true, false, .inl rfl, []⟩]

/-- The locks of a migration, which are opened in the order of their paths. -/
def Plan.scopeLocks (plan : Plan) : List Lock :=
  scopesOf .coordinator plan.oldCoordinator plan.newCoordinator ++
    scopesOf .wallet plan.oldSender plan.newSender

/-- The files of a migration: its records, all of the one plan, the destination and the locks. -/
structure Disk where
  oldMarker : Bool
  intent : Bool
  newMarker : Bool
  destination : Bool
  complete : Bool
  locks : Table Lock LockName Lock.name

/-- A keeper can take over the journal: the file is there, and no blocking marker stands beside it.
The source is never removed. `ensure_startable` itself looks at the marker only, so it also passes
before the destination is in place, where a keeper would open an empty journal of its own. -/
def Disk.sourceStartable (disk : Disk) : Bool := !disk.oldMarker

@[inherit_doc Disk.sourceStartable]
def Disk.destinationStartable (disk : Disk) : Bool := disk.destination && !disk.newMarker

/-- The writes of a migration. A record is published whole, and the destination is renamed into
place once it is initialized and verified. -/
inductive Write
  | oldMarker
  | intent
  | newMarker
  | destination
  | binding (name : LockName) (value : Json)
  | complete
  | unblock
  deriving DecidableEq

/-- A lock with other bytes. -/
def Lock.withBytes (lock : Lock) (bytes : List Char) : Lock := { lock with bytes := bytes }

/-- Change the bytes of one lock. -/
def Disk.setBytes (disk : Disk) (name : LockName) (change : List Char → List Char) : Disk :=
  { disk with
    locks := disk.locks.update (fun lock => lock.name == name)
      (fun lock => lock.withBytes (change lock.bytes)) fun _ => rfl }

section

variable {plan : Plan} (codec : Codec plan)

variable (disk : Disk)

/-- What a write leaves. -/
def Disk.write : Write → Disk
  | .oldMarker => { disk with oldMarker := true }
  | .intent => { disk with intent := true }
  | .newMarker => { disk with newMarker := true }
  | .destination => { disk with destination := true }
  | .binding name value => disk.setBytes name fun _ => codec.render value
  | .complete => { disk with complete := true }
  | .unblock => { disk with newMarker := false }

/-- What a crash leaves of a lock to which a binding is written: its bytes are written over those of
the file, and then the file is cut to their length. -/
def tornBytes (value : Json) (count : ℕ) (old : List Char) : List Char :=
  (codec.render value).take count ++ old.drop count

/-- A crash tears the write of a binding at some byte. The tears that are considered are given by
the lock, the binding that is written and the bytes that are left. -/
inductive Torn (tears : Lock → Json → List Char → Prop) : Disk → Write → Disk → Prop
  | binding (disk : Disk) (name : LockName) (value : Json) (count : ℕ)
      (within : count ≤ (codec.render value).length)
      (considered : ∀ lock ∈ disk.locks.rows, lock.name = name →
        tears lock value (tornBytes codec value count lock.bytes)) :
      Torn tears disk (.binding name value) (disk.setBytes name (tornBytes codec value count))

/-- The disk under some tears. -/
def device (tears : Lock → Json → List Char → Prop) : CrashWrites.Device Disk Write where
  write := Disk.write codec
  torn := Torn codec tears

/-! ### Reading the locks -/

/-- The binding in a file, if the file is not empty. -/
def readBinding (bytes : List Char) : Except String (Option Json) :=
  if bytes = [] then .ok none
  else
    match codec.parse bytes with
    | some value => .ok (some value)
    | none => .error "Partial scope binding: fail closed; preserve all files for reviewed recovery; never edit or delete a lock"

/-- A binding that the migration may find, at its start or when it is resumed. -/
def allowedBinding (plan : Plan) (resume : Bool) (lock : Lock) (actual : Option Json) : Bool :=
  if lock.old then
    actual == some (plan.binding true) ||
      (resume && (actual == some plan.tombstone ||
        (lock.new && actual == some (plan.binding false))))
  else actual == none || (resume && actual == some (plan.binding false))

/-- Check that every lock holds what the migration may find. -/
def validateBindings (resume : Bool) : List Lock → Except String Unit
  | [] => .ok ()
  | lock :: rest => do
    let actual ← readBinding codec lock.bytes
    ensure (allowedBinding plan resume lock actual = true)
      "Source identity does not match existing scope bindings, or destination belongs to another journal; migration refused"
    validateBindings resume rest

/-- What a lock holds when the migration is complete. -/
def Plan.final (plan : Plan) (lock : Lock) : Json :=
  if lock.new then plan.binding false else plan.tombstone

/-- A binding that the repair leaves as it is. -/
def repairable (plan : Plan) (lock : Lock) (actual : Json) : Bool :=
  (lock.old && (actual == plan.binding true || actual == plan.tombstone)) ||
    (lock.new && actual == plan.binding false)

/-- The locks whose binding cannot be read. A binding of anything else stops the repair. -/
def tornLocks : List Lock → Except String (List Lock)
  | [] => .ok []
  | lock :: rest =>
    match codec.parse lock.bytes with
    | some actual => do
      ensure (repairable plan lock actual = true) "Unrelated scope binding; refusing recovery"
      tornLocks rest
    | none => do return lock :: (← tornLocks rest)

/-- A record that must be there. -/
def checkRecord (present : Bool) : Except String Unit :=
  ensure (present = true) "No such file or directory (os error 2)"

/-- The repair of torn bindings, once the source is identified and the records and the destination
are there. -/
def recoverBindings : Except String (List Write) := do
  identity plan.oldInstance
  checkRecord disk.intent
  checkRecord disk.oldMarker
  checkRecord disk.newMarker
  checkRecord disk.destination
  let torn ← tornLocks codec disk.locks.rows
  return torn.map fun lock => .binding lock.name (plan.final lock)

/-! ### The transition -/

/-- Write a binding to every lock of one side. -/
def bindLocks (locks : List Lock) (side : Lock → Bool) (value : Json) : List Write :=
  (locks.filter side).map fun lock => .binding lock.name value

/-- Every lock holds what it holds when the migration is complete. -/
def checkFinal : List Lock → Except String Unit
  | [] => .ok ()
  | lock :: rest => do
    let actual ← readBinding codec lock.bytes
    ensure (actual = some (plan.final lock)) "Completed migration binding changed; fail closed"
    checkFinal rest

/-- A record is created unless it is there. -/
def ensureRecord (present : Bool) (write : Write) : List Write := if present then [] else [write]

/-- The writes of the transition. All old ownership is revoked before any new is granted. -/
def transition : Except String (List Write) :=
  if disk.complete then do
    checkRecord disk.oldMarker
    checkRecord disk.destination
    checkFinal codec disk.locks.rows
    return if disk.newMarker then [.unblock] else []
  else
    .ok (ensureRecord disk.newMarker .newMarker ++ ensureRecord disk.destination .destination ++
      bindLocks disk.locks.rows Lock.old plan.tombstone ++
      bindLocks disk.locks.rows Lock.new (plan.binding false) ++ [.complete, .unblock])

/-- How the migration is called. -/
inductive Mode
  | prepare
  | apply
  | resume
  deriving DecidableEq, Repr

/-- A record of the migration is there. -/
def Disk.recorded : Bool := disk.intent || disk.oldMarker

/-- What is checked before the locks are. -/
def checkMode (mode : Mode) (disk : Disk) : Except String Unit :=
  if disk.recorded then
    ensure (mode ≠ .prepare) "Migration intent already exists; use identical configuration with --apply or --resume. Do not delete intent, DB, markers, or locks"
  else do
    ensure (mode ≠ .resume) "No migration intent exists; use --prepare then --apply"
    ensure (disk.destination = false)
      "Destination database already exists; never overwrite an unrelated journal"
    ensure (disk.newMarker = false) "Journal is migration-pending or retired. Keep ingress stopped; use the identical destination configuration and migrate --from <original-db> --resume. Never delete migration markers or scope locks"

/-- The repairs a call makes: none if the locks hold what they may. -/
def repairs (mode : Mode) (disk : Disk) : Except String (List Write) :=
  match validateBindings codec disk.recorded disk.locks.rows with
  | .ok () => .ok []
  | .error message =>
    if disk.recorded ∧ mode = .resume then recoverBindings codec disk else .error message

/-- One call of the migration: the writes it makes, and how it ends. -/
def run (mode : Mode) (disk : Disk) : List Write × Except String Unit :=
  match (do identity plan.oldInstance; checkMode mode disk; repairs codec mode disk) with
  | .error message => ([], .error message)
  | .ok repaired =>
    let left := CrashWrites.writeAll (device codec fun _ _ _ => True) disk repaired
    match validateBindings codec disk.recorded left.locks.rows with
    | .error message => (repaired, .error message)
    | .ok () =>
      if mode = .prepare then (repaired, .ok ())
      else
        let records := ensureRecord left.oldMarker .oldMarker ++ ensureRecord left.intent .intent
        match transition codec { left with oldMarker := true, intent := true } with
        | .error message => (repaired ++ records, .error message)
        | .ok writes => (repaired ++ records ++ writes, .ok ())

end

end D20.Migration
