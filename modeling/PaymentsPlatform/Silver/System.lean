import PaymentsPlatform.Cdc.Storage
import PaymentsPlatform.Effects.Service
import PaymentsPlatform.Silver.Deduplication
import PaymentsPlatform.Silver.Manifest

/-!
# The system around Silver processing

What a processing run acts on: the Bronze objects, which do not change, the Silver bucket, the
processing manifest, two clocks and the source of run identifiers. Each request of the program is
one effect, which the environment may let fail, before or after it took place. An upload is one
effect: an object is created when its key is free, an object with the same digest is accepted, and
any other one is a collision. An object is known by its address.
-/

namespace Silver

open Python Effects
open Cdc (Backend)

/-- A Parquet file as `pq.read_table` gives it: the columns with their types (`none` for a type no
contract uses) and the rows. -/
structure ArrowTable where
  /-- The columns. -/
  fields : List (PyStr × Option ColumnType)
  /-- The rows. -/
  rows : List BronzeRow
deriving DecidableEq

/-- The Parquet files of Silver: what `serialize_rows` writes and `pq.read_table` reads. -/
structure TableFormat where
  /-- The file of a table; rows that do not fit the schema are an error. -/
  write : Table → Except PyError Bytes
  /-- The table of a file. -/
  read : Bytes → Except PyError Table
  /-- What was written is read. -/
  read_write : ∀ table data, write table = .ok data → read data = .ok table.narrow

/-- What `SilverSettings` fixes. -/
structure Settings where
  /-- Version of the code. -/
  codeVersion : PyStr
  /-- Version of the Silver contract. -/
  silverSchemaVersion : PyStr
  /-- The Bronze contract that is understood. -/
  supportedBronzeSchema : PyStr
  /-- The Silver bucket. -/
  silverBucket : PyStr

/-- What is fixed: digests, formats, storage, settings and the Bronze objects. -/
structure Deployment where
  /-- SHA-256. -/
  sha : Sha256
  /-- A digest is written in lowercase hexadecimal digits. -/
  sha_hexadecimal : ∀ data, ∀ code ∈ sha.hexdigest data,
    (48 ≤ code ∧ code ≤ 57) ∨ (97 ≤ code ∧ code ≤ 102)
  /-- Nested JSON containers before `RecursionError`. -/
  recursionLimit : Nat
  /-- The Silver files. -/
  format : TableFormat
  /-- `pq.read_table` of a Bronze file. -/
  readParquet : Bytes → Except PyError ArrowTable
  /-- The storage backend. -/
  backend : Backend
  /-- The settings. -/
  settings : Settings
  /-- The content of a Bronze object. -/
  bronze : InputObject → Except PyError Bytes

/-- The state that survives a process. -/
structure World where
  /-- The Silver objects by address. -/
  objects : PyStr → Option Bytes
  /-- The processing manifest. -/
  manifest : ManifestTable

/-- Nothing stored and nothing registered. -/
def World.empty : World := ⟨fun _ => none, .empty⟩

/-- The effects of a run. -/
inductive Op
  /-- `self.clock()`. -/
  | now
  /-- `self.run_id_factory()`. -/
  | newRunId
  /-- `datetime.now(UTC)`. -/
  | wallClock
  /-- `find_latest_identity`. -/
  | findLatestIdentity (identity : RunIdentity)
  /-- `register`. -/
  | register (run : ProcessingRun)
  /-- `transition`. -/
  | transition (runId : PyStr) (status : ProcessingStatus) (updates : List Assignment)
  /-- `get`. -/
  | getRun (runId : PyStr)
  /-- `latest_output`. -/
  | latestOutput (entityName : PyStr) (outputType : OutputType) (excluded : Option PyStr)
  /-- `read_bytes` of a Bronze object. -/
  | readBronze (object : InputObject)
  /-- `read_bytes` of a Silver object. -/
  | readSilver (uri : PyStr)
  /-- `serialize_rows`. -/
  | serialize (table : Table)
  /-- The upload of `put_immutable` to an address. -/
  | put (uri : PyStr) (data : Bytes)

/-- What an effect answers. -/
def Op.Answer : Op → Type
  | .now => Instant
  | .newRunId => PyStr
  | .wallClock => Instant
  | .findLatestIdentity _ => Option ProcessingRun
  | .register _ => Unit
  | .transition _ _ _ => ProcessingRun
  | .getRun _ => Option ProcessingRun
  | .latestOutput _ _ _ => Option SilverOutput
  | .readBronze _ => Bytes
  | .readSilver _ => Bytes
  | .serialize _ => Bytes
  | .put _ _ => Unit

/-- The effects and their answers. -/
def signature : Signature := ⟨Op, Op.Answer⟩

/-- A part of the processing program. -/
abbrev Action := Program signature PyError

/-- A failure of an effect. -/
structure Fault where
  /-- The effect took place before the failure was noticed. -/
  applied : Bool
  /-- The exception. -/
  error : PyError

/-- A choice of the environment. -/
structure Choice where
  /-- The effect fails. -/
  fault : Option Fault := none
  /-- The clocks. -/
  clock : Instant := Instant.epoch
  /-- The next run identifier. -/
  runId : PyStr := []

/-- Put an object in its place. -/
def World.setObject (world : World) (uri : PyStr) (data : Bytes) : World :=
  { world with objects := Function.update world.objects uri (some data) }

/-- The upload of an object. -/
def putEffect (sha : Sha256) (uri : PyStr) (data : Bytes) (world : World) :
    Except PyError Unit × World :=
  match world.objects uri with
  | none => (.ok (), world.setObject uri data)
  | some existing =>
    if sha.hexdigest existing = sha.hexdigest data then (.ok (), world)
    else (.error ⟨.immutableCollisionError,
      py "Immutable key already exists with different content: " ++ uri⟩, world)

/-- What a read of an absent object raises. -/
def missingObject (backend : Backend) (uri : PyStr) : PyError :=
  match backend with
  | .filesystem _ => ⟨.osError, py "No such file or directory: " ++ uri⟩
  | .minio _ => ⟨.storageBackendError, py "MinIO read object failed with code NoSuchKey"⟩

/-- The content of an object. -/
def readEffect (backend : Backend) (uri : PyStr) (world : World) : Except PyError Bytes :=
  match world.objects uri with
  | some data => .ok data
  | none => .error (missingObject backend uri)

/-- An effect that takes place. -/
def effect (deployment : Deployment) :
    (op : Op) → Choice → World → Except PyError op.Answer × World
  | .now, choice, world => (.ok choice.clock, world)
  | .newRunId, choice, world => (.ok choice.runId, world)
  | .wallClock, choice, world => (.ok choice.clock, world)
  | .findLatestIdentity identity, _, world =>
    (.ok (Silver.findLatestIdentity world.manifest identity), world)
  | .register run, _, world =>
    let (outcome, manifest) := Silver.register world.manifest run
    (outcome, { world with manifest })
  | .transition runId status updates, _, world =>
    let (outcome, manifest) := Silver.transition world.manifest runId status updates
    (outcome, { world with manifest })
  | .getRun runId, _, world => (.ok (world.manifest.get runId), world)
  | .latestOutput entityName outputType excluded, _, world =>
    (.ok (Silver.latestOutput world.manifest entityName outputType excluded), world)
  | .readBronze object, _, world => (deployment.bronze object, world)
  | .readSilver uri, _, world => (readEffect deployment.backend uri world, world)
  | .serialize table, _, world => (deployment.format.write table, world)
  | .put uri data, _, world => putEffect deployment.sha uri data world

/-- Whether an effect can fail: the clocks and the run identifiers cannot. -/
def Op.fallible : Op → Bool
  | .now | .newRunId | .wallClock => false
  | _ => true

/-- The machine: the effect, or its failure. -/
def machine (deployment : Deployment) : Machine signature PyError World Choice where
  act op choice world :=
    match choice.fault with
    | none => effect deployment op choice world
    | some fault =>
      if Op.fallible op then
        (.error fault.error,
          if fault.applied then (effect deployment op choice world).2 else world)
      else effect deployment op choice world

/-- What an effect can do: take place, or fail before or after it did. -/
theorem act_cases (deployment : Deployment) (op : Op) (choice : Choice) (world : World) :
    (machine deployment).act op choice world = effect deployment op choice world ∨
    ∃ fault, choice.fault = some fault ∧
      ((machine deployment).act op choice world = (.error fault.error, world) ∨
        (machine deployment).act op choice world =
          (.error fault.error, (effect deployment op choice world).2)) := by
  unfold machine
  dsimp only
  cases failing : choice.fault with
  | none => exact Or.inl rfl
  | some fault =>
    by_cases can : Op.fallible op = true
    · refine Or.inr ⟨fault, rfl, ?_⟩
      by_cases applied : fault.applied = true
      · exact Or.inr ((if_pos can).trans (congrArg _ (if_pos applied)))
      · exact Or.inl ((if_pos can).trans (congrArg _ (if_neg applied)))
    · exact Or.inl (if_neg can)

/-- Perform one effect. -/
def perform (op : Op) : Action op.Answer := Program.request (S := signature) op

end Silver
