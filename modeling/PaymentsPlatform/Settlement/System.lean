import PaymentsPlatform.Cdc.Storage
import PaymentsPlatform.Effects.Service
import PaymentsPlatform.Settlement.Manifest
import PaymentsPlatform.Settlement.Validation

/-!
# The system around settlement ingestion

What an ingestion attempt acts on: the inbound file, the SQLite manifest, the object store, the
clock and the source of run identifiers. Each request of the program is one effect, which the
environment may let fail, before or after it took place. An upload is one effect here: the store
is the immutable one of `common.storage`, where an object is created when its key is free, an
object with the same digest is accepted, and any other one is a collision. A failing upload may
leave the object, and in the local backend the object without its metadata.
-/

namespace Settlement

open Python Effects
open Cdc (Location StoredFile Sidecar Backend Metadata)

/-- The pattern `[0-9a-f]{64}`. -/
def isChecksum (text : PyStr) : Bool :=
  text.length = 64 && text.all fun code => Json.isDigit code || (97 ≤ code && code ≤ 102)

/-- What is fixed: the contract, the digest function and the storage with its two private
buckets. -/
structure Deployment where
  /-- The contract. -/
  contract : SettlementContract
  /-- SHA-256. -/
  sha : Sha256
  /-- A digest is written in lowercase hexadecimal digits. -/
  sha_hexadecimal : ∀ data, isChecksum (sha.hexdigest data) = true
  /-- The storage backend. -/
  backend : Backend
  /-- The bucket of accepted files. -/
  bronzeBucket : PyStr
  /-- The bucket of rejected files and rows. -/
  quarantineBucket : PyStr
  /-- They are two. -/
  buckets_differ : bronzeBucket ≠ quarantineBucket

/-- An inbound file: `str(path)`, `path.name` and the content. -/
structure SourceFile where
  /-- The path. -/
  path : PyStr
  /-- The name. -/
  name : PyStr
  /-- The content. -/
  data : Bytes

/-- The state that survives a process. -/
structure World where
  /-- The object store. -/
  objects : Location → Option StoredFile
  /-- The manifest database. -/
  manifest : ManifestTable

/-- Nothing stored and nothing registered. -/
def World.empty : World := ⟨fun _ => none, .empty⟩

/-- Put an object or its sidecar in its place. -/
def World.setObject (world : World) (location : Location) (file : StoredFile) : World :=
  { world with objects := Function.update world.objects location (some file) }

/-- The effects of an attempt. -/
inductive Op
  /-- `self.clock()`. -/
  | now
  /-- `self.run_id_factory()`. -/
  | newRunId
  /-- `calculate_sha256(path)`. -/
  | hashSource (file : SourceFile)
  /-- `path.stat().st_size`. -/
  | sizeSource (file : SourceFile)
  /-- Open and read the file to validate it under its name. -/
  | openSource (file : SourceFile) (filename : FilenameMetadata)
  /-- `ManifestStore.register_discovery`. -/
  | register (discovery : Discovery)
  /-- `ManifestStore.transition`. -/
  | transition (fileId : PyStr) (status : ManifestStatus) (updates : List Assignment)
  /-- The upload of `put_immutable` and `put_bytes_immutable` to a place. -/
  | put (place : Location × PyStr) (data : Bytes) (sidecar : Sidecar)

/-- What an effect answers. -/
def Op.Answer : Op → Type
  | .now => Instant
  | .newRunId => PyStr
  | .hashSource _ => PyStr
  | .sizeSource _ => Nat
  | .openSource _ _ => Bytes
  | .register _ => ManifestRecord × DuplicateKind
  | .transition _ _ _ => ManifestRecord
  | .put _ _ _ => Unit

/-- The effects and their answers. -/
def signature : Signature := ⟨Op, Op.Answer⟩

/-- A part of the ingestion program. -/
abbrev Action := Program signature PyError

/-- How much of a failing effect took place. -/
inductive Extent
  | nothing
  | objectOnly
  | everything
deriving DecidableEq

/-- A failure of an effect. -/
structure Fault where
  /-- What took place before the failure was noticed. -/
  extent : Extent
  /-- The exception. -/
  error : PyError

/-- A choice of the environment. -/
structure Choice where
  /-- The effect fails. -/
  fault : Option Fault := none
  /-- The clock. -/
  clock : Instant := Instant.epoch
  /-- The next run identifier. -/
  runId : PyStr := []

/-- The upload of an object. -/
def putEffect (sha : Sha256) (place : Location × PyStr) (data : Bytes) (sidecar : Sidecar)
    (world : World) : Except PyError Unit × World :=
  match world.objects place.1 with
  | none => (.ok (), world.setObject place.1 ⟨data, some sidecar⟩)
  | some existing =>
    if sha.hexdigest existing.data = sidecar.checksumSha256 then
      -- a local object that lost its metadata gets it now
      (.ok (), world.setObject place.1
        { existing with sidecar := some (existing.sidecar.getD sidecar) })
    else (.error ⟨.immutableCollisionError,
      py "Immutable key already exists with different content: " ++ place.2⟩, world)

/-- The upload that ends after the object was linked. -/
def linkEffect (place : Location × PyStr) (data : Bytes) (world : World) : World :=
  match world.objects place.1 with
  | none => world.setObject place.1 ⟨data, none⟩
  | some _ => world

/-- An effect that takes place. -/
def effect (deployment : Deployment) :
    (op : Op) → Choice → World → Except PyError op.Answer × World
  | .now, choice, world => (.ok choice.clock, world)
  | .newRunId, choice, world => (.ok choice.runId, world)
  | .hashSource file, _, world => (.ok (deployment.sha.hexdigest file.data), world)
  | .sizeSource file, _, world => (.ok file.data.length, world)
  | .openSource file _, _, world => (.ok file.data, world)
  | .register discovery, _, world =>
    let (outcome, manifest) := registerDiscovery world.manifest discovery
    (outcome, { world with manifest })
  | .transition fileId status updates, _, world =>
    let (outcome, manifest) := Settlement.transition world.manifest fileId status updates
    (outcome, { world with manifest })
  | .put place data sidecar, _, world => putEffect deployment.sha place data sidecar world

/-- What a failing effect leaves. -/
def leftovers (deployment : Deployment) (op : Op) (choice : Choice) (extent : Extent)
    (world : World) : World :=
  match extent, op with
  | .everything, op => (effect deployment op choice world).2
  | .objectOnly, .put place data _ => linkEffect place data world
  | _, _ => world

/-- Whether an effect can fail: the clock and the run identifiers cannot. -/
def Op.fallible : Op → Bool
  | .now | .newRunId => false
  | _ => true

/-- The machine: the effect, or its failure. -/
def machine (deployment : Deployment) : Machine signature PyError World Choice where
  act op choice world :=
    match choice.fault with
    | none => effect deployment op choice world
    | some fault =>
      if Op.fallible op then
        (.error fault.error, leftovers deployment op choice fault.extent world)
      else effect deployment op choice world

/-- What an effect can do: take place, or fail and leave some of it. -/
theorem act_cases (deployment : Deployment) (op : Op) (choice : Choice) (world : World) :
    (machine deployment).act op choice world = effect deployment op choice world ∨
    ∃ fault, choice.fault = some fault ∧ Op.fallible op = true ∧
      (machine deployment).act op choice world =
        (.error fault.error, leftovers deployment op choice fault.extent world) := by
  unfold machine
  dsimp only
  cases failing : choice.fault with
  | none => exact Or.inl rfl
  | some fault =>
    by_cases can : Op.fallible op = true
    · exact Or.inr ⟨fault, rfl, can, if_pos can⟩
    · exact Or.inl (if_neg can)

end Settlement
