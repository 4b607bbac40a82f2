import PaymentsPlatform.Cdc.Archive
import PaymentsPlatform.Silver.Processor

/-!
# Discovery of Bronze objects

`BronzeDiscovery.discover`: the listing of the Bronze bucket, the filters, and the sort that puts
the objects in the order in which they are to be replayed. The order of the listing is left open,
and so is the resolution of a single object that is named by its address.
-/

namespace Silver

open Python Cdc

/-! ## The code -/

/-- `SourceType`. -/
inductive SourceType
  | cdc
  | settlement
deriving DecidableEq

/-- The arguments of `discover`. -/
structure DiscoverRequest where
  /-- Which pipeline the objects are for. -/
  sourceType : SourceType
  /-- One object. -/
  inputObject : Option PyStr := none
  /-- The prefix of the listing. -/
  inputPrefix : Option PyStr := none
  /-- The entity. -/
  entity : Option PyStr := none
  /-- The first date. -/
  fromDate : Option Date := none
  /-- The last date. -/
  toDate : Option Date := none
  /-- How many objects at most. -/
  maxObjects : Int := 100

/-- The Bronze bucket as discovery sees it. -/
structure BronzeBucket where
  /-- The storage backend. -/
  backend : Backend
  /-- The objects, in the order of the listing. -/
  objects : List StoredObject
  /-- `resolve`. -/
  resolve : PyStr → Except PyError InputObject
  /-- `sha256_file` of the object at an address. -/
  fileDigest : PyStr → PyStr

/-- `ENTITY_ORDER.get(entity, 99)`. -/
def entityOrder (entity : PyStr) : Nat :=
  if entity = py "customers" then 0
  else if entity = py "merchants" then 1
  else if entity = py "accounts" then 2
  else if entity = py "payment_transactions" then 3
  else if entity = py "transaction_events" then 4
  else if entity = py "refunds" then 5
  else 99

/-- `_partition_value`. -/
def partitionValue (objectKey name : PyStr) : Option PyStr :=
  (splitChar 47 objectKey).findSome? (dropStart (name ++ py "="))

/-- `text.startswith(start)`. -/
def startsWith (start text : PyStr) : Bool := (dropStart start text).isSome

/-- A text that is neither `None` nor empty. -/
def given : Option PyStr → Option PyStr
  | some (code :: rest) => some (code :: rest)
  | _ => none

/-- Dates in the order of the calendar. -/
def dateOrder (date : Date) : Nat ×ₗ Nat ×ₗ Nat := toLex (date.year, toLex (date.month, date.day))

/-- Whether a date lies between the two dates there are. -/
def between (fromDate toDate : Option Date) (date : Date) : Bool :=
  (fromDate.all fun first => decide (¬ dateOrder date < dateOrder first)) &&
    toDate.all fun last => decide (¬ dateOrder last < dateOrder date)

/-- The date filter of `_matches`. -/
def matchesDate (fromDate toDate : Option Date) (value : Option PyStr) : Bool :=
  match given value with
  | none => true
  | some text =>
    match dateFromIsoformat text with
    | none => false
    | some date => between fromDate toDate date

/-- The entity filter of `_matches`. -/
def matchesEntity (entity : Option PyStr) (key : PyStr) : Bool :=
  match given entity with
  | none => true
  | some entity => contains (py "entity=" ++ entity ++ py "/") key

/-- Whether a key is one of a CDC object. -/
def isCdcKey (key : PyStr) : Bool := endsWith ".parquet" key && startsWith "cdc/" key

/-- `_matches`. -/
def matchesItem (request : DiscoverRequest) (item : InputObject) : Bool :=
  let key := item.objectKey
  match request.sourceType with
  | .cdc => isCdcKey key && matchesEntity request.entity key &&
      matchesDate request.fromDate request.toDate (partitionValue key "event_date")
  | .settlement => endsWith ".csv" key && startsWith "settlements/" key &&
      matchesDate request.fromDate request.toDate (partitionValue key "settlement_date")

/-- `int(value or 0)`. -/
def intOrZero (value : Option PyStr) : Except PyError Int :=
  match given value with
  | none => .ok 0
  | some text =>
    match parseInt text with
    | some number => .ok number
    | none => .error ⟨.valueError, py "invalid literal for int() with base 10: '" ++ text ++ py "'"⟩

/-- What objects are sorted by. A settlement object is sorted by its key alone. -/
abbrev ReplayKey := Nat ×ₗ PyStr ×ₗ Int ×ₗ Int ×ₗ PyStr

/-- `_sort_key`. -/
def replayKey (sourceType : SourceType) (item : InputObject) : Except PyError ReplayKey :=
  match sourceType with
  | .cdc => do
    let entity := (partitionValue item.objectKey "entity").getD []
    let partition ← intOrZero (partitionValue item.objectKey "partition")
    let offset ← intOrZero (partitionValue item.objectKey "offset_start")
    .ok (toLex (entityOrder entity, toLex (entity, toLex (partition, toLex (offset,
      item.objectKey)))))
  | .settlement => .ok (toLex (0, toLex ([], toLex (0, toLex (0, item.objectKey)))))

/-- `_input_from_stored`. -/
def inputFromStored (bucket : BronzeBucket) (stored : StoredObject) : InputObject where
  uri := stored.uri
  bucket := stored.location.bucket
  objectKey := stored.location.key
  checksumSha256 :=
    if stored.checksumSha256 = [] ∧ startsWith "s3://" stored.uri = false then
      bucket.fileDigest stored.uri
    else stored.checksumSha256

/-- Whether a listing shows an object: the filesystem hides sidecars and dotted names. -/
def listed (backend : Backend) (key : PyStr) : Bool :=
  match backend with
  | .filesystem _ =>
    let name := afterLast 47 key
    !endsWith ".metadata.json" name && !startsWith "." name
  | .minio _ => key ≠ []

/-- `list_objects`. -/
def listObjects (bucket : BronzeBucket) (start : PyStr) : List StoredObject :=
  bucket.objects.filter fun stored => listed bucket.backend stored.location.key &&
    startsWith (strip (· = 47) start) stored.location.key

/-- The prefix of the listing when none is given. -/
def defaultPrefix : SourceType → PyStr
  | .cdc => "cdc/"
  | .settlement => "settlements/"

/-- The objects that are looked at. -/
def candidates (bucket : BronzeBucket) (request : DiscoverRequest) :
    Except PyError (List InputObject) :=
  match given request.inputObject with
  | some uri => (bucket.resolve uri).map fun item => [item]
  | none => .ok ((listObjects bucket ((given request.inputPrefix).getD
      (defaultPrefix request.sourceType))).map (inputFromStored bucket))

/-- `items[:count]`: a negative number counts from the end. -/
def sliceTo {α : Type} (count : Int) (items : List α) : List α :=
  if 0 ≤ count then items.take count.toNat else items.take (items.length - count.natAbs)

/-- Items with what they are sorted by. -/
def withKeys (sourceType : SourceType) :
    List InputObject → Except PyError (List (ReplayKey × InputObject))
  | [] => .ok []
  | item :: items => do
    let key ← replayKey sourceType item
    let keyed ← withKeys sourceType items
    .ok ((key, item) :: keyed)

/-- Earlier in the order of the sort. -/
def KeyedOrder (left right : ReplayKey × InputObject) : Prop := left.1 ≤ right.1

instance : DecidableRel KeyedOrder := fun left right =>
  inferInstanceAs (Decidable (left.1 ≤ right.1))

instance : Std.Total KeyedOrder := ⟨fun left right => le_total left.1 right.1⟩

instance : IsTrans (ReplayKey × InputObject) KeyedOrder := ⟨fun _ _ _ one two => le_trans one two⟩

/-- `discover`. -/
def discover (bucket : BronzeBucket) (request : DiscoverRequest) :
    Except PyError (List InputObject) := do
  let items ← candidates bucket request
  let keyed ← withKeys request.sourceType (items.filter (matchesItem request))
  .ok (sliceTo request.maxObjects ((keyed.insertionSort KeyedOrder).map Prod.snd))

end Silver
