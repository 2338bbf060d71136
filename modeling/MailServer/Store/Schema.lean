import MailServer.Store.Bytes

/-!
# The key schema of the store

The typed keys that `store/src/write/key.rs` serializes.  The types themselves are declared in the
store crate's `write` module; their fields are taken from the way `key.rs` reads them (the widths
of integers from the `KeySerialize` impl each field goes through and from `serialized_size`).

The crate-root constants `key.rs` imports, the `SUBSPACE_*` bytes, the `WITH_SUBSPACE` flag and
the `size_of` of three key types, are not part of this development: they are the fields of
`StoreConsts`, a parameter of every serializer.  Its one invariant is the one the spec requires
of the subspace bytes: they are unique per subspace.
-/

namespace MailServer

/-- `U16_LEN`, `size_of::<u16>()`. -/
def u16Len : Nat := 2

/-- `U32_LEN`, `size_of::<u32>()`. -/
def u32Len : Nat := 4

/-- `U64_LEN`, `size_of::<u64>()`. -/
def u64Len : Nat := 8

/-- `BLOB_HASH_LEN` of the `utils` crate, the byte length of a blob hash.  Nothing below depends
on its value, only on every blob hash having this length. -/
def blobHashLen : Nat := 32

/-- The subspaces of the key space, one for each `SUBSPACE_*` constant `key.rs` uses. -/
inductive Subspace
  | acl | bitmapId | bitmapTag | bitmapText | blobLink | blobReserve | counter | directory
  | ftsIndex | inMemoryCounter | inMemoryValue | indexes | logs | property | queueEvent
  | queueMessage | quota | reportIn | reportOut | settings | taskQueue | telemetryIndex
  | telemetryMetric | telemetrySpan
deriving DecidableEq, Repr

/-- The constants of the store crate's root that `key.rs` reads: the byte of each subspace
(`SUBSPACE_ACL` is `subspace .acl`), unique per subspace as the spec requires; the
`WITH_SUBSPACE` bit of the flags word; and the `size_of` of three key types, which only size
buffers. -/
structure StoreConsts where
  subspace : Subspace → UInt8
  subspace_injective : Function.Injective subspace
  withSubspace : UInt32
  withSubspace_ne_zero : withSubspace ≠ 0
  sizeOfIndexKeyPrefix : Nat
  sizeOfLogKey : Nat
  sizeOfIndexKey : Nat

theorem Subspace.toCtorIdx_lt (t : Subspace) : t.toCtorIdx < 24 := by
  cases t <;> decide

/-- One choice of the constants: the subspaces numbered in declaration order and `WITH_SUBSPACE`
the lowest bit, for evaluating the serializers on concrete keys. -/
def StoreConsts.sample : StoreConsts where
  subspace t := UInt8.ofNat t.toCtorIdx
  subspace_injective a b h := by
    rw [UInt8.ofNat_inj (by have := a.toCtorIdx_lt; omega)
      (by have := b.toCtorIdx_lt; omega)] at h
    rw [← Subspace.ofNat_toCtorIdx a, ← Subspace.ofNat_toCtorIdx b, h]
  withSubspace := 1
  withSubspace_ne_zero := by decide
  sizeOfIndexKeyPrefix := 8
  sizeOfLogKey := 16
  sizeOfIndexKey := 40

/-! ## Payloads -/

/-- `BlobHash`: the hash a blob is stored under, `BLOB_HASH_LEN` bytes. -/
structure BlobHash where
  bytes : List UInt8
  length_eq : bytes.length = blobHashLen
deriving DecidableEq

/-- `BitmapHash`: the hash of a token, eight bytes of which the first `min(len, 8)` are written,
and the token's length `len`. -/
structure BitmapHash where
  hash : List UInt8
  hash_length : hash.length = 8
  len : UInt8
deriving DecidableEq

/-- `QueueEvent`: a due time of the outbound queue, keyed by the queue's eight-byte name. -/
structure QueueEvent where
  due : UInt64
  queueId : UInt64
  queueName : List UInt8
  queueName_length : queueName.length = 8
deriving DecidableEq

/-- `ReportEvent`: an outbound DMARC or TLS report, or one event of it. -/
structure ReportEvent where
  due : UInt64
  policyHash : UInt64
  seqId : UInt64
  domain : RustString
deriving DecidableEq

/-- `AnyClass`: a raw key in a subspace the caller chooses. -/
structure AnyClass where
  subspace : UInt8
  key : List UInt8
deriving DecidableEq

/-! ## Key classes -/

/-- `TaskQueueClass`. -/
inductive TaskQueueClass
  | indexEmail (due : UInt64) (hash : BlobHash)
  | bayesTrain (due : UInt64) (hash : BlobHash) (learnSpam : Bool)
  | sendAlarm (due : UInt64) (eventId : UInt16) (alarmId : UInt16)
  | sendImip (due : UInt64) (isPayload : Bool)
deriving DecidableEq

/-- `BlobOp`. -/
inductive BlobOp
  | reserve (hash : BlobHash) («until» : UInt64)
  | commit (hash : BlobHash)
  | link (hash : BlobHash)
  | linkId (hash : BlobHash) (id : UInt64)
deriving DecidableEq

/-- `InMemoryClass`. -/
inductive InMemoryClass
  | key (key : List UInt8)
  | counter (key : List UInt8)
deriving DecidableEq

/-- `DirectoryClass`. -/
inductive DirectoryClass
  | nameToId (name : List UInt8)
  | emailToId (email : List UInt8)
  | principal (uid : UInt32)
  | usedQuota (uid : UInt32)
  | memberOf (principalId : UInt32) (memberOf : UInt32)
  | members (principalId : UInt32) (hasMember : UInt32)
  | index (word : List UInt8) (principalId : UInt32)
deriving DecidableEq

/-- `QueueClass`. -/
inductive QueueClass
  | message (queueId : UInt64)
  | messageEvent (event : QueueEvent)
  | dmarcReportHeader (event : ReportEvent)
  | dmarcReportEvent (event : ReportEvent)
  | tlsReportHeader (event : ReportEvent)
  | tlsReportEvent (event : ReportEvent)
  | quotaCount (key : List UInt8)
  | quotaSize (key : List UInt8)
deriving DecidableEq

/-- `ReportClass`. -/
inductive ReportClass
  | tls (id : UInt64) (expires : UInt64)
  | dmarc (id : UInt64) (expires : UInt64)
  | arf (id : UInt64) (expires : UInt64)
deriving DecidableEq

/-- `TelemetryClass`. -/
inductive TelemetryClass
  | span (spanId : UInt64)
  | index (spanId : UInt64) (value : List UInt8)
  | metric (timestamp : UInt64) (metricId : UInt64) (nodeId : UInt64)
deriving DecidableEq

/-- `ValueClass`: what a value key addresses. -/
inductive ValueClass
  | property (field : UInt8)
  | acl (grantAccountId : UInt32)
  | inMemory (lookup : InMemoryClass)
  | ftsIndex (hash : BitmapHash)
  | taskQueue (task : TaskQueueClass)
  | directory (directory : DirectoryClass)
  | blob (op : BlobOp)
  | config (key : List UInt8)
  | queue (queue : QueueClass)
  | report (report : ReportClass)
  | telemetry (telemetry : TelemetryClass)
  | documentId
  | changeId
  | any (any : AnyClass)
deriving DecidableEq

/-- `TagValue`: a tag is an integer id or a text. -/
inductive TagValue
  | id (id : UInt32)
  | text (text : List UInt8)
deriving DecidableEq

/-- `BitmapClass`: what a bitmap key addresses. -/
inductive BitmapClass
  | documentIds
  | tag (field : UInt8) (value : TagValue)
  | text (field : UInt8) (token : BitmapHash)
deriving DecidableEq

/-! ## Keys -/

/-- `ValueKey<ValueClass>` (the field `class` is `cls`, `class` being a keyword). -/
structure ValueKey where
  accountId : UInt32
  collection : UInt8
  documentId : UInt32
  cls : ValueClass
deriving DecidableEq

/-- `BitmapKey<BitmapClass>`. -/
structure BitmapKey where
  accountId : UInt32
  collection : UInt8
  cls : BitmapClass
  documentId : UInt32
deriving DecidableEq

/-- `IndexKey<T>`, the indexed value given by its bytes (`T: AsRef<[u8]>`). -/
structure IndexKey where
  accountId : UInt32
  collection : UInt8
  documentId : UInt32
  field : UInt8
  key : List UInt8
deriving DecidableEq

/-- `IndexKeyPrefix`: the fields every index key of one index starts with. -/
structure IndexKeyPrefix where
  accountId : UInt32
  collection : UInt8
  field : UInt8
deriving DecidableEq

/-- `LogKey`: a change of one collection of an account. -/
structure LogKey where
  accountId : UInt32
  collection : UInt8
  changeId : UInt64
deriving DecidableEq

/-- `AnyKey<T>`: a raw key in a subspace the caller chooses. -/
structure AnyKey where
  subspace : UInt8
  key : List UInt8
deriving DecidableEq

end MailServer
