import MailServer.Store.Serializer

/-!
# The key encoder

`store/src/write/key.rs`, function by function: the `Key` impls of the index, log, value, bitmap
and raw keys, `ValueClass::serialize` with its size hint `serialized_size`, the two routings
`ValueClass::subspace` and `BitmapClass::subspace`, the counter test `ValueClass::is_counter`, and
the one decoder, `ReportEvent::deserialize`.

Every serializer takes the crate constants `S` and a flags word; when the flags carry
`WITH_SUBSPACE` the key starts with a subspace byte.  `SchemaKey` gathers the six key types that
implement `Key`, which is what the generic storage adapters are parameterized over.
-/

namespace MailServer

/-- `u8::MAX`. -/
def u8Max : UInt8 := 0xFF

/-- `u32::MAX`. -/
def u32Max : UInt32 := 0xFFFFFFFF

/-- `u64::MAX`. -/
def u64Max : UInt64 := 0xFFFFFFFFFFFFFFFF

variable (S : StoreConsts)

/-! ## Index and log keys -/

/-- `Key::serialize` for `IndexKeyPrefix`. -/
def IndexKeyPrefix.serialize (k : IndexKeyPrefix) (flags : UInt32) : List UInt8 :=
  ((if flags &&& S.withSubspace ≠ 0 then
      (KeySerializer.new (S.sizeOfIndexKeyPrefix + 1)).write (S.subspace .indexes)
    else KeySerializer.new S.sizeOfIndexKeyPrefix)
    |>.write k.accountId |>.write k.collection |>.write k.field).finalize

/-- `Key::subspace` for `IndexKeyPrefix`. -/
def IndexKeyPrefix.subspace (_ : IndexKeyPrefix) : UInt8 := S.subspace .indexes

/-- `IndexKeyPrefix::len`. -/
def IndexKeyPrefix.len : Nat := u32Len + 2

/-- `Key::serialize` for `LogKey`. -/
def LogKey.serialize (k : LogKey) (flags : UInt32) : List UInt8 :=
  ((if flags &&& S.withSubspace ≠ 0 then
      (KeySerializer.new (S.sizeOfLogKey + 1)).write (S.subspace .logs)
    else KeySerializer.new S.sizeOfLogKey)
    |>.write k.accountId |>.write k.collection |>.write k.changeId).finalize

/-- `Key::subspace` for `LogKey`. -/
def LogKey.subspace (_ : LogKey) : UInt8 := S.subspace .logs

/-- `Key::serialize` for `IndexKey<T>`. -/
def IndexKey.serialize (k : IndexKey) (flags : UInt32) : List UInt8 :=
  let key := k.key
  ((if flags &&& S.withSubspace ≠ 0 then
      (KeySerializer.new (S.sizeOfIndexKey + key.length + 1)).write (S.subspace .indexes)
    else KeySerializer.new (S.sizeOfIndexKey + key.length))
    |>.write k.accountId |>.write k.collection |>.write k.field |>.write key
    |>.write k.documentId).finalize

/-- `Key::subspace` for `IndexKey<T>`. -/
def IndexKey.subspace (_ : IndexKey) : UInt8 := S.subspace .indexes

/-- `Key::serialize` for `AnyKey<T>`. -/
def AnyKey.serialize (k : AnyKey) (flags : UInt32) : List UInt8 :=
  let key := k.key
  ((if flags &&& S.withSubspace ≠ 0 then (KeySerializer.new (key.length + 1)).write k.subspace
    else KeySerializer.new key.length) |>.write key).finalize

/-! ## Value keys -/

/-- `ValueClass::serialized_size`, the hint the buffer of a value key is sized by. -/
def ValueClass.serializedSize : ValueClass → Nat
  | .property _ => u32Len * 2 + 3
  | .ftsIndex hash => if 8 ≤ hash.len.toNat then u32Len * 2 + 10 else hash.len.toNat + u32Len * 2 + 1
  | .acl _ => u32Len * 3 + 2
  | .inMemory (.counter v) | .inMemory (.key v) | .config v => v.length
  | .directory (.nameToId v) | .directory (.emailToId v) => v.length
  | .directory (.principal _) | .directory (.usedQuota _) => u32Len
  | .directory (.members _ _) | .directory (.memberOf _ _) => u32Len * 2
  | .directory (.index word _) => word.length + u32Len
  | .blob (.reserve _ _) => blobHashLen + u64Len + u32Len + 1
  | .blob (.commit _) | .blob (.link _) | .blob (.linkId _ _) => blobHashLen + u32Len * 2 + 2
  | .taskQueue (.indexEmail _ _) | .taskQueue (.bayesTrain _ _ _) => (blobHashLen + u64Len * 2) + 1
  | .taskQueue (.sendAlarm _ _ _) => u64Len + (u32Len * 3) + 1
  | .taskQueue (.sendImip _ isPayload) =>
    if isPayload then (u64Len * 2) + (u32Len * 2) + 1 else u64Len + (u32Len * 2) + 1
  | .queue (.message _) => u64Len
  | .queue (.messageEvent _) => u64Len * 3
  | .queue (.dmarcReportEvent event) | .queue (.tlsReportEvent event) =>
    event.domain.bytes.length + u64Len * 3
  | .queue (.dmarcReportHeader event) | .queue (.tlsReportHeader event) =>
    event.domain.bytes.length + (u64Len * 3) + 1
  | .queue (.quotaCount v) | .queue (.quotaSize v) => v.length
  | .report _ => u64Len * 2 + 1
  | .telemetry (.span _) => u64Len + 1
  | .telemetry (.index _ value) => u64Len + value.length + 1
  | .telemetry (.metric _ _ _) => u64Len * 2 + 1
  | .documentId => u32Len + 1
  | .changeId => u32Len
  | .any v => v.key.length

/-- `ValueClass::subspace`: the subspace of a value key, which for `Property(84)` depends on the
collection. -/
def ValueClass.subspace : ValueClass → UInt8 → UInt8
  | .property field, collection =>
    if field = 84 ∧ collection = 1 then S.subspace .counter else S.subspace .property
  | .acl _, _ => S.subspace .acl
  | .ftsIndex _, _ => S.subspace .ftsIndex
  | .taskQueue _, _ => S.subspace .taskQueue
  | .blob (.reserve _ _), _ => S.subspace .blobReserve
  | .blob (.commit _), _ | .blob (.link _), _ | .blob (.linkId _ _), _ => S.subspace .blobLink
  | .config _, _ => S.subspace .settings
  | .inMemory (.key _), _ => S.subspace .inMemoryValue
  | .inMemory (.counter _), _ => S.subspace .inMemoryCounter
  | .directory (.usedQuota _), _ => S.subspace .quota
  | .directory _, _ => S.subspace .directory
  | .queue (.message _), _ => S.subspace .queueMessage
  | .queue (.messageEvent _), _ => S.subspace .queueEvent
  | .queue (.dmarcReportHeader _), _ | .queue (.tlsReportHeader _), _
  | .queue (.dmarcReportEvent _), _ | .queue (.tlsReportEvent _), _ => S.subspace .reportOut
  | .queue (.quotaCount _), _ | .queue (.quotaSize _), _ => S.subspace .quota
  | .report _, _ => S.subspace .reportIn
  | .telemetry (.span _), _ => S.subspace .telemetrySpan
  | .telemetry (.index _ _), _ => S.subspace .telemetryIndex
  | .telemetry (.metric _ _ _), _ => S.subspace .telemetryMetric
  | .documentId, _ | .changeId, _ => S.subspace .counter
  | .any a, _ => a.subspace

/-- `ValueClass::is_counter`: whether the key's value goes through the store's atomic counters. -/
def ValueClass.isCounter : ValueClass → UInt8 → Bool
  | .directory (.usedQuota _), _ | .inMemory (.counter _), _ | .queue (.quotaCount _), _
  | .queue (.quotaSize _), _ | .documentId, _ | .changeId, _ => true
  | .property 84, collection => collection == 1
  | _, _ => false

/-- The fields of a value key after the subspace byte, `ValueClass::serialize` without its
`finalize`. -/
def ValueClass.write (serializer : KeySerializer) (accountId : UInt32) (collection : UInt8)
    (documentId : UInt32) : ValueClass → KeySerializer
  | .property field =>
    serializer.write accountId |>.write collection |>.write field |>.write documentId
  | .ftsIndex hash =>
    let serializer := serializer.write accountId
      |>.write ((sliceGet hash.hash 0 (min hash.len.toNat 8)).getD [])
    (if 8 ≤ hash.len.toNat then serializer.write hash.len else serializer)
      |>.write collection |>.write documentId
  | .acl grantAccountId =>
    serializer.write grantAccountId |>.write accountId |>.write collection |>.write documentId
  | .taskQueue (.indexEmail due hash) =>
    serializer.write due |>.write accountId |>.write (0 : UInt8) |>.write documentId
      |>.write hash.bytes
  | .taskQueue (.bayesTrain due hash learnSpam) =>
    serializer.write due |>.write accountId |>.write (if learnSpam then (1 : UInt8) else 2)
      |>.write documentId |>.write hash.bytes
  | .taskQueue (.sendAlarm due eventId alarmId) =>
    serializer.write due |>.write accountId |>.write (3 : UInt8) |>.write documentId
      |>.write eventId |>.write alarmId
  | .taskQueue (.sendImip due isPayload) =>
    if !isPayload then
      serializer.write due |>.write accountId |>.write (4 : UInt8) |>.write documentId
    else
      serializer.write u64Max |>.write accountId |>.write (5 : UInt8) |>.write documentId
        |>.write due
  | .blob (.reserve hash «until») =>
    serializer.write accountId |>.write hash.bytes |>.write «until»
  | .blob (.commit hash) =>
    serializer.write hash.bytes |>.write u32Max |>.write (0 : UInt8) |>.write u32Max
  | .blob (.link hash) =>
    serializer.write hash.bytes |>.write accountId |>.write collection |>.write documentId
  | .blob (.linkId hash id) =>
    serializer.write hash.bytes |>.write (id >>> 32).toUInt32 |>.write u8Max
      |>.write id.toUInt32
  | .config key => serializer.write key
  | .inMemory (.key key) => serializer.write key
  | .inMemory (.counter key) => serializer.write key
  | .directory (.nameToId name) => serializer.write (0 : UInt8) |>.write name
  | .directory (.emailToId email) => serializer.write (1 : UInt8) |>.write email
  | .directory (.principal uid) => serializer.write (2 : UInt8) |>.writeLeb128 uid.toNat
  | .directory (.usedQuota uid) => serializer.write (4 : UInt8) |>.writeLeb128 uid.toNat
  | .directory (.memberOf principalId memberOf) =>
    serializer.write (5 : UInt8) |>.write principalId |>.write memberOf
  | .directory (.members principalId hasMember) =>
    serializer.write (6 : UInt8) |>.write principalId |>.write hasMember
  | .directory (.index word principalId) =>
    serializer.write (7 : UInt8) |>.write word |>.write principalId
  | .queue (.message queueId) => serializer.write queueId
  | .queue (.messageEvent event) =>
    serializer.write event.due |>.write event.queueId |>.write event.queueName
  | .queue (.dmarcReportHeader event) =>
    serializer.write (0 : UInt8) |>.write event.due |>.write event.domain.bytes
      |>.write event.policyHash |>.write event.seqId |>.write (0 : UInt8)
  | .queue (.tlsReportHeader event) =>
    serializer.write (0 : UInt8) |>.write event.due |>.write event.domain.bytes
      |>.write event.policyHash |>.write event.seqId |>.write (1 : UInt8)
  | .queue (.dmarcReportEvent event) =>
    serializer.write (1 : UInt8) |>.write event.due |>.write event.domain.bytes
      |>.write event.policyHash |>.write event.seqId
  | .queue (.tlsReportEvent event) =>
    serializer.write (2 : UInt8) |>.write event.due |>.write event.domain.bytes
      |>.write event.policyHash |>.write event.seqId
  | .queue (.quotaCount key) => serializer.write (0 : UInt8) |>.write key
  | .queue (.quotaSize key) => serializer.write (1 : UInt8) |>.write key
  | .report (.tls id expires) => serializer.write (0 : UInt8) |>.write expires |>.write id
  | .report (.dmarc id expires) => serializer.write (1 : UInt8) |>.write expires |>.write id
  | .report (.arf id expires) => serializer.write (2 : UInt8) |>.write expires |>.write id
  | .telemetry (.span spanId) => serializer.write spanId
  | .telemetry (.index spanId value) => serializer.write value |>.write spanId
  | .telemetry (.metric timestamp metricId nodeId) =>
    serializer.write timestamp |>.writeLeb128 metricId.toNat |>.writeLeb128 nodeId.toNat
  | .documentId => serializer.write accountId |>.write collection
  | .changeId => serializer.write accountId
  | .any a => serializer.write a.key

/-- `ValueClass::serialize`. -/
def ValueClass.serialize (v : ValueClass) (accountId : UInt32) (collection : UInt8)
    (documentId : UInt32) (flags : UInt32) : List UInt8 :=
  let serializer :=
    if flags &&& S.withSubspace ≠ 0 then
      (KeySerializer.new (v.serializedSize + 2)).write (v.subspace S collection)
    else KeySerializer.new (v.serializedSize + 1)
  (v.write serializer accountId collection documentId).finalize

/-- `Key::serialize` for `ValueKey<T>`. -/
def ValueKey.serialize (k : ValueKey) (flags : UInt32) : List UInt8 :=
  k.cls.serialize S k.accountId k.collection k.documentId flags

/-- `Key::subspace` for `ValueKey<T>`. -/
def ValueKey.subspace (k : ValueKey) : UInt8 := k.cls.subspace S k.collection

/-- `ValueKey::is_counter`. -/
def ValueKey.isCounter (k : ValueKey) : Bool := k.cls.isCounter k.collection

/-! ## Bitmap keys -/

/-- `BitmapClass::subspace`. -/
def BitmapClass.subspace : BitmapClass → UInt8
  | .documentIds => S.subspace .bitmapId
  | .tag _ _ => S.subspace .bitmapTag
  | .text _ _ => S.subspace .bitmapText

/-- `BM_MARKER`, the high bit that marks a text tag. -/
def bmMarker : UInt8 := (1 : UInt8) <<< 7

/-- `BitmapClass::serialize` up to its `finalize`.  Each branch sizes its buffer and writes its
subspace byte itself; the slice of a token's hash is always there, the hash having eight bytes. -/
def BitmapClass.serializer (b : BitmapClass) (accountId : UInt32) (collection : UInt8)
    (documentId : UInt32) (flags : UInt32) : KeySerializer :=
  (match b with
    | .documentIds =>
      (if flags &&& S.withSubspace ≠ 0 then
        (KeySerializer.new (u32Len + 2)).write (S.subspace .bitmapId)
      else KeySerializer.new (u32Len + 1))
      |>.write accountId |>.write collection
    | .tag field (.id id) =>
      (if flags &&& S.withSubspace ≠ 0 then
        (KeySerializer.new ((u32Len * 2) + 4)).write (S.subspace .bitmapTag)
      else KeySerializer.new ((u32Len * 2) + 3))
      |>.write accountId |>.write collection |>.write field |>.writeLeb128 id.toNat
    | .tag field (.text txt) =>
      (if flags &&& S.withSubspace ≠ 0 then
        (KeySerializer.new (u32Len + 4 + txt.length)).write (S.subspace .bitmapTag)
      else KeySerializer.new (u32Len + 3 + txt.length))
      |>.write accountId |>.write collection |>.write (field ||| bmMarker) |>.write txt
    | .text field token =>
      let serializer :=
        (if flags &&& S.withSubspace ≠ 0 then
          (KeySerializer.new (u32Len + 16 + 3 + 1)).write (S.subspace .bitmapText)
        else KeySerializer.new (u32Len + 16 + 3))
        |>.write accountId |>.write ((sliceGet token.hash 0 (min token.len.toNat 8)).getD [])
      (if 8 ≤ token.len.toNat then serializer.write token.len else serializer)
        |>.write collection |>.write field)
    |>.write documentId

/-- `BitmapClass::serialize`. -/
def BitmapClass.serialize (b : BitmapClass) (accountId : UInt32) (collection : UInt8)
    (documentId : UInt32) (flags : UInt32) : List UInt8 :=
  (b.serializer S accountId collection documentId flags).finalize

/-- `Key::serialize` for `BitmapKey<T>`. -/
def BitmapKey.serialize (k : BitmapKey) (flags : UInt32) : List UInt8 :=
  k.cls.serialize S k.accountId k.collection k.documentId flags

/-- `Key::subspace` for `BitmapKey<T>`. -/
def BitmapKey.subspace (k : BitmapKey) : UInt8 := k.cls.subspace S

/-! ## All keys -/

/-- The key types that implement `Key`. -/
inductive SchemaKey
  | value (k : ValueKey)
  | bitmap (k : BitmapKey)
  | index (k : IndexKey)
  | indexPrefix (k : IndexKeyPrefix)
  | log (k : LogKey)
  | any (k : AnyKey)
deriving DecidableEq

/-- `Key::serialize`. -/
def SchemaKey.serialize : SchemaKey → UInt32 → List UInt8
  | .value k => k.serialize S
  | .bitmap k => k.serialize S
  | .index k => k.serialize S
  | .indexPrefix k => k.serialize S
  | .log k => k.serialize S
  | .any k => k.serialize S

/-- `Key::subspace`. -/
def SchemaKey.subspace : SchemaKey → UInt8
  | .value k => k.subspace S
  | .bitmap k => k.subspace S
  | .index k => k.subspace S
  | .indexPrefix k => k.subspace S
  | .log k => k.subspace S
  | .any k => k.subspace

/-! ## Decoding report events -/

/-- `Deserialize for ReportEvent`: the due time after the leading byte, the policy hash and the
sequence id found from the end (`len - 17` and `len - 9`), and the domain between them. -/
def ReportEvent.deserialize (key : List UInt8) : Except DecodeError ReportEvent := do
  let due ← deserializeBeU64 key 1
  let policyHash ← deserializeBeU64 key (← usizeSub key.length (u64Len * 2 + 1))
  let seqId ← deserializeBeU64 key (← usizeSub key.length (u64Len + 1))
  let domainEnd ← usizeSub key.length (u64Len * 2 + 1)
  let domain ← match (sliceGet key (u64Len + 1) domainEnd).bind fromUtf8 with
    | some domain => pure domain
    | none => throw (.dataCorruption .key key)
  pure { due, policyHash, seqId, domain }

end MailServer
