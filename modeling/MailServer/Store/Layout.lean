import MailServer.Store.Key

/-!
# Key layouts

What a key is, stripped of how it is written: its `KeyKind` (the key type and the variant of its
class) and its `layout`, the fields it writes in the order it writes them, each a fixed-width
big-endian integer, a LEB128 integer or a byte string.  Discriminator bytes and sentinels are
fields like any other, so two keys of one kind with equal layouts name the same record.

`SchemaKey.serialize_eq` connects the encoder to this view: every key serializes to its
subspace byte (when the flags ask for it) followed by the encoding of its layout.  The ordering
and decoding results are stated over `serialize` and proved through it.
-/

namespace MailServer

/-- One field of a key as it is written. -/
inductive KeyField
  | int (width : Nat) (value : Nat)
  | leb128 (value : Nat)
  | bytes (value : List UInt8)
deriving DecidableEq, Repr

/-- A `u8` field. -/
def KeyField.u8 (v : UInt8) : KeyField := .int 1 v.toNat

/-- A `u16` field. -/
def KeyField.u16 (v : UInt16) : KeyField := .int 2 v.toNat

/-- A `u32` field. -/
def KeyField.u32 (v : UInt32) : KeyField := .int 4 v.toNat

/-- A `u64` field. -/
def KeyField.u64 (v : UInt64) : KeyField := .int 8 v.toNat

/-- The bytes a field is written as. -/
def KeyField.encode : KeyField → List UInt8
  | .int width v => beBytes width v
  | .leb128 v => MailServer.leb128 v
  | .bytes l => l

/-- The bytes a layout is written as. -/
def encodeFields : List KeyField → List UInt8
  | [] => []
  | f :: fs => f.encode ++ encodeFields fs

@[simp] theorem encodeFields_nil : encodeFields [] = [] := rfl

@[simp] theorem encodeFields_cons (f : KeyField) (fs : List KeyField) :
    encodeFields (f :: fs) = f.encode ++ encodeFields fs := rfl

@[simp] theorem encodeFields_append (fs gs : List KeyField) :
    encodeFields (fs ++ gs) = encodeFields fs ++ encodeFields gs := by
  induction fs <;> simp [*]

@[simp] theorem KeyField.encode_int (w v : Nat) : (KeyField.int w v).encode = beBytes w v := rfl

@[simp] theorem KeyField.encode_leb128 (v : Nat) :
    (KeyField.leb128 v).encode = MailServer.leb128 v := rfl

@[simp] theorem KeyField.encode_bytes (l : List UInt8) : (KeyField.bytes l).encode = l := rfl

/-! ## Kinds -/

/-- The key type of a key and the variant of its class. -/
inductive KeyKind
  | property | ftsIndex | acl
  | indexEmail | bayesTrain | sendAlarm | sendImip
  | blobReserve | blobCommit | blobLink | blobLinkId
  | config | inMemoryKey | inMemoryCounter
  | nameToId | emailToId | principal | usedQuota | memberOf | members | directoryIndex
  | queueMessage | messageEvent | dmarcReportHeader | dmarcReportEvent | tlsReportHeader
  | tlsReportEvent | quotaCount | quotaSize
  | tlsReport | dmarcReport | arfReport
  | span | telemetryIndex | metric
  | documentId | changeId | valueAny
  | bitmapDocumentIds | tagId | tagText | bitmapText
  | index | indexPrefix | log | anyKey
deriving DecidableEq, Repr

/-- The kind of a value class. -/
def ValueClass.kind : ValueClass → KeyKind
  | .property _ => .property
  | .ftsIndex _ => .ftsIndex
  | .acl _ => .acl
  | .taskQueue (.indexEmail _ _) => .indexEmail
  | .taskQueue (.bayesTrain _ _ _) => .bayesTrain
  | .taskQueue (.sendAlarm _ _ _) => .sendAlarm
  | .taskQueue (.sendImip _ _) => .sendImip
  | .blob (.reserve _ _) => .blobReserve
  | .blob (.commit _) => .blobCommit
  | .blob (.link _) => .blobLink
  | .blob (.linkId _ _) => .blobLinkId
  | .config _ => .config
  | .inMemory (.key _) => .inMemoryKey
  | .inMemory (.counter _) => .inMemoryCounter
  | .directory (.nameToId _) => .nameToId
  | .directory (.emailToId _) => .emailToId
  | .directory (.principal _) => .principal
  | .directory (.usedQuota _) => .usedQuota
  | .directory (.memberOf _ _) => .memberOf
  | .directory (.members _ _) => .members
  | .directory (.index _ _) => .directoryIndex
  | .queue (.message _) => .queueMessage
  | .queue (.messageEvent _) => .messageEvent
  | .queue (.dmarcReportHeader _) => .dmarcReportHeader
  | .queue (.dmarcReportEvent _) => .dmarcReportEvent
  | .queue (.tlsReportHeader _) => .tlsReportHeader
  | .queue (.tlsReportEvent _) => .tlsReportEvent
  | .queue (.quotaCount _) => .quotaCount
  | .queue (.quotaSize _) => .quotaSize
  | .report (.tls _ _) => .tlsReport
  | .report (.dmarc _ _) => .dmarcReport
  | .report (.arf _ _) => .arfReport
  | .telemetry (.span _) => .span
  | .telemetry (.index _ _) => .telemetryIndex
  | .telemetry (.metric _ _ _) => .metric
  | .documentId => .documentId
  | .changeId => .changeId
  | .any _ => .valueAny

/-- The kind of a bitmap class. -/
def BitmapClass.kind : BitmapClass → KeyKind
  | .documentIds => .bitmapDocumentIds
  | .tag _ (.id _) => .tagId
  | .tag _ (.text _) => .tagText
  | .text _ _ => .bitmapText

/-- The kind of a key. -/
def SchemaKey.kind : SchemaKey → KeyKind
  | .value k => k.cls.kind
  | .bitmap k => k.cls.kind
  | .index _ => .index
  | .indexPrefix _ => .indexPrefix
  | .log _ => .log
  | .any _ => .anyKey

/-! ## Layouts -/

/-- The bytes of a token hash that a key holds: the first `min(len, 8)`. -/
def BitmapHash.truncated (h : BitmapHash) : List UInt8 := h.hash.take (min h.len.toNat 8)

/-- The fields of a token hash: its prefix, then its length when that is eight or more. -/
def BitmapHash.fields (h : BitmapHash) : List KeyField :=
  .bytes h.truncated :: if 8 ≤ h.len.toNat then [.u8 h.len] else []

/-- The fields a value key writes after its subspace byte. -/
def ValueClass.layout (accountId : UInt32) (collection : UInt8) (documentId : UInt32) :
    ValueClass → List KeyField
  | .property field => [.u32 accountId, .u8 collection, .u8 field, .u32 documentId]
  | .ftsIndex hash => .u32 accountId :: hash.fields ++ [.u8 collection, .u32 documentId]
  | .acl grant => [.u32 grant, .u32 accountId, .u8 collection, .u32 documentId]
  | .taskQueue (.indexEmail due hash) =>
    [.u64 due, .u32 accountId, .u8 0, .u32 documentId, .bytes hash.bytes]
  | .taskQueue (.bayesTrain due hash learnSpam) =>
    [.u64 due, .u32 accountId, .u8 (if learnSpam then 1 else 2), .u32 documentId,
      .bytes hash.bytes]
  | .taskQueue (.sendAlarm due eventId alarmId) =>
    [.u64 due, .u32 accountId, .u8 3, .u32 documentId, .u16 eventId, .u16 alarmId]
  | .taskQueue (.sendImip due isPayload) =>
    if isPayload then [.u64 u64Max, .u32 accountId, .u8 5, .u32 documentId, .u64 due]
    else [.u64 due, .u32 accountId, .u8 4, .u32 documentId]
  | .blob (.reserve hash «until») => [.u32 accountId, .bytes hash.bytes, .u64 «until»]
  | .blob (.commit hash) => [.bytes hash.bytes, .u32 u32Max, .u8 0, .u32 u32Max]
  | .blob (.link hash) => [.bytes hash.bytes, .u32 accountId, .u8 collection, .u32 documentId]
  | .blob (.linkId hash id) =>
    [.bytes hash.bytes, .u32 (id >>> 32).toUInt32, .u8 u8Max, .u32 id.toUInt32]
  | .config key => [.bytes key]
  | .inMemory (.key key) => [.bytes key]
  | .inMemory (.counter key) => [.bytes key]
  | .directory (.nameToId name) => [.u8 0, .bytes name]
  | .directory (.emailToId email) => [.u8 1, .bytes email]
  | .directory (.principal uid) => [.u8 2, .leb128 uid.toNat]
  | .directory (.usedQuota uid) => [.u8 4, .leb128 uid.toNat]
  | .directory (.memberOf p m) => [.u8 5, .u32 p, .u32 m]
  | .directory (.members p m) => [.u8 6, .u32 p, .u32 m]
  | .directory (.index word p) => [.u8 7, .bytes word, .u32 p]
  | .queue (.message queueId) => [.u64 queueId]
  | .queue (.messageEvent e) => [.u64 e.due, .u64 e.queueId, .bytes e.queueName]
  | .queue (.dmarcReportHeader e) =>
    [.u8 0, .u64 e.due, .bytes e.domain.bytes, .u64 e.policyHash, .u64 e.seqId, .u8 0]
  | .queue (.tlsReportHeader e) =>
    [.u8 0, .u64 e.due, .bytes e.domain.bytes, .u64 e.policyHash, .u64 e.seqId, .u8 1]
  | .queue (.dmarcReportEvent e) =>
    [.u8 1, .u64 e.due, .bytes e.domain.bytes, .u64 e.policyHash, .u64 e.seqId]
  | .queue (.tlsReportEvent e) =>
    [.u8 2, .u64 e.due, .bytes e.domain.bytes, .u64 e.policyHash, .u64 e.seqId]
  | .queue (.quotaCount key) => [.u8 0, .bytes key]
  | .queue (.quotaSize key) => [.u8 1, .bytes key]
  | .report (.tls id expires) => [.u8 0, .u64 expires, .u64 id]
  | .report (.dmarc id expires) => [.u8 1, .u64 expires, .u64 id]
  | .report (.arf id expires) => [.u8 2, .u64 expires, .u64 id]
  | .telemetry (.span spanId) => [.u64 spanId]
  | .telemetry (.index spanId value) => [.bytes value, .u64 spanId]
  | .telemetry (.metric timestamp metricId nodeId) =>
    [.u64 timestamp, .leb128 metricId.toNat, .leb128 nodeId.toNat]
  | .documentId => [.u32 accountId, .u8 collection]
  | .changeId => [.u32 accountId]
  | .any a => [.bytes a.key]

/-- The fields a bitmap key writes after its subspace byte. -/
def BitmapClass.layout (accountId : UInt32) (collection : UInt8) (documentId : UInt32) :
    BitmapClass → List KeyField
  | .documentIds => [.u32 accountId, .u8 collection, .u32 documentId]
  | .tag field (.id id) =>
    [.u32 accountId, .u8 collection, .u8 field, .leb128 id.toNat, .u32 documentId]
  | .tag field (.text t) =>
    [.u32 accountId, .u8 collection, .u8 (field ||| bmMarker), .bytes t, .u32 documentId]
  | .text field token =>
    .u32 accountId :: token.fields ++ [.u8 collection, .u8 field, .u32 documentId]

/-- The fields of an index key. -/
def IndexKey.layout (k : IndexKey) : List KeyField :=
  [.u32 k.accountId, .u8 k.collection, .u8 k.field, .bytes k.key, .u32 k.documentId]

/-- The fields of an index key prefix. -/
def IndexKeyPrefix.layout (k : IndexKeyPrefix) : List KeyField :=
  [.u32 k.accountId, .u8 k.collection, .u8 k.field]

/-- The fields of a log key. -/
def LogKey.layout (k : LogKey) : List KeyField :=
  [.u32 k.accountId, .u8 k.collection, .u64 k.changeId]

/-- The fields a key writes after its subspace byte: its key-forming fields in write order. -/
def SchemaKey.layout : SchemaKey → List KeyField
  | .value k => k.cls.layout k.accountId k.collection k.documentId
  | .bitmap k => k.cls.layout k.accountId k.collection k.documentId
  | .index k => k.layout
  | .indexPrefix k => k.layout
  | .log k => k.layout
  | .any k => [.bytes k.key]

/-! ## The encoder writes the layout -/

@[simp] theorem KeyField.encode_u8 (v : UInt8) : (KeyField.u8 v).encode = [v] := by
  simp [KeyField.u8, beBytes, UInt8.ofNat_toNat]

@[simp] theorem KeyField.encode_u16 (v : UInt16) :
    (KeyField.u16 v).encode = beBytes 2 v.toNat := rfl

@[simp] theorem KeyField.encode_u32 (v : UInt32) :
    (KeyField.u32 v).encode = beBytes 4 v.toNat := rfl

@[simp] theorem KeyField.encode_u64 (v : UInt64) :
    (KeyField.u64 v).encode = beBytes 8 v.toNat := rfl

theorem sliceGet_zero {s : List UInt8} {n : Nat} (h : n ≤ s.length) :
    sliceGet s 0 n = some (s.take n) := by
  simp [sliceGet, h]

theorem BitmapHash.slice_eq (h : BitmapHash) :
    (sliceGet h.hash 0 (min h.len.toNat 8)).getD [] = h.truncated := by
  rw [sliceGet_zero (by rw [h.hash_length]; omega)]; rfl

variable (S : StoreConsts)

theorem ValueClass.write_buf (v : ValueClass) (s : KeySerializer) (a : UInt32) (c : UInt8)
    (d : UInt32) : (v.write s a c d).buf = s.buf ++ encodeFields (v.layout a c d) := by
  rcases v with _ | _ | (_ | _) | hash | (_ | _ | _ | ⟨_, (_ | _)⟩) | (_ | _ | _ | _ | _ | _ | _) |
    (_ | _ | _ | _) | _ | (_ | _ | _ | _ | _ | _ | _ | _) | (_ | _ | _) | (_ | _ | _) | _ | _ | _
  case ftsIndex =>
    simp only [ValueClass.write, ValueClass.layout, BitmapHash.fields, BitmapHash.slice_eq]
    split <;> simp
  all_goals simp [ValueClass.write, ValueClass.layout]

theorem BitmapClass.serialize_eq (b : BitmapClass) (a : UInt32) (c : UInt8) (d flags : UInt32) :
    b.serialize S a c d flags = (if flags &&& S.withSubspace ≠ 0 then [b.subspace S] else []) ++
      encodeFields (b.layout a c d) := by
  rcases b with _ | ⟨_, (_ | _)⟩ | ⟨_, token⟩
  case text =>
    simp only [BitmapClass.serialize, BitmapClass.serializer, BitmapClass.layout, BitmapHash.fields,
      BitmapHash.slice_eq]
    split <;> split <;> simp [BitmapClass.subspace, *]
  all_goals
    simp only [BitmapClass.serialize, BitmapClass.serializer, BitmapClass.layout]
    split <;> simp [BitmapClass.subspace, *]

/-- **The encoder writes the layout.**  Every key is its subspace byte, when the flags carry
`WITH_SUBSPACE`, followed by the encoding of its fields. -/
theorem SchemaKey.serialize_eq (k : SchemaKey) (flags : UInt32) :
    k.serialize S flags = (if flags &&& S.withSubspace ≠ 0 then [k.subspace S] else []) ++
      encodeFields k.layout := by
  cases k with
  | value k =>
    simp only [SchemaKey.serialize, ValueKey.serialize, ValueClass.serialize, SchemaKey.subspace,
      ValueKey.subspace, SchemaKey.layout]
    split <;> simp [ValueClass.write_buf, *]
  | bitmap k => exact k.cls.serialize_eq S _ _ _ _
  | index k =>
    simp only [SchemaKey.serialize, IndexKey.serialize, SchemaKey.subspace, IndexKey.subspace]
    split <;> simp [SchemaKey.layout, IndexKey.layout, *]
  | indexPrefix k =>
    simp only [SchemaKey.serialize, IndexKeyPrefix.serialize, SchemaKey.subspace,
      IndexKeyPrefix.subspace]
    split <;> simp [SchemaKey.layout, IndexKeyPrefix.layout, *]
  | log k =>
    simp only [SchemaKey.serialize, LogKey.serialize, SchemaKey.subspace, LogKey.subspace]
    split <;> simp [SchemaKey.layout, LogKey.layout, *]
  | any k =>
    simp only [SchemaKey.serialize, AnyKey.serialize, SchemaKey.subspace]
    split <;> simp [SchemaKey.layout, *]

/-- Without flags a key is the encoding of its fields alone. -/
theorem SchemaKey.serialize_zero (k : SchemaKey) : k.serialize S 0 = encodeFields k.layout := by
  have h0 : (0 : UInt32) &&& S.withSubspace = 0 := by
    apply UInt32.eq_of_toBitVec_eq
    show 0#32 &&& S.withSubspace.toBitVec = 0#32
    simp
  simp [SchemaKey.serialize_eq, h0]

end MailServer
