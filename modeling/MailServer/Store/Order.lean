import MailServer.Store.Template

/-!
# The byte order of keys

The store keeps keys sorted bytewise, and callers build range scans on the promise that this
order is the order of the fields a key writes.  `lex_encodeFields_iff` proves the promise for
every template of fixed-width fields, optionally closed by one byte string or one optional
integer: two lists of fields that fit such a template compare, as bytes, exactly as their tuples
compare.  `serialize_lt_iff_of_fixedWidth` applies it to every kind whose template is of that
shape.  Both are the case without a byte string in the middle of
`lex_encodeFields_iff_of_comparable`, which allows one anywhere, provided the byte strings of the
two keys are equal or neither a prefix of the other; `serialize_lt_iff_of_incomparable` applies
it to every kind without a LEB128 field or a token hash.

Deadline-first keys are the other ordering contract: the task queue, the queue events, the
metrics and the reports lead with a big-endian `u64` after a discriminator prefix, so that a scan
up to `now` returns exactly what is due.  `deadline_order` proves both halves of that contract,
the payload rows of `SendImip`, parked at `u64::MAX`, included.

The promise does not reach the LEB128 fields: `leb128_keys_out_of_order` exhibits, for every
id `x ≡ 1 (mod 128)` above `128`, a larger id whose tag and principal keys sort before those of
`x`.
-/

namespace MailServer

/-! ## The order of field tuples -/

/-- Fields compared as the spec compares the tuples of a key: integers numerically, byte strings
lexicographically; fields of different shapes are not compared. -/
inductive KeyField.Lt : KeyField → KeyField → Prop
  | int {w a b : Nat} : a < b → KeyField.Lt (.int w a) (.int w b)
  | leb {a b : Nat} : a < b → KeyField.Lt (.leb128 a) (.leb128 b)
  | bytes {l m : List UInt8} : List.Lex (· < ·) l m → KeyField.Lt (.bytes l) (.bytes m)

@[simp] theorem KeyField.lt_int_iff {w a b : Nat} :
    KeyField.Lt (.int w a) (.int w b) ↔ a < b :=
  ⟨fun | .int h => h, .int⟩

@[simp] theorem KeyField.lt_bytes_iff {l m : List UInt8} :
    KeyField.Lt (.bytes l) (.bytes m) ↔ List.Lex (· < ·) l m :=
  ⟨fun | .bytes h => h, .bytes⟩

/-- Templates of integers and byte strings, with no LEB128 field and no token.  A byte string
may stand anywhere; the fields after it are of fixed width, as `Fits` requires. -/
def plainTemplate : List Slot → Bool
  | [] | [.optInt _] => true
  | .int _ :: t | .fixed _ :: t | .rest :: t => plainTemplate t
  | _ => false

/-- Templates whose byte order is their tuple order: fixed-width fields, then at most one
trailing byte string or optional integer. -/
def orderedTemplate : List Slot → Bool
  | [] | [.rest] | [.optInt _] => true
  | .int _ :: t | .fixed _ :: t => orderedTemplate t
  | _ => false

/-- Two field lists of one template whose byte strings in the middle of the key, those followed
by more fields, are equal or neither a prefix of the other. -/
def Comparable : List Slot → List KeyField → List KeyField → Prop
  | .rest :: s :: t, .bytes l :: fs, .bytes m :: gs =>
    (l <+: m ∨ m <+: l → l = m) ∧ Comparable (s :: t) fs gs
  | _ :: t, _ :: fs, _ :: gs => Comparable t fs gs
  | _, _, _ => True

/-- Equal-length prefixes decide the order, or pass it on to what follows them. -/
private theorem lex_cons_iff_of_length_eq {l m x y : List UInt8} {f g : KeyField}
    {fs gs : List KeyField}
    (hlm : l.length = m.length) (hf : KeyField.Lt f g ↔ List.Lex (· < ·) l m)
    (he : f = g ↔ l = m) (ih : List.Lex (· < ·) x y ↔ List.Lex KeyField.Lt fs gs) :
    List.Lex (· < ·) (l ++ x) (m ++ y) ↔ List.Lex KeyField.Lt (f :: fs) (g :: gs) := by
  rw [lex_append_of_length_eq UInt8.lt_irrefl hlm, lex_cons_cons, hf, he, ih]

/-- Byte strings of which neither is a proper prefix of the other decide the order, or, equal,
pass it on to what follows them. -/
private theorem lex_append_iff_of_incomparable {l m x y : List UInt8} {fs gs : List KeyField}
    (hlm : l <+: m ∨ m <+: l → l = m) (ih : List.Lex (· < ·) x y ↔ List.Lex KeyField.Lt fs gs) :
    List.Lex (· < ·) (l ++ x) (m ++ y) ↔
      List.Lex KeyField.Lt (.bytes l :: fs) (.bytes m :: gs) := by
  rw [lex_cons_cons, KeyField.lt_bytes_iff, KeyField.bytes.injEq]
  by_cases hl : l = m
  · subst hl
    rw [lex_append_left UInt8.lt_irrefl, ih]
    simp [lex_irrefl UInt8.lt_irrefl]
  · rw [lex_append_of_incomparable (fun h => hl (hlm (.inl h))) (fun h => hl (hlm (.inr h)))]
    simp [hl]

/-- **Plain layouts are order embeddings** on field lists whose middle byte strings are not
proper prefixes of one another: such lists compare as bytes exactly as they compare as
tuples. -/
theorem lex_encodeFields_iff_of_comparable {t : List Slot} {fs gs : List KeyField}
    (ht : plainTemplate t) (h₁ : Fits t fs) (h₂ : Fits t gs) (hc : Comparable t fs gs) :
    List.Lex (· < ·) (encodeFields fs) (encodeFields gs) ↔ List.Lex KeyField.Lt fs gs := by
  induction t generalizing fs gs with
  | nil =>
    simp only [Fits] at h₁ h₂
    subst h₁ h₂
    simp [List.Lex.not_nil_right]
  | cons s t ih =>
    rcases s with w | _ | n | _ | _ | w
    case leb | token => simp [plainTemplate] at ht
    case int =>
      rcases fs with _ | ⟨_ | _ | _, fs⟩ <;> simp only [Fits] at h₁
      rcases gs with _ | ⟨_ | _ | _, gs⟩ <;> simp only [Fits] at h₂
      obtain ⟨rfl, ha, h₁⟩ := h₁
      obtain ⟨rfl, hb, h₂⟩ := h₂
      exact lex_cons_iff_of_length_eq (by simp) (by simp [beBytes_lt_beBytes ha hb])
        (by simp [beBytes_eq_beBytes_iff ha hb]) (ih ht h₁ h₂ hc)
    case fixed =>
      rcases fs with _ | ⟨_ | _ | l, fs⟩ <;> simp only [Fits] at h₁
      rcases gs with _ | ⟨_ | _ | m, gs⟩ <;> simp only [Fits] at h₂
      obtain ⟨hl, h₁⟩ := h₁
      obtain ⟨hm, h₂⟩ := h₂
      exact lex_cons_iff_of_length_eq (hl.trans hm.symm) KeyField.lt_bytes_iff (by simp)
        (ih ht h₁ h₂ hc)
    case rest =>
      rcases fs with _ | ⟨_ | _ | l, fs⟩ <;> simp only [Fits] at h₁
      rcases gs with _ | ⟨_ | _ | m, gs⟩ <;> simp only [Fits] at h₂
      rcases t with _ | ⟨s, t⟩
      · simp only [Fits] at h₁ h₂
        obtain ⟨-, rfl⟩ := h₁
        obtain ⟨-, rfl⟩ := h₂
        simp [lex_cons_cons, List.Lex.not_nil_right]
      · exact lex_append_iff_of_incomparable hc.1 (ih ht h₁.2 h₂.2 hc.2)
    case optInt =>
      rcases t with _ | ⟨_, _⟩
      case cons => simp [plainTemplate] at ht
      simp only [Fits] at h₁ h₂
      obtain ⟨hw, rfl | ⟨a, ha, rfl⟩⟩ := h₁ <;> obtain ⟨-, rfl | ⟨b, hb, rfl⟩⟩ := h₂
      · simp [List.Lex.not_nil_right]
      · have : beBytes w b ≠ [] := List.ne_nil_of_length_pos (by simp [hw])
        simp [lex_nil_left_iff, this, List.Lex.nil]
      · simp [List.Lex.not_nil_right]
      · simp [lex_cons_cons, beBytes_lt_beBytes ha hb, List.Lex.not_nil_right]

theorem orderedTemplate_tail {s : Slot} {t : List Slot} (ht : orderedTemplate (s :: t)) :
    orderedTemplate t := by
  rcases s with _ | _ | _ | _ | _ | _ <;> rcases t with _ | ⟨_, _⟩ <;> simp_all [orderedTemplate]

theorem plainTemplate_of_ordered {t : List Slot} (ht : orderedTemplate t) : plainTemplate t := by
  induction t with
  | nil => rfl
  | cons s t ih =>
    have := ih (orderedTemplate_tail ht)
    rcases s with _ | _ | _ | _ | _ | _ <;> rcases t with _ | ⟨_, _⟩ <;>
      simp_all [orderedTemplate, plainTemplate]

/-- An ordered template has no byte string in the middle. -/
theorem comparable_of_ordered {t : List Slot} (ht : orderedTemplate t) {fs gs : List KeyField} :
    Comparable t fs gs := by
  induction t generalizing fs gs with
  | nil => trivial
  | cons s t ih =>
    unfold Comparable
    split
    · rename_i h
      obtain ⟨rfl, rfl⟩ := List.cons.inj h
      simp [orderedTemplate] at ht
    · rename_i h
      obtain ⟨rfl, rfl⟩ := List.cons.inj h
      exact ih (orderedTemplate_tail ht)
    · trivial

/-- **Fixed-width layouts are order embeddings.**  Fields that fit one ordered template compare
as bytes exactly as they compare as tuples. -/
theorem lex_encodeFields_iff {t : List Slot} {fs gs : List KeyField}
    (ht : orderedTemplate t) (h₁ : Fits t fs) (h₂ : Fits t gs) :
    List.Lex (· < ·) (encodeFields fs) (encodeFields gs) ↔ List.Lex KeyField.Lt fs gs :=
  lex_encodeFields_iff_of_comparable (plainTemplate_of_ordered ht) h₁ h₂ (comparable_of_ordered ht)

/-! ## Kinds of fixed width -/

/-- The kinds of fixed-width integers and constant discriminator bytes, optionally closed by one
byte string, that the spec lists as order embeddings. -/
def KeyKind.fixedWidth : KeyKind → Bool
  | .property | .acl | .documentId | .changeId
  | .indexEmail | .bayesTrain | .sendAlarm | .sendImip
  | .blobReserve | .blobCommit | .blobLink | .blobLinkId
  | .config | .inMemoryKey | .inMemoryCounter
  | .nameToId | .emailToId | .memberOf | .members
  | .queueMessage | .messageEvent | .quotaCount | .quotaSize
  | .tlsReport | .dmarcReport | .arfReport | .span
  | .bitmapDocumentIds | .log | .indexPrefix => true
  | _ => false

theorem KeyKind.orderedTemplate_of_fixedWidth (k : KeyKind) (h : k.fixedWidth) :
    orderedTemplate k.template := by
  revert h
  cases k <;> decide

variable (S : StoreConsts)

theorem lex_serialize_iff_of_fixedWidth (k₁ k₂ : SchemaKey) (hk : k₁.kind = k₂.kind)
    (hf : k₁.kind.fixedWidth) :
    List.Lex (· < ·) (k₁.serialize S 0) (k₂.serialize S 0) ↔
      List.Lex KeyField.Lt k₁.layout k₂.layout := by
  rw [SchemaKey.serialize_zero, SchemaKey.serialize_zero]
  exact lex_encodeFields_iff (k₁.kind.orderedTemplate_of_fixedWidth hf) k₁.fits_template
    (hk ▸ k₂.fits_template)

/-- **Fixed-width keys sort as their fields.**  Two keys of one fixed-width kind compare, written
without subspace, exactly as the tuples of their fields compare; log keys of one account and
collection, in particular, sort by change id. -/
theorem serialize_lt_iff_of_fixedWidth :
    (∀ k₁ k₂ : SchemaKey, k₁.kind = k₂.kind → k₁.kind.fixedWidth →
      (List.Lex (· < ·) (k₁.serialize S 0) (k₂.serialize S 0) ↔
        List.Lex KeyField.Lt k₁.layout k₂.layout)) ∧
    (∀ (accountId : UInt32) (collection : UInt8) (x y : UInt64),
      List.Lex (· < ·) ((LogKey.mk accountId collection x).serialize S 0)
        ((LogKey.mk accountId collection y).serialize S 0) ↔ x < y) := by
  refine ⟨lex_serialize_iff_of_fixedWidth S, fun a c x y => ?_⟩
  have := lex_serialize_iff_of_fixedWidth S (.log ⟨a, c, x⟩) (.log ⟨a, c, y⟩) rfl rfl
  simp only [SchemaKey.serialize, SchemaKey.layout, LogKey.layout] at this
  rw [this]
  simp [lex_cons_cons, KeyField.u8, KeyField.u32, KeyField.u64, List.Lex.not_nil_right,
    UInt64.lt_iff_toNat]

/-! ## Keys with a byte string in the middle -/

/-- The kinds whose template is plain: all but those with a LEB128 field (principals, used
quotas, metrics and id tags) and those with a token hash (full-text and text bitmaps). -/
def KeyKind.plain : KeyKind → Bool
  | .principal | .usedQuota | .metric | .tagId | .ftsIndex | .bitmapText => false
  | _ => true

theorem KeyKind.plainTemplate_of_plain (k : KeyKind) (h : k.plain) : plainTemplate k.template := by
  revert h
  cases k <;> decide

/-- Field lists whose byte strings are pairwise equal or not prefixes of one another. -/
theorem comparable_of_incomparable {t : List Slot} {fs gs : List KeyField}
    (h : ∀ l m, KeyField.bytes l ∈ fs → KeyField.bytes m ∈ gs → l <+: m ∨ m <+: l → l = m) :
    Comparable t fs gs := by
  induction t generalizing fs gs with
  | nil => trivial
  | cons s t ih =>
    unfold Comparable
    split
    · rename_i h'
      obtain ⟨rfl, rfl⟩ := List.cons.inj h'
      exact ⟨h _ _ (.head _) (.head _), ih fun l m hl hm => h l m (.tail _ hl) (.tail _ hm)⟩
    · rename_i h'
      obtain ⟨rfl, rfl⟩ := List.cons.inj h'
      exact ih fun l m hl hm => h l m (.tail _ hl) (.tail _ hm)
    · trivial

/-- **Plain keys sort as their fields** when their byte strings are not proper prefixes of one
another: every kind without a LEB128 field or a token hash, index keys, directory and telemetry
indexes, text tags and report headers included. -/
theorem serialize_lt_iff_of_incomparable (k₁ k₂ : SchemaKey) (hk : k₁.kind = k₂.kind)
    (hp : k₁.kind.plain)
    (hinc : ∀ l m, KeyField.bytes l ∈ k₁.layout → KeyField.bytes m ∈ k₂.layout →
      l <+: m ∨ m <+: l → l = m) :
    List.Lex (· < ·) (k₁.serialize S 0) (k₂.serialize S 0) ↔
      List.Lex KeyField.Lt k₁.layout k₂.layout := by
  rw [SchemaKey.serialize_zero, SchemaKey.serialize_zero]
  exact lex_encodeFields_iff_of_comparable (k₁.kind.plainTemplate_of_plain hp) k₁.fits_template
    (hk ▸ k₂.fits_template) (comparable_of_incomparable hinc)

theorem serialize_lt_iff_of_incomparable_directoryIndex :
    (SchemaKey.value ⟨0, 0, 0, .directory (.index [1] 7)⟩).kind =
      (SchemaKey.value ⟨0, 0, 0, .directory (.index [2] 3)⟩).kind ∧
    (SchemaKey.value ⟨0, 0, 0, .directory (.index [1] 7)⟩).kind.plain ∧
    (∀ l m, KeyField.bytes l ∈ (SchemaKey.value ⟨0, 0, 0, .directory (.index [1] 7)⟩).layout →
      KeyField.bytes m ∈ (SchemaKey.value ⟨0, 0, 0, .directory (.index [2] 3)⟩).layout →
      l <+: m ∨ m <+: l → l = m) ∧
    (List.Lex (· < ·)
        ((SchemaKey.value ⟨0, 0, 0, .directory (.index [1] 7)⟩).serialize StoreConsts.sample 0)
        ((SchemaKey.value ⟨0, 0, 0, .directory (.index [2] 3)⟩).serialize StoreConsts.sample 0) ↔
      List.Lex KeyField.Lt (SchemaKey.value ⟨0, 0, 0, .directory (.index [1] 7)⟩).layout
        (SchemaKey.value ⟨0, 0, 0, .directory (.index [2] 3)⟩).layout) :=
  have hinc : ∀ l m,
      KeyField.bytes l ∈ (SchemaKey.value ⟨0, 0, 0, .directory (.index [1] 7)⟩).layout →
      KeyField.bytes m ∈ (SchemaKey.value ⟨0, 0, 0, .directory (.index [2] 3)⟩).layout →
      l <+: m ∨ m <+: l → l = m := by
    intro l m hl hm
    simp [SchemaKey.layout, ValueClass.layout, KeyField.u8, KeyField.u32] at hl hm
    subst hl hm
    decide
  ⟨rfl, rfl, hinc, serialize_lt_iff_of_incomparable StoreConsts.sample _ _ rfl rfl hinc⟩

/-! ## Deadline-first keys -/

/-- The deadline a scheduled key leads with, and the discriminator bytes written before it, as
the spec defines them: a task's due time, `u64::MAX` for the payload row of `SendImip`; the due
time of a queue event and of an outbound report; a metric's timestamp; an inbound report's
expiry. -/
def ValueClass.deadline : ValueClass → Option (List UInt8 × UInt64)
  | .taskQueue (.indexEmail due _) | .taskQueue (.bayesTrain due _ _)
  | .taskQueue (.sendAlarm due _ _) | .taskQueue (.sendImip due false) => some ([], due)
  | .taskQueue (.sendImip _ true) => some ([], u64Max)
  | .queue (.messageEvent e) => some ([], e.due)
  | .telemetry (.metric timestamp _ _) => some ([], timestamp)
  | .queue (.dmarcReportHeader e) | .queue (.tlsReportHeader e) => some ([0], e.due)
  | .queue (.dmarcReportEvent e) => some ([1], e.due)
  | .queue (.tlsReportEvent e) => some ([2], e.due)
  | .report (.tls _ expires) => some ([0], expires)
  | .report (.dmarc _ expires) => some ([1], expires)
  | .report (.arf _ expires) => some ([2], expires)
  | _ => none

/-- A scheduled key is its prefix, its deadline, and the rest of its fields. -/
theorem ValueClass.serialize_of_deadline {v : ValueClass} {P : List UInt8} {t : UInt64}
    (h : v.deadline = some (P, t)) (a : UInt32) (c : UInt8) (d : UInt32) :
    ∃ rest, v.serialize S a c d 0 = P ++ (beBytes 8 t.toNat ++ rest) := by
  have := SchemaKey.serialize_zero S (.value ⟨a, c, d, v⟩)
  simp only [SchemaKey.serialize, ValueKey.serialize, SchemaKey.layout] at this
  rw [this]
  rcases v with _ | _ | (_ | _) | _ | (_ | _ | _ | ⟨_, (_ | _)⟩) | (_ | _ | _ | _ | _ | _ | _) |
    (_ | _ | _ | _) | _ | (_ | _ | _ | _ | _ | _ | _ | _) | (_ | _ | _) | (_ | _ | _) | _ | _ |
    _ <;>
    simp only [ValueClass.deadline, Option.some.injEq, Prod.mk.injEq, reduceCtorEq] at h <;>
    obtain ⟨rfl, rfl⟩ := h <;>
    simp [ValueClass.layout]

section Deadline

variable {P r₁ r₂ : List UInt8}

/-- Behind one prefix, an earlier deadline sorts first, whatever follows it. -/
theorem lex_deadline_of_lt {t₁ t₂ : UInt64} (ht : t₁ < t₂) :
    List.Lex (· < ·) (P ++ (beBytes 8 t₁.toNat ++ r₁)) (P ++ (beBytes 8 t₂.toNat ++ r₂)) := by
  rw [lex_append_left UInt8.lt_irrefl, lex_append_of_length_eq UInt8.lt_irrefl (by simp),
    beBytes_lt_beBytes (by simp) (by simp)]
  exact .inl ht

/-- Behind one prefix, a key sorts before `P ++ be64(T + 1)` exactly when its deadline is at
most `T`. -/
theorem lex_deadline_bound_iff {t T : UInt64} (hT : T < u64Max) :
    List.Lex (· < ·) (P ++ (beBytes 8 t.toNat ++ r₁)) (P ++ beBytes 8 (T.toNat + 1)) ↔ t ≤ T := by
  have hT' : T.toNat + 1 < 256 ^ 8 := by
    have : u64Max.toNat = 2 ^ 64 - 1 := rfl
    rw [UInt64.lt_iff_toNat, this] at hT
    omega
  rw [← List.append_nil (beBytes 8 (T.toNat + 1)), lex_append_left UInt8.lt_irrefl,
    lex_append_of_length_eq UInt8.lt_irrefl (by simp), beBytes_lt_beBytes (by simp) hT',
    UInt64.le_iff_toNat]
  simp [List.Lex.not_nil_right]
  omega

/-- No key of prefix `P` sorts before `P ++ be64(0)`. -/
theorem not_lex_deadline_zero {t : UInt64} :
    ¬ List.Lex (· < ·) (P ++ (beBytes 8 t.toNat ++ r₁)) (P ++ beBytes 8 0) := by
  rw [← List.append_nil (beBytes 8 0), lex_append_left UInt8.lt_irrefl,
    lex_append_of_length_eq UInt8.lt_irrefl (by simp), beBytes_lt_beBytes (by simp) (by simp)]
  simp [List.Lex.not_nil_right]

end Deadline

/-- **Deadline-first keys.**  Among keys with one discriminator prefix `P`, an earlier deadline
sorts first; and below every bound `T < u64::MAX`, a key sorts before `P ++ be64(T + 1)` exactly
when its deadline is at most `T`, so a scan up to `now` returns exactly the entries due by
`now`, and never an iMIP payload row. -/
theorem deadline_order :
    (∀ (v₁ v₂ : ValueClass) (a₁ a₂ : UInt32) (c₁ c₂ : UInt8) (d₁ d₂ : UInt32) (P : List UInt8)
      (t₁ t₂ : UInt64), v₁.deadline = some (P, t₁) → v₂.deadline = some (P, t₂) → t₁ < t₂ →
      List.Lex (· < ·) (v₁.serialize S a₁ c₁ d₁ 0) (v₂.serialize S a₂ c₂ d₂ 0)) ∧
    (∀ (v : ValueClass) (a : UInt32) (c : UInt8) (d : UInt32) (P : List UInt8) (t T : UInt64),
      v.deadline = some (P, t) → T < u64Max →
      (List.Lex (· < ·) (v.serialize S a c d 0) (P ++ beBytes 8 (T.toNat + 1)) ↔ t ≤ T)) := by
  refine ⟨fun v₁ v₂ a₁ a₂ c₁ c₂ d₁ d₂ P t₁ t₂ h₁ h₂ ht => ?_, fun v a c d P t T h hT => ?_⟩
  · obtain ⟨r₁, e₁⟩ := ValueClass.serialize_of_deadline S h₁ a₁ c₁ d₁
    obtain ⟨r₂, e₂⟩ := ValueClass.serialize_of_deadline S h₂ a₂ c₂ d₂
    rw [e₁, e₂]
    exact lex_deadline_of_lt ht
  · obtain ⟨r, e⟩ := ValueClass.serialize_of_deadline S h a c d
    rw [e]
    exact lex_deadline_bound_iff hT

/-! ## LEB128 fields do not sort numerically -/

/-- An integer `x ≡ 1 (mod 128)` above `128` writes its low group as `0x81`, and `x + 127`
writes `0x80`: the larger integer's encoding sorts first, whatever follows either. -/
theorem lex_leb128_of_mod {x y : Nat} {s t : List UInt8} (hx : 128 ≤ x) (hx1 : x % 128 = 1)
    (hy : y = x + 127) : List.Lex (· < ·) (leb128 y ++ s) (leb128 x ++ t) := by
  rw [leb128_eq y, leb128_eq x, if_neg (by omega), if_neg (by omega),
    show y % 128 = 0 by omega, hx1]
  exact .rel (by decide)

/-- **LEB128 keys are not ordered by their integers.**  For ids `x ≡ 1 (mod 128)` above `128`
and `y = x + 127`, `x < y`, yet the id-tag key and the principal key of `y` sort before those of
`x`. -/
theorem leb128_keys_out_of_order (x y : UInt32) (hx : 128 ≤ x.toNat) (hx1 : x.toNat % 128 = 1)
    (hy : y.toNat = x.toNat + 127) (a : UInt32) (c field : UInt8) (d : UInt32) :
    x < y ∧
    List.Lex (· < ·) ((BitmapClass.tag field (.id y)).serialize S a c d 0)
      ((BitmapClass.tag field (.id x)).serialize S a c d 0) ∧
    List.Lex (· < ·) ((ValueClass.directory (.principal y)).serialize S a c d 0)
      ((ValueClass.directory (.principal x)).serialize S a c d 0) := by
  have htag := fun i => SchemaKey.serialize_zero S (.bitmap ⟨a, c, .tag field (.id i), d⟩)
  have hdir := fun i => SchemaKey.serialize_zero S (.value ⟨a, c, d, .directory (.principal i)⟩)
  simp only [SchemaKey.serialize, BitmapKey.serialize, ValueKey.serialize, SchemaKey.layout,
    BitmapClass.layout, ValueClass.layout, encodeFields_cons, encodeFields_nil,
    KeyField.encode_u8, KeyField.encode_u32, KeyField.encode_leb128, List.append_nil] at htag hdir
  refine ⟨UInt32.lt_iff_toNat.2 (by omega), ?_, ?_⟩
  · rw [htag, htag, lex_append_left UInt8.lt_irrefl, lex_append_left UInt8.lt_irrefl,
      lex_append_left UInt8.lt_irrefl]
    exact lex_leb128_of_mod hx hx1 hy
  · rw [hdir, hdir, lex_append_left UInt8.lt_irrefl]
    simpa using lex_leb128_of_mod (s := []) (t := []) hx hx1 hy

theorem leb128_keys_out_of_order_129 :
    128 ≤ (129 : UInt32).toNat ∧ (129 : UInt32).toNat % 128 = 1 ∧
    (256 : UInt32).toNat = (129 : UInt32).toNat + 127 ∧
    ((129 : UInt32) < 256 ∧
      List.Lex (· < ·) ((BitmapClass.tag 0 (.id 256)).serialize StoreConsts.sample 0 0 0 0)
        ((BitmapClass.tag 0 (.id 129)).serialize StoreConsts.sample 0 0 0 0) ∧
      List.Lex (· < ·)
        ((ValueClass.directory (.principal 256)).serialize StoreConsts.sample 0 0 0 0)
        ((ValueClass.directory (.principal 129)).serialize StoreConsts.sample 0 0 0 0)) :=
  ⟨by decide, by decide, by decide,
    leb128_keys_out_of_order StoreConsts.sample 129 256 (by decide) (by decide) (by decide) 0 0 0 0⟩

end MailServer
