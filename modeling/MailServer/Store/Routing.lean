import MailServer.Store.Layout

/-!
# Subspace routing

The subspace of a key is decided in two places that have to agree: the `subspace()` of each key
type, and the byte each serializer writes in front of the key (`ValueClass::serialize` asks
`subspace()`, but every branch of `BitmapClass::serialize` and the index, log and raw keys write
their own constant).  `serialize_with_subspace` proves the agreement for every key and flags
word.

`ValueClass::is_counter` repeats the routing a third time, to send counters to the store's
atomic-add interface: `isCounter_iff_counter_subspace` proves that it holds exactly of the value
keys routed to the counter, quota and in-memory counter subspaces, the collection-dependent
`Property(84)` case included.
-/

namespace MailServer

variable (S : StoreConsts)

@[simp] theorem StoreConsts.subspace_inj {a b : Subspace} :
    S.subspace a = S.subspace b ↔ a = b :=
  S.subspace_injective.eq_iff

/-- Clearing a bit leaves it clear. -/
theorem UInt32.and_not_and_self (f w : UInt32) : (f &&& ~~~w) &&& w = 0 := by
  apply UInt32.eq_of_toBitVec_eq
  show (f.toBitVec &&& ~~~w.toBitVec) &&& w.toBitVec = 0#32
  ext i
  simp

/-- **Subspace agreement.**  With `WITH_SUBSPACE` in the flags, every key is its `subspace()`
followed by the key the same flags without `WITH_SUBSPACE` give; in particular `Property(84)` is
routed by its collection, to the counter subspace in collection 1 and to the property subspace
elsewhere. -/
theorem serialize_with_subspace :
    (∀ (k : SchemaKey) (flags : UInt32), flags &&& S.withSubspace ≠ 0 →
      k.serialize S flags = k.subspace S :: k.serialize S (flags &&& ~~~S.withSubspace)) ∧
    (∀ (accountId : UInt32) (collection : UInt8) (documentId flags : UInt32),
      flags &&& S.withSubspace ≠ 0 →
      ((ValueClass.property 84).serialize S accountId collection documentId flags).head? =
        some (if collection = 1 then S.subspace .counter else S.subspace .property)) := by
  refine ⟨fun k flags h => ?_, fun a c d flags h => ?_⟩
  · simp [SchemaKey.serialize_eq, h, UInt32.and_not_and_self]
  · have := SchemaKey.serialize_eq S (.value ⟨a, c, d, .property 84⟩) flags
    simp only [SchemaKey.serialize, ValueKey.serialize] at this
    simp [this, h, SchemaKey.subspace, ValueKey.subspace, ValueClass.subspace]

theorem serialize_with_subspace_sample :
    (1 : UInt32) &&& StoreConsts.sample.withSubspace ≠ 0 ∧
    (SchemaKey.value ⟨7, 2, 42, .property 5⟩).serialize StoreConsts.sample 1 =
      (SchemaKey.value ⟨7, 2, 42, .property 5⟩).subspace StoreConsts.sample ::
        (SchemaKey.value ⟨7, 2, 42, .property 5⟩).serialize StoreConsts.sample
          (1 &&& ~~~StoreConsts.sample.withSubspace) :=
  ⟨by decide, (serialize_with_subspace StoreConsts.sample).1 _ 1 (by decide)⟩

/-- **Counters are exactly the keys of the counter subspaces.**  A value key other than a raw
one is a counter exactly when it is routed to the counter, quota or in-memory counter
subspace. -/
theorem isCounter_iff_counter_subspace (v : ValueClass) (collection : UInt8)
    (hv : ∀ a, v ≠ .any a) :
    v.isCounter collection = true ↔ v.subspace S collection ∈
      [S.subspace .counter, S.subspace .quota, S.subspace .inMemoryCounter] := by
  rcases v with field | _ | (_ | _) | _ | _ | (_ | _ | _ | _ | _ | _ | _) | (_ | _ | _ | _) | _ |
    (_ | _ | _ | _ | _ | _ | _ | _) | _ | (_ | _ | _) | _ | _ | a
  case property =>
    simp only [ValueClass.isCounter, ValueClass.subspace]
    split <;> split <;> simp_all
  case any => exact absurd rfl (hv a)
  all_goals simp [ValueClass.isCounter, ValueClass.subspace]

theorem isCounter_iff_counter_subspace_property :
    (∀ a, ValueClass.property 84 ≠ .any a) ∧
    ((ValueClass.property 84).isCounter 1 = true ↔
      (ValueClass.property 84).subspace StoreConsts.sample 1 ∈
        [StoreConsts.sample.subspace .counter, StoreConsts.sample.subspace .quota,
          StoreConsts.sample.subspace .inMemoryCounter]) :=
  ⟨fun _ => nofun, isCounter_iff_counter_subspace StoreConsts.sample _ 1 (fun _ => nofun)⟩

end MailServer
