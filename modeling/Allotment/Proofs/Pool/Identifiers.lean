import Mathlib.Data.List.Basic
import Allotment.Proofs.Pool.SlotTable
import Allotment.Pool.Basic

namespace Allotment

private theorem toDigits_inj {left right : Nat} (same : Nat.toDigits 10 left = Nat.toDigits 10 right) :
    left = right :=
  calc left
    _ = Nat.ofDigitChars 10 (Nat.toDigits 10 left) 0 := Nat.ofDigitChars_ten_toDigits.symm
    _ = Nat.ofDigitChars 10 (Nat.toDigits 10 right) 0 := by rw [same]
    _ = right := Nat.ofDigitChars_ten_toDigits

namespace Pool
variable {Object T : Type} [Element Object T]

theorem get?_eq_some_iff {pool : Pool T} {memory : Memory Object} {id : ResourceId} {value : T} :
    pool.get? memory id = some value ↔
      pool.slots.get? memory id.index.toNat = some ⟨id.generation, .occupied value⟩ := by
  simp only [get?, slotAt?, Option.bind_eq_bind, Option.bind_eq_some_iff, Slot.valueAt?_eq_some_iff]
  constructor
  · rintro ⟨slot, found, rfl⟩
    exact found
  · intro found
    exact ⟨_, found, rfl⟩

end Pool

namespace ResourceId

private theorem separator_not_mem (number : Nat) : 'v' ∉ Nat.toDigits 10 number := by
  intro inside
  have digit := Nat.isDigit_of_mem_toDigits (by decide) (by decide) inside
  exact absurd digit (by decide)

theorem toList_display (id : ResourceId) :
    id.display.toList =
      Nat.toDigits 10 id.index.toNat ++ 'v' :: Nat.toDigits 10 id.generation.toNat := by
  simp [display]

private theorem eq_of_display {left right : ResourceId} (same : left.display = right.display) :
    left = right := by
  have texts := congrArg String.toList same
  -- both texts are cut at their first separator
  rw [toList_display, toList_display, List.append_cons_inj_of_notMem (separator_not_mem _)
    (separator_not_mem _)] at texts
  obtain ⟨index, _, generation⟩ := texts
  exact ResourceId.ext (UInt32.toNat_inj.mp (toDigits_inj index))
    (UInt32.toNat_inj.mp (toDigits_inj generation))

/-- Without the separator both would be 123. -/
example : display ⟨1, 23⟩ ≠ display ⟨12, 3⟩ := by decide

open Allocator
variable {Object σ T : Type} [Allocator Object σ] [Element Object T]

/-- An identifier is read back from its word, and each word from the identifier it stands for; the text has
the index and the generation in decimal digits. Identifiers look alike only if they are the same. -/
theorem encodings_faithful :
    (∀ id : ResourceId, ofRaw id.toRaw = id) ∧
    (∀ raw : UInt64, (ofRaw raw).toRaw = raw) ∧
    (∀ id : ResourceId, id.toRaw.toNat = 2 ^ (32 : Nat) * id.generation.toNat + id.index.toNat) ∧
    (∀ (pool : Pool T) (host : σ) (id : ResourceId),
      pool.get? (memory host) (ofRaw id.toRaw) = pool.get? (memory host) id ∧
      pool.contains (memory host) (ofRaw id.toRaw) = pool.contains (memory host) id ∧
      (Pool.remove? (ofRaw id.toRaw)).run (pool, host) = (Pool.remove? id).run (pool, host) ∧
      (Pool.remove (ofRaw id.toRaw)).run (pool, host) = (Pool.remove id).run (pool, host)) ∧
    (∀ (pool : Pool T) (host : σ) (raw : UInt64) (value : T),
      pool.get? (memory host) (ofRaw raw) = some value ↔
        ∃ generation : UInt32, generation.toNat = raw.toNat / 2 ^ (32 : Nat) ∧
          pool.slots.get? (memory host) (raw.toNat % 2 ^ (32 : Nat)) =
            some ⟨generation, .occupied value⟩) ∧
    (∀ id : ResourceId, id.display.toList =
      Nat.toDigits 10 id.index.toNat ++ 'v' :: Nat.toDigits 10 id.generation.toNat) ∧
    (∀ left right : ResourceId, left.display = right.display ↔ left = right) := by
  refine ⟨ofRaw_toRaw, toRaw_ofRaw, toNat_toRaw, fun pool host id => ?through,
    fun pool host raw value => ?found, toList_display, fun left right => ⟨eq_of_display, ?same⟩⟩
  case through =>
    rw [ofRaw_toRaw]
    exact ⟨rfl, rfl, rfl, rfl⟩
  case found =>
    rw [Pool.get?_eq_some_iff, toNat_index_ofRaw]
    constructor
    · intro found
      exact ⟨_, toNat_generation_ofRaw raw, found⟩
    · rintro ⟨generation, high, found⟩
      rwa [← UInt32.toNat_inj.mp (high.trans (toNat_generation_ofRaw raw).symm)]
  case same =>
    rintro rfl
    rfl

end ResourceId
end Allotment
