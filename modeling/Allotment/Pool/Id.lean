import Allotment.Text.Written
import Allotment.Word

namespace Allotment

/-- Names one occupancy of one slot. -/
@[ext]
structure ResourceId where
  index : UInt32
  generation : UInt32
  deriving DecidableEq

namespace ResourceId

/-- The generation in the high half, the index in the low half. -/
def toRaw (id : ResourceId) : UInt64 := (id.generation.toUInt64 <<< 32) ||| id.index.toUInt64

def ofRaw (raw : UInt64) : ResourceId := ⟨raw.toUInt32, (raw >>> 32).toUInt32⟩

theorem toNat_toRaw (id : ResourceId) :
    id.toRaw.toNat = 2 ^ (32 : Nat) * id.generation.toNat + id.index.toNat := by
  have generation := id.generation.toNat_lt
  have high : id.generation.toUInt64.toNat <<< (UInt64.toNat 32 % 64) % 2 ^ (64 : Nat) =
      id.generation.toNat <<< 32 := by
    refine Nat.mod_eq_of_lt ?_
    change id.generation.toNat <<< 32 < 2 ^ (64 : Nat)
    rw [Nat.shiftLeft_eq]
    omega
  rw [toRaw, UInt64.toNat_or, UInt64.toNat_shiftLeft, high, UInt32.toNat_toUInt64,
    ← Nat.shiftLeft_add_eq_or_of_lt id.index.toNat_lt, Nat.shiftLeft_eq, Nat.mul_comm]

theorem toNat_index_ofRaw (raw : UInt64) : (ofRaw raw).index.toNat = raw.toNat % 2 ^ (32 : Nat) := rfl

theorem toNat_generation_ofRaw (raw : UInt64) :
    (ofRaw raw).generation.toNat = raw.toNat / 2 ^ (32 : Nat) := by
  have word := raw.toNat_lt
  have high : (raw >>> 32).toNat = raw.toNat / 2 ^ (32 : Nat) := by
    rw [UInt64.toNat_shiftRight]
    exact Nat.shiftRight_eq_div_pow ..
  rw [ofRaw, UInt64.toNat_toUInt32, high]
  exact Nat.mod_eq_of_lt (by omega)

@[simp] theorem ofRaw_toRaw (id : ResourceId) : ofRaw id.toRaw = id := by
  have index := id.index.toNat_lt
  refine ResourceId.ext (UInt32.toNat_inj.mp ?_) (UInt32.toNat_inj.mp ?_)
  · rw [toNat_index_ofRaw, toNat_toRaw]
    omega
  · rw [toNat_generation_ofRaw, toNat_toRaw]
    omega

@[simp] theorem toRaw_ofRaw (raw : UInt64) : (ofRaw raw).toRaw = raw := by
  apply UInt64.toNat_inj.mp
  rw [toNat_toRaw, toNat_index_ofRaw, toNat_generation_ofRaw]
  omega

def display (id : ResourceId) : String :=
  toString id.index.toNat ++ "v" ++ toString id.generation.toNat

def text (id : ResourceId) : String :=
  Text.record "ResourceId"
    [("index", toString id.index.toNat), ("generation", toString id.generation.toNat)] false

/-- Identifiers are ordered by slot, and within a slot by generation. -/
def le (left right : ResourceId) : Bool :=
  left.index < right.index || (left.index == right.index && left.generation ≤ right.generation)

/-- The identifiers in order, each once. -/
def sorted (ids : List ResourceId) : List ResourceId := (ids.mergeSort le).eraseReps

end ResourceId
end Allotment
