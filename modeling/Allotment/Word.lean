/-! Sizes, offsets and counts are unsigned words of 64 bits. They are kept as natural numbers, and
every sum or product that could leave the word range goes through one of the checked operations. -/
namespace Allotment

/-- In this namespace powers of numbers are those of the core library, whatever else is imported beside
it. An exponent that is a numeral has to say its type, or another power may be taken by default. -/
scoped instance (priority := 2000) corePow : Pow Nat Nat := instPowNat

/-- One more than the largest word. -/
def wordLimit : Nat := 2 ^ (64 : Nat)

def wordMax : Nat := wordLimit - 1

namespace Word

/-- The sum, or nothing when it is not a word. -/
def checkedAdd? (left right : Nat) : Option Nat :=
  if left + right < wordLimit then some (left + right) else none

theorem checkedAdd?_eq_some_iff {left right total : Nat} :
    checkedAdd? left right = some total ↔ left + right = total ∧ total < wordLimit := by
  unfold checkedAdd?
  split <;> simp <;> omega

theorem checkedAdd?_eq_none_iff {left right : Nat} :
    checkedAdd? left right = none ↔ wordLimit ≤ left + right := by
  unfold checkedAdd?
  split <;> simp <;> omega

/-- The product, or nothing when it is not a word. -/
def checkedMul? (left right : Nat) : Option Nat :=
  if left * right < wordLimit then some (left * right) else none

theorem checkedMul?_eq_some_iff {left right total : Nat} :
    checkedMul? left right = some total ↔ left * right = total ∧ total < wordLimit := by
  unfold checkedMul?
  split
  · next fits => simp; intro same; omega
  · next large => simp; intro same; omega

/-- The product, cut off at the largest word. -/
def saturatingMul (left right : Nat) : Nat := min (left * right) wordMax

/-- A displacement from `address`, counted around the end of the word range. -/
def displace (address : Nat) (distance : Int) : Nat := ((address + distance) % wordLimit).toNat

/-- The hexadecimal text of an address. -/
def hex (address : Nat) : String := "0x" ++ String.ofList (Nat.toDigits 16 address)

end Word

/-- The bytes of a number, least significant first. -/
def littleEndian : (count : Nat) → Nat → List UInt8
  | 0, _ => []
  | count + 1, number => UInt8.ofNat number :: littleEndian count (number / 256)

/-- The number that bytes stand for, least significant first. -/
def ofLittleEndian : List UInt8 → Nat
  | [] => 0
  | byte :: rest => byte.toNat + 256 * ofLittleEndian rest

@[simp] theorem length_littleEndian (count number : Nat) :
    (littleEndian count number).length = count := by
  induction count generalizing number with
  | zero => rfl
  | succ count ih => simp [littleEndian, ih]

theorem ofLittleEndian_littleEndian (count number : Nat) :
    ofLittleEndian (littleEndian count number) = number % 256 ^ count := by
  induction count generalizing number with
  | zero => simp [littleEndian, ofLittleEndian, Nat.mod_one]
  | succ count ih =>
    have byte : (UInt8.ofNat number).toNat = number % 256 := UInt8.toNat_ofNat'
    rw [littleEndian, ofLittleEndian, ih, byte, Nat.pow_succ, Nat.mul_comm (256 ^ count) 256,
      Nat.mod_mul]

/-- A number of `8 * count` bits is read back from its bytes. -/
theorem ofLittleEndian_of_lt {count number : Nat} (fits : number < 2 ^ (8 * count)) :
    ofLittleEndian (littleEndian count number) = number := by
  rw [ofLittleEndian_littleEndian]
  rw [Nat.pow_mul] at fits
  exact Nat.mod_eq_of_lt fits

/-- Bytes are read back from the number they stand for. -/
theorem littleEndian_ofLittleEndian (bytes : List UInt8) :
    littleEndian bytes.length (ofLittleEndian bytes) = bytes := by
  induction bytes with
  | nil => rfl
  | cons byte rest ih =>
    have small := byte.toNat_lt
    have first : UInt8.ofNat (byte.toNat + 256 * ofLittleEndian rest) = byte := by
      apply UInt8.toNat_inj.mp
      rw [UInt8.toNat_ofNat']
      omega
    have others : (byte.toNat + 256 * ofLittleEndian rest) / 256 = ofLittleEndian rest := by omega
    rw [List.length_cons, littleEndian, ofLittleEndian, first, others, ih]

/-- A number of 32 bits is read back from its four bytes. -/
@[simp] theorem ofNat_ofLittleEndian (number : UInt32) :
    UInt32.ofNat (ofLittleEndian (littleEndian 4 number.toNat)) = number := by
  rw [ofLittleEndian_of_lt (show number.toNat < 2 ^ (8 * 4 : Nat) from number.toNat_lt),
    UInt32.ofNat_toNat]

end Allotment
