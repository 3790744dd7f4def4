import Allotment.Fault
import Allotment.Word

namespace Allotment

/-- Whether `n` is a power of two. -/
def isPowerOfTwo (n : Nat) : Bool := 2 ^ n.log2 == n

theorem isPowerOfTwo_iff {n : Nat} : isPowerOfTwo n = true ↔ ∃ k : Nat, n = 2 ^ k := by
  simp only [isPowerOfTwo, beq_iff_eq]
  constructor
  · intro same; exact ⟨_, same.symm⟩
  · rintro ⟨k, rfl⟩; simp

theorem pos_of_isPowerOfTwo {n : Nat} (power : isPowerOfTwo n = true) : 0 < n := by
  obtain ⟨exponent, rfl⟩ := isPowerOfTwo_iff.mp power
  exact Nat.two_pow_pos exponent

/-- Of two powers of two the smaller one divides the other. -/
theorem dvd_of_isPowerOfTwo {small large : Nat} (power : isPowerOfTwo small = true)
    (power' : isPowerOfTwo large = true) (ordered : small ≤ large) : small ∣ large := by
  obtain ⟨exponent, rfl⟩ := isPowerOfTwo_iff.mp power
  obtain ⟨exponent', rfl⟩ := isPowerOfTwo_iff.mp power'
  exact Nat.pow_dvd_pow 2 ((Nat.pow_le_pow_iff_right (by decide)).mp ordered)

namespace Alignment

/-- Clears the bits of `value` below `alignment`. -/
def roundDown (value alignment : Nat) : Nat := value - (value &&& (alignment - 1))

/-- The bits of `value` below `alignment` are clear. -/
def divides (alignment value : Nat) : Bool := value &&& (alignment - 1) == 0

/-- The bits below a power of two are the remainder. -/
theorem and_sub_one {alignment : Nat} (power : isPowerOfTwo alignment = true) (value : Nat) :
    value &&& (alignment - 1) = value % alignment := by
  obtain ⟨exponent, rfl⟩ := isPowerOfTwo_iff.mp power
  exact Nat.and_two_pow_sub_one_eq_mod value exponent

theorem roundDown_eq {alignment : Nat} (power : isPowerOfTwo alignment = true) (value : Nat) :
    roundDown value alignment = value / alignment * alignment := by
  have split := Nat.div_add_mod' value alignment
  rw [roundDown, and_sub_one power]
  omega

/-- With one less than the alignment added first, rounding down gives a multiple that is not below the
number and less than the alignment above it. -/
theorem roundDown_sum {alignment : Nat} (power : isPowerOfTwo alignment = true) (value : Nat) :
    alignment ∣ roundDown (value + (alignment - 1)) alignment ∧
      value ≤ roundDown (value + (alignment - 1)) alignment ∧
      roundDown (value + (alignment - 1)) alignment < value + alignment := by
  have positive := pos_of_isPowerOfTwo power
  have split := Nat.div_add_mod' (value + (alignment - 1)) alignment
  have rest := Nat.mod_lt (value + (alignment - 1)) positive
  rw [roundDown_eq power]
  exact ⟨Nat.dvd_mul_left .., by omega, by omega⟩

theorem and_not_add_and (bits mask : BitVec 64) : (bits &&& ~~~mask) + (bits &&& mask) = bits := by
  have apart : (bits &&& ~~~mask) &&& (bits &&& mask) = 0#64 := by
    ext index
    simp only [BitVec.getElem_and, BitVec.getElem_not, BitVec.getElem_zero]
    cases bits[index] <;> cases mask[index] <;> rfl
  rw [BitVec.add_eq_or_of_and_eq_zero _ _ apart]
  ext index
  simp only [BitVec.getElem_or, BitVec.getElem_and, BitVec.getElem_not]
  cases bits[index] <;> cases mask[index] <;> rfl

/-- As a word, the number is masked with the complement of the bits below the alignment. -/
theorem ofNat_roundDown (value alignment : Nat) :
    UInt64.ofNat (roundDown value alignment) =
      UInt64.ofNat value &&& ~~~UInt64.ofNat (alignment - 1) := by
  rw [roundDown, UInt64.ofNat_sub Nat.and_le_left, UInt64.ofNat_and]
  apply UInt64.toBitVec_inj.mp
  exact (BitVec.eq_sub_iff_add_eq.mpr (and_not_add_and _ _)).symm

theorem divides_iff {alignment : Nat} (power : isPowerOfTwo alignment = true) {value : Nat} :
    divides alignment value = true ↔ alignment ∣ value := by
  rw [divides, and_sub_one power, beq_iff_eq, Nat.dvd_iff_mod_eq_zero]

/-- Rounds a word up to the alignment; nothing when the sum with `alignment - 1` is not a word. -/
def roundUp? (value alignment : Nat) : Option Nat :=
  (Word.checkedAdd? value (alignment - 1)).map (roundDown · alignment)

/-- Rounding up gives a multiple that is not below the word and less than the alignment above it. -/
theorem roundUp?_some {value alignment rounded : Nat} (power : isPowerOfTwo alignment = true)
    (found : roundUp? value alignment = some rounded) :
    alignment ∣ rounded ∧ value ≤ rounded ∧ rounded < value + alignment := by
  obtain ⟨total, sum, rfl⟩ := Option.map_eq_some_iff.mp found
  obtain ⟨rfl, _⟩ := Word.checkedAdd?_eq_some_iff.mp sum
  exact roundDown_sum power value

/-- Rounds a word up to the alignment. The sum with the alignment itself is formed first, so it has
to be a word. -/
def roundUp (value alignment : Nat) : Except Abort Nat :=
  if !isPowerOfTwo alignment then .error (.assertionFailed .alignmentIsPowerOfTwo)
  else match Word.checkedAdd? value alignment with
    | some total => .ok (roundDown (total - 1) alignment)
    | none => .error .additionOverflow

/-- As `roundUp?`, for an alignment that is not known to be one. -/
def roundUpChecked (value alignment : Nat) : Except Abort (Option Nat) :=
  if !isPowerOfTwo alignment then .error (.assertionFailed .alignmentIsPowerOfTwo)
  else .ok (roundUp? value alignment)

/-- Whether a word lies on the alignment, for an alignment that is not known to be one. -/
def isAligned (value alignment : Nat) : Except Abort Bool :=
  if !isPowerOfTwo alignment then .error (.assertionFailed .alignmentIsPowerOfTwo)
  else .ok (divides alignment value)

end Alignment

/-- The byte size of `count` elements of `size` bytes, or nothing when it is not a word. -/
def arraySize? (size count : Nat) : Option Nat := Word.checkedMul? size count

end Allotment
