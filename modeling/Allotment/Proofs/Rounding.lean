import Mathlib.Order.Bounds.Basic
import Allotment.Alignment

/-! Rounding up to an alignment finds the least multiple that is not below a number, as long as that
multiple is a word. An alignment divides the range of words, so the multiple is a word as soon as the sum
with one less than the alignment is; the sum with the whole alignment leaves the range one multiple earlier.
-/
namespace Allotment

/-- A multiple that is less than one step above a bound is the least one that reaches the bound. -/
theorem isLeast_of_near {step bound place : Nat} (aligned : step ∣ place) (reaches : bound ≤ place)
    (near : place < bound + step) : IsLeast {offset | step ∣ offset ∧ bound ≤ offset} place := by
  refine ⟨⟨aligned, reaches⟩, ?_⟩
  rintro other ⟨aligned', reaches'⟩
  refine Nat.le_of_not_lt fun below => ?_
  have gap : step ≤ place - other := Nat.le_of_dvd (by omega) (Nat.dvd_sub aligned aligned')
  omega

namespace Alignment
variable {alignment value ceiling : Nat}

/-- The least multiple of the alignment that is not below the value. -/
def IsCeiling (alignment value ceiling : Nat) : Prop :=
  IsLeast {multiple | alignment ∣ multiple ∧ value ≤ multiple} ceiling

private theorem isCeiling_of_dvd (aligned : alignment ∣ value) : IsCeiling alignment value value :=
  ⟨⟨aligned, Nat.le_refl _⟩, fun _ other => other.2⟩

theorem isCeiling_roundDown (power : isPowerOfTwo alignment = true) (value : Nat) :
    IsCeiling alignment value (roundDown (value + (alignment - 1)) alignment) := by
  obtain ⟨aligned, reaches, near⟩ := roundDown_sum power value
  exact isLeast_of_near aligned reaches near

private theorem IsCeiling.le_of_le {value' ceiling' : Nat} (isCeiling : IsCeiling alignment value ceiling)
    (isCeiling' : IsCeiling alignment value' ceiling') (ordered : value ≤ value') :
    ceiling ≤ ceiling' :=
  isCeiling.2 ⟨isCeiling'.1.1, Nat.le_trans ordered isCeiling'.1.2⟩

private theorem dvd_wordLimit (power : isPowerOfTwo alignment = true) (small : alignment < wordLimit) :
    alignment ∣ wordLimit :=
  dvd_of_isPowerOfTwo power (isPowerOfTwo_iff.mpr ⟨64, rfl⟩) (Nat.le_of_lt small)

private theorem isAligned_of_power (power : isPowerOfTwo alignment = true) (value : Nat) :
    isAligned value alignment = .ok (decide (alignment ∣ value)) := by
  have divided : divides alignment value = decide (alignment ∣ value) := by
    rw [Bool.eq_iff_iff, divides_iff power, decide_eq_true_eq]
  rw [isAligned, power, divided]
  rfl

private theorem isAligned_eq_true_iff (power : isPowerOfTwo alignment = true) :
    isAligned value alignment = .ok true ↔ alignment ∣ value := by
  rw [isAligned_of_power power, Except.ok.injEq, decide_eq_true_eq]

section Words
variable (power : isPowerOfTwo alignment = true) (small : alignment < wordLimit)
include power small

theorem IsCeiling.lt_wordLimit_iff (isCeiling : IsCeiling alignment value ceiling) :
    ceiling < wordLimit ↔ value + alignment ≤ wordLimit := by
  constructor
  · intro word
    have gap : alignment ≤ wordLimit - ceiling :=
      Nat.le_of_dvd (by omega) (Nat.dvd_sub (dvd_wordLimit power small) isCeiling.1.1)
    have reaches := isCeiling.1.2
    omega
  · intro room
    rw [isCeiling.unique (isCeiling_roundDown power value)]
    exact Nat.lt_of_lt_of_le (roundDown_sum power value).2.2 room

theorem IsCeiling.roundUp? (isCeiling : IsCeiling alignment value ceiling) :
    roundUp? value alignment = if ceiling < wordLimit then some ceiling else none := by
  have positive := pos_of_isPowerOfTwo power
  have word := isCeiling.lt_wordLimit_iff power small
  have found := isCeiling.unique (isCeiling_roundDown power value)
  by_cases room : value + alignment ≤ wordLimit
  · have sum : Word.checkedAdd? value (alignment - 1) = some (value + (alignment - 1)) :=
      Word.checkedAdd?_eq_some_iff.mpr ⟨rfl, by omega⟩
    rw [Alignment.roundUp?, sum, Option.map_some, if_pos (word.mpr room), found]
  · have sum : Word.checkedAdd? value (alignment - 1) = none :=
      Word.checkedAdd?_eq_none_iff.mpr (by omega)
    rw [Alignment.roundUp?, sum, Option.map_none, if_neg (mt word.mp room)]

theorem IsCeiling.roundUpChecked (isCeiling : IsCeiling alignment value ceiling) :
    roundUpChecked value alignment = .ok (if ceiling < wordLimit then some ceiling else none) := by
  rw [Alignment.roundUpChecked, power, isCeiling.roundUp? power small]
  rfl

private theorem roundUpChecked_eq_some_iff {rounded : Nat} :
    roundUpChecked value alignment = .ok (some rounded) ↔
      rounded < wordLimit ∧ IsCeiling alignment value rounded := by
  have found := isCeiling_roundDown power value
  rw [found.roundUpChecked power small, Except.ok.injEq, Option.ite_none_right_eq_some,
    Option.some.injEq]
  constructor
  · rintro ⟨word, rfl⟩
    exact ⟨word, found⟩
  · rintro ⟨word, isCeiling⟩
    obtain rfl := isCeiling.unique found
    exact ⟨word, rfl⟩

private theorem IsCeiling.roundUpChecked_eq_none_iff (isCeiling : IsCeiling alignment value ceiling) :
    Alignment.roundUpChecked value alignment = .ok none ↔ wordLimit ≤ ceiling := by
  rw [isCeiling.roundUpChecked power small, Except.ok.injEq, ← Nat.not_lt]
  split
  · next word => simp [word]
  · next behind => simp [behind]

private theorem isCeiling_of_last (last : value + alignment = wordLimit) :
    IsCeiling alignment value value := by
  refine isCeiling_of_dvd ?_
  rw [Nat.eq_sub_of_add_eq last]
  exact Nat.dvd_sub (dvd_wordLimit power small) (Nat.dvd_refl _)

/-- Where the whole alignment is added first, there is no room for the last multiple that is a word. -/
theorem IsCeiling.roundUp (isCeiling : IsCeiling alignment value ceiling) :
    roundUp value alignment =
      if ceiling < wordLimit ∧ value + alignment ≠ wordLimit then .ok ceiling
      else .error .additionOverflow := by
  have positive := pos_of_isPowerOfTwo power
  have word := isCeiling.lt_wordLimit_iff power small
  have found := isCeiling.unique (isCeiling_roundDown power value)
  simp only [Alignment.roundUp, power, Bool.not_true, Bool.false_eq_true, if_false]
  by_cases room : value + alignment < wordLimit
  · have sum : Word.checkedAdd? value alignment = some (value + alignment) :=
      Word.checkedAdd?_eq_some_iff.mpr ⟨rfl, room⟩
    rw [sum, if_pos ⟨word.mpr (Nat.le_of_lt room), Nat.ne_of_lt room⟩, found,
      ← Nat.add_sub_assoc positive]
  · have sum : Word.checkedAdd? value alignment = none :=
      Word.checkedAdd?_eq_none_iff.mpr (Nat.le_of_not_lt room)
    have behind : ¬(ceiling < wordLimit ∧ value + alignment ≠ wordLimit) := by
      rw [word]
      omega
    rw [sum, if_neg behind]

end Words

/-- Checked rounding answers the least multiple that is not below the value if that is a word, and nothing if
it is not. A number is aligned exactly if the alignment divides it. -/
theorem roundUpChecked_least (power : isPowerOfTwo alignment = true)
    (small : alignment < wordLimit) :
    (∀ value rounded, roundUpChecked value alignment = .ok (some rounded) ↔
      rounded < wordLimit ∧ IsCeiling alignment value rounded) ∧
    (∀ value, roundUpChecked value alignment = .ok none ↔
      ∃ ceiling, IsCeiling alignment value ceiling ∧ wordLimit ≤ ceiling) ∧
    (∀ value, isAligned value alignment = .ok (decide (alignment ∣ value))) ∧
    (∀ value rounded, roundUpChecked value alignment = .ok (some rounded) →
      isAligned rounded alignment = .ok true) ∧
    (∀ value, value < wordLimit → isAligned value alignment = .ok true →
      roundUpChecked value alignment = .ok (some value)) ∧
    (∀ value value' rounded', value ≤ value' →
      roundUpChecked value' alignment = .ok (some rounded') →
        ∃ rounded, roundUpChecked value alignment = .ok (some rounded) ∧ rounded ≤ rounded') ∧
    (∀ value rounded, roundUpChecked value alignment = .ok (some rounded) →
      UInt64.ofNat rounded =
        (UInt64.ofNat value + UInt64.ofNat (alignment - 1)) &&& ~~~UInt64.ofNat (alignment - 1)) := by
  have rounds {value rounded : Nat} : roundUpChecked value alignment = .ok (some rounded) ↔
      rounded < wordLimit ∧ IsCeiling alignment value rounded :=
    roundUpChecked_eq_some_iff power small
  refine ⟨fun _ _ => rounds, fun value => ?missing, isAligned_of_power power,
    fun value rounded answered => ?aligned, fun value word aligned => ?fixed,
    fun value value' rounded' ordered answered => ?monotone, fun value rounded answered => ?masked⟩
  case missing =>
    have isCeiling := isCeiling_roundDown power value
    rw [isCeiling.roundUpChecked_eq_none_iff power small]
    constructor
    · intro behind
      exact ⟨_, isCeiling, behind⟩
    · rintro ⟨ceiling, isCeiling', behind⟩
      rwa [isCeiling.unique isCeiling']
  case aligned =>
    obtain ⟨_, isCeiling⟩ := rounds.mp answered
    exact (isAligned_eq_true_iff power).mpr isCeiling.1.1
  case fixed =>
    exact rounds.mpr ⟨word, isCeiling_of_dvd ((isAligned_eq_true_iff power).mp aligned)⟩
  case monotone =>
    obtain ⟨word, isCeiling'⟩ := rounds.mp answered
    have isCeiling := isCeiling_roundDown power value
    have lower := isCeiling.le_of_le isCeiling' ordered
    exact ⟨_, rounds.mpr ⟨Nat.lt_of_le_of_lt lower word, isCeiling⟩, lower⟩
  case masked =>
    obtain ⟨_, isCeiling⟩ := rounds.mp answered
    rw [isCeiling.unique (isCeiling_roundDown power value), ofNat_roundDown, UInt64.ofNat_add]

/-- With half the range as the alignment, one is rounded up to it, and nothing is above it. -/
theorem roundUpChecked_least_of_half_range :
    isPowerOfTwo (2 ^ (63 : Nat)) = true ∧ 2 ^ (63 : Nat) < wordLimit ∧
      roundUpChecked 1 (2 ^ (63 : Nat)) = .ok (some (2 ^ (63 : Nat))) ∧
      roundUpChecked (2 ^ (63 : Nat) + 1) (2 ^ (63 : Nat)) = .ok none := by
  have power : isPowerOfTwo (2 ^ (63 : Nat)) = true := by decide
  have small : 2 ^ (63 : Nat) < wordLimit := by decide
  have half : IsCeiling (2 ^ (63 : Nat)) 1 (2 ^ (63 : Nat)) :=
    isLeast_of_near (by decide) (by decide) (by decide)
  have whole : IsCeiling (2 ^ (63 : Nat)) (2 ^ (63 : Nat) + 1) wordLimit :=
    isLeast_of_near (by decide) (by decide) (by decide)
  obtain ⟨found, missing, _⟩ := roundUpChecked_least power small
  exact ⟨power, small, (found _ _).mpr ⟨small, half⟩,
    (missing _).mpr ⟨wordLimit, whole, Nat.le_refl _⟩⟩

/-- Rounding that adds the whole alignment first overflows where checked rounding answers nothing, and for the
last multiple that is a word. Everywhere else the two agree. -/
theorem roundUp_except_last (power : isPowerOfTwo alignment = true) (small : alignment < wordLimit)
    (value : Nat) :
    (∀ rounded, roundUp value alignment = .ok rounded ↔
      roundUpChecked value alignment = .ok (some rounded) ∧ value + alignment ≠ wordLimit) ∧
    (roundUp value alignment = .error .additionOverflow ↔
      roundUpChecked value alignment = .ok none ∨ value + alignment = wordLimit) ∧
    (∃ ceiling, IsCeiling alignment value ceiling ∧
      (roundUpChecked value alignment = .ok none ↔ wordLimit ≤ ceiling)) ∧
    (value + alignment = wordLimit → roundUpChecked value alignment = .ok (some value)) := by
  have isCeiling := isCeiling_roundDown power value
  have missing := isCeiling.roundUpChecked_eq_none_iff power small
  refine ⟨fun rounded => ?returns, ?overflows, ⟨_, isCeiling, missing⟩, fun last => ?last⟩
  case returns =>
    rw [isCeiling.roundUp power small, isCeiling.roundUpChecked power small]
    rw [Except.ok.injEq, Option.ite_none_right_eq_some, Option.some.injEq]
    split
    · next room =>
      rw [Except.ok.injEq]
      exact ⟨fun same => ⟨⟨room.1, same⟩, room.2⟩, fun answered => answered.1.2⟩
    · next full => exact ⟨nofun, fun answered => absurd ⟨answered.1.1, answered.2⟩ full⟩
  case overflows =>
    rw [isCeiling.roundUp power small, missing, ← Nat.not_lt]
    split
    · next room =>
      exact ⟨nofun, fun overflows => overflows.elim (absurd room.1) (absurd · room.2)⟩
    · next full =>
      rw [not_and_or, not_ne_iff] at full
      exact ⟨fun _ => full, fun _ => rfl⟩
  case last =>
    have positive := pos_of_isPowerOfTwo power
    exact (roundUpChecked_eq_some_iff power small).mpr
      ⟨by omega, isCeiling_of_last power small last⟩

/-- Up to nine below the end of the range, eight below it is found; from there, only checked rounding
finds it. -/
theorem roundUp_except_last_of_eight :
    isPowerOfTwo 8 = true ∧ 8 < wordLimit ∧
      roundUp (wordLimit - 9) 8 = .ok (wordLimit - 8) ∧
      roundUp (wordLimit - 8) 8 = .error .additionOverflow ∧
      roundUpChecked (wordLimit - 8) 8 = .ok (some (wordLimit - 8)) := by
  have power : isPowerOfTwo 8 = true := by decide
  have small : 8 < wordLimit := by decide
  obtain ⟨returns, _⟩ := roundUp_except_last power small (wordLimit - 9)
  obtain ⟨_, overflows, _, last⟩ := roundUp_except_last power small (wordLimit - 8)
  exact ⟨power, small, (returns _).mpr ⟨rfl, by decide⟩, overflows.mpr (.inr rfl), last rfl⟩

/-- Rounding that adds the whole alignment first does not always return where checked rounding finds a
word: eight below the end of the range is a multiple of eight, and the sum overflows. -/
theorem roundUp_not_checked :
    ¬ ∀ value alignment, value < wordLimit → alignment < wordLimit → isPowerOfTwo alignment = true →
      ∀ rounded, roundUp value alignment = .ok rounded ↔
        roundUpChecked value alignment = .ok (some rounded) := by
  intro agree
  have returns : roundUp (wordLimit - 8) 8 = .ok (wordLimit - 8) :=
    (agree (wordLimit - 8) 8 (by decide) (by decide) rfl (wordLimit - 8)).mpr rfl
  cases returns

end Alignment
end Allotment
