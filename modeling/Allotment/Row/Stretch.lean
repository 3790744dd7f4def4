import Allotment.Row.Run
import Allotment.Word

/-! Stretches of cells as binary trees. A leaf stands for a stretch of equal cells, whatever its
length, so writing a run touches only the borders of the part it covers. -/
namespace Allotment

/-- A stretch of `2 ^ height` cells. -/
inductive Stretch (α : Type) : Nat → Type where
  /-- All cells are the same. -/
  | uniform {height : Nat} (cell : α) : Stretch α height
  | halves {height : Nat} (left right : Stretch α height) : Stretch α (height + 1)

namespace Stretch
variable {α : Type}

def get : {height : Nat} → Stretch α height → (position : Nat) → α
  | _, uniform cell, _ => cell
  | height + 1, halves left right, position =>
    if position < 2 ^ height then left.get position else right.get (position - 2 ^ height)

def left {height : Nat} : Stretch α (height + 1) → Stretch α height
  | uniform cell => uniform cell
  | halves left _ => left

def right {height : Nat} : Stretch α (height + 1) → Stretch α height
  | uniform cell => uniform cell
  | halves _ right => right

theorem get_uniform {height : Nat} (cell : α) (position : Nat) :
    (uniform cell : Stretch α height).get position = cell := by
  cases height <;> rfl

theorem get_succ {height : Nat} (stretch : Stretch α (height + 1)) (position : Nat) :
    stretch.get position =
      if position < 2 ^ height then stretch.left.get position
      else stretch.right.get (position - 2 ^ height) := by
  cases stretch with
  | uniform cell => simp only [get_uniform, left, right, ite_self]
  | halves first second => rfl

/-- The stretch with runs written over it from `start` on, and the runs it has no room for. -/
def overlay : {height : Nat} → Stretch α height → (start : Nat) → List (Run α) →
    Stretch α height × List (Run α)
  | 0, stretch, _, runs =>
    match Run.trim runs with
    | [] => (stretch, [])
    | run :: rest => (uniform run.value, ⟨run.count - 1, run.value⟩ :: rest)
  | height + 1, stretch, start, runs =>
    match Run.trim runs with
    | [] => (stretch, [])
    | run :: rest =>
      if start = 0 ∧ 2 ^ (height + 1) ≤ run.count then
        (uniform run.value, ⟨run.count - 2 ^ (height + 1), run.value⟩ :: rest)
      else if start < 2 ^ height then
        let first := stretch.left.overlay start (run :: rest)
        let second := stretch.right.overlay 0 first.2
        (halves first.1 second.1, second.2)
      else
        let second := stretch.right.overlay (start - 2 ^ height) (run :: rest)
        (halves stretch.left second.1, second.2)

/-- The runs that are left over are those behind the room. -/
theorem values_overlay {height : Nat} (stretch : Stretch α height) (start : Nat)
    (runs : List (Run α)) (inside : start < 2 ^ height) :
    Run.values (stretch.overlay start runs).2 = (Run.values runs).drop (2 ^ height - start) := by
  induction height generalizing start runs with
  | zero =>
    obtain rfl : start = 0 := by omega
    rw [overlay, ← Run.values_trim runs]
    split
    · next none => rw [none, Run.values_nil, List.drop_nil]
    · next run rest found =>
      rw [found]
      exact Run.values_drop run rest (Run.count_pos_of_trim found)
  | succ height ih =>
    have double : 2 ^ (height + 1) = 2 ^ height + 2 ^ height := by rw [Nat.pow_succ]; omega
    rw [overlay, ← Run.values_trim runs]
    split
    · next none => rw [none, Run.values_nil, List.drop_nil]
    · next run rest found =>
      rw [found]
      split
      · next whole =>
        rw [whole.1, Nat.sub_zero]
        exact Run.values_drop run rest whole.2
      · split
        · next first =>
          dsimp only
          rw [ih _ _ _ (by omega), ih _ _ _ first, List.drop_drop]
          congr 1
          omega
        · dsimp only
          rw [ih _ _ _ (by omega)]
          congr 1
          omega

theorem get_overlay {height : Nat} (stretch : Stretch α height) (start : Nat)
    (runs : List (Run α)) {position : Nat} (inside : start < 2 ^ height)
    (within : position < 2 ^ height) :
    (stretch.overlay start runs).1.get position =
      if start ≤ position then ((Run.values runs)[position - start]?).getD (stretch.get position)
      else stretch.get position := by
  induction height generalizing start runs position with
  | zero =>
    obtain rfl : start = 0 := by omega
    obtain rfl : position = 0 := by omega
    rw [overlay, ← Run.values_trim runs, if_pos (Nat.le_refl 0)]
    split
    · next none => rw [none]; rfl
    · next run rest found =>
      rw [found, Run.getElem?_values_cons run rest (Run.count_pos_of_trim found), get_uniform,
        Option.getD_some]
  | succ height ih =>
    have double : 2 ^ (height + 1) = 2 ^ height + 2 ^ height := by rw [Nat.pow_succ]; omega
    rw [overlay, ← Run.values_trim runs]
    split
    · next none => rw [none, Run.values_nil, List.getElem?_nil, Option.getD_none, ite_self]
    · next run rest found =>
      rw [found]
      split
      · next whole =>
        rw [get_uniform, if_pos (by omega), Run.getElem?_values_cons run rest (by omega),
          Option.getD_some]
      · split
        · next first =>
          rw [get_succ, get_succ stretch, left, right]
          by_cases early : position < 2 ^ height
          · rw [if_pos early, if_pos early, ih _ _ _ first early]
          · rw [if_neg early, if_neg early, ih _ _ _ (by omega) (by omega),
              if_pos (Nat.zero_le _), if_pos (by omega), values_overlay _ _ _ first,
              List.getElem?_drop]
            congr 2
            omega
        · next second =>
          rw [get_succ, get_succ stretch, left, right]
          by_cases early : position < 2 ^ height
          · rw [if_pos early, if_pos early, if_neg (by omega)]
          · rw [if_neg early, if_neg early, ih _ _ _ (by omega) (by omega)]
            by_cases behind : start ≤ position
            · rw [if_pos behind, if_pos (by omega),
                show position - 2 ^ height - (start - 2 ^ height) = position - start by omega]
            · rw [if_neg behind, if_neg (by omega)]

/-- The runs of the cells from `start` up to `stop`, in front of other runs. -/
def runs : {height : Nat} → Stretch α height → (start stop : Nat) → List (Run α) → List (Run α)
  | _, uniform cell, start, stop, others =>
    if start < stop then ⟨stop - start, cell⟩ :: others else others
  | height + 1, halves left right, start, stop, others =>
    if stop ≤ start then others
    else
      left.runs start (min stop (2 ^ height))
        (right.runs (start - 2 ^ height) (stop - 2 ^ height) others)

/-- A range that meets a border in the middle is the part before it and the part behind it. -/
private theorem range'_split (start stop border : Nat) :
    List.range' start (stop - start) =
      List.range' start (min stop border - start) ++
        (List.range' (start - border) ((stop - border) - (start - border))).map (border + ·) := by
  rw [List.map_add_range']
  by_cases before : start ≤ border
  · rw [show border + (start - border) = border by omega]
    by_cases ends : stop ≤ border
    · rw [show (stop - border) - (start - border) = 0 by omega, List.range'_zero, List.append_nil,
        Nat.min_eq_left ends]
    · have joined := @List.range'_append_1 start (border - start)
        ((stop - border) - (start - border))
      rw [show start + (border - start) = border by omega] at joined
      rw [Nat.min_eq_right (by omega), joined]
      congr 1
      omega
  · rw [show min stop border - start = 0 by omega, List.range'_zero, List.nil_append,
      show border + (start - border) = start by omega,
      show (stop - border) - (start - border) = stop - start by omega]

theorem values_runs {height : Nat} (stretch : Stretch α height) (start stop : Nat)
    (others : List (Run α)) (inside : stop ≤ 2 ^ height) :
    Run.values (stretch.runs start stop others) =
      (List.range' start (stop - start)).map stretch.get ++ Run.values others := by
  induction stretch generalizing start stop others with
  | @uniform height cell =>
    have shape : (uniform cell : Stretch α height).runs start stop others =
        if start < stop then ⟨stop - start, cell⟩ :: others else others := by
      cases height <;> rfl
    have cells : (List.range' start (stop - start)).map (uniform cell : Stretch α height).get =
        List.replicate (stop - start) cell := by
      rw [List.map_eq_replicate_iff.mpr fun position _ => get_uniform cell position,
        List.length_range']
    rw [shape, cells]
    split
    · rw [Run.values_cons]
    · rw [show stop - start = 0 by omega, List.replicate_zero, List.nil_append]
  | @halves height first second ihFirst ihSecond =>
    have double : 2 ^ (height + 1) = 2 ^ height + 2 ^ height := by rw [Nat.pow_succ]; omega
    rw [runs]
    split
    · rw [show stop - start = 0 by omega, List.range'_zero, List.map_nil, List.nil_append]
    · rw [ihFirst _ _ _ (by omega), ihSecond _ _ _ (by omega),
        range'_split start stop (2 ^ height), List.map_append, List.map_map, List.append_assoc]
      congr 1
      · refine List.map_congr_left fun position member => ?_
        have bounds := List.mem_range'_1.mp member
        rw [get, if_pos (by omega)]
      · congr 1
        refine List.map_congr_left fun position _ => ?_
        rw [Function.comp_apply, get, if_neg (by omega), Nat.add_sub_cancel_left]

/-- The stretch with `2 ^ (height + levels)` cells that starts with a stretch and goes on with
one cell over and over. -/
def raise {height : Nat} (stretch : Stretch α height) (cell : α) :
    (levels : Nat) → Stretch α (height + levels)
  | 0 => stretch
  | levels + 1 => halves (stretch.raise cell levels) (uniform cell)

theorem get_raise {height : Nat} (stretch : Stretch α height) (cell : α) (levels : Nat)
    (position : Nat) :
    (stretch.raise cell levels).get position =
      if levels = 0 ∨ position < 2 ^ height then stretch.get position else cell := by
  induction levels with
  | zero => rw [if_pos (Or.inl rfl)]; rfl
  | succ levels ih =>
    have grows : 2 ^ height ≤ 2 ^ (height + levels) :=
      Nat.pow_le_pow_right (by decide) (Nat.le_add_right height levels)
    rw [raise, get, get_uniform]
    by_cases first : position < 2 ^ height
    · rw [if_pos (by omega), ih, if_pos (Or.inr first), if_pos (Or.inr first)]
    · rw [if_neg (by omega : ¬(levels + 1 = 0 ∨ position < 2 ^ height))]
      split
      · next within =>
        rw [ih, if_neg]
        rintro (none | within)
        · subst none; exact first within
        · exact first within
      · rfl

end Stretch
end Allotment
