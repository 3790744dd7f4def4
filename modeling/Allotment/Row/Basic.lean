import Allotment.Row.Stretch

/-! Rows of cells without an end. All cells but those that were written are the default cell, and
what it costs to fill, to copy or to skip a stretch of equal cells does not grow with its length.
The laws describe a row by the cell at each position. -/
namespace Allotment

/-- A row of cells; all cells behind the stretch are the default cell. -/
structure Row (α : Type) where
  height : Nat
  stretch : Stretch α height

namespace Row
variable {α : Type} [Inhabited α]

def blank : Row α := ⟨0, .uniform default⟩

def get (row : Row α) (position : Nat) : α :=
  if position < 2 ^ row.height then row.stretch.get position else default

@[simp] theorem get_blank (position : Nat) : (blank : Row α).get position = default := by
  rw [get, blank, Stretch.get_uniform, ite_self]

/-- The same row, with a stretch that reaches a position. -/
def reaching (row : Row α) (position : Nat) : Row α :=
  ⟨row.height + (position.log2 + 1 - row.height),
    row.stretch.raise default (position.log2 + 1 - row.height)⟩

theorem height_reaching (row : Row α) (position : Nat) :
    (row.reaching position).height = row.height + (position.log2 + 1 - row.height) := rfl

theorem lt_reaching (row : Row α) (position : Nat) :
    position < 2 ^ (row.reaching position).height :=
  Nat.lt_of_lt_of_le Nat.lt_log2_self
    (Nat.pow_le_pow_right (by decide) (by rw [height_reaching]; omega))

theorem get_reaching (row : Row α) (reached position : Nat) :
    (row.reaching reached).get position = row.get position := by
  have grows : 2 ^ row.height ≤ 2 ^ (row.reaching reached).height :=
    Nat.pow_le_pow_right (by decide) (Nat.le_add_right _ _)
  rw [get, get]
  by_cases inside : position < 2 ^ row.height
  · rw [if_pos inside, if_pos (by omega), reaching, Stretch.get_raise, if_pos (Or.inr inside)]
  · rw [if_neg inside]
    split
    · next within =>
      rw [reaching, Stretch.get_raise, if_neg]
      rintro (none | within')
      · rw [height_reaching, none, Nat.add_zero] at within
        exact inside within
      · exact inside within'
    · rfl

/-- The row with runs written over it, from `start` on. -/
def writeRuns (row : Row α) (start : Nat) (runs : List (Run α)) : Row α :=
  let roomy := row.reaching (start + Run.total runs)
  ⟨roomy.height, (roomy.stretch.overlay start runs).1⟩

theorem get_writeRuns (row : Row α) (start : Nat) (runs : List (Run α)) (position : Nat) :
    (row.writeRuns start runs).get position =
      if start ≤ position then ((Run.values runs)[position - start]?).getD (row.get position)
      else row.get position := by
  have room := row.lt_reaching (start + Run.total runs)
  rw [← row.get_reaching (start + Run.total runs), get, get]
  show (if position < 2 ^ (row.reaching (start + Run.total runs)).height then
    ((row.reaching (start + Run.total runs)).stretch.overlay start runs).1.get position
      else default) = _
  by_cases inside : position < 2 ^ (row.reaching (start + Run.total runs)).height
  · rw [if_pos inside, if_pos inside, Stretch.get_overlay _ _ _ (by omega) inside]
  · rw [if_neg inside, if_neg inside, List.getElem?_eq_none
      (by rw [Run.length_values]; omega), Option.getD_none, ite_self]

/-- The row with `count` cells filled, from `start` on. -/
def fill (row : Row α) (start count : Nat) (cell : α) : Row α :=
  row.writeRuns start [⟨count, cell⟩]

theorem get_fill (row : Row α) (start count : Nat) (cell : α) (position : Nat) :
    (row.fill start count cell).get position =
      if start ≤ position ∧ position < start + count then cell else row.get position := by
  rw [fill, get_writeRuns]
  by_cases before : position < start
  · rw [if_neg (by omega), if_neg (by omega)]
  · rw [if_pos (by omega)]
    by_cases inside : position < start + count
    · rw [if_pos (by omega), Run.getElem?_values_cons _ _ (by omega : position - start < count),
        Option.getD_some]
    · rw [if_neg (by omega), List.getElem?_eq_none, Option.getD_none]
      rw [Run.length_values]
      simp only [Run.total]
      omega

/-- The runs of `count` cells from `start` on. -/
def runs (row : Row α) (start count : Nat) : List (Run α) :=
  (row.reaching (start + count)).stretch.runs start (start + count) []

def read (row : Row α) (start count : Nat) : List α := Run.values (row.runs start count)

theorem read_eq (row : Row α) (start count : Nat) :
    row.read start count = (List.range' start count).map row.get := by
  have room := row.lt_reaching (start + count)
  rw [read, runs, Stretch.values_runs _ _ _ _ (Nat.le_of_lt room), Run.values_nil,
    List.append_nil, Nat.add_sub_cancel_left]
  refine List.map_congr_left fun position member => ?_
  have bounds := List.mem_range'_1.mp member
  rw [← row.get_reaching (start + count), get, if_pos (by omega)]

@[simp] theorem length_read (row : Row α) (start count : Nat) :
    (row.read start count).length = count := by
  rw [read_eq, List.length_map, List.length_range']

end Row
end Allotment
