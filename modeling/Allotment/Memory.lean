import Allotment.Row.Basic
import Allotment.Word

/-! Memory as a row of cells. A cell holds a byte, or one part of an object that has no byte form;
cells that were never written hold the zero byte. -/
namespace Allotment

/-- One cell of memory. -/
inductive Cell (Object : Type) where
  | byte (value : UInt8)
  | part (object : Object) (position : Nat)

namespace Cell
variable {Object : Type}

/-- The content of memory nobody wrote to. -/
def zero : Cell Object := byte 0

instance : Inhabited (Cell Object) := ⟨zero⟩

/-- The byte in a cell; a part of an object reads as zero. -/
def toByte : Cell Object → UInt8
  | byte value => value
  | part _ _ => 0

def ofBytes (bytes : List UInt8) : List (Cell Object) := bytes.map byte

def bytes (cells : List (Cell Object)) : List UInt8 := cells.map toByte

@[simp] theorem bytes_ofBytes (content : List UInt8) :
    bytes (ofBytes content : List (Cell Object)) = content := by
  simp [bytes, ofBytes, List.map_map, Function.comp_def, toByte]

end Cell

/-- A row of cells; those nobody wrote to are zero. -/
structure Memory (Object : Type) where
  cells : Row (Cell Object)

namespace Memory
variable {Object : Type}

def blank : Memory Object := ⟨.blank⟩

def load (memory : Memory Object) (address : Nat) : Cell Object := memory.cells.get address

@[simp] theorem load_blank (address : Nat) :
    (blank : Memory Object).load address = Cell.zero := Row.get_blank address

/-- Writes the same cell to a range. -/
def fill (memory : Memory Object) (start count : Nat) (cell : Cell Object) : Memory Object :=
  ⟨memory.cells.fill start count cell⟩

theorem load_fill (count : Nat) (memory : Memory Object) (start : Nat) (cell : Cell Object)
    (other : Nat) :
    (memory.fill start count cell).load other =
      if start ≤ other ∧ other < start + count then cell else memory.load other :=
  memory.cells.get_fill start count cell other

theorem load_fill_of_outside (memory : Memory Object) {start count other : Nat}
    (cell : Cell Object) (outside : other < start ∨ start + count ≤ other) :
    (memory.fill start count cell).load other = memory.load other := by
  rw [load_fill, if_neg (by omega)]

def store (memory : Memory Object) (address : Nat) (cell : Cell Object) : Memory Object :=
  memory.fill address 1 cell

theorem load_store (memory : Memory Object) (address : Nat) (cell : Cell Object)
    (other : Nat) :
    (memory.store address cell).load other =
      if other = address then cell else memory.load other := by
  rw [store, load_fill]
  by_cases same : other = address
  · rw [if_pos same, if_pos (by omega)]
  · rw [if_neg same, if_neg (by omega)]

def loadRange (memory : Memory Object) (start : Nat) (count : Nat) : List (Cell Object) :=
  memory.cells.read start count

theorem loadRange_eq (memory : Memory Object) (start count : Nat) :
    memory.loadRange start count = (List.range' start count).map memory.load :=
  memory.cells.read_eq start count

/-- A range reads alike in two memories that agree on it. -/
theorem loadRange_congr {memory other : Memory Object} {start count : Nat}
    (agree : ∀ address, start ≤ address → address < start + count →
      memory.load address = other.load address) :
    memory.loadRange start count = other.loadRange start count := by
  rw [loadRange_eq, loadRange_eq]
  refine List.map_congr_left fun address member => ?_
  have bounds := List.mem_range'_1.mp member
  exact agree address bounds.1 bounds.2

@[simp] theorem length_loadRange (memory : Memory Object) (start : Nat) (count : Nat) :
    (memory.loadRange start count).length = count := memory.cells.length_read start count

def storeRuns (memory : Memory Object) (start : Nat) (runs : List (Run (Cell Object))) :
    Memory Object :=
  ⟨memory.cells.writeRuns start runs⟩

theorem load_storeRuns (runs : List (Run (Cell Object))) (memory : Memory Object) (start : Nat)
    (other : Nat) :
    (memory.storeRuns start runs).load other =
      if start ≤ other then ((Run.values runs)[other - start]?).getD (memory.load other)
      else memory.load other :=
  memory.cells.get_writeRuns start runs other

def storeRange (memory : Memory Object) (start : Nat) (cells : List (Cell Object)) :
    Memory Object :=
  memory.storeRuns start (Run.singles cells)

theorem load_storeRange (cells : List (Cell Object)) (memory : Memory Object) (start : Nat)
    (other : Nat) :
    (memory.storeRange start cells).load other =
      if start ≤ other then (cells[other - start]?).getD (memory.load other)
      else memory.load other := by
  rw [storeRange, load_storeRuns, Run.values_singles]

theorem load_storeRange_of_outside (memory : Memory Object) {start other : Nat}
    {cells : List (Cell Object)} (outside : other < start ∨ start + cells.length ≤ other) :
    (memory.storeRange start cells).load other = memory.load other := by
  rw [load_storeRange]
  split
  · rw [List.getElem?_eq_none (by omega), Option.getD_none]
  · rfl

theorem loadRange_storeRange (memory : Memory Object) (start : Nat) (cells : List (Cell Object)) :
    (memory.storeRange start cells).loadRange start cells.length = cells := by
  refine List.ext_getElem (length_loadRange _ _ _) fun position _ inside => ?_
  simp [loadRange_eq, load_storeRange, List.getElem?_eq_getElem inside]

/-- Writing a list of cells leaves the ranges beside it alone. -/
theorem loadRange_storeRange_of_disjoint (memory : Memory Object) {start other count : Nat}
    {cells : List (Cell Object)}
    (disjoint : start + cells.length ≤ other ∨ other + count ≤ start) :
    (memory.storeRange start cells).loadRange other count = memory.loadRange other count := by
  refine loadRange_congr fun address first last => ?_
  exact load_storeRange_of_outside memory (by omega)

def copy (memory : Memory Object) (source target : Nat) (count : Nat) : Memory Object :=
  memory.storeRuns target (memory.cells.runs source count)

/-- After a copy the target holds what the source held. -/
theorem load_copy (memory : Memory Object) (source target count other : Nat) :
    (memory.copy source target count).load other =
      if target ≤ other ∧ other < target + count then memory.load (source + (other - target))
      else memory.load other := by
  have held : Run.values (memory.cells.runs source count) = memory.loadRange source count := rfl
  rw [copy, load_storeRuns, held, loadRange_eq]
  by_cases before : other < target
  · rw [if_neg (by omega), if_neg (by omega)]
  · rw [if_pos (by omega)]
    by_cases inside : other < target + count
    · rw [if_pos (by omega), List.getElem?_map, List.getElem?_range' (by omega), Option.map_some,
        Option.getD_some, Nat.one_mul]
    · rw [if_neg (by omega), List.getElem?_eq_none (by simp; omega), Option.getD_none]

theorem load_copy_of_outside (memory : Memory Object) {source target count other : Nat}
    (outside : other < target ∨ target + count ≤ other) :
    (memory.copy source target count).load other = memory.load other := by
  rw [load_copy, if_neg (by omega)]

def byteRuns (memory : Memory Object) (start : Nat) (count : Nat) : List (Run UInt8) :=
  Run.map Cell.toByte (memory.cells.runs start count)

def bytes (memory : Memory Object) (start : Nat) (count : Nat) : List UInt8 :=
  Cell.bytes (memory.loadRange start count)

theorem values_byteRuns (memory : Memory Object) (start count : Nat) :
    Run.values (memory.byteRuns start count) = memory.bytes start count := by
  rw [byteRuns, Run.values_map, bytes, Cell.bytes, loadRange, Row.read]

def writeBytes (memory : Memory Object) (start : Nat) (content : List UInt8) : Memory Object :=
  memory.storeRuns start (Run.map Cell.byte (Run.ofList content))

theorem load_writeBytes (content : List UInt8) (memory : Memory Object) (start other : Nat) :
    (memory.writeBytes start content).load other =
      if start ≤ other then ((Cell.ofBytes content)[other - start]?).getD (memory.load other)
      else memory.load other := by
  rw [writeBytes, load_storeRuns, Run.values_map, Run.values_ofList, Cell.ofBytes]

theorem load_writeBytes_of_outside (memory : Memory Object) {start other : Nat}
    {content : List UInt8} (outside : other < start ∨ start + content.length ≤ other) :
    (memory.writeBytes start content).load other = memory.load other := by
  rw [load_writeBytes]
  split
  · rw [List.getElem?_eq_none (by rw [Cell.ofBytes, List.length_map]; omega), Option.getD_none]
  · rfl

theorem bytes_writeBytes (memory : Memory Object) (start : Nat) (content : List UInt8) :
    (memory.writeBytes start content).bytes start content.length = content := by
  have cells : (memory.writeBytes start content).loadRange start content.length =
      Cell.ofBytes content := by
    refine List.ext_getElem (by simp [Cell.ofBytes]) fun position _ inside => ?_
    simp [loadRange_eq, load_writeBytes, List.getElem?_eq_getElem inside]
  rw [bytes, cells, Cell.bytes_ofBytes]

end Memory
end Allotment
