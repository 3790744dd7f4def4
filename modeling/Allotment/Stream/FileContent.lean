import Allotment.Row.Basic

/-! The content of a file. It may have long gaps of zeros between what was written; they take no
room. `toList` is what a reader of the whole file sees, and each operation is described by it. -/
namespace Allotment

/-- The content of a file; every byte behind its end is zero. -/
structure FileContent where
  size : Nat
  bytes : Row UInt8
  blank_behind : ∀ position, size ≤ position → bytes.get position = 0

/-- A list of bytes with others at `position`; a gap before them is filled with zeros. -/
def overwritten (content : List UInt8) (position : Nat) (bytes : List UInt8) : List UInt8 :=
  (content ++ List.replicate (position - content.length) 0).take position ++ bytes ++
    content.drop (position + bytes.length)

theorem length_padded (content : List UInt8) (position : Nat) :
    ((content ++ List.replicate (position - content.length) 0).take position).length =
      position := by
  rw [List.length_take, List.length_append, List.length_replicate]
  omega

theorem length_overwritten (content : List UInt8) (position : Nat) (bytes : List UInt8) :
    (overwritten content position bytes).length =
      max content.length (position + bytes.length) := by
  rw [overwritten, List.length_append, List.length_append, length_padded, List.length_drop]
  omega

/-- What was written is read back from where it was written. -/
theorem overwritten_window (content : List UInt8) (position : Nat) (bytes : List UInt8) :
    ((overwritten content position bytes).drop position).take bytes.length = bytes := by
  rw [overwritten, List.append_assoc, List.drop_left' (length_padded content position),
    List.take_left' rfl]

/-- Two writes in a row are one write. -/
theorem overwritten_append (content : List UInt8) (position : Nat) (first second : List UInt8) :
    overwritten (overwritten content position first) (position + first.length) second =
      overwritten content position (first ++ second) := by
  generalize before : (content ++ List.replicate (position - content.length) 0).take position = front
  have length : front.length = position := before ▸ length_padded content position
  have once : overwritten content position first =
      (front ++ first) ++ content.drop (position + first.length) := by
    rw [overwritten, before]
  have behind : (front ++ first).length = position + first.length := by
    rw [List.length_append, length]
  have none : position + first.length -
      ((front ++ first) ++ content.drop (position + first.length)).length = 0 := by
    rw [List.length_append, behind]
    omega
  rw [once, overwritten, none, List.replicate_zero, List.append_nil, List.take_left' behind,
    ← List.drop_drop, List.drop_left' behind, List.drop_drop, overwritten, before,
    List.length_append, Nat.add_assoc, List.append_assoc front]

namespace FileContent

def empty : FileContent := ⟨0, .blank, fun position _ => Row.get_blank position⟩

def toList (content : FileContent) : List UInt8 := content.bytes.read 0 content.size

@[simp] theorem toList_empty : empty.toList = [] :=
  List.length_eq_zero_iff.mp (Row.length_read _ _ _)

@[simp] theorem length_toList (content : FileContent) : content.toList.length = content.size :=
  Row.length_read _ _ _

theorem getElem_toList (content : FileContent) {position : Nat}
    (inside : position < content.toList.length) :
    content.toList[position] = content.bytes.get position := by
  simp only [toList, Row.read_eq, List.getElem_map, List.getElem_range', Nat.zero_add, Nat.one_mul]

/-- The runs of at most `count` bytes from `start` on. -/
def runs (content : FileContent) (start count : Nat) : List (Run UInt8) :=
  content.bytes.runs start (min count (content.size - start))

/-- Reading in the middle of a file gives a part of the whole. -/
theorem values_runs (content : FileContent) (start count : Nat) :
    Run.values (content.runs start count) = (content.toList.drop start).take count := by
  have read : Run.values (content.runs start count) =
      content.bytes.read start (min count (content.size - start)) := rfl
  refine List.ext_getElem ?_ fun position inside _ => ?_
  · rw [read, Row.length_read, List.length_take, List.length_drop, length_toList]
  · simp only [read, Row.read_eq, List.getElem_map, List.getElem_range', Nat.one_mul,
      List.getElem_take, List.getElem_drop, getElem_toList]

/-- The content with bytes written at `position`. -/
def overwrite (content : FileContent) (position : Nat) (bytes : List UInt8) : FileContent where
  size := max content.size (position + bytes.length)
  bytes := content.bytes.writeRuns position (Run.ofList bytes)
  blank_behind other behind := by
    rw [Row.get_writeRuns, Run.values_ofList, List.getElem?_eq_none (by omega), Option.getD_none,
      ite_self]
    exact content.blank_behind other (by omega)

theorem toList_overwrite (content : FileContent) (position : Nat) (bytes : List UInt8) :
    (content.overwrite position bytes).toList = overwritten content.toList position bytes := by
  refine List.ext_getElem ?_ fun other inside _ => ?_
  · rw [length_overwritten, length_toList, length_toList, overwrite]
  · have shape : overwritten content.toList position bytes = _ := List.append_assoc _ _ _
    rw [getElem_toList, List.getElem_of_eq shape, overwrite, Row.get_writeRuns,
      Run.values_ofList]
    by_cases before : other < position
    · rw [if_neg (by omega), List.getElem_append_left (by rw [length_padded]; exact before),
        List.getElem_take]
      by_cases within : other < content.size
      · rw [List.getElem_append_left (by rw [length_toList]; exact within), getElem_toList]
      · rw [List.getElem_append_right (by rw [length_toList]; omega), List.getElem_replicate]
        exact content.blank_behind other (by omega)
    · rw [if_pos (by omega), List.getElem_append_right (by rw [length_padded]; omega)]
      simp only [length_padded]
      by_cases within : other - position < bytes.length
      · rw [List.getElem_append_left within, List.getElem?_eq_getElem within, Option.getD_some]
      · rw [List.getElem_append_right (by omega), List.getElem?_eq_none (by omega),
          Option.getD_none, List.getElem_drop, getElem_toList]
        congr 1
        omega

/-- The content of a file that holds a list of bytes. -/
def ofList (bytes : List UInt8) : FileContent := empty.overwrite 0 bytes

@[simp] theorem toList_ofList (bytes : List UInt8) : (ofList bytes).toList = bytes := by
  rw [ofList, toList_overwrite, toList_empty, overwritten, List.take_zero, List.nil_append,
    List.drop_nil, List.append_nil]

end FileContent
end Allotment
