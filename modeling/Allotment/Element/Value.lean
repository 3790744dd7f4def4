import Allotment.Element.Basic

namespace Allotment

/-- Three bytes in a row. -/
structure ByteTriple where
  first : UInt8
  second : UInt8
  third : UInt8
  deriving DecidableEq

/-- Sixty-four bytes, aligned to their number. -/
structure Wide where
  bytes : List UInt8
  length_bytes : bytes.length = 64
  deriving DecidableEq

namespace Wide

def ofByte (byte : UInt8) : Wide := ⟨List.replicate 64 byte, List.length_replicate⟩

/-- The first byte, by which a block goes in requests and answers. -/
def first (block : Wide) : UInt8 := block.bytes.headD 0

end Wide

/-- A number whose destructor can be watched. -/
structure Tracked where
  number : UInt32
  deriving DecidableEq

/-- A value of one of the element types. -/
inductive Value where
  | word8 (number : UInt8)
  | word16 (number : UInt16)
  | word32 (number : UInt32)
  | word64 (number : UInt64)
  | word128 (number : BitVec 128)
  | unit
  | triple (bytes : ByteTriple)
  | text (content : String)
  | wide (block : Wide)
  | tracked (mark : Tracked)
  deriving DecidableEq

namespace Element

def encodeNumber (count number : Nat) : List (Cell Value) :=
  Cell.ofBytes (littleEndian count number)

def decodeNumber (cells : List (Cell Value)) : Nat := ofLittleEndian (Cell.bytes cells)

theorem decodeNumber_encodeNumber (count : Nat) {number : Nat} (fits : number < 2 ^ (8 * count)) :
    decodeNumber (encodeNumber count number) = number := by
  rw [decodeNumber, encodeNumber, Cell.bytes_ofBytes, ofLittleEndian_of_lt fits]

@[simp] theorem length_encodeNumber (count number : Nat) :
    (encodeNumber count number).length = count := by simp [encodeNumber, Cell.ofBytes]

instance : Element Value UInt8 where
  size := 1
  alignment := 1
  hasUnusedContent := false
  encode number := encodeNumber 1 number.toNat
  decode cells := .ofNat (decodeNumber cells)
  destructors number := [.word8 number]

instance : Element Value UInt16 where
  size := 2
  alignment := 2
  hasUnusedContent := false
  encode number := encodeNumber 2 number.toNat
  decode cells := .ofNat (decodeNumber cells)
  destructors number := [.word16 number]

instance : Element Value UInt32 where
  size := 4
  alignment := 4
  hasUnusedContent := false
  encode number := encodeNumber 4 number.toNat
  decode cells := .ofNat (decodeNumber cells)
  destructors number := [.word32 number]

instance : Element Value UInt64 where
  size := 8
  alignment := 8
  hasUnusedContent := false
  encode number := encodeNumber 8 number.toNat
  decode cells := .ofNat (decodeNumber cells)
  destructors number := [.word64 number]

instance : Element Value (BitVec 128) where
  size := 16
  alignment := 16
  hasUnusedContent := false
  encode number := encodeNumber 16 number.toNat
  decode cells := .ofNat 128 (decodeNumber cells)
  destructors number := [.word128 number]

instance : Element Value Unit where
  size := 0
  alignment := 1
  hasUnusedContent := false
  encode _ := []
  decode _ := ()
  destructors _ := [.unit]

instance : Element Value ByteTriple where
  size := 3
  alignment := 1
  hasUnusedContent := false
  encode triple := Cell.ofBytes [triple.first, triple.second, triple.third]
  decode cells :=
    match Cell.bytes cells with
    | [first, second, third] => ⟨first, second, third⟩
    | _ => ⟨0, 0, 0⟩
  destructors triple := [.triple triple]

/-- A text lies in memory as the parts of one object: its bytes are elsewhere. -/
instance : Element Value String where
  size := 24
  alignment := 8
  hasUnusedContent := true
  encode content := (List.range 24).map (.part (.text content))
  decode
    | .part (.text content) _ :: _ => content
    | _ => ""
  destructors content := [.text content]

instance : Element Value Wide where
  size := 64
  alignment := 64
  hasUnusedContent := false
  encode block := Cell.ofBytes block.bytes
  decode cells :=
    if whole : (Cell.bytes cells).length = 64 then ⟨Cell.bytes cells, whole⟩ else .ofByte 0
  destructors block := [.wide block]

instance : Element Value Tracked where
  size := 4
  alignment := 4
  hasUnusedContent := false
  encode mark := encodeNumber 4 mark.number.toNat
  decode cells := ⟨.ofNat (decodeNumber cells)⟩
  destructors mark := [.tracked mark]

instance : LawfulElement Value UInt8 where
  length_encode _ := by simp [Element.encode, Element.size]
  decode_encode number := by
    simp [Element.encode, Element.decode, decodeNumber_encodeNumber 1 number.toNat_lt]
  alignment_pos := by decide
  alignment_dvd_size := by decide

instance : LawfulElement Value UInt16 where
  length_encode _ := by simp [Element.encode, Element.size]
  decode_encode number := by
    simp [Element.encode, Element.decode, decodeNumber_encodeNumber 2 number.toNat_lt]
  alignment_pos := by decide
  alignment_dvd_size := by decide

instance : LawfulElement Value UInt32 where
  length_encode _ := by simp [Element.encode, Element.size]
  decode_encode number := by
    simp [Element.encode, Element.decode, decodeNumber_encodeNumber 4 number.toNat_lt]
  alignment_pos := by decide
  alignment_dvd_size := by decide

instance : LawfulElement Value UInt64 where
  length_encode _ := by simp [Element.encode, Element.size]
  decode_encode number := by
    simp [Element.encode, Element.decode, decodeNumber_encodeNumber 8 number.toNat_lt]
  alignment_pos := by decide
  alignment_dvd_size := by decide

instance : LawfulElement Value (BitVec 128) where
  length_encode _ := by simp [Element.encode, Element.size]
  decode_encode number := by
    simp [Element.encode, Element.decode, decodeNumber_encodeNumber 16 number.isLt]
  alignment_pos := by decide
  alignment_dvd_size := by decide

instance : LawfulElement Value Unit where
  length_encode _ := rfl
  decode_encode _ := rfl
  alignment_pos := by decide
  alignment_dvd_size := by decide

instance : LawfulElement Value ByteTriple where
  length_encode _ := rfl
  decode_encode _ := rfl
  alignment_pos := by decide
  alignment_dvd_size := by decide

instance : LawfulElement Value String where
  length_encode _ := rfl
  decode_encode _ := rfl
  alignment_pos := by decide
  alignment_dvd_size := by decide

instance : LawfulElement Value Wide where
  length_encode block := by
    simp only [Element.encode, Element.size, Cell.ofBytes, List.length_map, block.length_bytes]
  decode_encode block := by
    simp only [Element.encode, Element.decode, Cell.bytes_ofBytes, block.length_bytes, dite_true]
  alignment_pos := by decide
  alignment_dvd_size := by decide

instance : LawfulElement Value Tracked where
  length_encode _ := by simp [Element.encode, Element.size]
  decode_encode mark := by
    simp [Element.encode, Element.decode, decodeNumber_encodeNumber 4 mark.number.toNat_lt]
  alignment_pos := by decide
  alignment_dvd_size := by decide

end Element
end Allotment
