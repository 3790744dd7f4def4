import Allotment.Element.Value
import Allotment.Text.Written

namespace Allotment

inductive ElementKind where
  | word8
  | word16
  | word32
  | word64
  | word128
  | unit
  | triple
  | text
  | wide
  | tracked
  deriving DecidableEq

/-- A value as a request writes it, before its type is known. -/
inductive Literal where
  | nothing
  | number (number : Nat)
  | text (content : String)
  | numbers (numbers : List Nat)

namespace ElementKind

@[reducible] def Carrier : ElementKind → Type
  | word8 => UInt8
  | word16 => UInt16
  | word32 => UInt32
  | word64 => UInt64
  | word128 => BitVec 128
  | unit => Unit
  | triple => ByteTriple
  | text => String
  | wide => Wide
  | tracked => Tracked

instance instElementCarrier : (kind : ElementKind) → Element Value kind.Carrier
  | word8 => inferInstanceAs (Element Value UInt8)
  | word16 => inferInstanceAs (Element Value UInt16)
  | word32 => inferInstanceAs (Element Value UInt32)
  | word64 => inferInstanceAs (Element Value UInt64)
  | word128 => inferInstanceAs (Element Value (BitVec 128))
  | unit => inferInstanceAs (Element Value Unit)
  | triple => inferInstanceAs (Element Value ByteTriple)
  | text => inferInstanceAs (Element Value String)
  | wide => inferInstanceAs (Element Value Wide)
  | tracked => inferInstanceAs (Element Value Tracked)

/-- A value of a kind as a value of any kind. -/
def toValue : (kind : ElementKind) → kind.Carrier → Value
  | word8 => .word8
  | word16 => .word16
  | word32 => .word32
  | word64 => .word64
  | word128 => .word128
  | unit => fun _ => .unit
  | triple => .triple
  | text => .text
  | wide => .wide
  | tracked => .tracked

/-- The number a literal stands for; large numbers may be written as texts. -/
def number? : Literal → Option Nat
  | .number number => some number
  | .text content => content.toNat?
  | _ => none

/-- The value of a kind that a literal stands for. -/
def ofLiteral? : (kind : ElementKind) → Literal → Option kind.Carrier
  | word8, literal => (number? literal).map .ofNat
  | word16, literal => (number? literal).map .ofNat
  | word32, literal => (number? literal).map .ofNat
  | word64, literal => (number? literal).map .ofNat
  | word128, literal => (number? literal).map (.ofNat 128)
  | unit, .nothing => some ()
  | triple, .numbers [first, second, third] => some ⟨.ofNat first, .ofNat second, .ofNat third⟩
  | text, .text content => some content
  | wide, literal => (number? literal).map fun number => .ofByte (.ofNat number)
  | tracked, literal => (number? literal).map fun number => ⟨.ofNat number⟩
  | _, _ => none

end ElementKind

def Value.shown : Value → String
  | word8 number => toString number.toNat
  | word16 number => toString number.toNat
  | word32 number => toString number.toNat
  | word64 number => toString number.toNat
  | word128 number => toString number.toNat
  | unit => "()"
  | triple bytes =>
    Text.list ([bytes.first, bytes.second, bytes.third].map fun byte => toString byte.toNat)
  | text content => Text.quoted content
  | wide block => "Wide(" ++ Text.list (block.bytes.map fun byte => toString byte.toNat) ++ ")"
  | tracked mark => "Tracked(" ++ toString mark.number.toNat ++ ")"

end Allotment
