import Allotment.Text.Printable

/-! The written form of records, options, lists and texts in diagnostics: `Name { field: value }`,
`Some(value)` or `None`, `[first, second]`, and texts between double quotes. There quotes and backslashes
are marked with a backslash, the common control characters have short forms, and characters that would
not show are written by code point. -/
namespace Allotment.Text

/-- A record with its fields in order. A record that shows only part of its fields ends in two
dots. -/
def record (name : String) (fields : List (String × String)) (partOnly : Bool) : String :=
  let shown := fields.map fun field => field.1 ++ ": " ++ field.2
  name ++ " \x7b " ++ ", ".intercalate (if partOnly then shown ++ [".."] else shown) ++ " \x7d"

def optional : Option String → String
  | none => "None"
  | some text => "Some(" ++ text ++ ")"

def list (items : List String) : String := "[" ++ ", ".intercalate items ++ "]"

def truth (value : Bool) : String := if value then "true" else "false"

/-- The code point form of a character. -/
def codePoint (c : Char) : List Char :=
  ['\\', 'u', '{'] ++ Nat.toDigits 16 c.toNat ++ ['}']

/-- The form of a character between double quotes. A single quote stands for itself. -/
def quotedChar (c : Char) : List Char :=
  if c = '\x00' then ['\\', '0']
  else if c = '\t' then ['\\', 't']
  else if c = '\r' then ['\\', 'r']
  else if c = '\n' then ['\\', 'n']
  else if c = '\\' then ['\\', '\\']
  else if c = '"' then ['\\', '"']
  else if isJoining c then codePoint c
  else if isPrintable c then [c]
  else codePoint c

def quoted (text : String) : String :=
  String.ofList (['"'] ++ text.toList.flatMap quotedChar ++ ['"'])

end Allotment.Text
