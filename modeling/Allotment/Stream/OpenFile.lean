import Allotment.Stream.Disk

namespace Allotment

/-- An open file or directory with a cursor of its own. -/
structure OpenFile where
  path : List String
  position : Nat
  writable : Bool
  deriving DecidableEq

inductive Whence where
  | start
  | current
  | ending
  deriving DecidableEq

namespace Disk

/-- Opens what a name leads to, for reading. Only the name of a directory may end in a slash. -/
def openExisting (disk : Disk) (text : String) : Except DiskError OpenFile := do
  let name ← FileName.ofText text
  match ← disk.follow [] name.parts with
  | .passed directory => .ok ⟨directory, 0, false⟩
  | .entry path =>
    match ← disk.find path, name.endsInSlash with
    | .file _, true => .error .notDirectory
    | _, _ => .ok ⟨path, 0, false⟩

/-- Opens an empty file for reading and writing: a new one, or an existing one that loses its
content. A name that ends in a slash is taken for a directory, whatever it leads to. -/
def create (disk : Disk) (text : String) : Except DiskError (OpenFile × Disk) := do
  let name ← FileName.ofText text
  match ← disk.follow [] name.parts, name.endsInSlash with
  | .passed _, _ | .entry _, true => .error .isDirectory
  | .entry path, false =>
    match disk.find path with
    | .ok .directory => .error .isDirectory
    | .ok (.file _) | .error .notFound => .ok (⟨path, 0, true⟩, disk.put path (.file .empty))
    | .error error => .error error

/-- The content of the file a name leads to. -/
def contentOf? (disk : Disk) (text : String) : Option FileContent :=
  match disk.openExisting text with
  | .ok file => disk.content? file.path
  | .error _ => none

end Disk

namespace OpenFile

/-- Reads at most `count` bytes from the cursor on. -/
def read (file : OpenFile) (disk : Disk) (count : Nat) :
    Except DiskError (List (Run UInt8) × OpenFile) :=
  match disk.content? file.path with
  | none => .error .isDirectory
  | some content =>
    let bytes := content.runs file.position count
    .ok (bytes, { file with position := file.position + Run.total bytes })

/-- Reads everything from the cursor on. -/
def readAll (file : OpenFile) (disk : Disk) : Except DiskError (List (Run UInt8) × OpenFile) :=
  match disk.content? file.path with
  | none => .error .isDirectory
  | some content => file.read disk content.size

/-- Writes bytes at the cursor. Writing nothing always succeeds. -/
def write (file : OpenFile) (disk : Disk) (bytes : List UInt8) :
    Except DiskError (OpenFile × Disk) :=
  if bytes.isEmpty then .ok (file, disk)
  else if !file.writable then .error .badDescriptor
  else
    .ok ({ file with position := file.position + bytes.length },
      disk.put file.path
        (.file (((disk.content? file.path).getD .empty).overwrite file.position bytes)))

/-- The positions a cursor can have end here. -/
def positionLimit : Nat := 2 ^ (63 : Nat)

/-- Moves the cursor; it may stand behind the end, but not before the start. -/
def seek (file : OpenFile) (disk : Disk) (whence : Whence) (distance : Int) :
    Except DiskError OpenFile :=
  let origin : Nat := match whence with
    | .start => 0
    | .current => file.position
    | .ending => ((disk.content? file.path).getD .empty).size
  let target := (origin : Int) + distance
  if 0 ≤ target ∧ target < positionLimit then .ok { file with position := target.toNat }
  else .error .invalidArgument

end OpenFile
end Allotment
