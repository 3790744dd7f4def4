import Allotment.Stream.OpenFile
import Allotment.Element.Basic
import Allotment.Text.Written

/-! An open file with a write buffer. Writes collect in the buffer and reach the file when the
buffer is flushed; everything that looks at the file or moves the cursor flushes first. A failed
flush keeps the buffer. -/
namespace Allotment

/-- An open file, the bytes that wait to be written, and the name it was opened under. -/
structure BufferedFile where
  file : OpenFile
  pending : List UInt8
  path : String
  deriving DecidableEq

/-- An operation on an open file and the disk it is on. What it changed stays changed when it
fails. -/
abbrev FileStep (α : Type) := BufferedFile × Disk → Except DiskError α × (BufferedFile × Disk)

namespace BufferedFile

def bufferSize : Nat := 8192

def ofFile (file : OpenFile) (path : String) : BufferedFile := ⟨file, [], path⟩

/-- Writes bytes to the file, past the buffer. -/
def writeThrough (bytes : List UInt8) : FileStep Unit := fun (stream, disk) =>
  match stream.file.write disk bytes with
  | .error error => (.error error, (stream, disk))
  | .ok (file, written) => (.ok (), ({ stream with file := file }, written))

def flush : FileStep Unit := fun state =>
  match writeThrough state.1.pending state with
  | (.error error, after) => (.error error, after)
  | (.ok (), stream, disk) => (.ok (), ({ stream with pending := [] }, disk))

/-- Flushes, then goes on. -/
def flushed {α : Type} (next : FileStep α) : FileStep α := fun state =>
  match flush state with
  | (.error error, after) => (.error error, after)
  | (.ok (), after) => next after

/-- Puts bytes at the end of the buffer. -/
def enqueue (bytes : List UInt8) : FileStep Unit := fun (stream, disk) =>
  (.ok (), ({ stream with pending := stream.pending ++ bytes }, disk))

/-- Writes bytes: more than the buffer has room for flush it first, and a piece as large as the
buffer goes straight to the file. -/
def write (bytes : List UInt8) : FileStep Unit := fun state =>
  let keep := if bytes.length < bufferSize then enqueue bytes else writeThrough bytes
  if bufferSize - state.1.pending.length < bytes.length then flushed keep state else keep state

/-- Writes several pieces, one after another, up to the first that fails. -/
def writePieces : List (List UInt8) → FileStep Unit
  | [], state => (.ok (), state)
  | piece :: rest, state =>
    match write piece state with
    | (.error error, after) => (.error error, after)
    | (.ok (), after) => writePieces rest after

def read (count : Nat) : FileStep (List (Run UInt8)) := flushed fun (stream, disk) =>
  match stream.file.read disk count with
  | .error error => (.error error, (stream, disk))
  | .ok (bytes, file) => (.ok bytes, ({ stream with file := file }, disk))

/-- Reads everything from the cursor on as text. Bytes that are no text are read all the same. -/
def readText : FileStep String := flushed fun (stream, disk) =>
  match stream.file.readAll disk with
  | .error error => (.error error, (stream, disk))
  | .ok (bytes, file) =>
    let after := ({ stream with file := file }, disk)
    match String.fromUTF8? ⟨(Run.values bytes).toArray⟩ with
    | some text => (.ok text, after)
    | none => (.error .invalidText, after)

/-- Moves the cursor and answers where it stands. -/
def seek (whence : Whence) (distance : Int) : FileStep Nat := flushed fun (stream, disk) =>
  match stream.file.seek disk whence distance with
  | .error error => (.error error, (stream, disk))
  | .ok file => (.ok file.position, ({ stream with file := file }, disk))

/-- What destroying an open file leaves on the disk: it tries to flush. -/
def closeOn (stream : BufferedFile) (disk : Disk) : Disk := (flush (stream, disk)).2.2

def text (stream : BufferedFile) : String :=
  Text.record "BufStream"
    [("path", Text.quoted stream.path), ("buffered", toString stream.pending.length)] false

end BufferedFile

instance : Element BufferedFile BufferedFile where
  size := 56
  alignment := 8
  hasUnusedContent := true
  encode stream := (List.range 56).map (.part stream)
  decode
    | .part stream _ :: _ => stream
    | _ => ⟨⟨[], 0, false⟩, [], ""⟩
  destructors stream := [stream]

instance : LawfulElement BufferedFile BufferedFile where
  length_encode _ := rfl
  decode_encode _ := rfl
  alignment_pos := by decide
  alignment_dvd_size := by decide

end Allotment
