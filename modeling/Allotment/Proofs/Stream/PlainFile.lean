import Allotment.Proofs.Stream.Frame

/-! A buffered file behaves as one without a buffer. What the file would hold if nothing were pending is
the file as its user knows it, and every use changes that as if it went to the file at once. -/
namespace Allotment

/-- A file that is written at once: its content, its cursor, and the name it was opened under. -/
structure PlainFile where
  content : List UInt8
  position : Nat
  name : String

namespace PlainFile

/-- The file with bytes written at the cursor. Writing nothing leaves it as it is. -/
def written (file : PlainFile) (bytes : List UInt8) : PlainFile :=
  if bytes = [] then file
  else { file with
    content := overwritten file.content file.position bytes
    position := file.position + bytes.length }

@[simp] theorem written_nil (file : PlainFile) : file.written [] = file := if_pos rfl

private theorem written_append (file : PlainFile) (first second : List UInt8) :
    (file.written first).written second = file.written (first ++ second) := by
  by_cases none : first = []
  · rw [none, written_nil, List.nil_append]
  · by_cases none' : second = []
    · rw [none', written_nil, List.append_nil]
    · have both : first ++ second ≠ [] := fun empty => none (List.append_eq_nil_iff.mp empty).1
      rw [written, written, written, if_neg none, if_neg none', if_neg both]
      simp only [overwritten_append, List.length_append, Nat.add_assoc]

/-- The bytes from the cursor on. -/
def ahead (file : PlainFile) : List UInt8 := file.content.drop file.position

/-- The file with the cursor moved on. -/
def passed (file : PlainFile) (count : Nat) : PlainFile :=
  { file with position := file.position + count }

/-- Where a cursor would be moved to. -/
def target (file : PlainFile) (whence : Whence) (distance : Int) : Int :=
  match whence with
  | .start => distance
  | .current => file.position + distance
  | .ending => file.content.length + distance

end PlainFile

namespace StreamPool
variable {α : Type}

/-- What a use answers and does where it goes to the file at once. -/
def Use.directly : Use α → PlainFile → Except DiskError α × PlainFile
  | path, file => (.ok file.name, file)
  | read count, file => (.ok (file.ahead.take count), file.passed (file.ahead.take count).length)
  | readText, file =>
    match String.fromUTF8? ⟨file.ahead.toArray⟩ with
    | some text => (.ok text, file.passed file.ahead.length)
    | none => (.error .invalidText, file.passed file.ahead.length)
  | write bytes, file => (.ok (), file.written bytes)
  | writePieces pieces, file => (.ok (), pieces.foldl PlainFile.written file)
  | flush, file => (.ok (), file)
  | seek whence distance, file =>
    if 0 ≤ file.target whence distance ∧ file.target whence distance < OpenFile.positionLimit then
      (.ok (file.target whence distance).toNat,
        { file with position := (file.target whence distance).toNat })
    else (.error .invalidArgument, file)

end StreamPool

namespace BufferedFile
variable {α : Type}

/-- The file as it is on the disk. -/
def onDisk (state : BufferedFile × Disk) : PlainFile :=
  ⟨((state.2.content? state.1.file.path).getD .empty).toList, state.1.file.position, state.1.path⟩

/-- The file as it will be once nothing is pending. -/
def plain (state : BufferedFile × Disk) : PlainFile := (onDisk state).written state.1.pending

/-- An open file that may be written and is there. -/
structure Writable (state : BufferedFile × Disk) : Prop where
  writable : state.1.file.writable = true
  present : ∃ content, state.2.content? state.1.file.path = some content

end BufferedFile

namespace BufferedFile
variable {α : Type} {state : BufferedFile × Disk}

private theorem plain_name (state : BufferedFile × Disk) : (plain state).name = state.1.path := by
  rw [plain, PlainFile.written]
  split <;> rfl

theorem plain_of_nothing_pending (none : state.1.pending = []) : plain state = onDisk state := by
  rw [plain, none, PlainFile.written_nil]

private theorem writeThrough_spec (writable : Writable state) (bytes : List UInt8) :
    ∃ after, writeThrough bytes state = (.ok (), after) ∧ Writable after ∧
      after.1.pending = state.1.pending ∧ onDisk after = (onDisk state).written bytes := by
  obtain ⟨⟨⟨path, position, _⟩, pending, name⟩, disk⟩ := state
  obtain ⟨rfl, content, found⟩ := writable
  cases bytes with
  | nil => exact ⟨_, rfl, ⟨rfl, content, found⟩, rfl, rfl⟩
  | cons byte rest =>
    have now := Disk.content?_put disk (Disk.node?_of_content? found)
      (content.overwrite position (byte :: rest))
    have held : disk.content? path = some content := found
    refine ⟨_, rfl, ⟨rfl, content.overwrite position (byte :: rest), ?_⟩, rfl, ?_⟩
    · rw [held, Option.getD_some]
      exact now
    · rw [onDisk, onDisk]
      dsimp only
      rw [held, Option.getD_some, now, Option.getD_some, FileContent.toList_overwrite]
      rfl

theorem flush_spec (writable : Writable state) :
    ∃ after, flush state = (.ok (), after) ∧ Writable after ∧ after.1.pending = [] ∧
      onDisk after = plain state := by
  obtain ⟨after, wrote, ready, _, now⟩ := writeThrough_spec writable state.1.pending
  refine ⟨({ after.1 with pending := [] }, after.2), ?_, ⟨ready.writable, ready.present⟩, rfl, now⟩
  rw [flush, wrote]

/-- The outcome of an operation is the one it has where it goes to the file at once. -/
structure Mirrors (direct : PlainFile → Except DiskError α × PlainFile) (before : PlainFile)
    (outcome : Except DiskError α × (BufferedFile × Disk)) : Prop where
  answer : outcome.1 = (direct before).1
  plain : plain outcome.2 = (direct before).2
  writable : Writable outcome.2

theorem flushed_of_flush {after : BufferedFile × Disk} (done : flush state = (.ok (), after))
    (next : FileStep α) : flushed next state = next after := by
  rw [flushed, done]

theorem mirrors_enqueue (writable : Writable state) (bytes : List UInt8) :
    Mirrors (StreamPool.Use.write bytes).directly (plain state) (enqueue bytes state) :=
  ⟨rfl, (PlainFile.written_append _ _ _).symm, writable.writable, writable.present⟩

theorem mirrors_writeThrough (writable : Writable state) (none : state.1.pending = [])
    (bytes : List UInt8) :
    Mirrors (StreamPool.Use.write bytes).directly (plain state) (writeThrough bytes state) := by
  obtain ⟨after, wrote, ready, kept, now⟩ := writeThrough_spec writable bytes
  rw [wrote]
  refine ⟨rfl, ?_, ready⟩
  rw [plain_of_nothing_pending (kept.trans none), now, plain_of_nothing_pending none]
  rfl

theorem mirrors_write (writable : Writable state) (bytes : List UInt8) :
    Mirrors (StreamPool.Use.write bytes).directly (plain state) (write bytes state) := by
  have kept : ∀ after, Writable after → after.1.pending = [] →
      Mirrors (StreamPool.Use.write bytes).directly (plain after)
        ((if bytes.length < bufferSize then enqueue bytes else writeThrough bytes) after) := by
    intro after ready none
    split
    · exact mirrors_enqueue ready bytes
    · exact mirrors_writeThrough ready none bytes
  rw [write]
  split
  · obtain ⟨after, done, ready, none, now⟩ := flush_spec writable
    rw [flushed_of_flush done, ← now, ← plain_of_nothing_pending none]
    exact kept after ready none
  · next room =>
    by_cases small : bytes.length < bufferSize
    · rw [if_pos small]
      exact mirrors_enqueue writable bytes
    · -- A piece as large as the buffer fits only where nothing waits.
      have positive : 0 < bufferSize := by decide
      have none : state.1.pending = [] := List.eq_nil_of_length_eq_zero (by omega)
      exact kept state writable none

theorem mirrors_writePieces (pieces : List (List UInt8)) (writable : Writable state) :
    Mirrors (StreamPool.Use.writePieces pieces).directly (plain state) (writePieces pieces state) := by
  induction pieces generalizing state with
  | nil => exact ⟨rfl, rfl, writable⟩
  | cons piece rest ih =>
    have first := mirrors_write writable piece
    rcases ran : write piece state with ⟨result, after⟩
    rw [ran] at first
    have done : result = .ok () := first.answer
    have later := ih first.writable
    rw [first.plain] at later
    rw [writePieces, ran, done]
    exact ⟨later.answer, later.plain, later.writable⟩

/-- The same file with the cursor elsewhere. -/
def moved (state : BufferedFile × Disk) (position : Nat) : BufferedFile × Disk :=
  ({ state.1 with file.position := position }, state.2)

theorem mirrors_moved {direct : PlainFile → Except DiskError α × PlainFile}
    (writable : Writable state) (none : state.1.pending = []) {answer : Except DiskError α}
    {position : Nat}
    (same : direct (onDisk state) = (answer, { onDisk state with position := position })) :
    Mirrors direct (onDisk state) (answer, moved state position) := by
  refine ⟨(congrArg Prod.fst same).symm, ?_, writable.writable, writable.present⟩
  have unpending : (moved state position).1.pending = [] := none
  rw [same]
  exact plain_of_nothing_pending unpending

section Reads
variable {after : BufferedFile × Disk} {content : FileContent}

/-- What is read past the buffer is what lies ahead on the disk. -/
theorem values_runs_onDisk (found : after.2.content? after.1.file.path = some content)
    (count : Nat) :
    Run.values (content.runs after.1.file.position count) = (onDisk after).ahead.take count := by
  rw [FileContent.values_runs, onDisk, found]
  rfl

private theorem file_read (found : after.2.content? after.1.file.path = some content) (count : Nat) :
    after.1.file.read after.2 count = .ok (content.runs after.1.file.position count,
      { after.1.file with
        position := after.1.file.position + ((onDisk after).ahead.take count).length }) := by
  rw [OpenFile.read, found, ← values_runs_onDisk found, Run.length_values]

end Reads

theorem mirrors_read (writable : Writable state) (count : Nat) :
    Mirrors (StreamPool.Use.read count).directly (plain state)
      ((StreamPool.Use.read count).operation state) := by
  obtain ⟨after, done, ready, none, now⟩ := flush_spec writable
  obtain ⟨content, found⟩ := ready.present
  have ran : read count state = (.ok (content.runs after.1.file.position count),
      moved after (after.1.file.position + ((onDisk after).ahead.take count).length)) := by
    rw [read, flushed_of_flush done]
    dsimp only
    rw [file_read found]
    rfl
  dsimp only [StreamPool.Use.operation]
  rw [ran, ← now, Except.map, values_runs_onDisk found]
  exact mirrors_moved ready none rfl

theorem mirrors_readText (writable : Writable state) :
    Mirrors StreamPool.Use.readText.directly (plain state) (readText state) := by
  obtain ⟨after, done, ready, none, now⟩ := flush_spec writable
  obtain ⟨content, found⟩ := ready.present
  have length : content.size = (onDisk after).content.length := by
    rw [onDisk, found]
    exact content.length_toList.symm
  have all : (onDisk after).ahead.take content.size = (onDisk after).ahead := by
    rw [length]
    exact List.take_of_length_le (by rw [PlainFile.ahead, List.length_drop]; omega)
  have read : after.1.file.readAll after.2 = .ok (content.runs after.1.file.position content.size,
      { after.1.file with position := after.1.file.position + (onDisk after).ahead.length }) := by
    rw [OpenFile.readAll, found]
    dsimp only
    rw [file_read found, all]
  rw [readText, flushed_of_flush done, ← now]
  dsimp only
  rw [read]
  dsimp only
  rw [values_runs_onDisk found, all]
  cases text : String.fromUTF8? ⟨(onDisk after).ahead.toArray⟩ with
  | some text' =>
    refine mirrors_moved ready none ?_
    rw [StreamPool.Use.directly, text]
    rfl
  | none =>
    refine mirrors_moved ready none ?_
    rw [StreamPool.Use.directly, text]
    rfl

private theorem file_seek (after : BufferedFile × Disk) (whence : Whence) (distance : Int) :
    after.1.file.seek after.2 whence distance =
      if 0 ≤ (onDisk after).target whence distance ∧
          (onDisk after).target whence distance < OpenFile.positionLimit then
        .ok { after.1.file with position := ((onDisk after).target whence distance).toNat }
      else .error .invalidArgument := by
  cases whence with
  | start =>
    have target : ((0 : Nat) : Int) + distance = (onDisk after).target .start distance :=
      Int.zero_add distance
    rw [OpenFile.seek, target]
  | current => rfl
  | ending => simp only [OpenFile.seek, PlainFile.target, onDisk, FileContent.length_toList]

theorem mirrors_seek (writable : Writable state) (whence : Whence) (distance : Int) :
    Mirrors (StreamPool.Use.seek whence distance).directly (plain state)
      (seek whence distance state) := by
  obtain ⟨after, done, ready, none, now⟩ := flush_spec writable
  rw [seek, flushed_of_flush done, ← now]
  dsimp only
  rw [file_seek]
  by_cases inside : 0 ≤ (onDisk after).target whence distance ∧
      (onDisk after).target whence distance < OpenFile.positionLimit
  · rw [if_pos inside]
    refine mirrors_moved ready none ?_
    rw [StreamPool.Use.directly, if_pos inside]
  · rw [if_neg inside]
    refine mirrors_moved ready none ?_
    rw [StreamPool.Use.directly, if_neg inside]
    rfl

/-- Whatever is asked of a file that may be written, the buffer does not show. -/
theorem mirrors_use (writable : Writable state) (asked : StreamPool.Use α) :
    Mirrors asked.directly (plain state) (asked.operation state) := by
  cases asked with
  | path => exact ⟨congrArg Except.ok (plain_name state).symm, rfl, writable⟩
  | read count => exact mirrors_read writable count
  | readText => exact mirrors_readText writable
  | write bytes => exact mirrors_write writable bytes
  | writePieces pieces => exact mirrors_writePieces pieces writable
  | flush =>
    obtain ⟨after, done, ready, none, now⟩ := flush_spec writable
    have ran : StreamPool.Use.flush.operation state = (.ok (), after) := done
    rw [ran]
    exact ⟨rfl, (plain_of_nothing_pending none).trans now, ready⟩
  | seek whence distance => exact mirrors_seek writable whence distance

end BufferedFile
end Allotment
