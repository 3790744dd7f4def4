import Mathlib.Tactic.ByContra
import Allotment.Proofs.Stream.Refusal

/-! What becomes of bytes written to a stream that was opened for reading. The buffer takes them and
answers that it did; they never reach the disk. Since a flush that fails keeps the buffer, whatever
flushes first fails from then on, and so does the close: no such byte is lost without an error. -/
namespace Allotment

private theorem Disk.writable_of_openExisting {disk : Disk} {name : String} {file : OpenFile}
    (found : disk.openExisting name = .ok file) : file.writable = false := by
  unfold openExisting at found
  dsimp only [bind, Except.bind] at found
  split at found
  · cases found
  · split at found
    · cases found
    · split at found
      · cases found
        rfl
      · split at found
        · cases found
        · split at found <;> cases found
          rfl

namespace BufferedFile
variable {α ε : Type} {state after last : BufferedFile × Disk}

/-- The bytes of a write that was answered to be done. -/
def acknowledged (bytes : List UInt8) : Except ε α → List UInt8
  | .ok _ => bytes
  | .error _ => []

/-- Nothing reached the disk and the file may still be written or not, as before; all that waited for
it still waits, and `taken` behind it. -/
structure Withholds (taken : List UInt8) (before after : BufferedFile × Disk) : Prop where
  disk : after.2 = before.2
  writable : after.1.file.writable = before.1.file.writable
  pending : (before.1.pending ++ taken).Sublist after.1.pending

namespace Withholds
variable {first second taken : List UInt8}

theorem refl (state : BufferedFile × Disk) : Withholds [] state state :=
  ⟨rfl, rfl, by rw [List.append_nil]⟩

theorem trans (early : Withholds first state after) (late : Withholds second after last) :
    Withholds (first ++ second) state last := by
  refine ⟨late.disk.trans early.disk, late.writable.trans early.writable, ?_⟩
  rw [← List.append_assoc]
  exact (early.pending.append_right second).trans late.pending

theorem weaken (withholds : Withholds taken state after) : Withholds [] state after := by
  refine ⟨withholds.disk, withholds.writable, ?_⟩
  rw [List.append_nil]
  exact (List.sublist_append_left _ taken).trans withholds.pending

end Withholds

section ReadOnly
variable (readOnly : state.1.file.writable = false)
include readOnly

private theorem writeThrough_of_readOnly (bytes : List UInt8) :
    writeThrough bytes state = (if bytes.isEmpty then .ok () else .error .badDescriptor, state) := by
  obtain ⟨stream, disk⟩ := state
  rw [writeThrough, OpenFile.write, show stream.file.writable = false from readOnly]
  cases bytes.isEmpty <;> rfl

theorem flush_of_readOnly :
    flush state = (if state.1.pending.isEmpty then .ok () else .error .badDescriptor, state) := by
  rw [flush, writeThrough_of_readOnly readOnly]
  obtain ⟨⟨file, pending, path⟩, disk⟩ := state
  cases pending <;> rfl

theorem flushed_of_readOnly (next : FileStep α) :
    flushed next state =
      if state.1.pending.isEmpty then next state else (.error .badDescriptor, state) := by
  rw [flushed, flush_of_readOnly readOnly]
  cases state.1.pending.isEmpty <;> rfl

/-- A write is taken if it fits into the buffer beside what waits there, and fails otherwise. -/
private theorem write_of_readOnly (bytes : List UInt8) :
    write bytes state =
      if bytes.length < bufferSize ∧ bytes.length ≤ bufferSize - state.1.pending.length then
        enqueue bytes state
      else (.error .badDescriptor, state) := by
  rw [write]
  by_cases fits : bytes.length < bufferSize ∧ bytes.length ≤ bufferSize - state.1.pending.length
  · rw [if_pos fits.1, if_neg (Nat.not_lt.mpr fits.2), if_pos fits]
  · rw [if_neg fits]
    by_cases small : bytes.length < bufferSize
    · have tight : bufferSize - state.1.pending.length < bytes.length :=
        Nat.not_le.mp fun room => fits ⟨small, room⟩
      have waiting : state.1.pending.isEmpty = false := by
        rw [List.isEmpty_eq_false_iff]
        intro nothing
        rw [nothing, List.length_nil, Nat.sub_zero] at tight
        exact Nat.lt_asymm small tight
      rw [if_pos tight, flushed_of_readOnly readOnly, waiting, if_neg Bool.false_ne_true]
    · have large : bytes.isEmpty = false := by
        rw [List.isEmpty_eq_false_iff]
        rintro rfl
        exact small (by decide)
      have through := writeThrough_of_readOnly readOnly bytes
      rw [large, if_neg Bool.false_ne_true] at through
      rw [if_neg small]
      split
      · rw [flushed_of_readOnly readOnly, through, ite_self]
      · exact through

theorem withholds_write (bytes : List UInt8) :
    Withholds (acknowledged bytes (write bytes state).1) state (write bytes state).2 := by
  rw [write_of_readOnly readOnly]
  split
  · exact ⟨rfl, rfl, .refl _⟩
  · exact .refl state

theorem withholds_flush : Withholds [] state (flush state).2 := by
  rw [flush_of_readOnly readOnly]
  exact .refl state

theorem withholds_flushed {next : FileStep α} (looks : ∀ state, Withholds [] state (next state).2) :
    Withholds [] state (flushed next state).2 := by
  rw [flushed_of_readOnly readOnly]
  split
  · exact looks state
  · exact .refl state

end ReadOnly

/-- Of several pieces up to the first that does not fit all are taken, and acknowledged only if that is
every one. -/
theorem withholds_writePieces (readOnly : state.1.file.writable = false)
    (pieces : List (List UInt8)) :
    Withholds (acknowledged pieces.flatten (writePieces pieces state).1) state
      (writePieces pieces state).2 := by
  induction pieces generalizing state with
  | nil => exact .refl state
  | cons piece rest ih =>
    have first := withholds_write readOnly piece
    rw [writePieces]
    rcases ran : write piece state with ⟨error | _, after⟩ <;> rw [ran] at first
    · exact first
    · have both := first.trans (ih (first.writable.trans readOnly))
      change Withholds (acknowledged _ (writePieces rest after).1) state (writePieces rest after).2
      rcases rested : writePieces rest after with ⟨error | _, last⟩ <;> rw [rested] at both
      · exact both.weaken
      · exact both

theorem withholds_read (readOnly : state.1.file.writable = false) (count : Nat) :
    Withholds [] state (read count state).2 := by
  refine withholds_flushed readOnly fun state => ?_
  obtain ⟨stream, disk⟩ := state
  dsimp only
  rw [OpenFile.read]
  cases disk.content? stream.file.path with
  | none => exact .refl _
  | some content => exact ⟨rfl, rfl, (Withholds.refl (stream, disk)).pending⟩

theorem withholds_readText (readOnly : state.1.file.writable = false) :
    Withholds [] state (readText state).2 := by
  refine withholds_flushed readOnly fun state => ?_
  obtain ⟨stream, disk⟩ := state
  dsimp only
  rw [OpenFile.readAll]
  cases found : disk.content? stream.file.path with
  | none => exact .refl _
  | some content =>
    dsimp only
    rw [OpenFile.read, found]
    dsimp only
    split <;> exact ⟨rfl, rfl, (Withholds.refl (stream, disk)).pending⟩

theorem withholds_seek (readOnly : state.1.file.writable = false) (whence : Whence)
    (distance : Int) : Withholds [] state (seek whence distance state).2 := by
  refine withholds_flushed readOnly fun state => ?_
  obtain ⟨stream, disk⟩ := state
  dsimp only
  cases sought : stream.file.seek disk whence distance with
  | error error => exact .refl _
  | ok moved => exact ⟨rfl, (seek_eq sought).2, (Withholds.refl (stream, disk)).pending⟩

end BufferedFile

namespace StreamPool
variable {α : Type}

namespace Use

/-- The bytes that the answer to a use says were written. -/
def acknowledged : Use α → Answer α → List UInt8
  | write bytes, .ok result => BufferedFile.acknowledged bytes result
  | writePieces pieces, .ok result => BufferedFile.acknowledged pieces.flatten result
  | _, _ => []

/-- The uses that need the buffer empty. -/
def Flushes : Use α → Prop
  | read _ | readText | flush | seek _ _ => True
  | path | write _ | writePieces _ => False

end Use
end StreamPool

namespace BufferedFile
variable {α : Type} {state : BufferedFile × Disk} (readOnly : state.1.file.writable = false)
include readOnly

theorem withholds_use (asked : StreamPool.Use α) :
    Withholds (asked.acknowledged (.ok ((asked.operation state).1.mapError .disk))) state
      (asked.operation state).2 := by
  have mapped (bytes : List UInt8) (result : Except DiskError Unit) :
      acknowledged bytes (result.mapError StreamError.disk) = acknowledged bytes result := by
    cases result <;> rfl
  cases asked with
  | path => exact .refl state
  | read count => exact withholds_read readOnly count
  | readText => exact withholds_readText readOnly
  | write bytes =>
    rw [StreamPool.Use.acknowledged, mapped]
    exact withholds_write readOnly bytes
  | writePieces pieces =>
    rw [StreamPool.Use.acknowledged, mapped]
    exact withholds_writePieces readOnly pieces
  | flush => exact withholds_flush readOnly
  | seek whence distance => exact withholds_seek readOnly whence distance

/-- As long as bytes wait, whatever needs the buffer empty fails and changes nothing. -/
private theorem operation_of_waiting (waiting : state.1.pending ≠ []) {asked : StreamPool.Use α}
    (flushes : asked.Flushes) : asked.operation state = (.error .badDescriptor, state) := by
  have pending : state.1.pending.isEmpty = false := List.isEmpty_eq_false_iff.mpr waiting
  have stops {β : Type} (next : FileStep β) : flushed next state = (.error .badDescriptor, state) := by
    rw [flushed_of_readOnly readOnly, pending, if_neg Bool.false_ne_true]
  cases asked with
  | read count =>
    have stopped : BufferedFile.read count state = (.error .badDescriptor, state) := stops _
    change (Except.map Run.values (BufferedFile.read count state).1,
      (BufferedFile.read count state).2) = _
    rw [stopped]
    rfl
  | readText => exact stops _
  | flush =>
    rw [StreamPool.Use.operation, flush_of_readOnly readOnly, pending, if_neg Bool.false_ne_true]
  | seek whence distance => exact stops _
  | path => cases flushes
  | write bytes => cases flushes
  | writePieces pieces => cases flushes

end BufferedFile

namespace StreamPool
open Allocator Custody
variable {α σ : Type} [Allocator BufferedFile σ] [Custody σ] [LawfulAllocator BufferedFile σ]
  {state after : StreamPool σ} {table : SlotTable BufferedFile} {id : ResourceId}
  {acknowledged : List UInt8} {closed : Bool}

/-- What a call through none of its copies leaves of a stream is all, unless it opens one under the same
identifier. -/
private theorem Transition.get?_of_apart {call : Call α} {answer : Answer α}
    (moved : Transition state table call answer after) (represents : state.Represents table)
    (apart : call.stream? ≠ some id) (fresh : table.get? id = none → id ∉ call.issued answer) :
    ∃ table', after.Represents table' ∧ table'.get? id = table.get? id := by
  cases moved with
  | opened issued unsaid opens inserted placed =>
    rename_i file name id' larger
    have new : id ≠ id' := by
      rintro rfl
      have member := fresh (inserted.vacant represents.valid)
      rw [issued] at member
      exact member List.mem_cons_self
    exact ⟨larger, placed, by rw [inserted.get?_eq represents.valid, if_neg new]⟩
  | kept _ _ _ _ kept => exact ⟨table, kept, rfl⟩
  | closed => exact ⟨table, represents, rfl⟩
  | used live =>
    have distinct := fun same => apart (congrArg some same)
    exact ⟨_, represents.stored live _, by
      rw [SlotTable.get?_overwritten live, if_neg (Ne.symm distinct)]⟩
  | freed live =>
    have distinct := fun same => apart (congrArg some same)
    exact ⟨_, represents.freed live, by
      rw [SlotTable.get?_removed live, if_neg (Ne.symm distinct)]⟩

/-- Until it is closed the stream has a file that may not be written, and what was acknowledged waits in
its buffer. Whether it is closed is the last argument. -/
inductive Withheld (table : SlotTable BufferedFile) (id : ResourceId) (acknowledged : List UInt8) :
    Bool → Prop where
  | opened {stream : BufferedFile} (live : table.get? id = some stream)
      (readOnly : stream.file.writable = false)
      (waiting : acknowledged.Sublist stream.pending) : Withheld table id acknowledged false
  | closed (dead : table.get? id = none) : Withheld table id acknowledged true

namespace Withheld

theorem congr (withheld : Withheld table id acknowledged closed) {table' : SlotTable BufferedFile}
    (same : table'.get? id = table.get? id) : Withheld table' id acknowledged closed := by
  cases withheld with
  | opened live readOnly waiting => exact .opened (same.trans live) readOnly waiting
  | closed dead => exact .closed (same.trans dead)

/-- Only a stream that is closed may be missing from the table. -/
private theorem closed_of_dead (withheld : Withheld table id acknowledged closed)
    (dead : table.get? id = none) : closed = true := by
  cases withheld with
  | opened live =>
    rw [dead] at live
    cases live
  | closed => rfl

private theorem of_opened {name : String} (represents : state.Represents table)
    (answered : ((Call.openExisting name).operation.run state).result = .ok (.ok id)) :
    ∃ table', ((Call.openExisting name).operation.run state).state.Represents table' ∧
      Withheld table' id [] false := by
  have permitted : (Call.openExisting name).Permitted state [] := trivial
  have issued : (Call.openExisting name).issued
      ((Call.openExisting name).operation.run state).result = [id] := by
    rw [answered]
    rfl
  obtain ⟨file, name', larger, opens, inserted, placed⟩ :=
    (transition represents permitted).of_issued issued
  rw [Call.opens?] at opens
  split at opens
  · next found =>
    obtain ⟨rfl, rest⟩ := Prod.mk.inj (Option.some.inj opens)
    have live := inserted.get?_eq represents.valid id
    rw [if_pos rfl] at live
    exact ⟨larger, placed, .opened live (Disk.writable_of_openExisting found) (.refl [])⟩
  · cases opens

/-- A use may add to what waits; it takes nothing from it, and nothing gets to the disk. -/
theorem used (represents : state.Represents table) (withheld : Withheld table id acknowledged closed)
    (asked : Use α) :
    ((Call.use id asked).operation.run state).state.disk = state.disk ∧
      ∃ table', ((Call.use id asked).operation.run state).state.Represents table' ∧
        Withheld table' id
          (acknowledged ++ asked.acknowledged ((Call.use id asked).operation.run state).result)
          closed := by
  have found := represents.file?_eq id
  cases withheld with
  | opened live readOnly waiting =>
    rename_i stream
    have readOnly' : (stream, state.disk).1.file.writable = false := readOnly
    have withholds := BufferedFile.withholds_use readOnly' asked
    rw [Call.operation, run_onFile_of_open (found.trans live)]
    refine ⟨withholds.disk, _, represents.stored live _, .opened ?_
      (withholds.writable.trans readOnly) ((waiting.append_right _).trans withholds.pending)⟩
    rw [SlotTable.get?_overwritten live, if_pos rfl]
  | closed dead =>
    rw [Call.operation, run_onFile_of_closed (found.trans dead)]
    exact ⟨rfl, table, represents, .closed dead⟩

/-- The close fails if bytes wait. They go with the buffer, and nothing gets to the disk. -/
theorem close (represents : state.Represents table)
    (withheld : Withheld table id acknowledged closed) :
    ((StreamPool.close id).run state).state.disk = state.disk ∧
      ∃ table', ((StreamPool.close id).run state).state.Represents table' ∧
        Withheld table' id acknowledged true := by
  have found := represents.file?_eq id
  cases withheld with
  | opened live readOnly waiting =>
    rename_i stream
    have readOnly' : (stream, state.disk).1.file.writable = false := readOnly
    have flushed := BufferedFile.flush_of_readOnly readOnly'
    have unchanged : (state.freed id stream).disk = state.disk := by
      change (BufferedFile.flush (BufferedFile.flush (stream, state.disk)).2).2.2 = state.disk
      rw [flushed, flushed]
    rw [(run_close_of_open (found.trans live)).2]
    refine ⟨unchanged, _, represents.freed live, .closed ?_⟩
    rw [SlotTable.get?_removed live, if_pos rfl]
  | closed dead =>
    rw [run_close_of_closed (found.trans dead)]
    exact ⟨rfl, table, represents, .closed dead⟩

end Withheld

/-- The runs of a stream that was opened for reading: the bytes that its writes were answered to be done
with, in order, and whether it was closed. Other streams are opened, used and closed in between, files
are taken out of the pool, and others change the disk and use the allocator. -/
inductive Lent (id : ResourceId) : StreamPool σ → List UInt8 → Bool → Prop where
  | opened {state : StreamPool σ} (reached : state.Reached) (name : String)
      (answered : ((Call.openExisting name).operation.run state).result = .ok (.ok id)) :
      Lent id ((Call.openExisting name).operation.run state).state [] false
  | used {state : StreamPool σ} {acknowledged : List UInt8} {closed : Bool} {α : Type}
      (lent : Lent id state acknowledged closed) (asked : Use α) :
      Lent id ((Call.use id asked).operation.run state).state
        (acknowledged ++ asked.acknowledged ((Call.use id asked).operation.run state).result) closed
  | closed {state : StreamPool σ} {acknowledged : List UInt8} {closed : Bool}
      (lent : Lent id state acknowledged closed) :
      Lent id ((close id).run state).state acknowledged true
  /-- Any other call. Once the stream is closed its identifier does not come back here. -/
  | called {state : StreamPool σ} {acknowledged : List UInt8} {closed : Bool} {α : Type}
      (lent : Lent id state acknowledged closed) (call : Call α) (streams : List ResourceId)
      (permitted : call.Permitted state streams) (apart : call.stream? ≠ some id)
      (fresh : closed = true → id ∉ call.issued (call.operation.run state).result) :
      Lent id (call.operation.run state).state acknowledged closed
  | evicted {state : StreamPool σ} {acknowledged : List UInt8} {closed : Bool}
      (lent : Lent id state acknowledged closed) {other : ResourceId} (distinct : other ≠ id) :
      Lent id ((evict other).run state).state acknowledged closed
  | freed {state : StreamPool σ} {acknowledged : List UInt8} {closed : Bool}
      (lent : Lent id state acknowledged closed) {other : ResourceId} (distinct : other ≠ id) :
      Lent id ((free other).run state).state acknowledged closed
  | elsewhere {state : StreamPool σ} {acknowledged : List UInt8} {closed : Bool}
      (lent : Lent id state acknowledged closed) (disk : Disk) :
      Lent id { state with disk := disk } acknowledged closed
  | disturbed {state : StreamPool σ} {acknowledged : List UInt8} {closed : Bool} {host : σ}
      (lent : Lent id state acknowledged closed) (spared : state.SparedBy host) :
      Lent id { state with host := host } acknowledged closed

namespace Lent

theorem withheld (lent : Lent id state acknowledged closed) :
    ∃ table, state.Represents table ∧ Withheld table id acknowledged closed := by
  induction lent with
  | opened reached name answered =>
    obtain ⟨table, represents⟩ := reached.represents
    exact Withheld.of_opened represents answered
  | used _ asked ih =>
    obtain ⟨table, represents, withheld⟩ := ih
    exact (withheld.used represents asked).2
  | closed _ ih =>
    obtain ⟨table, represents, withheld⟩ := ih
    exact (withheld.close represents).2
  | called _ call streams permitted apart fresh ih =>
    obtain ⟨table, represents, withheld⟩ := ih
    obtain ⟨table', kept, same⟩ := (transition represents permitted).get?_of_apart represents apart
      fun dead => fresh (withheld.closed_of_dead dead)
    exact ⟨table', kept, withheld.congr same⟩
  | evicted _ distinct ih =>
    obtain ⟨table, represents, withheld⟩ := ih
    obtain ⟨fewer, kept, same⟩ := represents.evict _
    exact ⟨fewer, kept, withheld.congr (same id distinct.symm)⟩
  | freed _ distinct ih =>
    obtain ⟨table, represents, withheld⟩ := ih
    obtain ⟨fewer, kept, same⟩ := represents.free _
    exact ⟨fewer, kept, withheld.congr (same id distinct.symm)⟩
  | elsewhere _ disk ih =>
    obtain ⟨table, represents, withheld⟩ := ih
    exact ⟨table, ⟨represents.pool, represents.valid⟩, withheld⟩
  | disturbed _ spared ih =>
    obtain ⟨table, represents, withheld⟩ := ih
    exact ⟨table, represents.disturbed spared, withheld⟩

/-- Once a write to a stream that was opened for reading was answered to be done, whatever needs the buffer
empty fails, the close included, so a close that finds nothing wrong lost nothing. The disk stays as it is. -/
theorem no_write_lost_silently (lent : Lent id state acknowledged closed) :
    (∀ {α : Type} (call : Call α), call.stream? = some id →
      (call.operation.run state).state.disk = state.disk) ∧
    (closed = false →
      (acknowledged ≠ [] →
        (∀ {α : Type} (asked : Use α), asked.Flushes →
          ((Call.use id asked).operation.run state).result =
            .ok (.error (.disk .badDescriptor))) ∧
        ((close id).run state).result = .ok (.error (.disk .badDescriptor))) ∧
      (((close id).run state).result = .ok (.ok ()) → acknowledged = []) ∧
      ((close id).run state).state.isOpen id = false ∧
      ((close id).run state).state.shared.pool.freeHead = some id.index ∧
      ((close id).run state).state.shared.pool.length + 1 = state.shared.pool.length) ∧
    (closed = true → ∀ {α : Type} (call : Call α), call.stream? = some id →
      call.operation.run state = ⟨.ok (.error (.closed id)), state, []⟩) := by
  obtain ⟨table, represents, withheld⟩ := lent.withheld
  refine ⟨?_, ?_, ?_⟩
  · intro α call through
    cases call with
    | use id' asked =>
      cases through
      exact (withheld.used represents asked).1
    | close id' =>
      cases through
      exact (withheld.close represents).1
    | _ => cases through
  · rintro rfl
    cases withheld with
    | opened live readOnly waiting =>
      rename_i stream
      have found := (represents.file?_eq id).trans live
      have fails (some : acknowledged ≠ []) {α : Type} (asked : Use α) (flushes : asked.Flushes) :
          asked.operation (stream, state.disk) = (.error .badDescriptor, (stream, state.disk)) := by
        refine BufferedFile.operation_of_waiting readOnly ?_ flushes
        rintro nothing
        have pending : stream.pending = [] := nothing
        rw [pending] at waiting
        exact some (List.sublist_nil.mp waiting)
      have closes (some : acknowledged ≠ []) :
          ((StreamPool.close id).run state).result = .ok (.error (.disk .badDescriptor)) := by
        have flushed := fails some .flush trivial
        rw [Use.operation] at flushed
        rw [(run_close_of_open found).1, flushed]
        rfl
      obtain ⟨free, head, length, _⟩ := represents.slot_freed found
      rw [(run_close_of_open found).2]
      refine ⟨fun some => ⟨?_, closes some⟩, ?_, free, head, length⟩
      · intro α asked flushes
        rw [Call.operation, run_onFile_of_open found, fails some asked flushes]
        rfl
      · intro succeeded
        by_contra some
        rw [closes some] at succeeded
        cases succeeded
  · rintro rfl α call through
    cases withheld with
    | closed dead =>
      have found := (represents.file?_eq id).trans dead
      cases call with
      | use id' asked =>
        cases through
        exact run_onFile_of_closed found asked.operation
      | close id' =>
        cases through
        exact run_close_of_closed found
      | _ => cases through

/-- A file of one byte was opened for reading, and another file made in the same pool. -/
def twoKinds : StreamPool (Heap BufferedFile) :=
  ((Call.openNew "b").operation.run
    ((Call.openExisting "a").operation.run
      (.empty (Heap.empty false) ⟨[(["a"], .file (.ofList [7]))]⟩)).state).state

/-- Nothing and three bytes were written to the stream, and both times it was answered to be done. -/
def threeWaiting : StreamPool (Heap BufferedFile) :=
  ((Call.use ⟨0, 0⟩ (.write [1, 2, 3])).operation.run
    ((Call.use ⟨0, 0⟩ (.write [])).operation.run twoKinds).state).state

/-- Three bytes wait that cannot be written: nothing can be read before the close, the close fails and
frees the slot, and the file has the byte it had. -/
theorem no_write_lost_silently_of_three_bytes :
    Lent ⟨0, 0⟩ threeWaiting [1, 2, 3] false ∧
      ((Call.use ⟨0, 0⟩ (.read 5)).operation.run threeWaiting).result =
        .ok (.error (.disk .badDescriptor)) ∧
      ((close ⟨0, 0⟩).run threeWaiting).result = .ok (.error (.disk .badDescriptor)) ∧
      ((close ⟨0, 0⟩).run threeWaiting).state.isOpen ⟨0, 0⟩ = false ∧
      (((close ⟨0, 0⟩).run threeWaiting).state.disk.content? ["a"]).map FileContent.toList =
        some [7] := by
  have answered : ((Call.openExisting "a").operation.run
      (.empty (Heap.empty false) ⟨[(["a"], .file (.ofList [7]))]⟩)).result = .ok (.ok ⟨0, 0⟩) := by
    decide +kernel
  have opened := Lent.opened (.standard (Heap.Orderly.empty false) _) "a" answered
  have other : Lent ⟨0, 0⟩ twoKinds [] false :=
    opened.called (.openNew "b") [] trivial (Option.some_ne_none _).symm
      fun ended => absurd ended Bool.false_ne_true
  have lent : Lent ⟨0, 0⟩ threeWaiting _ false :=
    (other.used (.write [])).used (.write [1, 2, 3])
  have log : ((Use.write []).acknowledged ((Call.use ⟨0, 0⟩ (.write [])).operation.run twoKinds).result,
      ((Call.use ⟨0, 0⟩ (.write [1, 2, 3])).operation.run
        ((Call.use ⟨0, 0⟩ (.write [])).operation.run twoKinds).state).result,
      (threeWaiting.disk.content? ["a"]).map FileContent.toList) =
        ([], .ok (.ok ()), some [7]) := by decide +kernel
  obtain ⟨nothing, later⟩ := Prod.mk.inj log
  obtain ⟨taken, content⟩ := Prod.mk.inj later
  rw [nothing, taken] at lent
  obtain ⟨still, waiting, _⟩ := lent.no_write_lost_silently
  obtain ⟨fails, _, free, _⟩ := waiting rfl
  obtain ⟨refused, closes⟩ := fails (List.cons_ne_nil _ _)
  have same := still (.close ⟨0, 0⟩) rfl
  dsimp only [Call.operation] at same
  refine ⟨lent, refused (.read 5) trivial, closes, free, ?_⟩
  rw [same, content]

end Lent

end StreamPool
end Allotment
