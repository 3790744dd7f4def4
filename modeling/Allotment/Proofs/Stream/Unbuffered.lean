import Allotment.Proofs.Stream.PlainFile

namespace Allotment.StreamPool
open Allocator Custody
variable {α σ : Type} [Allocator BufferedFile σ] [Custody σ]

/-- The stream is open, and alone on a file that it may write; with what is pending in it the file is
`plain`. -/
structure Alone (state : StreamPool σ) (table : SlotTable BufferedFile) (id : ResourceId)
    (stream : BufferedFile) (plain : PlainFile) : Prop where
  represents : state.Represents table
  live : table.get? id = some stream
  writable : BufferedFile.Writable (stream, state.disk)
  shown : BufferedFile.plain (stream, state.disk) = plain
  alone : ∀ other stream', other ≠ id → table.get? other = some stream' →
    stream'.file.path ≠ stream.file.path

namespace Alone
variable [LawfulAllocator BufferedFile σ] {state after : StreamPool σ}
  {table larger : SlotTable BufferedFile} {id : ResourceId}
  {stream : BufferedFile} {plain : PlainFile}

omit [LawfulAllocator BufferedFile σ] in
/-- Only what happens to the stream, to its file, or on its file matters. -/
theorem undisturbed (alone : state.Alone table id stream plain) (represents : after.Represents larger)
    (live : larger.get? id = some stream)
    (content : after.disk.content? stream.file.path = state.disk.content? stream.file.path)
    (others : ∀ other stream', other ≠ id → larger.get? other = some stream' →
      stream'.file.path ≠ stream.file.path) : after.Alone larger id stream plain := by
  obtain ⟨held, found⟩ := alone.writable.present
  have same : BufferedFile.plain (stream, after.disk) = BufferedFile.plain (stream, state.disk) := by
    unfold BufferedFile.plain BufferedFile.onDisk
    rw [content]
  exact ⟨represents, live, ⟨alone.writable.writable, held, content.trans found⟩,
    same.trans alone.shown, others⟩

/-- Whatever is asked of the stream is answered as the plain file answers it. -/
theorem used (alone : state.Alone table id stream plain) (asked : Use α) :
    ((Call.use id asked).operation.run state).result = .ok ((asked.directly plain).1.mapError .disk) ∧
      ∃ stream', ((Call.use id asked).operation.run state).state.Alone
        (table.overwritten id stream') id stream' (asked.directly plain).2 ∧
        stream'.file.path = stream.file.path := by
  have mirrors := BufferedFile.mirrors_use alone.writable asked
  have confined := BufferedFile.confined_use asked (stream, state.disk)
  rw [alone.shown] at mirrors
  have found := (alone.represents.file?_eq id).trans alone.live
  rw [Call.operation, run_onFile_of_open found, mirrors.answer]
  refine ⟨rfl, (asked.operation (stream, state.disk)).2.1,
    ⟨alone.represents.stored alone.live _, ?_, mirrors.writable, mirrors.plain, ?_⟩, confined.path⟩
  · rw [SlotTable.get?_overwritten alone.live, if_pos rfl]
  · intro other stream' distinct held
    rw [SlotTable.get?_overwritten alone.live, if_neg distinct] at held
    rw [confined.path]
    exact alone.alone other stream' distinct held

/-- What others do in the pool, to other files, is not seen. -/
theorem elsewhere (alone : state.Alone table id stream plain) {call : Call α} {answer : Answer α}
    (moved : Transition state table call answer after) (apart : call.stream? ≠ some id)
    (other : ∀ file name disk, call.opens? state.disk = some (file, name, disk) →
      file.path ≠ stream.file.path) : ∃ table', after.Alone table' id stream plain := by
  have valid := alone.represents.valid
  cases moved with
  | opened issued unsaid opens inserted represents =>
    rename_i file name id' larger
    have new : id ≠ id' := by
      rintro rfl
      have live := alone.live
      rw [inserted.vacant valid] at live
      cases live
    refine ⟨larger, alone.undisturbed represents ?_ (Call.content?_of_opens opens
      (other _ _ _ opens).symm) ?_⟩
    · rw [inserted.get?_eq valid, if_neg new]
      exact alone.live
    · intro other' stream' distinct held
      rw [inserted.get?_eq valid] at held
      split at held
      · cases held
        exact other _ _ _ opens
      · exact alone.alone other' stream' distinct held
  | kept _ _ _ disk represents =>
    refine ⟨table, alone.undisturbed represents alone.live ?_ alone.alone⟩
    rcases disk with same | ⟨file, name, opens⟩
    · rw [same]
    · exact Call.content?_of_opens opens (other _ _ _ opens).symm
  | closed => exact ⟨table, alone⟩
  | used live =>
    rename_i id' stream' asked
    have distinct : id' ≠ id := fun same => apart (congrArg some same)
    have path := alone.alone id' stream' distinct live
    have confined := BufferedFile.confined_use asked (stream', state.disk)
    refine ⟨_, alone.undisturbed (alone.represents.stored live _) ?_
      (confined.others _ path.symm) ?_⟩
    · rw [SlotTable.get?_overwritten live, if_neg distinct.symm]
      exact alone.live
    · intro other' changed apart' held
      rw [SlotTable.get?_overwritten live] at held
      split at held
      · cases held
        rw [confined.path]
        exact path
      · exact alone.alone other' changed apart' held
  | freed live =>
    rename_i id' stream'
    have distinct : id' ≠ id := fun same => apart (congrArg some same)
    refine ⟨_, alone.undisturbed (alone.represents.freed live) ?_
      (content?_freed (alone.alone id' stream' distinct live).symm) ?_⟩
    · rw [SlotTable.get?_removed live, if_neg distinct.symm]
      exact alone.live
    · intro other' changed apart' held
      rw [SlotTable.get?_removed live] at held
      split at held
      · cases held
      · exact alone.alone other' changed apart' held

omit [LawfulAllocator BufferedFile σ] in
/-- The close finds nothing wrong and leaves the plain file on the disk. -/
theorem closed (alone : state.Alone table id stream plain) :
    ((close id).run state).result = .ok (.ok ()) ∧
      (((close id).run state).state.disk.content? stream.file.path).map FileContent.toList =
        some plain.content := by
  have found := (alone.represents.file?_eq id).trans alone.live
  obtain ⟨result, last⟩ := run_close_of_open found
  obtain ⟨after, done, ready, none, now⟩ := BufferedFile.flush_spec alone.writable
  obtain ⟨after', again, ready', none', now'⟩ := BufferedFile.flush_spec ready
  obtain ⟨content, held⟩ := ready'.present
  have path : after'.1.file.path = stream.file.path := by
    have first := BufferedFile.confined_flush (stream, state.disk)
    have second := BufferedFile.confined_flush after
    rw [done] at first
    rw [again] at second
    exact second.path.trans first.path
  have disk : (state.freed id stream).disk = after'.2 := by
    have closing : (state.freed id stream).disk =
        (BufferedFile.flush (BufferedFile.flush (stream, state.disk)).2).2.2 := rfl
    rw [closing, done, again]
  have plain' : BufferedFile.onDisk after' = plain := by
    rw [now', BufferedFile.plain_of_nothing_pending none, now, alone.shown]
  rw [result, last, done, disk, ← path, held, ← plain', BufferedFile.onDisk, held]
  exact ⟨rfl, rfl⟩

omit [LawfulAllocator BufferedFile σ] in
/-- A stream on a file that was just made, and that no other stream is on. -/
theorem created {call : Call α} {answer : Answer α} {file : OpenFile} {name : String} {disk : Disk}
    (represents : state.Represents table) (moved : Transition state table call answer after)
    (issued : call.issued answer = [id]) (opens : call.opens? state.disk = some (file, name, disk))
    (made : state.disk.create name = .ok (file, disk))
    (alone : ∀ other stream, table.get? other = some stream → stream.file.path ≠ file.path) :
    ∃ larger, after.Alone larger id (.ofFile file name) ⟨[], 0, name⟩ := by
  obtain ⟨written, emptied, free⟩ := Disk.create_eq made
  obtain ⟨file', name', larger, opens', inserted, placed⟩ := moved.of_issued issued
  rw [opens'] at opens
  cases opens
  have resolves := inserted.get?_eq represents.valid
  have empty := Disk.content?_put state.disk free .empty
  rw [← emptied] at empty
  refine ⟨larger, placed, ?_, ⟨?_, .empty, empty⟩, ?_, ?_⟩
  · rw [resolves, if_pos rfl]
  · change file.writable = true
    rw [written]
  · change PlainFile.written ⟨((after.disk.content? file.path).getD .empty).toList, file.position,
      name⟩ [] = _
    rw [empty, PlainFile.written_nil, written, Option.getD_some, FileContent.toList_empty]
  · intro other stream distinct held
    rw [resolves, if_neg distinct] at held
    exact alone other stream held

end Alone

namespace Session
variable {session : Session σ} {id : ResourceId} {path : List String} {plain : PlainFile}

/-- The runs in which a stream was made on a new or emptied file, with no other stream on that file
before or since. `plain` is what the uses make of a file they go to at once. -/
inductive Sole (id : ResourceId) (path : List String) : Session σ → PlainFile → Prop where
  | created {session : Session σ} {name : String} {file : OpenFile} {disk : Disk}
      (reached : session.Reachable) (made : session.state.disk.create name = .ok (file, disk))
      (place : file.path = path)
      (alone : ∀ other stream, session.state.file? other = some stream → stream.file.path ≠ path)
      (opened : session.answer (.openNew name) = .ok (.ok id)) :
      Sole id path (session.perform (.openNew name)) ⟨[], 0, name⟩
  | used {session : Session σ} {plain : PlainFile} {α : Type} (sole : Sole id path session plain)
      (asked : Use α) :
      Sole id path (session.perform (.use id asked)) (asked.directly plain).2
  /-- Any other call, through any other stream, that opens no stream on the file. -/
  | elsewhere {session : Session σ} {plain : PlainFile} {α : Type} (sole : Sole id path session plain)
      (call : Call α) (permitted : call.Permitted session.state session.streams)
      (apart : call.stream? ≠ some id)
      (other : ∀ file name disk, call.opens? session.state.disk = some (file, name, disk) →
        file.path ≠ path) :
      Sole id path (session.perform call) plain
  | disturbed {session : Session σ} {plain : PlainFile} {host : σ} (sole : Sole id path session plain)
      (spared : session.state.SparedBy host) :
      Sole id path { session with state := { session.state with host := host } } plain

variable [LawfulAllocator BufferedFile σ]

theorem Sole.alone (sole : Sole id path session plain) :
    ∃ table stream, session.state.Alone table id stream plain ∧ stream.file.path = path := by
  induction sole with
  | @created session name file disk reached made place alone opened =>
    subst place
    obtain ⟨table, represents⟩ := reached.represents
    have permitted : (Call.openNew name).Permitted session.state session.streams := trivial
    have moved := transition represents permitted
    have issued : (Call.openNew name).issued (session.answer (.openNew name)) = [id] := by
      rw [opened]
      rfl
    have opens : (Call.openNew name).opens? session.state.disk = some (file, name, disk) := by
      rw [Call.opens?, made]
    obtain ⟨larger, now⟩ := Alone.created represents moved issued opens made fun other stream held =>
      alone other stream ((represents.file?_eq other).trans held)
    exact ⟨larger, _, now, rfl⟩
  | used _ asked ih =>
    obtain ⟨table, stream, alone, place⟩ := ih
    obtain ⟨_, stream', now, path⟩ := alone.used asked
    exact ⟨_, stream', now, path.trans place⟩
  | elsewhere _ call permitted apart other ih =>
    obtain ⟨table, stream, alone, rfl⟩ := ih
    obtain ⟨table', now⟩ := alone.elsewhere (transition alone.represents permitted) apart other
    exact ⟨table', stream, now, rfl⟩
  | disturbed _ spared ih =>
    obtain ⟨table, stream, alone, rfl⟩ := ih
    have represents := alone.represents.disturbed spared
    exact ⟨table, stream, alone.undisturbed represents alone.live rfl alone.alone, rfl⟩

/-- Every use of the only stream on a file is answered as by a file that each write goes to at once, with any
calls through other streams in between. Closing it leaves the content of that file. -/
theorem Sole.unbuffered (sole : Sole id path session plain) :
    (∀ {α : Type} (asked : Use α),
      session.answer (.use id asked) = .ok ((asked.directly plain).1.mapError .disk)) ∧
    session.answer (.close id) = .ok (.ok ()) ∧
    ((session.perform (.close id)).state.disk.content? path).map FileContent.toList =
      some plain.content := by
  obtain ⟨table, stream, alone, rfl⟩ := sole.alone
  exact ⟨fun asked => (alone.used asked).1, alone.closed.1, alone.closed.2⟩

/-- Three bytes were written to a new file. -/
def oneFile : Session (Heap BufferedFile) :=
  (Session.perform ⟨.empty (.empty false) .empty, [], []⟩ (.openNew "a")).perform
    (.use ⟨0, 0⟩ (.write [1, 2, 3]))

/-- Another file was made in the same pool. -/
def twoFiles : Session (Heap BufferedFile) := oneFile.perform (.openNew "b")

/-- A byte goes to the other file and the cursor of the first one back: what is read from there is what
was written, although it is on no disk yet. -/
theorem unbuffered_of_two_files :
    ∃ session plain, Sole ⟨0, 0⟩ ["a"] session plain ∧
      session = (twoFiles.perform (.use ⟨1, 0⟩ (.write [9]))).perform (.use ⟨0, 0⟩ (.seek .start 1)) ∧
      session.answer (.use ⟨0, 0⟩ (.read 5)) = .ok (.ok [2, 3]) ∧
      session.answer (.use ⟨0, 0⟩ (.seek .ending (-4))) = .ok (.error (.disk .invalidArgument)) ∧
      ((session.perform (.close ⟨0, 0⟩)).state.disk.content? ["a"]).map FileContent.toList =
        some [1, 2, 3] := by
  have first : Disk.empty.create "a" =
      .ok (⟨["a"], 0, true⟩, Disk.empty.put ["a"] (.file .empty)) := rfl
  have opened : Session.answer ⟨.empty (Heap.empty false) .empty, [], []⟩ (.openNew "a") =
      .ok (.ok ⟨0, 0⟩) := by decide +kernel
  have one : Sole ⟨0, 0⟩ ["a"] oneFile ⟨[1, 2, 3], 3, "a"⟩ :=
    (Sole.created (.standard (Heap.Orderly.empty false) .empty) first rfl (by rintro _ _ ⟨⟩)
      opened).used (.write [1, 2, 3])
  have second : ((Call.openNew "b").opens? oneFile.state.disk).map (·.1.path) = some ["b"] := by
    decide +kernel
  have two : Sole ⟨0, 0⟩ ["a"] twoFiles ⟨[1, 2, 3], 3, "a"⟩ := by
    refine one.elsewhere (.openNew "b") trivial (by rintro ⟨⟩) fun file name disk opens => ?_
    rw [opens] at second
    rw [show file.path = ["b"] from Option.some.inj second]
    decide
  have streams : twoFiles.streams = [⟨1, 0⟩, ⟨0, 0⟩] := by decide +kernel
  have other : (⟨1, 0⟩ : ResourceId) ∈ twoFiles.streams := streams ▸ List.mem_cons_self
  have last := (two.elsewhere (.use ⟨1, 0⟩ (.write [9])) other (by decide)
    (by rintro _ _ _ ⟨⟩)).used (.seek .start 1)
  obtain ⟨answers, _, content⟩ := last.unbuffered
  exact ⟨_, _, last, rfl, answers (.read 5), answers (.seek .ending (-4)), content⟩

end Session
end Allotment.StreamPool
