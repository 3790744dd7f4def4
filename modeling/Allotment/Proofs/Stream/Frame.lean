import Allotment.Proofs.Stream.Session

namespace Allotment

namespace Disk
variable {disk : Disk} {path other : List String} {content : FileContent}

private theorem content?_put_of_ne (distinct : other ≠ path) (disk : Disk) (node : Node) :
    (disk.put path node).content? other = disk.content? other := by
  rw [content?, content?, node?_put_of_ne distinct]

theorem content?_put (disk : Disk) (free : disk.node? path ≠ some .directory)
    (content : FileContent) : (disk.put path (.file content)).content? path = some content := by
  have within : ¬ (path.isEmpty ∨ path = outside) := fun root => free (if_pos root)
  have below : path ≠ [] := by
    rintro rfl
    exact within (.inl rfl)
  rw [content?, node?_put below fun root => within (.inr root)]

theorem node?_of_content? (found : disk.content? path = some content) :
    disk.node? path ≠ some .directory := by
  intro directory
  rw [content?, directory] at found
  cases found

private theorem node?_of_find {node : Node} (found : disk.find path = .ok node) :
    disk.node? path = some node := by
  rw [find] at found
  split at found
  · cases found
  · split at found
    · next held =>
      cases found
      exact held
    · cases found

private theorem node?_of_notFound (missing : disk.find path = .error .notFound) :
    disk.node? path = none := by
  rw [find] at missing
  split at missing
  · cases missing
  · split at missing
    · cases missing
    · next absent => exact absent

/-- A new file is empty, stands at its start, and may be written. -/
theorem create_eq {larger : Disk} {file : OpenFile} {name : String}
    (made : disk.create name = .ok (file, larger)) :
    file = ⟨file.path, 0, true⟩ ∧ larger = disk.put file.path (.file .empty) ∧
      disk.node? file.path ≠ some .directory := by
  unfold create at made
  dsimp only [bind, Except.bind] at made
  cases parsed : FileName.ofText name with
  | error error => rw [parsed] at made; cases made
  | ok parts =>
    rw [parsed] at made
    dsimp only at made
    cases followed : disk.follow [] parts.parts with
    | error error => rw [followed] at made; cases made
    | ok place =>
      rw [followed] at made
      dsimp only at made
      split at made
      · cases made
      · cases made
      · split at made
        · cases made
        · next found =>
          cases made
          refine ⟨rfl, rfl, ?_⟩
          rw [node?_of_find found]
          nofun
        · next missing =>
          cases made
          refine ⟨rfl, rfl, ?_⟩
          rw [node?_of_notFound missing]
          nofun
        · cases made

end Disk

namespace BufferedFile
variable {α : Type} {state after last : BufferedFile × Disk}

/-- The file is in its place, and the other files are what they were. -/
structure Confined (before after : BufferedFile × Disk) : Prop where
  path : after.1.file.path = before.1.file.path
  others : ∀ other, other ≠ before.1.file.path →
    after.2.content? other = before.2.content? other

namespace Confined

theorem refl (state : BufferedFile × Disk) : Confined state state := ⟨rfl, fun _ _ => rfl⟩

theorem trans (first : Confined state after) (second : Confined after last) :
    Confined state last :=
  ⟨second.path.trans first.path, fun other distinct =>
    (second.others other (first.path ▸ distinct)).trans (first.others other distinct)⟩

end Confined

theorem confined_writeThrough (bytes : List UInt8) (state : BufferedFile × Disk) :
    Confined state (writeThrough bytes state).2 := by
  obtain ⟨stream, disk⟩ := state
  rw [writeThrough]
  by_cases none : bytes.isEmpty
  · rw [OpenFile.write, if_pos none]
    exact .refl _
  · by_cases readOnly : !stream.file.writable
    · rw [OpenFile.write, if_neg none, if_pos readOnly]
      exact .refl _
    · rw [OpenFile.write, if_neg none, if_neg readOnly]
      exact ⟨rfl, fun other distinct => Disk.content?_put_of_ne distinct _ _⟩

theorem confined_flush (state : BufferedFile × Disk) : Confined state (flush state).2 := by
  have wrote := confined_writeThrough state.1.pending state
  rw [flush]
  rcases ran : writeThrough state.1.pending state with ⟨error | _, after⟩ <;> rw [ran] at wrote
  · exact wrote
  · exact ⟨wrote.path, wrote.others⟩

theorem confined_flushed {next : FileStep α} (confined : ∀ state, Confined state (next state).2)
    (state : BufferedFile × Disk) : Confined state (flushed next state).2 := by
  have first := confined_flush state
  rw [flushed]
  rcases ran : flush state with ⟨error | _, after⟩ <;> rw [ran] at first
  · exact first
  · exact first.trans (confined after)

theorem confined_write (bytes : List UInt8) (state : BufferedFile × Disk) :
    Confined state (write bytes state).2 := by
  have kept : ∀ state, Confined state
      ((if bytes.length < bufferSize then enqueue bytes else writeThrough bytes) state).2 := by
    intro state
    split
    · exact ⟨rfl, fun _ _ => rfl⟩
    · exact confined_writeThrough bytes state
  rw [write]
  split
  · exact confined_flushed kept state
  · exact kept state

theorem confined_writePieces (pieces : List (List UInt8)) (state : BufferedFile × Disk) :
    Confined state (writePieces pieces state).2 := by
  induction pieces generalizing state with
  | nil => exact .refl state
  | cons piece rest ih =>
    have first := confined_write piece state
    rw [writePieces]
    rcases ran : write piece state with ⟨error | _, after⟩ <;> rw [ran] at first
    · exact first
    · exact first.trans (ih after)

theorem confined_read (count : Nat) (state : BufferedFile × Disk) :
    Confined state (read count state).2 := by
  refine confined_flushed (fun state => ?_) state
  obtain ⟨stream, disk⟩ := state
  dsimp only
  rw [OpenFile.read]
  cases disk.content? stream.file.path with
  | none => exact .refl _
  | some content => exact ⟨rfl, fun _ _ => rfl⟩

theorem confined_readText (state : BufferedFile × Disk) : Confined state (readText state).2 := by
  refine confined_flushed (fun state => ?_) state
  obtain ⟨stream, disk⟩ := state
  dsimp only
  rw [OpenFile.readAll]
  cases found : disk.content? stream.file.path with
  | none => exact .refl _
  | some content =>
    dsimp only
    rw [OpenFile.read, found]
    dsimp only
    split <;> exact ⟨rfl, fun _ _ => rfl⟩

theorem seek_eq {file moved : OpenFile} {disk : Disk} {whence : Whence} {distance : Int}
    (sought : file.seek disk whence distance = .ok moved) :
    moved.path = file.path ∧ moved.writable = file.writable := by
  cases whence <;>
  · rw [OpenFile.seek] at sought
    split at sought <;> cases sought
    exact ⟨rfl, rfl⟩

theorem confined_seek (whence : Whence) (distance : Int) (state : BufferedFile × Disk) :
    Confined state (seek whence distance state).2 := by
  refine confined_flushed (fun state => ?_) state
  obtain ⟨stream, disk⟩ := state
  dsimp only
  cases sought : stream.file.seek disk whence distance with
  | error error => exact .refl _
  | ok moved => exact ⟨(seek_eq sought).1, fun _ _ => rfl⟩

theorem confined_use (asked : StreamPool.Use α) (state : BufferedFile × Disk) :
    Confined state (asked.operation state).2 := by
  cases asked with
  | path => exact .refl state
  | read count => exact confined_read count state
  | readText => exact confined_readText state
  | write bytes => exact confined_write bytes state
  | writePieces pieces => exact confined_writePieces pieces state
  | flush => exact confined_flush state
  | seek whence distance => exact confined_seek whence distance state

end BufferedFile

namespace StreamPool
variable {α σ : Type} {id : ResourceId} {stream : BufferedFile} {path : List String}

/-- Closing a stream writes to no file but its own. -/
theorem content?_freed [Allocator BufferedFile σ] {state : StreamPool σ}
    (elsewhere : path ≠ stream.file.path) :
    (state.freed id stream).disk.content? path = state.disk.content? path := by
  have flushed := BufferedFile.confined_flush (stream, state.disk)
  have closed := BufferedFile.confined_flush (BufferedFile.flush (stream, state.disk)).2
  exact (flushed.trans closed).others path elsewhere

/-- A file that is opened is emptied at most; the other files are what they were. -/
theorem Call.content?_of_opens {call : Call α} {disk larger : Disk} {file : OpenFile} {name : String}
    (opens : call.opens? disk = some (file, name, larger)) (elsewhere : path ≠ file.path) :
    larger.content? path = disk.content? path := by
  cases call with
  | openExisting name' =>
    rw [opens?] at opens
    split at opens
    · cases opens
      rfl
    · cases opens
  | openNew name' =>
    rw [opens?] at opens
    split at opens
    · next made =>
      cases opens
      obtain ⟨_, rfl, _⟩ := Disk.create_eq made
      exact Disk.content?_put_of_ne elsewhere _ _
    · cases opens
  | _ => cases opens

end StreamPool
end Allotment
