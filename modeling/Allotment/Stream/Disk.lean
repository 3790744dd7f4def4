import Allotment.Stream.FileContent

namespace Allotment

inductive DiskError where
  | notFound
  | badDescriptor
  | notDirectory
  | isDirectory
  | invalidArgument
  | nameHasNul
  | nameTooLong
  | invalidText
  deriving DecidableEq

namespace DiskError

def kind : DiskError → String
  | notFound => "NotFound"
  | badDescriptor => "Uncategorized"
  | notDirectory => "NotADirectory"
  | isDirectory => "IsADirectory"
  | invalidArgument | nameHasNul => "InvalidInput"
  | nameTooLong => "InvalidFilename"
  | invalidText => "InvalidData"

def message : DiskError → String
  | notFound => "No such file or directory (os error 2)"
  | badDescriptor => "Bad file descriptor (os error 9)"
  | notDirectory => "Not a directory (os error 20)"
  | isDirectory => "Is a directory (os error 21)"
  | invalidArgument => "Invalid argument (os error 22)"
  | nameHasNul => "file name contained an unexpected NUL byte"
  | nameTooLong => "File name too long (os error 36)"
  | invalidText => "stream did not contain valid UTF-8"

end DiskError

inductive Node where
  | file (content : FileContent)
  | directory

/-- The nodes below the root, each under its path. -/
structure Disk where
  nodes : List (List String × Node)

/-- A name by its parts. Slashes in a row count as one. -/
structure FileName where
  parts : List String
  endsInSlash : Bool

namespace FileName

/-- The longest path, in bytes. -/
def longestPath : Nat := 4095

/-- The bytes that lead to the root and count in every path. -/
def rootLength : Nat := 16

/-- The parts between the slashes of a text. Of the first one `part` was read already, backwards. -/
def partsAfter (part : List Char) : List Char → List String
  | [] => [String.ofList part.reverse]
  | letter :: rest =>
    if letter = '/' then String.ofList part.reverse :: partsAfter [] rest
    else partsAfter (letter :: part) rest

/-- The parts of a text, without slashes. -/
def partsOf (text : String) : List String := (partsAfter [] text.toList).filter (· != "")

/-- The name in a text, which has no NUL byte and fits a path. -/
def ofText (text : String) : Except DiskError FileName :=
  if text.toList.contains '\x00' then .error .nameHasNul
  else if longestPath < rootLength + text.utf8ByteSize then .error .nameTooLong
  else .ok ⟨partsOf text, text.toList.getLast? == some '/'⟩

end FileName

inductive Place where
  /-- A directory that was passed on the way. -/
  | passed (directory : List String)
  /-- An entry of a directory, which may be missing. -/
  | entry (path : List String)

namespace Disk

def empty : Disk := ⟨[]⟩

/-- The directory around the root. Nothing but the root was there at first. -/
def outside : List String := [".."]

/-- The directory above a directory; none lies above the one around the root. -/
def above (directory : List String) : List String :=
  if directory.isEmpty ∨ directory = outside then outside else directory.dropLast

def node? (disk : Disk) (path : List String) : Option Node :=
  if path.isEmpty ∨ path = outside then some .directory else disk.nodes.lookup path

def content? (disk : Disk) (path : List String) : Option FileContent :=
  match disk.node? path with
  | some (.file content) => some content
  | _ => none

def put (disk : Disk) (path : List String) (node : Node) : Disk :=
  ⟨(path, node) :: disk.nodes.filter fun entry => entry.1 != path⟩

/-- The node put at a path below the root is found there. -/
theorem node?_put {path : List String} (below : path ≠ []) (inside : path ≠ outside)
    (disk : Disk) (node : Node) : (disk.put path node).node? path = some node := by
  rw [node?, if_neg (by simp only [List.isEmpty_iff, below, inside, or_self, not_false_eq_true]),
    put, List.lookup_cons_self]

private theorem lookup_filter_of_ne {path other : List String} (distinct : other ≠ path)
    (nodes : List (List String × Node)) :
    (nodes.filter fun entry => entry.1 != path).lookup other = nodes.lookup other := by
  induction nodes with
  | nil => rfl
  | cons entry rest ih =>
    obtain ⟨key, node⟩ := entry
    by_cases same : key = path
    · subst same
      rw [List.filter_cons, bne_self_eq_false, if_neg Bool.false_ne_true, ih, List.lookup_cons,
        beq_false_of_ne distinct]
    · rw [List.filter_cons, bne_iff_ne.mpr same, if_pos rfl, List.lookup_cons, List.lookup_cons, ih]

/-- Putting a node leaves every other path as it is. -/
theorem node?_put_of_ne {path other : List String} (distinct : other ≠ path) (disk : Disk)
    (node : Node) : (disk.put path node).node? other = disk.node? other := by
  rw [node?, node?, put, List.lookup_cons, beq_false_of_ne distinct,
    lookup_filter_of_ne distinct]

/-- The longest part of a name, in bytes. -/
def longestPart : Nat := 255

/-- Looks an entry of a directory up. -/
def find (disk : Disk) (path : List String) : Except DiskError Node :=
  if longestPart < (path.getLastD "").utf8ByteSize then .error .nameTooLong
  else match disk.node? path with
    | some node => .ok node
    | none => .error .notFound

/-- Follows the parts of a name from a directory. Every part but the last has to be a directory. -/
def follow (disk : Disk) (directory : List String) : List String → Except DiskError Place
  | [] => .ok (.passed directory)
  | part :: rest =>
    if part = "." then disk.follow directory rest
    else if part = ".." then disk.follow (above directory) rest
    else if rest.isEmpty then .ok (.entry (directory ++ [part]))
    else match disk.find (directory ++ [part]) with
      | .error error => .error error
      | .ok (.file _) => .error .notDirectory
      | .ok .directory => disk.follow (directory ++ [part]) rest

/-- Makes the directories that the parts of a name pass, from a directory on. -/
def makeParts (disk : Disk) (directory : List String) : List String → Disk
  | [] => disk
  | part :: rest =>
    if part = "." then disk.makeParts directory rest
    else if part = ".." then disk.makeParts (above directory) rest
    else
      let path := directory ++ [part]
      match disk.node? path with
      | some _ => disk.makeParts path rest
      | none => (disk.put path .directory).makeParts path rest

/-- Makes a directory and those on the way to it. -/
def makeDirectory (disk : Disk) (text : String) : Disk :=
  disk.makeParts [] (FileName.partsOf text)

end Disk
end Allotment
