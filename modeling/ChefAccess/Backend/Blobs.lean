import ChefAccess.Backend.Path
import ChefAccess.Error
import ChefAccess.Text.Affix

/-!
# Blobs

Key files of tenants lie in a blob store, below one root.  A path into the store may lead to
names only, so that it cannot lead out of the root; then the path that is read is the root,
continued by that path.

Main definitions:

- {lit}`Disk`: the files of a machine.
- {lit}`Blobs`: the files below a root.
- {lit}`Blobs.locate`: the path on the disk that a path into the store stands for.
- {lit}`Blobs.read`: the bytes of a file.
- {lit}`Blobs.token?`: the path that a reference to a key file holds.

Main results:

- Theorem {lit}`Blobs.read_of_not_staysInside`: a path that leads out is refused.
-/

namespace ChefAccess

/-! ## Disks -/

/-- The files of a machine by the places where they lie, the one written last at the head. -/
structure Disk where
  files : List (List Path.Step × List UInt8)
  deriving Repr

namespace Disk

/-- The disk without files. -/
def empty : Disk :=
  ⟨[]⟩

/-- The disk with a file written. -/
def write (disk : Disk) (path : String) (bytes : List UInt8) : Disk :=
  ⟨(Path.place path, bytes) :: disk.files⟩

/-- The failure to read a file. -/
def unreadable : Error :=
  (Error.unexpected "failed to read file").withExternal

/-- The bytes of the file at a place. -/
def contents (disk : Disk) (place : List Path.Step) : Except Error (List UInt8) :=
  match disk.files.lookup place with
  | some bytes => .ok bytes
  | none => .error unreadable

/-- The bytes of the file that a path leads to. -/
def read (disk : Disk) (path : String) : Except Error (List UInt8) :=
  if Path.asksForDirectory path then .error unreadable else disk.contents (Path.place path)

end Disk

/-! ## Blob stores -/

/-- A blob store: the root below which its files lie.  A store without a root takes any
path. -/
structure Blobs where
  root : Option String
  disk : Disk
  deriving Repr

namespace Blobs

/-- A store with the given files, below the top of a disk of its own. -/
def ofList (files : List (String × List UInt8)) : Blobs :=
  ⟨some "/", files.foldl (fun disk file => disk.write (Path.join "/" file.1) file.2) .empty⟩

/-- A store without a root and without files. -/
def rootless : Blobs :=
  ⟨none, .empty⟩

/-- The failure of a path that leads out of the root. -/
def escapes (path : String) : Error :=
  Error.requestInvalid ("file token escapes the blob root: " ++ path)

/-- The path on the disk that a path into the store stands for. -/
def locate (blobs : Blobs) (path : String) : Except Error String :=
  match blobs.root with
  | none => .ok path
  | some root =>
    if Path.staysInside path then .ok (Path.join root path) else .error (escapes path)

/-- The bytes of a file. -/
def read (blobs : Blobs) (path : String) : Except Error (List UInt8) :=
  (blobs.locate path).bind blobs.disk.read

/-- A path that leads out is refused. -/
theorem read_of_not_staysInside (root : String) (disk : Disk) {path : String}
    (hescapes : Path.staysInside path = false) :
    (⟨some root, disk⟩ : Blobs).read path = .error (escapes path) := by
  simp [read, locate, hescapes, Except.bind]

/-! ## References to key files -/

/-- The characters of a token. -/
def isTokenChar (c : Char) : Bool :=
  c.isLower || c.isDigit || c == '-'

/-- The token in a reference to a key file, which is the path of the file in the store.
It stands between the start of the reference and the name of the file. -/
def token? (reference : String) : Option String :=
  match Text.after? "/files/".toList reference.toList with
  | none => none
  | some rest =>
    match Text.splitAt? ['/'] rest with
    | none => none
    | some (token, name) =>
      if !token.isEmpty && token.all isTokenChar && (Text.before? "pem".toList name).isSome then
        some (String.ofList token)
      else none

end Blobs
end ChefAccess
