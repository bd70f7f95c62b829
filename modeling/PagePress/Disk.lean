import PagePress.Fault
import PagePress.MediaType

/-!
# Files

A `Disk` is a working directory and the files there are, by their absolute paths, with the media
types that its system knows.  Directories are the beginnings of these paths.  Reading a text decodes
it and makes its line ends line feeds.
-/

set_option autoImplicit false

namespace PagePress

open Utf8 (Bytes)

/-- The files there are. -/
structure Disk where
  /-- The working directory. -/
  cwd : Text := "/site"
  /-- Absolute paths and contents. -/
  files : List (Text × Bytes) := []
  /-- What is known about extensions. -/
  mediaTypes : MediaType.Registry := MediaType.standard
  deriving Repr

namespace Disk

/-- A disk with files whose paths count from the working directory. -/
def ofFiles (cwd : Text) (files : List (Text × Bytes)) : Disk where
  cwd := cwd
  files := files.map fun (path, bytes) => (Path.absolute cwd path, bytes)

/-- The absolute path of a name. -/
def absolute (d : Disk) (name : Text) : Text := Path.absolute d.cwd name

/-- Whether an absolute path is that of a directory. -/
def isDirectory (d : Disk) (path : Text) : Bool :=
  path == "/" || d.files.any fun (file, _) => (Text.after? (path ++ ['/']) file).isSome

/-- Whether there is something at an absolute path. -/
def isThere (d : Disk) (path : Text) : Bool :=
  d.isDirectory path || d.files.any fun (file, _) => file == path

/-- The bytes of the file of a name. -/
def readBytes (d : Disk) (name : Text) : Except Fault Bytes :=
  let path := d.absolute name
  match d.files.lookup path with
  | some bytes => .ok bytes
  | none => if d.isDirectory path then .error (.isDirectory name) else .error (.noSuchFile name)

/-- The text of the file of a name. -/
def readText (d : Disk) (name : Text) : Except Fault Text :=
  match d.readBytes name with
  | .error fault => .error fault
  | .ok bytes =>
    match Utf8.decode bytes with
    | .ok text => .ok (Utf8.newlines text)
    | .error error => .error (.undecodable error)

/-- The path to which the file of a name is written; there is none for a directory. -/
def writePath (d : Disk) (name : Text) : Except Fault Text :=
  let path := d.absolute name
  if d.isDirectory path then .error (.isDirectory name) else .ok path

end Disk

end PagePress
