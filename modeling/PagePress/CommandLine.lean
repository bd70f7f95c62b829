import PagePress.Disk
import PagePress.Minify

/-!
# The command that minifies a file

The command takes the name of a page and, if the result is not to be told, the name of a file to
write.
-/

set_option autoImplicit false

namespace PagePress.CommandLine

/-- What a command gives. -/
structure Result where
  /-- What is told. -/
  told : Text := []
  /-- The paths and texts written. -/
  written : List (Text × Text) := []
  outcome : Except Fault Unit := .ok ()

/-- The text of a page, minified; none of an empty one. -/
def minified? (t : Text) : Except Fault (Option Text) :=
  if t.isEmpty then .ok none else (minify {} {} t).map some

/-- Minifies the page of a name.  The file to write is opened before it is known whether there is a
result. -/
def minifyFile (d : Disk) (input : Text) (output : Option Text) : Except Fault Result := do
  let text ← d.readText input
  let result ← minified? text
  match output with
  | none =>
    match result with
    | some page => .ok { told := page }
    | none => .error .nothingMinified
  | some name =>
    let path ← d.writePath name
    match result with
    | some page => .ok { written := [(path, page)] }
    | none => .error .nothingMinified

/-- The command with the given arguments. -/
def run (d : Disk) (program : Text) (args : List Text) : Result :=
  match args with
  | [] => { told := "Usage: " ++ program ++ " input [output]\n" }
  | input :: rest =>
    match minifyFile d input rest.head? with
    | .ok result => result
    | .error fault => { outcome := .error fault }

end PagePress.CommandLine
