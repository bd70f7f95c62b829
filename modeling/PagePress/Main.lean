import PagePress.Bundle.Page
import PagePress.CommandLine

/-!
# The program

Minifies the file it is given, or, if its first argument is `bundle`, bundles a page with the
resources below the working directory.  What is to be told and written is decided by
`CommandLine.run` and `Bundler.command`; here files are read and written.
-/

set_option autoImplicit false

namespace PagePress.Program

/-- The files at a name: itself, or all below it. -/
def load (name : String) : IO (List (Text × Utf8.Bytes)) := do
  let path := (← IO.currentDir) / name
  let mut files : List (Text × Utf8.Bytes) := []
  let paths ← if ← path.isDir then path.walkDir else pure #[path]
  for file in paths do
    if (← file.pathExists) && !(← file.isDir) then
      files := (file.toString.toList, (← IO.FS.readBinFile file).toList) :: files
  return files

/-- A disk with the files at a name. -/
def disk (name : String) : IO Disk := do
  return Disk.ofFiles (← IO.currentDir).toString.toList (← load name)

/-- Writes texts to their paths. -/
def write (written : List (Text × Text)) : IO Unit :=
  written.forM fun (path, t) => IO.FS.writeFile (String.ofList path) (String.ofList t)

/-- The status of the program, after telling a fault other than the wish to end. -/
def status : Except Fault Unit → IO UInt32
  | .ok () => return 0
  | .error (.exit n) => return n.toUInt32
  | .error fault => do
    IO.eprintln (String.ofList fault.report)
    return 1

/-- Bundles a page. -/
def bundle (args : List String) : IO UInt32 := do
  let b : Bundler := { disk := ← disk "." }
  let (report, _) := b.command "page-press bundle" (args.map String.toList)
  report.lines.forM fun line => IO.println (String.ofList line)
  write report.written
  status report.outcome

/-- Minifies a file. -/
def minify (args : List String) : IO UInt32 := do
  let d ← match args with
    | [] => pure ({} : Disk)
    | name :: _ => disk name
  let result := CommandLine.run d "page-press" (args.map String.toList)
  IO.print (String.ofList result.told)
  write result.written
  status result.outcome

end PagePress.Program

/-- Runs the command that the arguments name. -/
def main (args : List String) : IO UInt32 :=
  match args with
  | "bundle" :: rest => PagePress.Program.bundle rest
  | _ => PagePress.Program.minify args
