import PagePress.Text.Search

/-!
# Paths

Paths are texts with components between slashes.

* `Path.join` puts a path below a directory, unless it starts at the root.
* `Path.normal` takes out empty components and single dots, and lets two dots cancel the component
  before.  A path may start with two slashes, which stay two; more are one.
* `Path.absolute` is the normal form of a path below a working directory.
-/

set_option autoImplicit false

namespace PagePress.Path

/-- Whether a path starts at the root. -/
def isAbsolute (p : Text) : Bool := p.head? == some '/'

/-- A path below a directory. -/
def join (dir p : Text) : Text :=
  if isAbsolute p then p
  else if dir.isEmpty || dir.getLast? == some '/' then dir ++ p
  else dir ++ '/' :: p

/-- The number of slashes that the normal form of a path starts with. -/
def rootSlashes (p : Text) : Nat :=
  match (p.takeWhile (· == '/')).length with
  | 0 => 0
  | 2 => 2
  | _ => 1

/-- The components of a normal path, the last first, with one more component. -/
def addComponent (rooted : Bool) (parts : List Text) (part : Text) : List Text :=
  if part.isEmpty || part == "." then parts
  else if part == ".." then
    match parts with
    | [] => if rooted then [] else [part]
    | last :: rest => if last == ".." then part :: last :: rest else rest
  else part :: parts

/-- The components of the normal form of a path, in order. -/
def components (p : Text) : List Text :=
  ((Text.splitOn '/' p).foldl (addComponent (isAbsolute p)) []).reverse

/-- The normal form of a path. -/
def normal (p : Text) : Text :=
  let path := List.replicate (rootSlashes p) '/' ++ List.intercalate ['/'] (components p)
  if path.isEmpty then "." else path

/-- The normal form of a path below a working directory. -/
def absolute (cwd p : Text) : Text := normal (join cwd p)

/-- The directory part of a path: what stands before its last slash, and that slash if nothing else
does. -/
def directory (p : Text) : Text :=
  let head := (p.reverse.dropWhile (· != '/')).reverse
  if head.all (· == '/') then head else (head.reverse.dropWhile (· == '/')).reverse

/-- The last component of a path. -/
def name (p : Text) : Text := (p.reverse.takeWhile (· != '/')).reverse

/-- Splits the extension off a path: from the last dot of its last component on.  Dots that a
component starts with begin no extension. -/
def splitExtension (p : Text) : Text × Text :=
  let last := name p
  let stem := (last.reverse.dropWhile (· != '.')).drop 1
  if stem.all (· == '.') then (p, [])
  else
    let n := p.length - (last.length - stem.length)
    (p.take n, p.drop n)

end PagePress.Path
