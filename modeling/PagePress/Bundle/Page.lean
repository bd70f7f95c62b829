import PagePress.Bundle.Script
import PagePress.Bundle.Style
import PagePress.Minify

/-!
# Bundling a page

A page is bundled into one file: its scripts and styles are gathered from the tree of the page, all
script, style and link tags are cut out of its text, the two bundles are put before the ends of its
head and body, and the result is minified and written.

* `Bundle.cutResources`, `Bundle.insertScripts` and `Bundle.insertStyles` edit the text of a page.
* `Bundler` goes through pages one after the other, and remembers their links.
* `Bundler.command` is the command that bundles a page into a file.
-/

set_option autoImplicit false

namespace PagePress

namespace Bundle

/-! ## Editing the text of a page -/

/-- Cuts an element out of a page, from its start tag on to the next end tag. -/
def cutElement (opening closing : Text) : Text.Rule := fun t => do
  let rest ← Text.dropCaseless? opening t
  let n := (rest.takeWhile (· != '>')).length
  match rest.drop n with
  | _ :: body =>
    let m ← Text.findCaseless? closing body
    some ([], opening.length + n + 1 + m)
  | [] => none

/-- Whether a relation to a stylesheet is named somewhere in the text. -/
def namesStylesheet : Text → Bool
  | [] => false
  | c :: cs =>
    let here : Option Text := do
      let rest ← Text.dropCaseless? "rel=" (c :: cs)
      Text.dropCaseless? "stylesheet" (if rest.head? == some '"' then rest.drop 1 else rest)
    here.isSome || namesStylesheet cs

/-- Cuts a stylesheet link that is closed by its own tag out of a page. -/
def cutLink : Text.Rule := fun t => do
  let rest ← Text.dropCaseless? "<link " t
  let inside := rest.takeWhile (· != '>')
  let body ← Text.before? "/" (Text.stripEnd inside)
  if inside.length < rest.length && namesStylesheet body then some ([], 7 + inside.length) else none

/-- Cuts a script, a style or a stylesheet link out of a page. -/
def cutResource : Text.Rule := fun t =>
  (cutElement "<script" "</script>" t).orElse fun _ =>
    (cutElement "<style" "</style>" t).orElse fun _ => cutLink t

/-- The text of a page without its scripts, styles and stylesheet links. -/
def cutResources (t : Text) : Text := Text.substitute cutResource t

/-- The text of a page with a bundle of scripts before the end of its body. -/
def insertScripts (bundle : Option Text) (t : Text) : Text :=
  match bundle with
  | none => t
  | some code =>
    Text.replace "</body>"
      ("<script type=\"text/javascript\" language=\"javascript\">" ++ code ++
        "</script></body>\n") t

/-- The text of a page with a bundle of styles before the end of its head. -/
def insertStyles (bundle : Option Text) (t : Text) : Text :=
  match bundle with
  | none => t
  | some code =>
    Text.replace "</head>" ("<style type=\"text/css\">" ++ code ++ "</style></head>") t

/-- The text of a page with its resources replaced by the two bundles. -/
def edit (scripts styles : Option Text) (t : Text) : Text :=
  insertStyles styles (insertScripts scripts (cutResources t))

/-! ## Resources of a page -/

/-- Whether an element is of a tag. -/
def hasTag (tag : Text) (t : Text) (_ : Attributes) : Bool := t == tag

/-- Whether an element is a stylesheet link. -/
def isStylesheetLink (tag : Text) (attrs : Attributes) : Bool :=
  tag == "link" && attrs.contains { name := "rel", value := some "stylesheet" }

end Bundle

/-- What bundling works with. -/
structure Bundler where
  kit : Toolkit := {}
  disk : Disk := {}
  /-- The compile service, if it is there. -/
  service : Option Service := none
  /-- Whether the minifier takes a page under the name that the bundler uses for it. -/
  takesPage : Bool := false
  /-- The stylesheet links so far. -/
  links : List Node := []

/-- What bundling a page gives. -/
structure BundleReport where
  lines : List Text
  outcome : Except Fault Unit
  /-- The paths and texts written. -/
  written : List (Text × Text) := []

namespace Bundler

/-- Bundles the scripts of a page. -/
def scripts (b : Bundler) (dir : Text) (nodes : List Node) : Journal (Option Text) × Bundler :=
  let (journal, service) := Bundle.scripts b.kit b.disk b.service dir nodes
  (journal, { b with service := service })

/-- Bundles the styles of a page. -/
def styles (b : Bundler) (dir : Text) (styles links : List Node) :
    Journal (Option Text) × Bundler :=
  (Bundle.styles b.kit b.disk dir b.links links styles, { b with links := b.links ++ links })

/-- Minifies the text of a bundled page. -/
def minify (b : Bundler) (t : Text) : Except Fault Text :=
  if b.takesPage then PagePress.minify { compactors := b.kit.compactors } {} t
  else .error .pageRefused

/-- Bundles the page of a path, whose text is given, into a file. -/
def bundleText (b : Bundler) (path output text : Text) : BundleReport × Bundler :=
  match b.kit.document text with
  | .error fault => ({ lines := [], outcome := .error fault }, b)
  | .ok nodes =>
    let dir := b.disk.absolute (Path.directory path)
    let (scripts, b) := b.scripts dir (Node.selectAll (Bundle.hasTag "script") nodes)
    match scripts.outcome with
    | .error fault => ({ lines := scripts.lines, outcome := .error fault }, b)
    | .ok code =>
      let (styles, b) := b.styles dir (Node.selectAll (Bundle.hasTag "style") nodes)
        (Node.selectAll Bundle.isStylesheetLink nodes)
      let lines := scripts.lines ++ styles.lines
      match styles.outcome with
      | .error fault => ({ lines := lines, outcome := .error fault }, b)
      | .ok style =>
        let lines := lines ++ [("Minimizing HTML.." : Text)]
        match b.minify (Bundle.edit code style text), b.disk.writePath output with
        | .error fault, _ => ({ lines := lines, outcome := .error fault }, b)
        | .ok _, .error fault => ({ lines := lines, outcome := .error fault }, b)
        | .ok page, .ok path =>
          ({ lines := lines, outcome := .ok (), written := [(path, page)] }, b)

/-- The command that bundles a page into a file; it takes the names of the two. -/
def command (b : Bundler) (program : Text) (args : List Text) : BundleReport × Bundler :=
  match args with
  | [page, output] =>
    let path := b.disk.absolute page
    if !b.disk.isThere path then
      ({ lines := [path ++ " does not exist."], outcome := .error (.exit 1) }, b)
    else
      match b.disk.readText path with
      | .error fault => ({ lines := [], outcome := .error fault }, b)
      | .ok text => b.bundleText path (b.disk.absolute output) text
  | _ =>
    let usage : Text := "Usage: " ++ program ++ " file.html output.html\n"
    ({ lines := [usage], outcome := .error (.exit 1) }, b)

end Bundler

end PagePress
