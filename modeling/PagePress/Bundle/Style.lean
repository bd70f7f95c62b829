import PagePress.Base64
import PagePress.Bundle.Journal
import PagePress.Bundle.Resource
import PagePress.Bundle.Toolkit

/-!
# Bundling styles

The stylesheets that links name and the styles that stand in the page are joined and compacted.  The
files that a stylesheet refers to are embedded in it as data addresses.

* `addresses` finds the files a stylesheet refers to, and `embed` puts them in.
* `linksText` and `stylesText` gather the two kinds of styles, and `styles` compacts them.

Links add up: a page is bundled with the links of all pages before it, if it has any itself.
-/

set_option autoImplicit false

namespace PagePress.Bundle

/-! ## Embedded files -/

/-- The data address of a file. -/
def dataAddress (types : MediaType.Registry) (name : Text) (bytes : Utf8.Bytes) : Text :=
  let mediaType := (MediaType.ofName? types name).getD "None"
  "data:" ++ mediaType ++ ";base64,b'" ++ Base64.encode bytes ++ "'"

/-- The address referred to at the start of a text, perhaps in quotes, with the length of the
reference. -/
def addressAt? (t : Text) : Option (Text × Nat) := do
  let isQuote (c : Char) : Bool := c == '"' || c == '\''
  let dropQuote (t : Text) : Text := if t.head?.any isQuote then t.drop 1 else t
  let body ← Text.dropCaseless? "url(" t
  let isPlain (c : Char) : Bool := c != ')' && !isQuote c
  let address := (dropQuote body).takeWhile isPlain
  let rest ← Text.after? ")" (dropQuote ((dropQuote body).dropWhile isPlain))
  if address.isEmpty then none else some (address, t.length - rest.length)

/-- The addresses referred to in a text of which the first `skip` characters are passed over. -/
def addressesAfter : Nat → Text → List Text
  | _, [] => []
  | skip + 1, _ :: cs => addressesAfter skip cs
  | 0, c :: cs =>
    match addressAt? (c :: cs) with
    | some (address, n) => address :: addressesAfter (n - 1) cs
    | none => addressesAfter 0 cs

/-- The addresses referred to in a stylesheet, in order. -/
def addresses (t : Text) : List Text := addressesAfter 0 t

/-- Puts the data address of a file everywhere where its address stands. -/
def embedAddress (d : Disk) (dir content address : Text) : Except Fault Text :=
  let path := d.resolve dir address
  (d.readBytes path).map fun bytes =>
    Text.replace address (dataAddress d.mediaTypes path bytes) content

/-- Embeds the files that a stylesheet of the given directory refers to, one after the other. -/
def embed (d : Disk) (dir content : Text) : Except Fault Text :=
  (addresses content).foldlM (embedAddress d dir) content

/-! ## Links and styles -/

/-- What a link adds to the bundle, with the paths that are bundled afterwards.  A link needs an
address, an empty one is never passed, and each file is bundled once. -/
def linkText (d : Disk) (dir : Text) (bundled : List Text) (link : Node) :
    Journal (Text × List Text) :=
  match link.attribute? "href" with
  | none => Journal.silently (.error .addressMissing)
  | some [] => Journal.silently (.error .endless)
  | some href =>
    if isRemote href then do
      Journal.tell ("Stylesheet Url: " ++ href)
      Journal.tell "Remote/URL-based resources not yet implemented."
      return ([], bundled)
    else do
      Journal.tell "Found linked script. Resolving.."
      let path := d.resolve dir href
      if !d.isThere path then
        Journal.tell
          ("Stylesheet " ++ path ++ " (resolved from " ++ href ++ ") did not exist. Skipping..")
        return ([], bundled)
      else if bundled.contains path then
        Journal.tell "%s already processed.. Skipping."
        return ([], bundled)
      else
        Journal.tell ("Adding stylesheet: " ++ path)
        let content ← Journal.silently (d.readText path)
        let text ← Journal.silently (embed d (d.absolute (Path.directory path)) content)
        return (text, bundled ++ [path])

/-- What links add to the bundle, besides the paths that are bundled already. -/
def linksText (d : Disk) (dir : Text) : List Text → List Node → Journal Text
  | _, [] => pure []
  | bundled, link :: rest => do
    let (text, bundled) ← linkText d dir bundled link
    let more ← linksText d dir bundled rest
    return text ++ more

/-- What the styles of a page add to the bundle. -/
def stylesText (k : Toolkit) (d : Disk) (dir : Text) : List Node → Journal Text
  | [] => pure []
  | style :: rest => do
    Journal.tell "Found inline-style. Processing.."
    let text ← Journal.silently (embed d dir (k.inlineText style))
    let more ← stylesText k d dir rest
    return text ++ more

/-- The text without ends of lines, and without blanks at its ends. -/
def oneLine (t : Text) : Text := Text.strip (t.filter fun c => c != '\r' && c != '\n')

/-- The bundle of styles of a page, if there is any.  `earlier` are the links of the pages before;
they count only if this page has links. -/
def styles (k : Toolkit) (d : Disk) (dir : Text) (earlier links styles : List Node) :
    Journal (Option Text) := do
  let linked ← linksText d dir [] (if links.isEmpty then [] else earlier ++ links)
  let inPage ← stylesText k d dir styles
  let text := oneLine (linked ++ inPage)
  if text.isEmpty then return none
  else
    let compacted ← Journal.silently (k.compactors.style text)
    return some compacted

end PagePress.Bundle
