import PagePress.Bundle.Journal
import PagePress.Bundle.Resource
import PagePress.Bundle.Toolkit

/-!
# Bundling scripts

The scripts of a page are joined in order: the text of those that stand in the page, and the files
of those that are local and there.  The compile service makes one script of them.
-/

set_option autoImplicit false

namespace PagePress.Bundle

/-- What a script adds to the bundle of a page in the given directory. -/
def scriptText (k : Toolkit) (d : Disk) (dir : Text) (script : Node) : Journal Text :=
  match script.attribute? "src" with
  | none | some [] => do
    Journal.tell "Found inline-script. Processing.."
    return k.inlineText script
  | some src =>
    if isRemote src then do
      Journal.tell ("Script Url: " ++ src)
      Journal.tell "Remote/URL-based resources not yet implemented."
      return []
    else do
      Journal.tell "Found linked script. Resolving.."
      let path := d.resolve dir src
      if d.isThere path then
        Journal.tell ("Script: " ++ path)
        Journal.silently (d.readText path)
      else
        Journal.tell
          ("Script " ++ path ++ " (resolved from " ++ src ++ ") did not exist. Skipping..")
        return []

/-- The scripts of a page, joined. -/
def scriptsText (k : Toolkit) (d : Disk) (dir : Text) : List Node → Journal Text
  | [] => pure []
  | script :: rest => do
    let text ← scriptText k d dir script
    let more ← scriptsText k d dir rest
    return text ++ more

/-- The blanks at the ends of a reply that are left away. -/
def isReplyBlank (c : Char) : Bool := c == '\r' || c == '\n' || c == ' ' || c == '\t'

/-- A reply without blanks at its ends. -/
def trimReply (t : Text) : Text :=
  ((t.dropWhile isReplyBlank).reverse.dropWhile isReplyBlank).reverse

/-- A text, unless it is empty. -/
def nonempty? (t : Text) : Option Text := if t.isEmpty then none else some t

/-- The bundle of scripts of a page, if there is any, with the service afterwards. -/
def scripts (k : Toolkit) (d : Disk) (s : Option Service) (dir : Text) (nodes : List Node) :
    Journal (Option Text) × Option Service :=
  let gathered := scriptsText k d dir nodes
  match gathered.outcome with
  | .error fault => (⟨gathered.lines, .error fault⟩, s)
  | .ok code =>
    if code.isEmpty then (⟨gathered.lines, .ok none⟩, s)
    else
      let (reply, s) := Service.compile s (some code) none
      (⟨gathered.lines, reply.map fun t => nonempty? (trimReply t)⟩, s)

end PagePress.Bundle
