import PagePress.Fault
import PagePress.Options

/-!
# Wrappers of raw text

The text of a script or a style may stand between comment marks, or between the marks of a character
data section that are hidden in comments of the language.  `Wrapper.unwrap` takes both off.
-/

set_option autoImplicit false

namespace PagePress

/-- The elements with raw text. -/
inductive RawKind where
  | script
  | style
  deriving DecidableEq, Repr

/-- The kind of raw text in elements of a tag. -/
def RawKind.ofTag? (tag : Text) : Option RawKind :=
  if tag == "script" then some .script else if tag == "style" then some .style else none

namespace Wrapper

/-! ## Comment marks -/

/-- The text without its opening comment mark and all before that, which is blank.  A script may
have `//` before the mark, and a line feed right after the mark goes with it. -/
def dropCommentStart (kind : RawKind) (t : Text) : Text :=
  let body := Text.stripStart t
  match kind with
  | .script =>
    let body :=
      match Text.after? "//" body with
      | some rest => Text.stripStart rest
      | none => body
    match Text.after? "<!--" body with
    | some ('\n' :: rest) => rest
    | some rest => rest
    | none => t
  | .style =>
    match Text.after? "<!--" body with
    | some rest => rest
    | none => t

/-- The text without its closing comment mark, the blanks around that, and in a script `//` before
it with the blanks before that.  A final line feed stays. -/
def dropCommentEnd (kind : RawKind) (t : Text) : Text :=
  match Text.before? "-->" (Text.stripEnd t) with
  | none => t
  | some before =>
    let before := Text.stripEnd before
    let body :=
      match kind, Text.before? "//" before with
      | .script, some before => Text.stripEnd before
      | _, _ => before
    if t.getLast? == some '\n' then body ++ ['\n'] else body

/-- The text without comment marks at its ends. -/
def removeComments (kind : RawKind) (t : Text) : Text :=
  dropCommentEnd kind (dropCommentStart kind t)

/-! ## Section marks -/

/-- The rest of a text that starts with `p` after blanks. -/
def afterBlanks? (p t : Text) : Option Text := Text.after? p (Text.stripStart t)

/-- The text without its opening section mark, hidden in a block comment, or in a line comment of
which the whole line goes. -/
def dropSectionStart (t : Text) : Text :=
  let inBlock := do
    let t ← afterBlanks? "/*" t
    let t ← afterBlanks? "<![CDATA[" t
    afterBlanks? "*/" t
  let inLine := do
    let t ← afterBlanks? "//" t
    let t ← afterBlanks? "<![CDATA[" t
    some (t.dropWhile (· != '\n'))
  (inBlock.orElse fun _ => inLine).getD t

/-- Whether the text is a closing section mark, hidden in a block or line comment, and blanks. -/
def isSectionEnd (t : Text) : Bool :=
  let inBlock := do
    let t ← Text.after? "/*" t
    let t ← afterBlanks? "]]>" t
    afterBlanks? "*/" t
  let inLine := do
    let t ← Text.after? "//" t
    afterBlanks? "]]>" t
  match inBlock.orElse fun _ => inLine with
  | some rest => Text.allBlank rest
  | none => false

/-- The text up to its closing section mark. -/
def dropSectionEnd : Text → Text
  | [] => []
  | c :: cs => if isSectionEnd (c :: cs) then [] else c :: dropSectionEnd cs

/-- The text without section marks at its ends. -/
def removeSections (t : Text) : Text := dropSectionEnd (dropSectionStart t)

/-! ## Both -/

/-- The raw text of an element without the wrappers that the options take off. -/
def unwrap (o : Options) (kind : RawKind) (t : Text) : Text :=
  let t := if o.removeCommentsFromCDATA then removeComments kind t else t
  if o.removeCDATASectionsFromCDATA then removeSections t else t

/-- The text without comment marks for the element of a tag; tags without raw text have no rule. -/
def removeCommentsFor (tag t : Text) : Except Fault Text :=
  match RawKind.ofTag? tag with
  | some kind => .ok (removeComments kind t)
  | none => .error (.noEntry tag)

end Wrapper

end PagePress
