import PagePress.Options

/-!
# Comments

A comment whose text is a condition in brackets, and nothing more, is conditional and survives.
Comments are written behind a mark of their own.
-/

set_option autoImplicit false

namespace PagePress.Comment

/-- Conditional comments: `[if`, one or more characters other than `]`, and a final `]`. -/
def isConditional (t : Text) : Bool :=
  match Text.after? "[if" t with
  | none => false
  | some rest =>
    rest.getLast? == some ']' && !rest.dropLast.isEmpty && !rest.dropLast.contains ']'

/-- What stands in place of the opening and closing marks of a condition that are cleaned. -/
def mark : Text := "$1"

/-- The text with its opening condition, a bracket with one or more characters before `]>`, and the
blanks after it replaced by the mark. -/
def cleanOpening (t : Text) : Text :=
  match t with
  | '[' :: rest =>
    if (rest.takeWhile (· != ']')).isEmpty then t
    else
      match Text.after? "]>" (rest.dropWhile (· != ']')) with
      | some body => mark ++ Text.stripStart body
      | none => t
  | _ => t

/-- The text with its closing mark `<![endif]` and the blanks before it replaced by the mark; one
final line feed is let pass, and stays. -/
def cleanClosing (t : Text) : Text :=
  let body := Text.dropFinalNewline t
  match Text.before? "<![endif]" body with
  | some before => Text.stripEnd before ++ mark ++ t.drop body.length
  | none => t

/-- The text of a conditional comment, cleaned. -/
def clean (t : Text) : Text := cleanClosing (cleanOpening t)

/-- The chunk of a comment. -/
def chunk (o : Options) (t : Text) : Text :=
  let wrapped (t : Text) : Text := "<not --" ++ t ++ "-->"
  if o.removeComments then if isConditional t then wrapped (clean t) else []
  else wrapped t

end PagePress.Comment
