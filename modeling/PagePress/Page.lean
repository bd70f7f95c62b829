import PagePress.Chunk
import PagePress.Run

/-!
# Minifying a page

A page is minified by a run of its own: the run starts with the document type, is fed all events,
and sends on at the end what it still has.  The page is made of the chunks.
-/

set_option autoImplicit false

namespace PagePress.Page

/-- The document type that is written where the short one is not. -/
def longDoctype : Text :=
  "<!DOCTYPE html PUBLIC \"-//W3C//DTD XHTML 1.0 Transitional//EN\" \"http://www.w3.org/TR/xhtml1/DTD/xhtml1-transitional.dtd\">"

/-- The chunk of a document type. -/
def doctype (o : Options) (text : Text) : Text :=
  if o.useShortDoctype then "<!DOCTYPE html>" else Text.collapse text

/-- The run at the start of a page. -/
def opening (o : Options) : Run := { chunks := [doctype o longDoctype] }

/-- Sends on the chunks that a run still has. -/
def flush (step : Step) : Step :=
  match step.fault with
  | some _ => step
  | none =>
    { step with
      run := { step.run with chunks := [] }
      emitted := step.emitted ++ step.run.chunks }

/-- Minifies the page of the given events. -/
def minifyEvents (tools : Tools) (o : Options) (s : Service) (events : List Event) : Step :=
  flush (Run.feed tools o (opening o) s events)

end PagePress.Page
