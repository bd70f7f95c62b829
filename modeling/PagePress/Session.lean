import PagePress.Page

/-!
# Several minifiers

Minifiers that work side by side share more than one expects.  The chunks that any of them sends on
pile up in one list of results, and a minified page is made of all that is there.  Also, until a
minifier has collected a list of its own, it collects its chunks in a list that all such minifiers
share; and its lists of open elements are shared until its first page.

* `Minifier` is one of them, and says which of its lists are its own.
* `Session` holds all of them with what they share.
* `Session.act` handles an `Action` on one of them.
-/

set_option autoImplicit false

namespace PagePress

/-- A minifier. -/
structure Minifier where
  settings : Settings := Settings.default
  /-- The state of its run; lists that are not its own are those of the session. -/
  run : Run := {}
  /-- The list of chunks is its own. -/
  ownsChunks : Bool := false
  /-- The lists of open elements are its own. -/
  ownsKept : Bool := false
  deriving Inhabited

/-- All minifiers with what they share. -/
structure Session where
  tools : Tools := {}
  service : Service := { replies := [] }
  /-- All chunks that were sent on. -/
  results : List Text := []
  /-- The shared list of chunks. -/
  chunks : List Text := []
  /-- The shared lists of open elements. -/
  keepEnds : List Text := []
  keepRuns : List Text := []
  minifiers : List (Text × Minifier) := []
  deriving Inhabited

/-- What can be asked of a minifier. -/
inductive Action where
  /-- Make it, with a page to minify at once if the text is not empty. -/
  | create (page : Option (Text × Except Fault (List Event))) (settings : Settings)
  /-- Handle an event. -/
  | handle (event : Event)
  /-- Write a document type. -/
  | doctype (text : Text)
  /-- Write a reference by number or by name. -/
  | characterReference (name : Text)
  | entityReference (name : Text)
  /-- Say that the page is over. -/
  | close
  /-- Minify a page, given by its text and what a reader makes of it. -/
  | minify (page : Option (Text × Except Fault (List Event))) (settings : Option Settings)
  /-- Change settings. -/
  | set (settings : Settings)
  /-- Tell the settings. -/
  | settings

/-- An answer of a minifier. -/
inductive Answer where
  | nothing
  | text (t : Text)
  | settings (s : Settings)

/-- What an action gives. -/
structure Report where
  answer : Except Fault Answer
  /-- The chunks sent on. -/
  added : List Text := []
  warnings : List Text := []

/-- The warning that scripts go through the compile service. -/
def scriptWarning : Text :=
  "\nJS minification is attempted using the jsmin module, which is\n" ++
  "currently missing from your Python environment. As a result,\n" ++
  "minification will be attempted with the online Closure Compiler\n" ++
  "webservice. Should that attempt fail, (which it may - for many\n" ++
  "reasons) the JS will be left in its original form. It is \n" ++
  "advised that you install this dependency if you want to use\n" ++
  "the functionality. (https://pypi.python.org/pypi/jsmin)\n"

/-- The warning that styles are not compacted. -/
def styleWarning : Text :=
  "\nCSS minification depends on the cssmin module, which is currently\n" ++
  "missing from your Python environment. This option will be disabled\n" ++
  "for the current minification.\n\n" ++
  "Module URL: https://github.com/zacharyvoase/cssmin\n"

namespace Session

/-- The minifier of a name. -/
def get (s : Session) (name : Text) : Minifier := (s.minifiers.lookup name).getD {}

/-- Puts a minifier under a name. -/
def put (s : Session) (name : Text) (m : Minifier) : Session :=
  { s with minifiers := (name, m) :: s.minifiers.filter (·.1 != name) }

/-- The state of the run of a minifier, with the lists that it uses. -/
def view (s : Session) (m : Minifier) : Run :=
  { m.run with
    chunks := if m.ownsChunks then m.run.chunks else s.chunks
    keepEnds := if m.ownsKept then m.run.keepEnds else s.keepEnds
    keepRuns := if m.ownsKept then m.run.keepRuns else s.keepRuns }

/-- Records what a step did to a minifier.  Lists that are shared change for all; a minifier that
goes on with a list of chunks of its own leaves the shared one as it stood then. -/
def record (s : Session) (name : Text) (m : Minifier) (step : Step) : Session :=
  let s := { s with service := step.service, results := s.results ++ step.emitted }
  let s :=
    if m.ownsChunks then s else { s with chunks := step.shelved.getD step.run.chunks }
  let s :=
    if m.ownsKept then s
    else { s with keepEnds := step.run.keepEnds, keepRuns := step.run.keepRuns }
  s.put name { m with run := step.run, ownsChunks := m.ownsChunks || step.shelved.isSome }

/-- The report of a step that answers nothing. -/
def report (step : Step) : Report where
  answer :=
    match step.fault with
    | some fault => .error fault
    | none => .ok .nothing
  added := step.emitted

/-- Has a minifier write a chunk. -/
def write (s : Session) (name : Text) (m : Minifier) (chunk : Text) : Session × Report :=
  let step : Step := { run := (s.view m).write [chunk], service := s.service }
  (s.record name m step, report step)

/-- Has a minifier minify a page that a reader made events of.  From then on all its lists are its
own. -/
def minify (s : Session) (name : Text) (m : Minifier)
    (page : Option (Text × Except Fault (List Event))) : Session × Report :=
  match page with
  | none | some ([], _) => (s, { answer := .error .pageMissing })
  | some (_ :: _, read) =>
    let o := m.settings.options
    let step :=
      match read with
      | .ok events => Page.minifyEvents s.tools o s.service events
      | .error fault => { run := Page.opening o, service := s.service, fault := some fault }
    let results := s.results ++ step.emitted
    let m := { m with run := step.run, ownsChunks := true, ownsKept := true }
    let s := { s with service := step.service, results := results }
    let answer :=
      match step.fault with
      | some fault => .error fault
      | none => .ok (.text (Chunk.page results))
    (s.put name m, { answer := answer, added := step.emitted })

/-- The settings of a new minifier and the warnings about compactors that are missing. -/
def prepare (tools : Tools) (settings : Settings) : Settings × List Text :=
  let settings := Settings.default.update settings
  let scriptWarnings := if settings.options.minifyJS && !tools.script then [scriptWarning] else []
  if settings.options.minifyCSS && !tools.style then
    (settings.put "minifyCSS" (.flag false), scriptWarnings ++ [styleWarning])
  else (settings, scriptWarnings)

/-- Handles an action on the minifier of a name. -/
def act (s : Session) (name : Text) (action : Action) : Session × Report :=
  let m := s.get name
  let o := m.settings.options
  match action with
  | .create page settings =>
    let (settings, warnings) := prepare s.tools settings
    let m : Minifier := { settings := settings }
    let s := s.put name m
    match page with
    | none | some ([], _) => (s, { answer := .ok .nothing, warnings := warnings })
    | some page =>
      let (s, report) := s.minify name m (some page)
      (s, { report with warnings := warnings })
  | .handle event =>
    let step := (s.view m).step s.tools o s.service event
    (s.record name m step, report step)
  | .doctype text => s.write name m (Page.doctype o text)
  | .characterReference ref => s.write name m ("&#" ++ ref ++ ";")
  | .entityReference ref => s.write name m ("&" ++ ref ++ ";")
  | .close => (s, { answer := .ok (.text []) })
  | .minify _ (some _) => (s, { answer := .error .settingsRefused })
  | .minify page none => s.minify name m page
  | .set settings =>
    (s.put name { m with settings := m.settings.update settings }, { answer := .ok .nothing })
  | .settings => (s, { answer := .ok (.settings m.settings) })

/-! ## Sequences of actions -/

/-- The settings of the minifier of a name after more actions, until another minifier takes the
name. -/
def settingsAfter (s : Session) (name : Text) : List (Text × Action) → Settings
  | [] => (s.get name).settings
  | (other, action) :: rest =>
    match action with
    | .create _ _ =>
      if other == name then (s.get name).settings
      else (s.act other action).1.settingsAfter name rest
    | _ => (s.act other action).1.settingsAfter name rest

/-- Handles actions in order, with the run of the minifier after each.  A minifier that tells its
settings hands out the very table it uses, so that later changes show in the answer. -/
def play (s : Session) : List (Text × Action) → List (Report × Run) × Session
  | [] => ([], s)
  | (name, action) :: rest =>
    let (s, report) := s.act name action
    let report :=
      match action with
      | .settings => { report with answer := .ok (.settings (s.settingsAfter name rest)) }
      | _ => report
    let (more, last) := s.play rest
    ((report, s.view (s.get name)) :: more, last)

end Session

end PagePress
