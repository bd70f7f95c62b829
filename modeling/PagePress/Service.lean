import PagePress.Fault
import PagePress.Form
import PagePress.Script.Compact
import PagePress.Stylesheet.Compact

/-!
# Compactors and the compile service

Scripts and styles are compacted in process if the compactor for them is installed.  What compactors
make of a text is up to them: `Compactors` are any two functions, and `Script.compact` and
`Stylesheet.compact` are those in use.  Without a compactor for scripts, a compile service is asked.
The outside world is a value: a `Service` holds the replies that are still to come and the requests
that were made.

* `Tools.compactScript` asks the service where no compactor is installed, and falls back on the
  script itself if the reply is an error message or blank.
* `Service.compile` is a plain client of the same service, which hands the reply on as it is.
-/

set_option autoImplicit false

namespace PagePress

/-- A request to the compile service. -/
structure Request where
  host : Text
  method : Text
  path : Text
  body : Text
  headers : List (Text × Text)
  deriving DecidableEq, Repr

/-- The compile service as a user sees it. -/
structure Service where
  /-- The replies to come. -/
  replies : List Text
  /-- The requests made, in order. -/
  requests : List Request := []
  deriving DecidableEq, Repr

namespace Service

/-- Makes a request.  It is on record even if there is no reply to it. -/
def send (s : Service) (request : Request) : Except Fault Text × Service :=
  let requests := s.requests ++ [request]
  match s.replies with
  | [] => (.error .noReply, { s with requests := requests })
  | reply :: replies => (.ok reply, { replies := replies, requests := requests })

/-- The request to compile a script, given as a named value. -/
def compileRequest (headers : List (Text × Text)) (source : Text × Text) : Request where
  host := "closure-compiler.appspot.com"
  method := "POST"
  path := "/compile"
  body := Form.encode [
    ("output_format", "text"), ("output_info", "compiled_code"),
    ("compilation_level", "SIMPLE_OPTIMIZATIONS"), source]
  headers := headers

/-- What a script is compiled from: its code, or else its address. -/
def source? (code url : Option Text) : Option (Text × Text) :=
  match code, url with
  | some code, _ => some ("js_code", code)
  | none, some url => some ("code_url", url)
  | none, none => none

/-- The headers of a plain client. -/
def plainHeaders : List (Text × Text) := [("Content-type", "application/x-www-form-urlencoded")]

/-- Has a script compiled and hands the reply on.  The service may not be there at all. -/
def compile (s : Option Service) (code url : Option Text) :
    Except Fault Text × Option Service :=
  match source? code url with
  | none => (.error .scriptMissing, s)
  | some source =>
    match s with
    | none => (.error .serviceMissing, none)
    | some s =>
      let (reply, s) := s.send (compileRequest plainHeaders source)
      (reply, some s)

end Service

/-- What compactors make of scripts and styles. -/
structure Compactors where
  script : Text → Text := Script.compact
  style : Text → Except Fault Text := Stylesheet.compact

/-- Which compactors are installed, and what they do. -/
structure Tools where
  script : Bool := true
  style : Bool := true
  compactors : Compactors := {}

namespace Tools

/-- The headers of the client that stands in for the script compactor. -/
def headers : List (Text × Text) := [
  ("Accept", "text/javascript,*/*"),
  ("Content-type", "application/x-www-form-urlencoded;charset=utf-8"),
  ("Referer", "http://closure-compiler.appspot.com/home"),
  ("User-Agent",
    "Mozilla/5.0 (Windows NT 6.1; WOW64; rv:43.0) Gecko/20100101 Firefox/43.0")]

/-- Whether a reply holds no script: an error message, or blanks only. -/
def isRefusal (reply : Text) : Bool :=
  (Text.after? "Error(" reply).isSome || Text.allBlank reply

/-- Has a script compiled by the service; a refusal is answered with the code itself. -/
def compile (s : Service) (source : Text × Text) (code : Option Text) :
    Except Fault Text × Service :=
  match s.send (Service.compileRequest headers source) with
  | (.error fault, s) => (.error fault, s)
  | (.ok reply, s) =>
    if isRefusal reply then
      match code with
      | some code => (.ok code, s)
      | none => (.error .assetReaderUnbound, s)
    else (.ok reply, s)

/-- Compacts a script that is given by its address, or else by its code. -/
def compactScript (tools : Tools) (s : Service) (code url : Option Text) :
    Except Fault Text × Service :=
  match url, code with
  | some url, code =>
    if tools.script then (.error .assetReaderUnbound, s) else compile s ("code_url", url) code
  | none, some code =>
    if tools.script then (.ok (tools.compactors.script code), s)
    else compile s ("js_code", code) (some code)
  | none, none => (.error .scriptMissing, s)

/-- Compacts a style that is given by its address, or else by its code. -/
def compactStyle (tools : Tools) (code url : Option Text) : Except Fault Text :=
  match url, code with
  | some _, _ => .error .assetReaderUnbound
  | none, some code =>
    if tools.style then tools.compactors.style code else .error .styleCompactorMissing
  | none, none => .error .styleMissing

end Tools

end PagePress
