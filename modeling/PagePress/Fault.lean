import PagePress.Text.Utf8

/-!
# What can go wrong

A `Fault` is a cause for which an operation gives no result.  `Fault.message` is the one place that
words it, and `Fault.kind` names the class of faults that it is reported under.
-/

set_option autoImplicit false

namespace PagePress

/-- The causes for which an operation gives no result. -/
inductive Fault where
  /-- A rule asks for the names of the other attributes of a tag, which a run does not hand over in
  a form that has them. -/
  | siblingsUnreadable
  /-- Styles are to be compacted and no style compactor is installed. -/
  | styleCompactorMissing
  /-- The result is asked for where nothing was minified. -/
  | nothingMinified
  /-- There is no entry of that name. -/
  | noEntry (key : Text)
  /-- An empty element is to be removed and no chunk opens a tag. -/
  | noOpening
  /-- There is no page text. -/
  | pageMissing
  /-- A script has neither code nor address. -/
  | scriptMissing
  /-- A style has neither code nor address. -/
  | styleMissing
  /-- A page declares its encoding although it is decoded already. -/
  | encodingDeclared
  /-- A page holds no element. -/
  | documentEmpty
  /-- A colour component is no number. -/
  | notANumber (text : Text)
  /-- A colour component has more digits than a number may be written with. -/
  | tooManyDigits (count : Nat)
  /-- A colour has fewer than three components. -/
  | componentsMissing
  /-- A colour has more than three components. -/
  | componentsLeftOver
  /-- Settings are handed over together with a page. -/
  | settingsRefused
  /-- An asset is to be read where no reader is bound. -/
  | assetReaderUnbound
  /-- The minifier does not take the page under the name used for it. -/
  | pageRefused
  /-- A stylesheet link has no address. -/
  | addressMissing
  /-- The address of a stylesheet link is empty.  The bundler looks at the link again and again, and
  comes to no end. -/
  | endless
  /-- The compile service is not available. -/
  | serviceMissing
  /-- The command ends with a status. -/
  | exit (status : Nat)
  /-- There is no file of that name. -/
  | noSuchFile (name : Text)
  /-- The name is that of a directory. -/
  | isDirectory (name : Text)
  /-- A text file holds bytes that are no text. -/
  | undecodable (error : Utf8.Error)
  /-- The compile service does not answer. -/
  | noReply
  /-- There is no asset at that address. -/
  | noAsset
  deriving DecidableEq, Repr

/-- A fault in words. -/
def Fault.message : Fault → Text
  | .siblingsUnreadable => "'str' object has no attribute 'name'"
  | .styleCompactorMissing => "'NoneType' object has no attribute 'cssmin'"
  | .nothingMinified => "'HtmlMinifier' object has no attribute 'minified'"
  | .noEntry key => key
  | .noOpening => "'<' is not in list"
  | .pageMissing =>
    "Invalid value specified for parameter: htmltext. Must be a string larger than 0 characters."
  | .scriptMissing => "Must specify a value for either js_code or js_url"
  | .styleMissing => "Must specify a value for either css_code or css_url"
  | .encodingDeclared =>
    "Unicode strings with encoding declaration are not supported. " ++
      "Please use bytes input or XML fragments without declaration."
  | .documentEmpty => "Document is empty"
  | .notANumber text => "invalid literal for int() with base 10: " ++ text.quoted.take 200
  | .tooManyDigits count =>
    "Exceeds the limit (4300 digits) for integer string conversion: value has " ++
      Nat.toDigits 10 count ++
      " digits; use sys.set_int_max_str_digits() to increase the limit"
  | .componentsMissing => "not enough arguments for format string"
  | .componentsLeftOver => "not all arguments converted during string formatting"
  | .settingsRefused => "dict expected at most 1 argument, got 2"
  | .assetReaderUnbound =>
    "HtmlMinifier.read_asset() missing 1 required positional argument: 'url'"
  | .pageRefused => "HtmlMinifier.__init__() got an unexpected keyword argument 'value'"
  | .addressMissing => "object of type 'NoneType' has no len()"
  | .endless => "the address of a stylesheet link is empty"
  | .serviceMissing => "name 'HTTPConnection' is not defined"
  | .exit status => Nat.toDigits 10 status
  | .noSuchFile name => "[Errno 2] No such file or directory: " ++ name.quoted
  | .isDirectory name => "[Errno 21] Is a directory: " ++ name.quoted
  | .undecodable error => error.message
  | .noReply => "no reply"
  | .noAsset => "no asset"

/-- The class under which a fault is reported. -/
def Fault.kind : Fault → Text
  | .siblingsUnreadable | .styleCompactorMissing | .nothingMinified => "AttributeError"
  | .noEntry _ => "KeyError"
  | .noOpening | .pageMissing | .scriptMissing | .styleMissing | .encodingDeclared
  | .notANumber _ | .tooManyDigits _ => "ValueError"
  | .documentEmpty => "ParserError"
  | .componentsMissing | .componentsLeftOver | .settingsRefused | .assetReaderUnbound
  | .pageRefused | .addressMissing => "TypeError"
  | .endless => "Endless"
  | .serviceMissing => "NameError"
  | .exit _ => "SystemExit"
  | .noSuchFile _ => "FileNotFoundError"
  | .isDirectory _ => "IsADirectoryError"
  | .undecodable _ => "UnicodeDecodeError"
  | .noReply => "ConnectionError"
  | .noAsset => "OSError"

/-- A fault as it is reported: its class, and what it is in words. -/
def Fault.report (fault : Fault) : Text := fault.kind ++ ": " ++ fault.message

end PagePress
