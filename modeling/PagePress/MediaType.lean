import PagePress.Path
import PagePress.Text.Case
import PagePress.Text.Search

/-!
# Media types

The media type of a file is told by the extension of its name, after an extension that says how the
file is packed is taken off.  Which extensions there are is up to the system: a `Registry` is what a
system knows about them, and `standard` is the usual one.  A data address names its media type
itself.
-/

set_option autoImplicit false

namespace PagePress.MediaType

/-- The characters that media types are written with. -/
def isTypeChar (c : Char) : Bool :=
  c.isAlphanum || ['/', '.', '+', '-', '_', '!', '#', '$', '&', '^'].contains c

/-- What a system knows about extensions. -/
structure Registry where
  /-- Extensions that stand for two. -/
  doubles : List (Text × Text)
  /-- Extensions that say how a file is packed. -/
  packings : List Text
  /-- Extensions and the media types they tell. -/
  types : List (String × String)
  isTypeChar_of_mem : ∀ row ∈ types, row.2.toList.all isTypeChar = true
  deriving Repr

/-! ## The usual extensions -/

/-- The usual extensions and the media types they tell. -/
def standardTypes : List (String × String) := [
  ("3g2", "audio/3gpp2"), ("3gp", "audio/3gpp"), ("3gpp", "audio/3gpp"), ("3gpp2", "audio/3gpp2"),
  ("a", "application/octet-stream"), ("aac", "audio/aac"), ("adts", "audio/aac"),
  ("ai", "application/postscript"), ("aif", "audio/x-aiff"), ("aifc", "audio/x-aiff"),
  ("aiff", "audio/x-aiff"), ("ass", "audio/aac"), ("au", "audio/basic"),
  ("avi", "video/x-msvideo"), ("avif", "image/avif"), ("bat", "text/plain"),
  ("bcpio", "application/x-bcpio"), ("bin", "application/octet-stream"), ("bmp", "image/bmp"),
  ("c", "text/plain"), ("cdf", "application/x-netcdf"), ("cpio", "application/x-cpio"),
  ("csh", "application/x-csh"), ("css", "text/css"), ("csv", "text/csv"),
  ("dll", "application/octet-stream"), ("doc", "application/msword"),
  ("dot", "application/msword"), ("dvi", "application/x-dvi"), ("eml", "message/rfc822"),
  ("eps", "application/postscript"), ("etx", "text/x-setext"),
  ("exe", "application/octet-stream"), ("gif", "image/gif"), ("gtar", "application/x-gtar"),
  ("h", "text/plain"), ("h5", "application/x-hdf5"), ("hdf", "application/x-hdf"),
  ("heic", "image/heic"), ("heif", "image/heif"), ("htm", "text/html"), ("html", "text/html"),
  ("ico", "image/vnd.microsoft.icon"), ("ief", "image/ief"), ("jpe", "image/jpeg"),
  ("jpeg", "image/jpeg"), ("jpg", "image/jpeg"), ("js", "application/javascript"),
  ("json", "application/json"), ("ksh", "text/plain"), ("latex", "application/x-latex"),
  ("loas", "audio/aac"), ("m1v", "video/mpeg"), ("m3u", "application/vnd.apple.mpegurl"),
  ("m3u8", "application/vnd.apple.mpegurl"), ("man", "application/x-troff-man"),
  ("me", "application/x-troff-me"), ("mht", "message/rfc822"), ("mhtml", "message/rfc822"),
  ("mif", "application/x-mif"), ("mjs", "application/javascript"), ("mov", "video/quicktime"),
  ("movie", "video/x-sgi-movie"), ("mp2", "audio/mpeg"), ("mp3", "audio/mpeg"),
  ("mp4", "video/mp4"), ("mpa", "video/mpeg"), ("mpe", "video/mpeg"), ("mpeg", "video/mpeg"),
  ("mpg", "video/mpeg"), ("ms", "application/x-troff-ms"), ("n3", "text/n3"),
  ("nc", "application/x-netcdf"), ("nq", "application/n-quads"), ("nt", "application/n-triples"),
  ("nws", "message/rfc822"), ("o", "application/octet-stream"),
  ("obj", "application/octet-stream"), ("oda", "application/oda"), ("opus", "audio/opus"),
  ("p12", "application/x-pkcs12"), ("p7c", "application/pkcs7-mime"),
  ("pbm", "image/x-portable-bitmap"), ("pdf", "application/pdf"), ("pfx", "application/x-pkcs12"),
  ("pgm", "image/x-portable-graymap"), ("pl", "text/plain"), ("png", "image/png"),
  ("pnm", "image/x-portable-anymap"), ("pot", "application/vnd.ms-powerpoint"),
  ("ppa", "application/vnd.ms-powerpoint"), ("ppm", "image/x-portable-pixmap"),
  ("pps", "application/vnd.ms-powerpoint"), ("ppt", "application/vnd.ms-powerpoint"),
  ("ps", "application/postscript"), ("pwz", "application/vnd.ms-powerpoint"),
  ("py", "text/x-python"), ("pyc", "application/x-python-code"),
  ("pyo", "application/x-python-code"), ("qt", "video/quicktime"), ("ra", "audio/x-pn-realaudio"),
  ("ram", "application/x-pn-realaudio"), ("ras", "image/x-cmu-raster"),
  ("rdf", "application/xml"), ("rgb", "image/x-rgb"), ("roff", "application/x-troff"),
  ("rtx", "text/richtext"), ("sgm", "text/x-sgml"), ("sgml", "text/x-sgml"),
  ("sh", "application/x-sh"), ("shar", "application/x-shar"), ("snd", "audio/basic"),
  ("so", "application/octet-stream"), ("src", "application/x-wais-source"), ("srt", "text/plain"),
  ("sv4cpio", "application/x-sv4cpio"), ("sv4crc", "application/x-sv4crc"),
  ("svg", "image/svg+xml"), ("swf", "application/x-shockwave-flash"),
  ("t", "application/x-troff"), ("tar", "application/x-tar"), ("tcl", "application/x-tcl"),
  ("tex", "application/x-tex"), ("texi", "application/x-texinfo"),
  ("texinfo", "application/x-texinfo"), ("tif", "image/tiff"), ("tiff", "image/tiff"),
  ("tr", "application/x-troff"), ("trig", "application/trig"),
  ("tsv", "text/tab-separated-values"), ("txt", "text/plain"), ("ustar", "application/x-ustar"),
  ("vcf", "text/x-vcard"), ("vtt", "text/vtt"), ("wasm", "application/wasm"),
  ("wav", "audio/x-wav"), ("webm", "video/webm"), ("webmanifest", "application/manifest+json"),
  ("wiz", "application/msword"), ("wsdl", "application/xml"), ("xbm", "image/x-xbitmap"),
  ("xlb", "application/vnd.ms-excel"), ("xls", "application/vnd.ms-excel"), ("xml", "text/xml"),
  ("xpdl", "application/xml"), ("xpm", "image/x-xpixmap"), ("xsl", "application/xml"),
  ("xwd", "image/x-xwindowdump"), ("zip", "application/zip")]

theorem isTypeChar_cons {rows : List (String × String)} (extension : String) {chars : Text}
    (hchars : chars.all isTypeChar = true)
    (hrows : ∀ row ∈ rows, row.2.toList.all isTypeChar = true) :
    ∀ row ∈ (extension, String.ofList chars) :: rows, row.2.toList.all isTypeChar = true := by
  rw [List.forall_mem_cons, String.toList_ofList]
  exact ⟨hchars, hrows⟩

set_option maxRecDepth 4000 in
theorem isTypeChar_of_mem_standardTypes :
    ∀ row ∈ standardTypes, row.2.toList.all isTypeChar = true := by
  rw [standardTypes]
  -- row by row, since the characters of a literal are there to see, and decoding it is slow
  repeat refine isTypeChar_cons _ (by decide) ?_
  exact fun row hrow => absurd hrow List.not_mem_nil

/-- The usual extensions. -/
def standard : Registry where
  doubles := [
    (".svgz", ".svg.gz"), (".tgz", ".tar.gz"), (".taz", ".tar.gz"), (".tz", ".tar.gz"),
    (".tbz2", ".tar.bz2"), (".txz", ".tar.xz")]
  packings := [".gz", ".Z", ".bz2", ".xz", ".br"]
  types := standardTypes
  isTypeChar_of_mem := isTypeChar_of_mem_standardTypes

/-! ## Names and addresses -/

/-- The name with an extension that stands for two written as the two. -/
def expand (r : Registry) (name : Text) : Text :=
  let (base, ext) := Path.splitExtension name
  match r.doubles.lookup (Text.lower ext) with
  | some two => base ++ two
  | none => name

/-- The media type of a path. -/
def ofPath? (r : Registry) (path : Text) : Option Text :=
  let (base, ext) := Path.splitExtension (expand r path)
  let ext := if r.packings.contains ext then (Path.splitExtension base).2 else ext
  match Text.lower ext with
  | '.' :: ext => (r.types.lookup (String.ofList ext)).map String.toList
  | _ => none

/-- The media type that a data address names before its comma; plain text if it names none. -/
def ofData? (t : Text) : Option Text := do
  let (head, _) ← Text.cut? "," t
  let named := head.takeWhile (· != ';')
  if named.contains '=' || !named.contains '/' then some "text/plain" else some named

/-- The media type of a file name, which may be an address with a scheme. -/
def ofName? (r : Registry) (name : Text) : Option Text :=
  let isPlain (c : Char) : Bool := c != '/' && c != ':'
  let scheme := name.takeWhile isPlain
  match name.dropWhile isPlain with
  | ':' :: rest =>
    if scheme.isEmpty then ofPath? r name
    else if Text.lower scheme == "data" then ofData? rest
    else ofPath? r rest
  | _ => ofPath? r name

end PagePress.MediaType
