import PagePress.Text.Basic

/-!
# Options

`Options` says which of the shortenings a run applies.  A user gives them as `Settings`, a table of
values of any kind under names of any kind: the value under the name of an option turns it on or off
by whether it `isOn`, and the other entries are kept without an effect.
-/

set_option autoImplicit false

namespace PagePress

/-- The shortenings of a run. -/
structure Options where
  /-- Ordinary comments are dropped. -/
  removeComments : Bool := true
  /-- The comment marks around the text of a script or style are dropped. -/
  removeCommentsFromCDATA : Bool := true
  /-- The section marks around the text of a script or style are dropped. -/
  removeCDATASectionsFromCDATA : Bool := true
  /-- Text is stripped, and its runs of blanks are written as one space. -/
  collapseWhitespace : Bool := true
  /-- An attribute whose presence says all is written without a value. -/
  collapseBooleanAttributes : Bool := true
  /-- The quotes are left away around a value that can stand without. -/
  removeAttributeQuotes : Bool := true
  /-- Attributes that say what holds anyway are dropped. -/
  removeRedundantAttributes : Bool := true
  /-- The short document type is written. -/
  useShortDoctype : Bool := true
  /-- Attributes without effect when empty are dropped. -/
  removeEmptyAttributes : Bool := true
  /-- End tags that are implied are not written. -/
  removeOptionalTags : Bool := true
  /-- An element without content is not written out. -/
  removeEmptyElements : Bool := false
  /-- The type of a script is dropped if it is the usual one. -/
  removeScriptTypeAttributes : Bool := false
  /-- The type of a style or link is dropped if it is the usual one. -/
  removeStyleLinkTypeAttributes : Bool := false
  /-- Scripts are compacted. -/
  minifyJS : Bool := true
  /-- Styles are compacted. -/
  minifyCSS : Bool := true
  deriving DecidableEq, Repr

/-! ## Settings -/

/-- A value that a user gives. -/
inductive Setting where
  | null
  | flag (on : Bool)
  /-- The number `digits / 10 ^ places`. -/
  | number (digits : Int) (places : Nat)
  | text (t : Text)
  | list (items : List Setting)
  | table (entries : List (Text × Setting))
  deriving Repr, Inhabited

/-- Whether a value turns an option on: all do but `null`, the flag for off, zero, the empty text,
the empty list and the empty table. -/
def Setting.isOn : Setting → Bool
  | .null => false
  | .flag on => on
  | .number digits _ => digits != 0
  | .text t => !t.isEmpty
  | .list items => !items.isEmpty
  | .table entries => !entries.isEmpty

/-- The table of a user's values, in the order in which the names first came. -/
abbrev Settings := List (Text × Setting)

namespace Settings

/-- The table with a value under a name; a name that is there keeps its place. -/
def put : Settings → Text → Setting → Settings
  | [], name, value => [(name, value)]
  | (n, v) :: rest, name, value =>
    if n == name then (n, value) :: rest else (n, v) :: put rest name value

/-- The table with all entries of another put into it. -/
def update (s new : Settings) : Settings := new.foldl (fun s (name, value) => s.put name value) s

/-- Whether the option of a name is on. -/
def isOn (s : Settings) (name : Text) : Bool :=
  match s.lookup name with
  | some value => value.isOn
  | none => false

/-- The settings that say the same as options. -/
def ofOptions (o : Options) : Settings := [
  ("removeComments", .flag o.removeComments),
  ("removeCommentsFromCDATA", .flag o.removeCommentsFromCDATA),
  ("removeCDATASectionsFromCDATA", .flag o.removeCDATASectionsFromCDATA),
  ("collapseWhitespace", .flag o.collapseWhitespace),
  ("collapseBooleanAttributes", .flag o.collapseBooleanAttributes),
  ("removeAttributeQuotes", .flag o.removeAttributeQuotes),
  ("removeRedundantAttributes", .flag o.removeRedundantAttributes),
  ("useShortDoctype", .flag o.useShortDoctype),
  ("removeEmptyAttributes", .flag o.removeEmptyAttributes),
  ("removeOptionalTags", .flag o.removeOptionalTags),
  ("removeEmptyElements", .flag o.removeEmptyElements),
  ("removeScriptTypeAttributes", .flag o.removeScriptTypeAttributes),
  ("removeStyleLinkTypeAttributes", .flag o.removeStyleLinkTypeAttributes),
  ("minifyJS", .flag o.minifyJS),
  ("minifyCSS", .flag o.minifyCSS)]

/-- The settings in force where a user gives none. -/
def default : Settings := ofOptions {}

/-- The options that settings turn on. -/
def options (s : Settings) : Options where
  removeComments := s.isOn "removeComments"
  removeCommentsFromCDATA := s.isOn "removeCommentsFromCDATA"
  removeCDATASectionsFromCDATA := s.isOn "removeCDATASectionsFromCDATA"
  collapseWhitespace := s.isOn "collapseWhitespace"
  collapseBooleanAttributes := s.isOn "collapseBooleanAttributes"
  removeAttributeQuotes := s.isOn "removeAttributeQuotes"
  removeRedundantAttributes := s.isOn "removeRedundantAttributes"
  useShortDoctype := s.isOn "useShortDoctype"
  removeEmptyAttributes := s.isOn "removeEmptyAttributes"
  removeOptionalTags := s.isOn "removeOptionalTags"
  removeEmptyElements := s.isOn "removeEmptyElements"
  removeScriptTypeAttributes := s.isOn "removeScriptTypeAttributes"
  removeStyleLinkTypeAttributes := s.isOn "removeStyleLinkTypeAttributes"
  minifyJS := s.isOn "minifyJS"
  minifyCSS := s.isOn "minifyCSS"

end Settings

end PagePress
