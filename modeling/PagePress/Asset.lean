import PagePress.Fault

/-!
# Assets

An asset is a text at an address.  The reader of assets is made when the first one is asked for, and
is told then that it takes any kind.  What it does is on record.
-/

set_option autoImplicit false

namespace PagePress

/-- What the reader of assets does. -/
inductive AssetAct where
  /-- It is made. -/
  | made
  /-- It is given a header. -/
  | header (name value : Text)
  /-- It opens an address. -/
  | opened (url : Text)
  deriving DecidableEq, Repr

/-- The assets that there are, and what their reader did. -/
structure Assets where
  table : List (Text × Text) := []
  record : List AssetAct := []
  deriving DecidableEq, Repr

/-- Reads the asset at an address. -/
def Assets.read (a : Assets) (url : Text) : Except Fault Text × Assets :=
  let start : List AssetAct := if a.record.isEmpty then [.made, .header "Accept" "*/*"] else []
  let a := { a with record := a.record ++ start ++ [.opened url] }
  match a.table.lookup url with
  | some text => (.ok text, a)
  | none => (.error .noAsset, a)

end PagePress
