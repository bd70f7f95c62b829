import PagePress.Disk

/-!
# Resources of a page

The address of a resource is remote if it names one of four schemes; only local resources are
bundled.  A local address counts from the root of the site if it starts with a slash, and otherwise
from the directory of the file that names it.
-/

set_option autoImplicit false

namespace PagePress

/-- The schemes of remote addresses. -/
def remoteSchemes : List Text := ["file://", "http://", "https://", "chrome://"]

/-- Whether an address is remote. -/
def isRemote (address : Text) : Bool :=
  remoteSchemes.any fun scheme => (Text.after? scheme address).isSome

/-- The absolute path of a local address in a file of the given directory. -/
def Disk.resolve (d : Disk) (dir address : Text) : Text :=
  match address with
  | '/' :: rest => d.absolute (Path.join d.cwd rest)
  | _ => d.absolute (Path.join dir address)

end PagePress
