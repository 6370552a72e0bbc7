import SpaServer.Assets.Lookup

/-!
# Finding assets

A path is looked up by its names, so slashes that are doubled or stand at an end make no difference.
No name may begin with a dot. A lookup that fails because there can be no such asset finds nothing;
any other failure is passed on.
-/

namespace SpaServer

/-- A regular file and the place where it stands. -/
structure File where
  place : Place
  content : Bytes
  deriving DecidableEq

def assetNames (path : Text) : List Text := (path.splitOn '/').filter (· != [])

def isHidden (name : Text) : Bool := name.head? == some '.'

/-- The errors that mean that there is no such asset: no such file, not a directory, and a name too
long. -/
def absenceErrors : List Errno := [2, 20, nameTooLong]

def Asset.file? (asset : Asset) : Option File :=
  match asset.entity with
  | .file content => some ⟨asset.place, content⟩
  | _ => none

namespace Lookup

def find (lookup : Lookup) (path : Text) : Except Errno (Option Asset) :=
  if (assetNames path).any isHidden then .ok none
  else
    match lookup (assetNames path) with
    | .ok found => .ok found
    | .error .malformed => .ok none
    | .error (.system errno) => if errno ∈ absenceErrors then .ok none else .error errno

def findFile (lookup : Lookup) (path : Text) : Except Errno (Option File) :=
  match lookup.find path with
  | .ok found => .ok (found.bind Asset.file?)
  | .error errno => .error errno

end Lookup

end SpaServer
