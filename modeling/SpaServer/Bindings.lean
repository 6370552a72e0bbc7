import SpaServer.Text.Lowercase

/-!
# Bindings of names

Names bound to values in the order in which they were first bound: the process environment, the
keys of an environment file. A name bound again keeps its place and takes the new value. Settings
are looked up without regard to case, and then the last of the names that agree wins by its place.
-/

namespace SpaServer

/-- Names bound to values, in order. -/
abbrev Bindings (α : Type) := List (Text × α)

namespace Bindings

/-- Binds `name` to `value`, in its old place if it was bound before. -/
def set {α : Type} (name : Text) (value : α) : Bindings α → Bindings α
  | [] => [(name, value)]
  | entry :: rest =>
    if entry.1 = name then (name, value) :: rest else entry :: set name value rest

/-- Binds the pairs of a list one after the other. -/
def ofList {α : Type} (pairs : List (Text × α)) : Bindings α :=
  pairs.foldl (fun bound pair => set pair.1 pair.2 bound) []

/-- The value of the last name that is `key` in lower case. -/
def lastFolded? {α : Type} (key : Text) (bindings : Bindings α) : Option α :=
  (bindings.findRev? fun entry => Text.lower entry.1 == key).map (·.2)

/-- The value of the first name that is `key` in lower case. -/
def firstFolded? {α : Type} (key : Text) (bindings : Bindings α) : Option α :=
  (bindings.find? fun entry => Text.lower entry.1 == key).map (·.2)

end Bindings

abbrev Environment := Bindings Text

end SpaServer
