import SpaServer.Assets.Find
import SpaServer.Bundle

/-!
# Mounts

The bundle is mounted twice, at the root and below `/console`. A path is matched against the root
mount first and then, if it carries the prefix, against the second mount without it. A directory
that is asked for without a slash at the end is redirected to the path with the slash, and with the
slash it stands for the entry document in it.
-/

namespace SpaServer

/-- The path below which the bundle is mounted a second time. -/
def consolePrefix : Text := "/console".toList

/-- What is left of a path behind the prefix. The prefix has to be a whole segment. -/
def stripConsole (path : Text) : Option Text :=
  if path = consolePrefix then some []
  else if (consolePrefix ++ ['/']).isPrefixOf path then some (path.drop consolePrefix.length)
  else none

inductive Match
  | serve (file : File)
  | redirect (directory : Asset) (target : Text)

namespace Lookup

/-- Matches a path against a mount, below which it reads `inner`. -/
def matchMount (lookup : Lookup) (inner path : Text) : Except Errno (Option Match) :=
  match lookup.find inner with
  | .error errno => .error errno
  | .ok none => .ok none
  | .ok (some asset) =>
    match asset.entity with
    | .file content => .ok (some (.serve ⟨asset.place, content⟩))
    | .other => .ok none
    | .directory =>
      if path.getLast? = some '/' then
        match lookup.findFile (inner ++ '/' :: Bundle.indexFile) with
        | .ok file => .ok (file.map .serve)
        | .error errno => .error errno
      else .ok (some (.redirect asset (path ++ ['/'])))

def matchMounts (lookup : Lookup) (path : Text) : Except Errno (Option Match) :=
  match lookup.matchMount path path with
  | .error errno => .error errno
  | .ok (some found) => .ok (some found)
  | .ok none =>
    match stripConsole path with
    | some inner => lookup.matchMount inner path
    | none => .ok none

end Lookup

end SpaServer
