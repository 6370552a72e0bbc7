import SpaServer.Bindings
import SpaServer.EnvFile.Progress
import SpaServer.EnvFile.Reference
import SpaServer.Text.Utf8

/-!
# Environment files

An environment file is UTF-8 text. Its line ends are brought to line feeds and one byte order mark
at its beginning is left out; then it is read statement by statement, and the references in its
values are replaced from top to bottom, each by what the keys above it and the process environment
say. The file's own keys come first: a key above that has no value hides the environment too.
-/

namespace SpaServer.EnvFile

/-- The text with every carriage return, alone or before a line feed, made a line feed. -/
def unifyLineEnds : Text → Text
  | [] => []
  | '\r' :: '\n' :: rest => '\n' :: unifyLineEnds rest
  | '\r' :: rest => '\n' :: unifyLineEnds rest
  | c :: rest => c :: unifyLineEnds rest

/-- The text without a byte order mark at its beginning. -/
def dropMark : Text → Text
  | [] => []
  | c :: rest => if c = '\ufeff' then rest else c :: rest

def statements (text : Text) : List Statement :=
  match _start : text.dropWhile Text.isBlank with
  | [] => []
  | c :: rest => (Statement.next (c :: rest)).1 :: statements (Statement.next (c :: rest)).2
  termination_by text.length
  decreasing_by
    have solid : Text.isBlank c = false := by
      have := List.head?_dropWhile_not Text.isBlank text
      rw [_start] at this
      simpa using this
    have shorter := length_dropWhile_le Text.isBlank text
    rw [_start] at shorter
    exact Nat.lt_of_lt_of_le (Statement.next_length_lt solid) shorter

/-- A key of the file with the value that was written for it, if any. -/
abbrev Binding := Text × Option Text

def Statement.binding? : Statement → Option Binding
  | .binding key value => some (key, value)
  | .comment => none
  | .malformed => none

/-- The bindings of a text as they are written, references and all. -/
def bindings (text : Text) : List Binding :=
  (statements text).filterMap Statement.binding?

/-- What a reference to `name` finds: the value of a key above, which is empty if the key has none,
or else the variable of the environment. -/
def referent? (environment : Environment) (above : Bindings (Option Text)) (name : Text) :
    Option Text :=
  match above.lookup name with
  | some value => some (value.getD [])
  | none => environment.lookup name

/-- Adds a binding below those read before, its references replaced. -/
def bind (environment : Environment) (above : Bindings (Option Text)) (entry : Binding) :
    Bindings (Option Text) :=
  above.set entry.1 (entry.2.map (expand (referent? environment above)))

/-- The keys of a file with their values after the replacement of references. -/
def values (environment : Environment) (entries : List Binding) : Bindings (Option Text) :=
  entries.foldl (bind environment) []

def read (environment : Environment) (content : Bytes) :
    Except Utf8.Fault (Bindings (Option Text)) :=
  match Utf8.decode content with
  | .ok text => .ok (values environment (bindings (dropMark (unifyLineEnds text))))
  | .error fault => .error fault

end SpaServer.EnvFile
