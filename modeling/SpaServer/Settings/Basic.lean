import SpaServer.Bundle
import SpaServer.EnvFile.Basic
import SpaServer.Settings.LogLevel
import SpaServer.Settings.Value

/-!
# Settings

The four settings of the server and how they are put together. Each field takes its value from the
first source that has one: the values given in the program, the environment, the environment file,
and last the default. Names agree without regard to case. A port that is no integer and a level that
is none of the five fall back to their defaults. So only the two text fields can be refused, and a
level whose value cannot be written as a text; an infinite port is an error of its own, and so is an
environment file that is not text.
-/

namespace SpaServer

inductive Field
  | deployment
  | port
  | host
  | logLevel
  deriving DecidableEq

def Field.name : Field → Text
  | .deployment => "GAE_ENV".toList
  | .port => "PORT".toList
  | .host => "HOST".toList
  | .logLevel => "LOG_LEVEL".toList

/-- The name of a field in lower case, to compare names with that are given in any case. -/
def Field.key (field : Field) : Text := Text.lower field.name

/-- Every field, in the order in which they are looked at. -/
def Field.all : List Field := [.deployment, .port, .host, .logLevel]

structure Settings where
  /-- What the hosting platform says of its environment. -/
  deployment : Text
  port : Int
  host : Text
  logLevel : LogLevel
  deriving DecidableEq

namespace Settings

def defaultPort : Int := 8080

def defaultHost : Text := "0.0.0.0".toList

def defaultLogLevel : LogLevel := .info

/-- The deployment that serves the alpha build. -/
def alphaDeployment : Text := "standard".toList

def isAlpha (settings : Settings) : Bool := settings.deployment == alphaDeployment

/-- The name of the directory, in the working directory, that holds the bundle. -/
def assetRoot (settings : Settings) : Text :=
  if settings.isAlpha then Bundle.alphaDirectory else Bundle.directory

def indexPath (settings : Settings) : Text :=
  settings.assetRoot ++ '/' :: Bundle.indexFile

/-! ### Given values -/

/-- The name under which a program says which environment file there is. -/
def fileName : Text := "_env_file".toList

/-- Whether it is known what a value is given for. A name that begins with an underscore is for no
field but says how the settings are read. Only one of these names is known here, with one value: the
name of the environment file, left null, says that there is no such file. -/
def isKnown (entry : Text × Value) : Bool :=
  entry.1.head? != some '_' || entry.1 == fileName && entry.2.isNull

structure Given where
  values : List (Text × Value)
  known : values.all isKnown = true

namespace Given

def none : Given := ⟨[], rfl⟩

/-- The environment file, unless the program says that there is none. -/
def file? {α : Type} (given : Given) (file : Option α) : Option α :=
  if given.values.any (·.1 == fileName) then Option.none else file

theorem file?_map {α β : Type} (given : Given) (file : Option α) (f : α → β) :
    given.file? (file.map f) = (given.file? file).map f := by
  rw [file?, file?]
  split <;> rfl

end Given

/-! ### Sources -/

structure Sources where
  /-- Values given in the program. What those for no field say has been heeded before. -/
  given : List (Text × Value)
  environment : Environment
  /-- The keys of the environment file, references replaced. -/
  file : Bindings (Option Text)

/-- The value of a field in the sources, unless it is left to its default. -/
def Sources.value? (sources : Sources) (field : Field) : Option Value :=
  match Bindings.firstFolded? field.key sources.given with
  | some value => some value
  | none =>
    match Bindings.lastFolded? field.key sources.environment with
    | some value => some (.text value)
    | none =>
      match Bindings.lastFolded? field.key sources.file with
      | some (some value) => some (.text value)
      | _ => none

/-! ### Fields -/

inductive Error
  /-- The environment file is not text. -/
  | undecodable (fault : Utf8.Fault)
  /-- The port is an infinite number. -/
  | infinitePort
  /-- These fields refuse their values. -/
  | refused (fields : List Field)
  deriving DecidableEq

/-- The text that a text field takes, if its value is one. -/
def textOf (default : Text) : Option Value → Option Text
  | none => some default
  | some (.text text) => some text
  | some _ => none

/-- The port, unless it is infinite. -/
def portOf : Option Value → Option Int
  | none => some defaultPort
  | some value =>
    match value.toInt? with
    | .ok n => some n
    | .error .unusable => some defaultPort
    | .error .infinite => none

/-- The level that the text of a value names, or else the default. No text that another value than a
text is written as names a level, so all that counts is whether there is one. -/
def logLevelOf : Option Value → Option LogLevel
  | none => some defaultLogLevel
  | some (.text text) => some ((LogLevel.ofText? text).getD defaultLogLevel)
  | some value => if value.isWritable then some defaultLogLevel else none

/-- Whether a field refuses a value. No value is refused for the port. -/
def refuses (value : Option Value) : Field → Bool
  | .deployment => (textOf [] value).isNone
  | .port => false
  | .host => (textOf defaultHost value).isNone
  | .logLevel => (logLevelOf value).isNone

/-- Puts the settings together from the values of their fields. All fields that refuse their values
are reported at once, but an infinite port comes before them. -/
def ofValues (value? : Field → Option Value) : Except Error Settings :=
  match portOf (value? .port) with
  | none => .error .infinitePort
  | some port =>
    match textOf [] (value? .deployment), textOf defaultHost (value? .host),
      logLevelOf (value? .logLevel) with
    | some deployment, some host, some logLevel => .ok ⟨deployment, port, host, logLevel⟩
    | _, _, _ => .error (.refused (Field.all.filter fun field => refuses (value? field) field))

def ofSources (sources : Sources) : Except Error Settings := ofValues sources.value?

/-- Reads the settings from given values, the environment and the content of the environment file,
if there is one. -/
def read (given : Given) (environment : Environment) (file : Option Bytes) :
    Except Error Settings :=
  match given.file? file with
  | none => ofSources ⟨given.values, environment, []⟩
  | some content =>
    match EnvFile.read environment content with
    | .ok bindings => ofSources ⟨given.values, environment, bindings⟩
    | .error fault => .error (.undecodable fault)

/-! ### Assignment -/

/-- A refused assignment to the name of a field, or to any other name. -/
structure Frozen where
  name : Text

/-- Settings do not change: every assignment is refused. -/
def assign (_ : Settings) (name : Text) (_ : Value) : Except Frozen Settings :=
  .error ⟨name⟩

end Settings

def Field.refusalMessage : Field → Text
  | .logLevel =>
    ("Value error, Exceeds the limit (4300 digits) for integer string conversion; " ++
      "use sys.set_int_max_str_digits() to increase the limit").toList
  | _ => "Input should be a valid string".toList

/-- The wording for settings that cannot be read, with a line for each refused field. -/
def Settings.Error.message : Settings.Error → Text
  | .undecodable fault => fault.message
  | .infinitePort => "cannot convert float infinity to integer".toList
  | .refused fields =>
    ['\n'].intercalate (fields.map fun field => field.name ++ ": ".toList ++ field.refusalMessage)

def Settings.Frozen.message : Text := "Instance is frozen".toList

end SpaServer
