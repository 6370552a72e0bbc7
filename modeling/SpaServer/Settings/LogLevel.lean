import SpaServer.Text.Blank
import SpaServer.Text.Lowercase

/-!
# Log levels

The five levels of the log, from the gravest to the most talkative, their names, and which messages
a level lets pass.
-/

namespace SpaServer

/-- The level of a message, and the level from which messages are kept. -/
inductive LogLevel
  | critical
  | error
  | warning
  | info
  | debug
  deriving DecidableEq

namespace LogLevel

def all : List LogLevel := [.critical, .error, .warning, .info, .debug]

/-- The name of a level in settings. -/
def name : LogLevel → Text
  | .critical => "critical".toList
  | .error => "error".toList
  | .warning => "warning".toList
  | .info => "info".toList
  | .debug => "debug".toList

/-- The name of a level in the log. -/
def label : LogLevel → Text
  | .critical => "CRITICAL".toList
  | .error => "ERROR".toList
  | .warning => "WARNING".toList
  | .info => "INFO".toList
  | .debug => "DEBUG".toList

def rank : LogLevel → Nat
  | .critical => 50
  | .error => 40
  | .warning => 30
  | .info => 20
  | .debug => 10

/-- Whether a message of level `message` is kept at the level. -/
def passes (level message : LogLevel) : Bool := level.rank ≤ message.rank

/-- The level that a text names, without regard to case and to blanks around it. -/
def ofText? (text : Text) : Option LogLevel :=
  all.find? fun level => level.name == Text.lower (Text.strip text)

end LogLevel

end SpaServer
