import SpaServer.Settings.LogLevel

/-!
# The log

Messages with their levels and the name of the part of the program that they come from.
-/

namespace SpaServer

structure LogEntry where
  logger : Text
  level : LogLevel
  message : Text
  deriving DecidableEq

/-- How the program was entered. -/
inductive EntryPoint
  | function
  | package
  | script
  deriving DecidableEq

def EntryPoint.logger : EntryPoint → Text
  | .function => "console_server.main".toList
  | .package => "console_server.main".toList
  | .script => "__main__".toList

end SpaServer
