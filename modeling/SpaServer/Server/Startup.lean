import SpaServer.Server.App
import SpaServer.Files.Stat
import SpaServer.Text.Quoted

/-!
# Starting up

Settings are read from the environment and from the file `.env` in the working directory. An asset
root that is no directory does not keep an application from being made; there is only a warning,
which names the real place of the root. Only a root that is a link into a loop has no such place. A
root or an environment file that leads to a name too long is a failure of the system.
-/

namespace SpaServer

inductive StartError
  | settings (error : Settings.Error)
  /-- The links of the asset root lead into a loop at this place. -/
  | rootLoop (place : Place)
  /-- The file system failed. -/
  | system (errno : Errno)
  deriving DecidableEq

def StartError.message : StartError → Text
  | .settings error => error.message
  | .rootLoop place => "Symlink loop from ".toList ++ Text.quoted place.absolute
  | .system errno => "System error ".toList ++ Text.ofNat errno

def envFileName : Text := ".env".toList

/-- The content of the environment file, if there is a regular file of that name. -/
def Node.envFile? (tree : Node) : Except Errno (Option Bytes) :=
  match tree.stat (.inside [envFileName]) with
  | .ok (.file content) => .ok (some content)
  | .error .nameTooLong => .error nameTooLong
  | _ => .ok none

def Settings.ofProcess (environment : Environment) (tree : Node) : Except StartError Settings :=
  match tree.envFile? with
  | .error errno => .error (.system errno)
  | .ok file =>
    match Settings.read .none environment file with
    | .ok settings => .ok settings
    | .error error => .error (.settings error)

def App.missingRootLog (logger : Text) (place : Place) : LogEntry where
  logger := logger
  level := .warning
  message := "Asset root ".toList ++ place.absolute ++ " does not exist".toList

/-- Makes an application, and the messages logged on the way. -/
def App.create (logger : Text) (settings : Settings) (tree : Node) :
    Except StartError (App × List LogEntry) :=
  match tree.stat (.inside [settings.assetRoot]) with
  | .ok (.dir _) => .ok (⟨settings⟩, [])
  | .error .nameTooLong => .error (.system nameTooLong)
  | _ =>
    let place := tree.realPlace [settings.assetRoot]
    match tree.stat place with
    | .error .tooManyLinks => .error (.rootLoop place)
    | _ => .ok (⟨settings⟩, [missingRootLog logger place])

def Settings.servingLog (logger : Text) (settings : Settings) : LogEntry where
  logger := logger
  level := .info
  message := "Serving ".toList ++ settings.assetRoot ++ " on port ".toList ++
    Text.ofInt settings.port

/-! ### Processes -/

/-- What a process hands over to the server loop. -/
structure Launch where
  app : App
  host : Text
  port : Int
  logLevel : LogLevel
  /-- The level of the log as a whole. -/
  rootLevel : LogLevel
  deriving DecidableEq

/-- The names of the settings that the server loop takes. -/
def Launch.arguments : List Text := ["host".toList, "log_level".toList, "port".toList]

structure Process where
  /-- The level of the log as a whole. -/
  rootLevel : LogLevel
  /-- The messages that the log has kept. -/
  logs : List LogEntry
  /-- What the server loop was called with, call by call. -/
  launches : List Launch
  deriving DecidableEq

/-- Something that a process does. If it fails, what was done before stays done. -/
abbrev Action := ExceptT StartError (StateM Process)

/-- What comes of an action, and the process after it. -/
def Action.exec {α : Type} (action : Action α) (process : Process) :
    Except StartError α × Process :=
  StateT.run action.run process

theorem Action.exec_bind {α β : Type} (action : Action α) (next : α → Action β)
    (process : Process) :
    (action >>= next).exec process =
      match action.exec process with
      | (.ok value, after) => (next value).exec after
      | (.error error, after) => (.error error, after) := by
  change ExceptT.bindCont next (action.exec process).1 (action.exec process).2 = _
  rcases action.exec process with ⟨_ | _, after⟩ <;> rfl

theorem Action.exec_pure {α : Type} (value : α) (process : Process) :
    (pure value : Action α).exec process = (.ok value, process) :=
  rfl

/-- What is read or made without the process leaves the process alone. -/
theorem Action.exec_lift {α : Type} (result : Except StartError α) (process : Process) :
    (liftM result : Action α).exec process = (result, process) :=
  rfl

/-- What comes after an action is done only if the action does not fail. -/
theorem Action.exec_bind_ok {α β : Type} {action : Action α} {next : α → Action β}
    {process after : Process} {value : β}
    (hexec : (action >>= next).exec process = (.ok value, after)) :
    ∃ first between, action.exec process = (.ok first, between) ∧
      (next first).exec between = (.ok value, after) := by
  rw [exec_bind] at hexec
  split at hexec
  · rename_i first between hfirst
    exact ⟨first, between, hfirst, hexec⟩
  · cases hexec

namespace Process

def fresh : Process := ⟨.warning, [], []⟩

def setLevel (level : LogLevel) : Action Unit :=
  modify fun process => { process with rootLevel := level }

/-- Logs a message, which is kept if the level lets it pass. -/
def log (entry : LogEntry) : Action Unit :=
  modify fun process =>
    if process.rootLevel.passes entry.level then { process with logs := process.logs ++ [entry] }
    else process

def createApp (logger : Text) (settings : Settings) (tree : Node) : Action App := do
  let (app, logs) ← App.create logger settings tree
  logs.forM log
  return app

def serve (app : App) (host : Text) (port : Int) (logLevel : LogLevel) : Action Unit :=
  modify fun process =>
    { process with
      launches := process.launches ++ [⟨app, host, port, logLevel, process.rootLevel⟩] }

/-- The main function of a module, which logs under the name of the module. -/
def main (name : Text) (environment : Environment) (tree : Node) : Action Unit := do
  let settings ← Settings.ofProcess environment tree
  setLevel settings.logLevel
  log (settings.servingLog name)
  let app ← createApp name settings tree
  serve app settings.host settings.port settings.logLevel

/-- Loads the main module under a name. It calls its main function only if it is the script. -/
def load (name : Text) (environment : Environment) (tree : Node) : Action Unit :=
  if name = EntryPoint.script.logger then main name environment tree else return

/-- Enters the program. The script is the main module itself; otherwise the main module is loaded,
and its main function is called from outside. -/
def enter (entry : EntryPoint) (environment : Environment) (tree : Node) : Action Unit := do
  load entry.logger environment tree
  if entry ≠ .script then main entry.logger environment tree

variable {environment : Environment} {tree : Node} {process after : Process}

/-- However the program is entered, the main function is called once. -/
theorem enter_eq_main (entry : EntryPoint) (environment : Environment) (tree : Node) :
    enter entry environment tree = main entry.logger environment tree := by
  cases entry with
  | script => rw [enter, load, if_pos rfl, if_neg (by decide), bind_pure_unit]
  | function => rw [enter, load, if_neg (by decide), if_pos (by decide), pure_bind]
  | package => rw [enter, load, if_neg (by decide), if_pos (by decide), pure_bind]

theorem launches_ne_nil_of_main {name : Text}
    (hmain : (main name environment tree).exec process = (.ok (), after)) :
    after.launches ≠ [] := by
  obtain ⟨settings, read, -, hmain⟩ := Action.exec_bind_ok hmain
  obtain ⟨-, levelled, -, hmain⟩ := Action.exec_bind_ok hmain
  obtain ⟨-, logged, -, hmain⟩ := Action.exec_bind_ok hmain
  obtain ⟨app, made, -, hserve⟩ := Action.exec_bind_ok hmain
  obtain rfl := (Prod.mk.inj hserve).2
  exact List.append_ne_nil_of_right_ne_nil _ (List.cons_ne_nil _ _)

theorem launches_ne_nil_of_enter {entry : EntryPoint}
    (henter : (enter entry environment tree).exec process = (.ok (), after)) :
    after.launches ≠ [] := by
  rw [enter_eq_main] at henter
  exact launches_ne_nil_of_main henter

end Process

/-- Starts a process: what the server loop is given, and the messages that the log keeps. -/
def start (entry : EntryPoint) (environment : Environment) (tree : Node) :
    Except StartError (Launch × List LogEntry) :=
  match henter : (Process.enter entry environment tree).exec .fresh with
  | (.error error, _) => .error error
  | (.ok (), process) =>
    .ok (process.launches.head (Process.launches_ne_nil_of_enter henter), process.logs)

end SpaServer
