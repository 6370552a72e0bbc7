import SpaServer.Proofs.Server.Startup

/-!
# The server loop is called once

Starting a process reads the settings, sets the level of the log, says what is served, makes the
application and calls the server loop, in this order. Settings that cannot be read and an
application that cannot be made end it before that call. Otherwise the server loop is called once,
with the settings that were read (`enter_launches_once`). How the program was entered shows in
nothing but the names of the loggers.
-/

namespace SpaServer

/-- The levels of the messages that a log of the level keeps. -/
def LogLevel.kinds : LogLevel → List LogLevel
  | .critical => [.critical]
  | .error => [.critical, .error]
  | .warning => [.critical, .error, .warning]
  | .info => [.critical, .error, .warning, .info]
  | .debug => [.critical, .error, .warning, .info, .debug]

/-- The messages that a log of the level keeps. -/
def LogLevel.kept (level : LogLevel) (entries : List LogEntry) : List LogEntry :=
  entries.filter (level.kinds.contains ·.level)

theorem LogLevel.passes_eq_contains (level message : LogLevel) :
    level.passes message = level.kinds.contains message := by
  cases level <;> cases message <;> decide

theorem LogLevel.kept_singleton (level : LogLevel) (entry : LogEntry) :
    level.kept [entry] = if level.passes entry.level then [entry] else [] := by
  rw [passes_eq_contains, kept, List.filter_cons, List.filter_nil]

def LogEntry.withLogger (logger : Text) (entry : LogEntry) : LogEntry :=
  { entry with logger := logger }

namespace Process

variable {environment : Environment} {tree : Node} {settings : Settings} {name : Text} {app : App}
  {logs : List LogEntry} {error : StartError}

def keep (process : Process) (entries : List LogEntry) : Process :=
  { process with logs := process.logs ++ process.rootLevel.kept entries }

def withLogger (logger : Text) (process : Process) : Process :=
  { process with logs := process.logs.map (·.withLogger logger) }

/-! ### What the actions do -/

theorem keep_nil (process : Process) : process.keep [] = process := by
  simp [keep, LogLevel.kept]

theorem keep_append (process : Process) (entries more : List LogEntry) :
    process.keep (entries ++ more) = (process.keep entries).keep more := by
  simp [keep, LogLevel.kept]

theorem exec_log (entry : LogEntry) (process : Process) :
    (log entry).exec process = (.ok (), process.keep [entry]) := by
  change (Except.ok (), if process.rootLevel.passes entry.level then _ else _) = _
  rw [keep, LogLevel.kept_singleton]
  by_cases hpasses : process.rootLevel.passes entry.level <;> simp [hpasses]

theorem exec_forM_log (entries : List LogEntry) (process : Process) :
    (entries.forM log).exec process = (.ok (), process.keep entries) := by
  induction entries generalizing process with
  | nil =>
      rw [keep_nil]
      rfl
  | cons entry entries ih =>
      change (log entry >>= fun _ => entries.forM log : Action Unit).exec process = _
      rw [Action.exec_bind, exec_log]
      exact (ih _).trans (by rw [← keep_append, List.singleton_append])

theorem exec_setLevel (level : LogLevel) (process : Process) :
    (setLevel level).exec process = (.ok (), { process with rootLevel := level }) :=
  rfl

theorem exec_serve (host : Text) (port : Int) (logLevel : LogLevel) (process : Process) :
    (serve app host port logLevel).exec process =
      (.ok (), { process with
        launches := process.launches ++ [⟨app, host, port, logLevel, process.rootLevel⟩] }) :=
  rfl

theorem exec_createApp (hcreate : App.create name settings tree = .ok (app, logs))
    (process : Process) :
    (createApp name settings tree).exec process = (.ok app, process.keep logs) := by
  simp only [createApp, Action.exec_bind, Action.exec_lift, hcreate, exec_forM_log,
    Action.exec_pure]

/-! ### The three ways in which the main function ends -/

theorem exec_main_of_unread (hread : Settings.ofProcess environment tree = .error error)
    (process : Process) :
    (main name environment tree).exec process = (.error error, process) := by
  simp only [main, Action.exec_bind, Action.exec_lift, hread]

/-- Without an application the server loop is not called. -/
theorem exec_main_of_failed (hread : Settings.ofProcess environment tree = .ok settings)
    (hcreate : App.create name settings tree = .error error) (process : Process) :
    (main name environment tree).exec process =
      (.error error,
        { process with rootLevel := settings.logLevel }.keep [settings.servingLog name]) := by
  simp only [main, createApp, Action.exec_bind, Action.exec_lift, hread, exec_setLevel, exec_log,
    hcreate]

theorem exec_main_of_made (hread : Settings.ofProcess environment tree = .ok settings)
    (hcreate : App.create name settings tree = .ok (app, logs)) (process : Process) :
    (main name environment tree).exec process =
      (.ok (),
        { rootLevel := settings.logLevel
          logs := process.logs ++ settings.logLevel.kept (settings.servingLog name :: logs)
          launches := process.launches ++
            [⟨app, settings.host, settings.port, settings.logLevel, settings.logLevel⟩] }) := by
  simp only [main, Action.exec_bind, Action.exec_lift, hread, exec_setLevel, exec_log,
    exec_createApp hcreate, exec_serve]
  rw [← keep_append, List.singleton_append]
  rfl

/-! ### Entering the program in another way -/

theorem kept_map_withLogger (level : LogLevel) (entries : List LogEntry) :
    level.kept (entries.map (·.withLogger name)) =
      (level.kept entries).map (·.withLogger name) := by
  rw [LogLevel.kept, LogLevel.kept, List.filter_map]
  rfl

theorem create_withLogger (logger name : Text) (settings : Settings) (tree : Node) :
    App.create name settings tree =
      (App.create logger settings tree).map fun made =>
        (made.1, made.2.map (·.withLogger name)) := by
  rw [App.create, App.create]
  split
  · rfl
  · rfl
  · dsimp only
    split <;> rfl

/-- The name of a module shows in nothing but the loggers. -/
theorem exec_main_withLogger (logger name : Text) (environment : Environment) (tree : Node) :
    (main name environment tree).exec fresh =
      Prod.map id (withLogger name) ((main logger environment tree).exec fresh) := by
  cases hread : Settings.ofProcess environment tree with
  | error error =>
      rw [exec_main_of_unread hread, exec_main_of_unread hread]
      rfl
  | ok settings =>
      have hrenamed := create_withLogger logger name settings tree
      cases hcreate : App.create logger settings tree with
      | error error =>
          rw [hcreate] at hrenamed
          -- What was logged before the failure is renamed too.
          rw [exec_main_of_failed hread hrenamed, exec_main_of_failed hread hcreate]
          simp only [keep, withLogger, Prod.map, List.map_append, ← kept_map_withLogger]
          rfl
      | ok made =>
          obtain ⟨app, logs⟩ := made
          rw [hcreate] at hrenamed
          rw [exec_main_of_made hread hrenamed, exec_main_of_made hread hcreate]
          simp only [withLogger, Prod.map, List.map_append, ← kept_map_withLogger]
          rfl

/-! ### What is left of a start -/

/-- Whether an application can be made with an asset root. -/
structure CanHaveRoot (tree : Node) (root : Text) : Prop where
  short : ¬tree.MeetsOverlong [root]
  settles : tree.LeadsToDirectory [root] ∨ ∀ place, ¬tree.LoopsTo [root] place

/-- What a process has come to when it called the server loop once, with the settings. It has said
what is served, and if the asset root is no directory, that there is none. -/
structure Launched (entry : EntryPoint) (settings : Settings) (tree : Node) (process : Process) :
    Prop where
  launches : process.launches =
    [⟨⟨settings⟩, settings.host, settings.port, settings.logLevel, settings.logLevel⟩]
  rootLevel : process.rootLevel = settings.logLevel
  logs_of_directory : tree.LeadsToDirectory [settings.assetRoot] →
    process.logs = settings.logLevel.kept [⟨entry.logger, .info, "Serving ".toList ++
      settings.assetRoot ++ " on port ".toList ++ Text.ofInt settings.port⟩]
  logs_of_missing : ¬tree.LeadsToDirectory [settings.assetRoot] →
    process.logs = settings.logLevel.kept [
      ⟨entry.logger, .info, "Serving ".toList ++ settings.assetRoot ++ " on port ".toList ++
        Text.ofInt settings.port⟩,
      ⟨entry.logger, .warning, "Asset root ".toList ++
        (tree.realPlace [settings.assetRoot]).absolute ++ " does not exist".toList⟩]

theorem exists_create_error (logger : Text)
    (hroot : ¬CanHaveRoot tree settings.assetRoot) :
    ∃ error, App.create logger settings tree = .error error := by
  rcases App.create_cases logger settings tree with
    ⟨hdir, hshort, -⟩ | ⟨-, hcreate⟩ | ⟨-, hshort, ⟨-, hcreate⟩ | ⟨hnone, -⟩⟩
  · exact absurd ⟨hshort, Or.inl hdir⟩ hroot
  · exact ⟨_, hcreate⟩
  · exact ⟨_, hcreate⟩
  · exact absurd ⟨hshort, Or.inr hnone⟩ hroot

theorem launched_of_canHaveRoot (entry : EntryPoint)
    (hread : Settings.ofProcess environment tree = .ok settings)
    (hroot : CanHaveRoot tree settings.assetRoot) :
    ∃ process, (enter entry environment tree).exec fresh = (.ok (), process) ∧
      Launched entry settings tree process := by
  rw [enter_eq_main]
  rcases App.create_cases entry.logger settings tree with
    ⟨hdir, -, hcreate⟩ | ⟨hlong, -⟩ | ⟨hnodir, -, ⟨hloops, -⟩ | ⟨-, hcreate⟩⟩
  · exact ⟨_, exec_main_of_made hread hcreate _,
      { launches := rfl
        rootLevel := rfl
        logs_of_directory := fun _ => rfl
        logs_of_missing := fun hnodir => absurd hdir hnodir }⟩
  · exact absurd hlong hroot.short
  · exact absurd hloops (hroot.settles.resolve_left hnodir _)
  · exact ⟨_, exec_main_of_made hread hcreate _,
      { launches := rfl
        rootLevel := rfl
        logs_of_directory := fun hdir => absurd hdir hnodir
        logs_of_missing := fun _ => rfl }⟩

/-- Without settings, and without an application, the server loop is not called. -/
theorem exists_enter_error (entry : EntryPoint)
    (hmade : ¬∃ settings, Settings.ofProcess environment tree = .ok settings ∧
      CanHaveRoot tree settings.assetRoot) :
    ∃ error process, (enter entry environment tree).exec fresh = (.error error, process) ∧
      process.launches = [] := by
  rw [enter_eq_main]
  cases hread : Settings.ofProcess environment tree with
  | error error => exact ⟨error, fresh, exec_main_of_unread hread _, rfl⟩
  | ok settings =>
      obtain ⟨error, hcreate⟩ := exists_create_error entry.logger fun hroot =>
        hmade ⟨settings, hread, hroot⟩
      exact ⟨error, _, exec_main_of_failed hread hcreate _, rfl⟩

theorem start_of_error {entry : EntryPoint} {process : Process}
    (henter : (enter entry environment tree).exec fresh = (.error error, process)) :
    start entry environment tree = .error error := by
  rw [start]
  split
  next henter' =>
    rw [henter'] at henter
    cases henter
    rfl
  next henter' =>
    rw [henter'] at henter
    cases henter

theorem start_of_launches {entry : EntryPoint} {process : Process} {launch : Launch}
    (henter : (enter entry environment tree).exec fresh = (.ok (), process))
    (hlaunches : process.launches = [launch]) :
    start entry environment tree = .ok (launch, process.logs) := by
  rw [start]
  split
  next henter' =>
    rw [henter'] at henter
    cases henter
  next henter' =>
    rw [henter'] at henter
    cases henter
    simp only [hlaunches, List.head_cons]

/-- **The server loop is called once with what was read, or not at all.** It is called if the
settings can be read and an application can be made of them, and then the settings, the level of the
log and what is logged belong together. Another way of entering the program changes the loggers
only. -/
theorem enter_launches_once (entry other : EntryPoint) (environment : Environment) (tree : Node) :
    ∃ result process, (enter entry environment tree).exec fresh = (result, process) ∧
      ((∃ error, result = .error error ∧ process.launches = [] ∧
          start entry environment tree = .error error) ∨
        ∃ settings launch, result = .ok () ∧ Settings.ofProcess environment tree = .ok settings ∧
          Launched entry settings tree process ∧ process.launches = [launch] ∧
          start entry environment tree = .ok (launch, process.logs)) ∧
      (result = .ok () ↔ ∃ settings, Settings.ofProcess environment tree = .ok settings ∧
        CanHaveRoot tree settings.assetRoot) ∧
      (enter other environment tree).exec fresh = (result, process.withLogger other.logger) := by
  have hother := exec_main_withLogger entry.logger other.logger environment tree
  rw [← enter_eq_main, ← enter_eq_main] at hother
  by_cases hmade : ∃ settings, Settings.ofProcess environment tree = .ok settings ∧
    CanHaveRoot tree settings.assetRoot
  · obtain ⟨settings, hread, hroot⟩ := hmade
    obtain ⟨process, henter, hlaunched⟩ := launched_of_canHaveRoot entry hread hroot
    rw [henter] at hother
    refine ⟨.ok (), process, henter, Or.inr ?_, ⟨fun _ => ⟨settings, hread, hroot⟩, fun _ => rfl⟩,
      hother⟩
    exact ⟨settings, _, rfl, hread, hlaunched, hlaunched.launches,
      start_of_launches henter hlaunched.launches⟩
  · obtain ⟨error, process, henter, hnone⟩ := exists_enter_error entry hmade
    rw [henter] at hother
    exact ⟨.error error, process, henter, Or.inl ⟨error, rfl, hnone, start_of_error henter⟩,
      ⟨nofun, fun hmade' => absurd hmade' hmade⟩, hother⟩

end Process

end SpaServer
