import SpaServer.Files.Change
import SpaServer.Server.Startup

/-!
# Sessions

An application in its surroundings: the environment and the files change, requests come in, and the
application is made anew from time to time. The application keeps the settings it was made with, so
a change of the environment shows only after that; the files are looked up at every request.
-/

namespace SpaServer

structure Session where
  environment : Environment
  tree : Node
  app : App

inductive Step
  | find (path : Text) (fault : Option Fault)
  | findFile (path : Text) (fault : Option Fault)
  | matchMounts (path : Text) (fault : Option Fault)
  /-- Prepares a file for delivery with a status, without sending it. -/
  | prepare (path : Text) (status : Nat)
  | request (request : Request) (fault : Option Fault)
  | put (path : Text) (node : Node)
  | remove (path : Text)
  | setVariable (name value : Text)
  | restart

/-- What a step shows. -/
inductive Outcome
  | asset (found : Option Asset)
  | file (found : Option File)
  | matched (found : Option Match)
  | delivery (found : Option Delivery)
  | exchange (exchange : Exchange)
  | done
  /-- An application was made, and this was logged. -/
  | started (app : App) (logs : List LogEntry)
  | notFound (errno : Errno)
  | notStarted (error : StartError)

def makeApp (environment : Environment) (tree : Node) :
    Except StartError (App × List LogEntry) :=
  match Settings.ofProcess environment tree with
  | .error error => .error error
  | .ok settings => App.create App.logger settings tree

namespace Session

/-- Opens a session, with what the making of the application logged. -/
def start (environment : Environment) (tree : Node) :
    Except StartError (Session × List LogEntry) :=
  match makeApp environment tree with
  | .ok (app, logs) => .ok (⟨environment, tree, app⟩, logs)
  | .error error => .error error

/-- The lookup below the asset root, with a planted fault if there is one. -/
def lookup (session : Session) (fault : Option Fault) : Lookup :=
  let plain := session.tree.lookup session.app.settings.assetRoot
  fault.elim plain (·.guard plain)

def shown {α : Type} (view : α → Outcome) : Except Errno α → Outcome
  | .ok found => view found
  | .error errno => .notFound errno

def outcome (session : Session) : Step → Outcome
  | .find path fault => shown .asset ((session.lookup fault).find path)
  | .findFile path fault => shown .file ((session.lookup fault).findFile path)
  | .matchMounts path fault => shown .matched ((session.lookup fault).matchMounts path)
  | .prepare path status =>
    shown (fun found => .delivery (found.map fun file => ⟨status, file⟩))
      ((session.lookup none).findFile path)
  | .request request fault => .exchange (session.app.answer (session.lookup fault) request)
  | .put _ _ => .done
  | .remove _ => .done
  | .setVariable _ _ => .done
  | .restart =>
    match makeApp session.environment session.tree with
    | .ok (app, logs) => .started app logs
    | .error error => .notStarted error

/-- The session after a step. If no application can be made the old one stays. -/
def after (session : Session) : Step → Session
  | .put path node => { session with tree := session.tree.put path node }
  | .remove path => { session with tree := session.tree.remove path }
  | .setVariable name value =>
    { session with environment := session.environment.set name value }
  | .restart =>
    match makeApp session.environment session.tree with
    | .ok (app, _) => { session with app := app }
    | .error _ => session
  | _ => session

/-- What the steps of a session show one after the other. -/
def run (session : Session) : List Step → List Outcome
  | [] => []
  | step :: rest => session.outcome step :: (session.after step).run rest

end Session

end SpaServer
