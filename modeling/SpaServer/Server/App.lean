import SpaServer.Assets.Mount
import SpaServer.Http.Delivery
import SpaServer.Http.Request
import SpaServer.Server.Log
import SpaServer.Settings.Basic
import SpaServer.Url.Percent

/-!
# The application

What the server answers to a request. One route takes every path; a path with a line feed inside it
is not on the route, and if adding or taking away slashes at its end would put it there the client
is sent there. Reading methods get the asset that the path matches or are redirected to a directory.
Everything else gets the entry document of the bundle, and the client makes sense of the path.

The application is a function of the settings, the lookup and the request.
-/

namespace SpaServer

/-- What comes of a request: the response, the messages logged on the way, and what went wrong if
the response says that something did. -/
structure Exchange where
  response : Response
  logs : List LogEntry
  raised : Option Failure
  deriving DecidableEq

structure App where
  settings : Settings
  deriving DecidableEq

namespace App

def version : Text := "1.0.0".toList

def title : Text := "Console Static Server".toList

/-- The path under which the interface of the server is described. There is none. -/
def interfacePath : Option Text := none

def logger : Text := EntryPoint.function.logger

/-! ### The route -/

/-- Whether a path is on the route: it starts with a slash and has no line feed but perhaps as its
last character. -/
def onRoute : Text → Bool
  | '/' :: rest =>
    !(if rest.getLast? = some '\n' then rest.dropLast else rest).contains '\n'
  | _ => false

/-- The path with its final slashes taken away, or with one added if there are none. -/
def otherSlashes (path : Text) : Text :=
  if path.getLast? = some '/' then Text.trimEnd (· == '/') path else path ++ ['/']

/-! ### Answers -/

/-- Delivers a file. The range headers count for reading methods only, and a `HEAD` request gets no
content. -/
def deliver (method : Method) (request : Request) (file : File) : Except Failure Response :=
  let delivery : Delivery := ⟨200, file⟩
  if method.readsAssets then
    match delivery.respond request.range? request.ifRange? with
    | .ok (response, sendsContent) =>
      .ok (if method = .head ∧ sendsContent then { response with body := [] } else response)
    | .error failure => .error failure
  else .ok delivery.whole

def missingIndexLog (settings : Settings) (method : Method) (path : Text) : LogEntry where
  logger := logger
  level := .warning
  message := "Cannot find ".toList ++ settings.indexPath ++ " for ".toList ++ method.name ++
    ' ' :: path

def missingIndexResponse (settings : Settings) (path : Text) : Response :=
  .plain 404 ("Cannot find ".toList ++ settings.indexPath ++ " (requested ".toList ++ path ++ [')'])

def fallback (settings : Settings) (lookup : Lookup) (method : Method) (request : Request) :
    Except Failure (Response × List LogEntry) :=
  match lookup.findFile Bundle.indexFile with
  | .error errno => .error (.system errno)
  | .ok (some file) =>
    match deliver method request file with
    | .ok response => .ok (response, [])
    | .error failure => .error failure
  | .ok none =>
    match request.url with
    | .ok url =>
      .ok (missingIndexResponse settings url.path, [missingIndexLog settings method url.path])
    | .error error => .error (.url error)

/-- The response that redirects to a directory. The query goes along. -/
def directoryRedirect (target query : Text) : Response :=
  .redirect 301 (Percent.encode (if query = [] then target else target ++ '?' :: query))

/-- Answers a request whose path is on the route. -/
def serve (settings : Settings) (lookup : Lookup) (method : Method) (request : Request) :
    Except Failure (Response × List LogEntry) :=
  if method.readsAssets then
    match request.url with
    | .error error => .error (.url error)
    | .ok url =>
      match lookup.matchMounts url.path with
      | .error errno => .error (.system errno)
      | .ok (some (.redirect _ target)) => .ok (directoryRedirect target url.query, [])
      | .ok (some (.serve file)) =>
        match deliver method request file with
        | .ok response => .ok (response, [])
        | .error failure => .error failure
      | .ok none => fallback settings lookup method request
  else fallback settings lookup method request

def methodNotAllowed : Response :=
  .json 405 [(.allow, "DELETE, GET, HEAD, OPTIONS, PATCH, POST, PUT".toList)]
    "\x7b\"detail\":\"Method Not Allowed\"\x7d".toList

/-- The response to a request, or what breaks the server. -/
def respond (settings : Settings) (lookup : Lookup) (request : Request) :
    Except Failure (Response × List LogEntry) :=
  if onRoute request.path then
    match Method.ofName? request.method with
    | some method => serve settings lookup method request
    | none => .ok (methodNotAllowed, [])
  else if onRoute (otherSlashes request.path) then
    match request.urlTo (otherSlashes request.path) with
    | .ok url => .ok (.redirect 307 (Percent.encode url), [])
    | .error error => .error (.url error)
  else .ok (.notFound, [])

def answer (app : App) (lookup : Lookup) (request : Request) : Exchange :=
  match respond app.settings lookup request with
  | .ok (response, logs) => ⟨response, logs, none⟩
  | .error failure => ⟨.internalError, [], some failure⟩

end App

end SpaServer
