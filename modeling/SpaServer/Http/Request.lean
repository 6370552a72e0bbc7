import SpaServer.Text.Utf8
import SpaServer.Url.Basic

/-!
# Requests

A request as it comes from the connection, and the URL that is made of it. All that can be wrong
with a URL is found out only when the URL is asked for: a scheme without a port of its own, where
the client names no host; a query that is not text; an authority that is refused.
-/

namespace SpaServer

inductive Method
  | get
  | head
  | post
  | put
  | patch
  | delete
  | options
  deriving DecidableEq

namespace Method

def all : List Method := [.get, .head, .post, .put, .patch, .delete, .options]

def name : Method → Text
  | .get => "GET".toList
  | .head => "HEAD".toList
  | .post => "POST".toList
  | .put => "PUT".toList
  | .patch => "PATCH".toList
  | .delete => "DELETE".toList
  | .options => "OPTIONS".toList

/-- The method of a name. Its case matters. -/
def ofName? (name : Text) : Option Method := all.find? fun method => method.name == name

/-- Whether the method reads assets. All others are left to the entry document. -/
def readsAssets (method : Method) : Bool := method == .get || method == .head

end Method

structure Request where
  method : Text
  /-- The path, percent-decoded. -/
  path : Text
  query : Bytes
  headers : List (Text × Text)
  /-- The address that the server listens on, if it is known. -/
  server : Option (Text × Nat)
  scheme : Text

namespace Request

def header? (request : Request) (name : Text) : Option Text := request.headers.lookup name

def host? (request : Request) : Option Text := request.header? "host".toList

def range? (request : Request) : Option Text := request.header? "range".toList

def ifRange? (request : Request) : Option Text := request.header? "if-range".toList

/-- Why a request has no URL, or one that cannot be taken apart. -/
inductive UrlError
  /-- The server's port cannot be compared with that of the scheme. -/
  | unknownScheme (scheme : Text)
  /-- The query is not text. -/
  | undecodable (fault : Utf8.Fault)
  | authority (error : Authority.Error)
  deriving DecidableEq

def UrlError.message : UrlError → Text
  | .unknownScheme scheme => Text.quoted scheme
  | .undecodable fault => fault.message
  | .authority error => error.message

/-- The authority of the request's URL: the one that the client names, or else the server's. -/
def authority? (request : Request) : Except UrlError (Option Text) :=
  match request.host?.filter Authority.isValid, request.server with
  | some host, _ => .ok (some host)
  | none, none => .ok none
  | none, some (host, port) =>
    match Authority.defaultPort? request.scheme with
    | some standard => .ok (some (Authority.ofServer standard host port))
    | none => .error (.unknownScheme request.scheme)

/-- The URL of the request with another path in the place of its own. -/
def urlTo (request : Request) (path : Text) : Except UrlError Text :=
  match request.authority?, Utf8.decode request.query with
  | .ok authority, .ok query => .ok (Url.write request.scheme authority path query)
  | .error error, _ => .error error
  | .ok _, .error fault => .error (.undecodable fault)

def url (request : Request) : Except UrlError Url.Parts :=
  match request.urlTo request.path with
  | .error error => .error error
  | .ok url =>
    match Url.split url with
    | .ok parts => .ok parts
    | .error error => .error (.authority error)

end Request

end SpaServer
