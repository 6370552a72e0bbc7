import SpaServer.Http.Header
import SpaServer.Text.Utf8

/-!
# Responses

Responses with their headers in alphabetical order.
-/

namespace SpaServer

structure Response where
  status : Nat
  headers : Headers
  body : Bytes
  deriving DecidableEq

namespace Response

def plainType : Text := "text/plain; charset=utf-8".toList

def plain (status : Nat) (text : Text) : Response where
  status := status
  headers := [(.contentLength, Text.ofNat text.utf8.length), (.contentType, plainType)]
  body := text.utf8

/-- A response with a small JSON document, and headers that come before its length. -/
def json (status : Nat) (before : Headers) (document : Text) : Response where
  status := status
  headers := before ++ [(.contentLength, Text.ofNat document.utf8.length),
    (.contentType, "application/json".toList)]
  body := document.utf8

/-- A redirect to a location that is encoded already. -/
def redirect (status : Nat) (location : Text) : Response where
  status := status
  headers := [(.contentLength, Text.ofNat 0), (.location, location)]
  body := []

/-- No path of the server is like the one that was asked for. -/
def notFound : Response := json 404 [] "\x7b\"detail\":\"Not Found\"\x7d".toList

def internalError : Response := plain 500 "Internal Server Error".toList

end Response

end SpaServer
