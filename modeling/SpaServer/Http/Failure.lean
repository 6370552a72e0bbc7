import SpaServer.Assets.Lookup
import SpaServer.Http.Request

/-!
# Failures

What can go wrong while a request is answered. The client is told no more than that something did.
-/

namespace SpaServer

inductive Failure
  /-- The file system failed. -/
  | system (errno : Errno)
  /-- The URL is missing or broken. -/
  | url (error : Request.UrlError)
  /-- A validator would be needed, and there is none. -/
  | noValidator
  deriving DecidableEq

def Failure.noValidatorMessage : Text := "'last-modified'".toList

end SpaServer
