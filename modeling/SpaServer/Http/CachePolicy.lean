import SpaServer.Text.Blank
import SpaServer.Text.Lowercase

/-!
# Cache policy

Documents in HTML have to be fetched anew each time, so that a new bundle is noticed at once. All
else stays fresh for a day. Parameters of the content type make no difference.
-/

namespace SpaServer.CachePolicy

def oneDay : Nat := 60 * 60 * 24

/-- The directive for content that stays fresh for the given seconds. -/
def maxAge (seconds : Nat) : Text := "public, max-age=".toList ++ Text.ofNat seconds

/-- The media type of a content type, without parameters and in lower case. -/
def essence (contentType : Text) : Text :=
  Text.lower (Text.strip (Text.cut ';' contentType).1)

def directive (contentType : Text) : Text :=
  if essence contentType = "text/html".toList then maxAge 0 else maxAge oneDay

end SpaServer.CachePolicy
