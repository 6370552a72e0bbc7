import SpaServer.Url.Authority

/-!
# URLs

A request's URL is put together as one text and taken apart again where its path or its query is
needed. `Url.write` keeps a path from running into the query, and `Url.split` drops line breaks and
tabs, checks the authority and ends the query at a hash sign.
-/

namespace SpaServer.Url

/-! ### Writing -/

def escapePathChar : Char → Text
  | '?' => "%3F".toList
  | '#' => "%23".toList
  | '\\' => "%5C".toList
  | c => [c]

def escapePath (path : Text) : Text := path.flatMap escapePathChar

/-- A path without an authority before it. Two slashes at its beginning would be
taken for the beginning of an authority. -/
def guardPath : Text → Text
  | '/' :: '/' :: rest => "/%2F".toList ++ rest
  | path => path

/-- A scheme with its colon, if there is one. -/
def schemePart (scheme : Text) : Text := if scheme = [] then [] else scheme ++ [':']

/-- An authority between the scheme and the path, with two slashes before it. An empty one is left
out where the path has two slashes of its own. -/
def authorityPart (authority path : Text) : Text :=
  if authority = [] ∧ ['/', '/'].isPrefixOf path then [] else '/' :: '/' :: authority

/-- The URL of a path and a query. The query is left out if it is empty, and without an authority
there is no scheme either. -/
def write (scheme : Text) (authority : Option Text) (path query : Text) : Text :=
  let front := match authority with
    | some authority => schemePart scheme ++ authorityPart authority path ++ escapePath path
    | none => guardPath (escapePath path)
  if query = [] then front else front ++ '?' :: query

/-! ### Taking apart -/

structure Parts where
  path : Text
  query : Text
  deriving DecidableEq

def isDropped (c : Char) : Bool := c == '\t' || c == '\r' || c == '\n'

def isSchemeChar (c : Char) : Bool := c.isAlphanum || c == '+' || c == '-' || c == '.'

/-- The text after a scheme and its colon, or the whole text if it starts with no scheme. -/
def dropScheme (url : Text) : Text :=
  match url.takeWhile isSchemeChar, url.dropWhile isSchemeChar with
  | first :: _, ':' :: rest => if first.isAlpha then rest else url
  | _, _ => url

/-- Whether an authority may contain the character, for all that is known before it is checked. -/
def isAuthorityChar (c : Char) : Bool := c != '/' && c != '?' && c != '#'

/-- The authority of a text that starts with two slashes, and the text after it. All other texts
have an empty authority. -/
def cutAuthority : Text → Text × Text
  | '/' :: '/' :: rest => (rest.takeWhile isAuthorityChar, rest.dropWhile isAuthorityChar)
  | url => ([], url)

/-- The path and the query at the beginning of a text, which a hash sign ends. -/
def Parts.ofText (text : Text) : Parts :=
  match Text.cut '?' (Text.cut '#' text).1 with
  | (path, query) => ⟨path, query.getD []⟩

/-- Takes a URL apart, unless its authority is refused. -/
def split (url : Text) : Except Authority.Error Parts :=
  let kept := (url.dropWhile (·.toNat ≤ 0x20)).filter (!isDropped ·)
  match cutAuthority (dropScheme kept) with
  | (authority, rest) =>
    match Authority.check authority with
    | .ok () => .ok (.ofText rest)
    | .error error => .error error

end SpaServer.Url
