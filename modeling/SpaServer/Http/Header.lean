import SpaServer.Text.Basic

/-!
# Headers

The headers that a response may have, and lists of headers with their values. A list is kept in the
alphabetical order of the names, and a header that is set takes the place of any value that it had.
-/

namespace SpaServer

inductive Header
  | acceptRanges
  | allow
  | cacheControl
  | contentLength
  | contentRange
  | contentType
  | etag
  | lastModified
  | location
  deriving DecidableEq

def Header.name : Header → Text
  | .acceptRanges => "accept-ranges".toList
  | .allow => "allow".toList
  | .cacheControl => "cache-control".toList
  | .contentLength => "content-length".toList
  | .contentRange => "content-range".toList
  | .contentType => "content-type".toList
  | .etag => "etag".toList
  | .lastModified => "last-modified".toList
  | .location => "location".toList

abbrev Headers := List (Header × Text)

namespace Headers

def get? (header : Header) (headers : Headers) : Option Text := headers.lookup header

def remove (header : Header) (headers : Headers) : Headers := headers.filter (·.1 != header)

/-- Gives a header a value, in its place in the alphabetical order. -/
def set (header : Header) (value : Text) (headers : Headers) : Headers :=
  let others := headers.remove header
  let isBefore := fun entry : Header × Text => decide (entry.1.name < header.name)
  others.takeWhile isBefore ++ (header, value) :: others.dropWhile isBefore

end Headers

end SpaServer
