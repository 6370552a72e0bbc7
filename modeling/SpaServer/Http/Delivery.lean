import SpaServer.Assets.Find
import SpaServer.Http.CachePolicy
import SpaServer.Http.Failure
import SpaServer.Http.MediaType
import SpaServer.Http.Range
import SpaServer.Http.Response

/-!
# Delivery of files

How a regular file becomes a response: whole, one span of it, or several spans in a multipart body.
The length of a body is summed up from the size of the file and the spans, without the body itself.
The headers of a file begin with validators, which are taken out before the file is sent. So nothing
can be compared with an `if-range` header: a weak one makes the range be ignored and any other makes
the delivery fail.
-/

namespace SpaServer

structure Delivery where
  status : Nat
  file : File
  deriving DecidableEq

namespace Delivery

/-- The media type of the file, after its real name. -/
def mediaType (delivery : Delivery) : Text := MediaType.ofName delivery.file.place.name

def contentType (delivery : Delivery) : Text := MediaType.contentType delivery.mediaType

def size (delivery : Delivery) : Nat := delivery.file.content.length

/-- What tells one state of a file from another: the time of its last change, and a tag. -/
structure Validators where
  etag : Text
  lastModified : Text

/-- The headers that a file with the given validators has at first. -/
def initialHeaders (delivery : Delivery) (validators : Validators) : Headers :=
  [(.acceptRanges, "bytes".toList), (.contentLength, Text.ofNat delivery.size),
    (.contentType, delivery.contentType), (.etag, validators.etag),
    (.lastModified, validators.lastModified)]

/-- Takes the validators out of headers and says how long the content stays fresh. -/
def settle (mediaType : Text) (headers : Headers) : Headers :=
  ((headers.remove .etag).remove .lastModified).set .cacheControl (CachePolicy.directive mediaType)

/-- The headers of the whole file. File trees keep no times, so the validators are left blank; they
are taken out again. -/
def headers (delivery : Delivery) : Headers :=
  settle delivery.mediaType (delivery.initialHeaders ⟨[], []⟩)

def whole (delivery : Delivery) : Response where
  status := delivery.status
  headers := delivery.headers
  body := delivery.file.content

def single (delivery : Delivery) (span : Span) : Response where
  status := 206
  headers := (delivery.headers.set .contentRange (span.contentRange delivery.size)).set
    .contentLength (Text.ofNat span.length)
  body := span.slice delivery.file.content

/-! ### Several spans -/

/-- The line that separates the parts of a multipart body. -/
def boundary : Text := List.replicate 26 '0'

def lineEnd : Text := ['\r', '\n']

def partHead (delivery : Delivery) (span : Span) : Text :=
  "--".toList ++ boundary ++ lineEnd ++
    "Content-Type: ".toList ++ delivery.contentType ++ lineEnd ++
    "Content-Range: ".toList ++ span.contentRange delivery.size ++ lineEnd ++ lineEnd

def part (delivery : Delivery) (span : Span) : Bytes :=
  (delivery.partHead span).utf8 ++ span.slice delivery.file.content ++ lineEnd.utf8

def closing : Bytes := Text.utf8 ("--".toList ++ boundary ++ "--".toList)

def multipartBody (delivery : Delivery) (spans : List Span) : Bytes :=
  spans.flatMap delivery.part ++ closing

/-- How long the line is that ends a multipart body: its boundary and the marks around it. -/
def closingLength : Nat := boundary.length + 4

/-- How much of a part is the same in every multipart body: header names, marks and line ends. -/
def fixedLength : Nat := 49

/-- The length of a part, summed up from the lengths of what it is written with. -/
def partLength (delivery : Delivery) (span : Span) : Nat :=
  fixedLength + boundary.length + delivery.contentType.length +
    (Text.ofNat span.start).length + (Text.ofNat (span.stop - 1)).length +
    (Text.ofNat delivery.size).length + span.length

def multipartLength (delivery : Delivery) (spans : List Span) : Nat :=
  spans.foldr (fun span rest => delivery.partLength span + rest) closingLength

def multipart (delivery : Delivery) (spans : List Span) : Response where
  status := 206
  headers := (delivery.headers.set .contentType
    ("multipart/byteranges; boundary=".toList ++ boundary)).set
    .contentLength (Text.ofNat (delivery.multipartLength spans))
  body := delivery.multipartBody spans

def spans (delivery : Delivery) : List Span → Response
  | [span] => delivery.single span
  | several => delivery.multipart several

/-! ### Answers to a range header -/

/-- The answer to a range header that asks for nothing that can be sent. -/
def refusal (delivery : Delivery) : RangeError → Response
  | .malformed => .plain 400 "Malformed range header.".toList
  | .otherUnit => .plain 400 "Only support bytes range".toList
  | .noRange => .plain 400 "Range header: range must be requested".toList
  | .emptyRange => .plain 400 "Range header: start must be less than end".toList
  | .unsatisfiable =>
    { status := 416
      headers := [(.contentLength, Text.ofNat 0),
        (.contentRange, "bytes */".toList ++ Text.ofNat delivery.size),
        (.contentType, Response.plainType)]
      body := [] }

def isWeak (validator : Text) : Bool := "W/".toList.isPrefixOf validator

/-- Whether a range counts next to an `if-range` header, which should hold a validator of the
file. -/
def rangeCounts (delivery : Delivery) (validator : Text) : Except Failure Bool :=
  if isWeak validator then .ok false
  else
    match delivery.headers.get? .lastModified with
    | none => .error .noValidator
    | some lastModified =>
      .ok (validator == lastModified || delivery.headers.get? .etag == some validator)

/-- The response to a range header, and whether it sends content of the file. -/
def respondRange (delivery : Delivery) (range : Text) : Response × Bool :=
  match Range.read delivery.size range with
  | .ok none => (delivery.whole, true)
  | .ok (some spans) => (delivery.spans spans, true)
  | .error error => (delivery.refusal error, false)

/-- The response to the range headers of a request, and whether it sends content of the file. -/
def respond (delivery : Delivery) (range ifRange : Option Text) :
    Except Failure (Response × Bool) :=
  match range, ifRange with
  | none, _ => .ok (delivery.whole, true)
  | some range, none => .ok (delivery.respondRange range)
  | some range, some validator =>
    match delivery.rangeCounts validator with
    | .ok true => .ok (delivery.respondRange range)
    | .ok false => .ok (delivery.whole, true)
    | .error failure => .error failure

end Delivery

end SpaServer
