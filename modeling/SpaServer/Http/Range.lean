import SpaServer.Text.Blank
import SpaServer.Text.Lowercase
import SpaServer.Text.Numeral

/-!
# Byte ranges

A range header asks for spans of a content, which are half-open intervals of positions here. A part
of the header that is no span is left out. If any span begins behind the content the request cannot
be satisfied, and if any is empty it is refused. Several spans are put in order, and those that
overlap or touch become one.
-/

namespace SpaServer

/-- The positions from `start` up to, but not including, `stop`. -/
structure Span where
  start : Nat
  stop : Nat
  deriving DecidableEq

namespace Span

def Covers (span : Span) (position : Nat) : Prop := span.start ≤ position ∧ position < span.stop

def length (span : Span) : Nat := span.stop - span.start

def slice (span : Span) (content : Bytes) : Bytes :=
  (content.drop span.start).take span.length

/-- The order of spans: by their start, then by their stop. -/
def before (a b : Span) : Bool :=
  decide (a.start < b.start) || (decide (a.start = b.start) && decide (a.stop ≤ b.stop))

/-- Joins spans in order to `current` as long as they overlap or touch it. -/
def mergeFrom (current : Span) : List Span → List Span
  | [] => [current]
  | next :: rest =>
    if next.start ≤ current.stop then
      mergeFrom ⟨current.start, max current.stop next.stop⟩ rest
    else current :: mergeFrom next rest

/-- Joins spans in order that overlap or touch. -/
def merge : List Span → List Span
  | [] => []
  | first :: rest => mergeFrom first rest

/-- The span as it is named in a response, with the size of the whole content. -/
def contentRange (span : Span) (size : Nat) : Text :=
  "bytes ".toList ++ Text.ofNat span.start ++ '-' :: Text.ofNat (span.stop - 1) ++
    '/' :: Text.ofNat size

end Span

inductive RangeError
  | malformed
  | otherUnit
  | noRange
  | emptyRange
  | unsatisfiable
  deriving DecidableEq

namespace Range

/-- The most commas that a range header may have. Beyond it the header is ignored. -/
def maxCommas : Nat := 99

/-- The span that a part of a range header asks for in a content of the given size. Without a start
the span is that many bytes long at the end of the content. -/
def span? (size : Nat) (part : Text) : Option Span :=
  match Text.cut '-' (Text.strip part) with
  | (_, none) => none
  | (start, some stop) =>
    match Text.strip start, Text.strip stop with
    | [], stop => (Text.toInt? stop).map fun length => ⟨((size : Int) - length).toNat, size⟩
    | start, [] => (Text.toInt? start).map fun first => ⟨first.toNat, size⟩
    | start, stop =>
      match Text.toInt? start, Text.toInt? stop with
      | some first, some last =>
        some ⟨first.toNat, if last < size then (last + 1).toNat else size⟩
      | _, _ => none

/-- Checks the spans that were read and puts them in order. -/
def check (size : Nat) (spans : List Span) : Except RangeError (List Span) :=
  if spans = [] then .error .noRange
  else if spans.any fun span => decide (size ≤ span.start) then .error .unsatisfiable
  else if spans.any fun span => decide (span.stop ≤ span.start) then .error .emptyRange
  else .ok (Span.merge (spans.mergeSort Span.before))

/-- The spans that a range header asks for in a content of the given size. The header is ignored if
it has too many parts. -/
def read (size : Nat) (header : Text) : Except RangeError (Option (List Span)) :=
  match Text.cut '=' header with
  | (_, none) => .error .malformed
  | (unit, some parts) =>
    if Text.lower (Text.strip unit) ≠ "bytes".toList then .error .otherUnit
    else if maxCommas < parts.count ',' then .ok none
    else (check size ((parts.splitOn ',').filterMap (span? size))).map some

end Range

end SpaServer
