import SpaServer.Proofs.Http.Joining
import SpaServer.Proofs.Http.Sending
import SpaServer.Proofs.Text.Cutting
import SpaServer.Proofs.Text.Numeral

/-!
# The parts of a response

What a client gets of a content: parts of it, each with the type of the whole and the range that it
is. A single part is the response itself, and several stand in a multipart body one after the other.
The range of a part names a span, by its first and its last position, and the size of the whole.
-/

namespace SpaServer

/-! ### Content ranges -/

def decimalValue (digits : Text) : Nat := Nat.ofDigitChars 10 digits 0

/-- The span that a content range names, and the size of the whole. -/
def namedSpan? (contentRange : Text) : Option (Span × Nat) :=
  match Text.cut '/' contentRange with
  | (range, some size) =>
    match Text.cut '-' range with
    | (first, some last) =>
      if "bytes ".toList.isPrefixOf first then
        some (⟨decimalValue (first.drop "bytes ".toList.length), decimalValue last + 1⟩,
          decimalValue size)
      else none
    | (_, none) => none
  | (_, none) => none

theorem decimalValue_ofNat (n : Nat) : decimalValue (Text.ofNat n) = n :=
  Nat.ofDigitChars_ten_toDigits

theorem not_mem_ofNat {c : Char} (hc : c.isDigit = false) (n : Nat) : c ∉ Text.ofNat n := by
  intro hmem
  rw [Text.isDigit_of_mem_ofNat hmem] at hc
  exact Bool.noConfusion hc

theorem namedSpan?_contentRange {span : Span} {size : Nat} (hspan : span.Within size) :
    namedSpan? (span.contentRange size) = some (span, size) := by
  have hdash : '-' ∉ "bytes ".toList ++ Text.ofNat span.start := by
    rw [List.mem_append, not_or]
    exact ⟨by decide, not_mem_ofNat (by decide) _⟩
  have hslash : '/' ∉ "bytes ".toList ++ Text.ofNat span.start ++
      '-' :: Text.ofNat (span.stop - 1) := by
    rw [List.mem_append, List.mem_append, List.mem_cons, not_or, not_or, not_or]
    exact ⟨⟨by decide, not_mem_ofNat (by decide) _⟩, by decide, not_mem_ofNat (by decide) _⟩
  have hunit : "bytes ".toList.isPrefixOf ("bytes ".toList ++ Text.ofNat span.start) = true :=
    List.isPrefixOf_iff_prefix.2 (List.prefix_append _ _)
  have hstop : span.stop - 1 + 1 = span.stop := by
    have hnonempty := hspan.nonempty
    omega
  unfold namedSpan? Span.contentRange
  rw [Text.cut_append _ hslash]
  simp only
  rw [Text.cut_append _ hdash]
  simp only
  rw [if_pos hunit, List.drop_left, decimalValue_ofNat, decimalValue_ofNat, decimalValue_ofNat,
    hstop]

/-! ### Parts -/

/-- A part of a content, with the headers that tell what it is. -/
structure Part where
  contentType : Text
  contentRange : Text
  content : Bytes

/-- A part as it stands in a multipart body, behind a line with the boundary. -/
def Part.written (boundary : Text) (part : Part) : Bytes :=
  Text.utf8 ("--".toList ++ boundary ++ Delivery.lineEnd ++
    "Content-Type: ".toList ++ part.contentType ++ Delivery.lineEnd ++
    "Content-Range: ".toList ++ part.contentRange ++ Delivery.lineEnd ++ Delivery.lineEnd) ++
    part.content ++ Delivery.lineEnd.utf8

/-- How a response sends parts of a content: one as it is, and several in a multipart body. -/
inductive Response.Sends (response : Response) : List Part → Prop
  | single {part : Part} (htype : response.headers.values .contentType = [part.contentType])
      (hrange : response.headers.values .contentRange = [part.contentRange])
      (hbody : response.body = part.content) : Response.Sends response [part]
  | several {parts : List Part} {boundary : Text} (hseveral : 1 < parts.length)
      (htype : response.headers.values .contentType =
        ["multipart/byteranges; boundary=".toList ++ boundary])
      (hrange : response.headers.values .contentRange = [])
      (hbody : response.body = parts.flatMap (Part.written boundary) ++
        Text.utf8 ("--".toList ++ boundary ++ "--".toList)) :
      Response.Sends response parts

namespace Delivery

variable {delivery : Delivery}

def partOf (delivery : Delivery) (span : Span) : Part where
  contentType := delivery.contentType
  contentRange := span.contentRange delivery.size
  content := span.slice delivery.file.content

@[simp]
theorem partOf_contentType (delivery : Delivery) (span : Span) :
    (delivery.partOf span).contentType = delivery.contentType := by
  rw [partOf]

@[simp]
theorem partOf_contentRange (delivery : Delivery) (span : Span) :
    (delivery.partOf span).contentRange = span.contentRange delivery.size := by
  rw [partOf]

theorem written_partOf (delivery : Delivery) (span : Span) :
    (delivery.partOf span).written boundary = delivery.part span := by
  unfold Part.written part partHead
  simp only [partOf]

theorem values_contentRange : delivery.headers.values .contentRange = [] := by
  rw [headers_eq]
  rfl

theorem multipartBody_eq (delivery : Delivery) (spans : List Span) :
    delivery.multipartBody spans =
      (spans.map delivery.partOf).flatMap (Part.written boundary) ++
        Text.utf8 ("--".toList ++ boundary ++ "--".toList) := by
  rw [multipartBody, List.flatMap_map, closing]
  simp only [written_partOf]

/-- **A response with spans of a file sends them as parts.** -/
theorem sends_spans (delivery : Delivery) {spans : List Span} (hsome : spans ≠ []) :
    (delivery.spans spans).Sends (spans.map delivery.partOf) := by
  match spans with
  | [] => exact absurd rfl hsome
  | [span] =>
      change (delivery.single span).Sends [delivery.partOf span]
      refine .single ?_ ?_ rfl
      · rw [single, Headers.values_set_of_ne _ (by decide), Headers.values_set_of_ne _ (by decide),
          values_contentType, partOf_contentType]
      · rw [single, Headers.values_set_of_ne _ (by decide), Headers.values_set_self,
          partOf_contentRange]
  | first :: second :: rest =>
      have hseveral : 1 < ((first :: second :: rest).map delivery.partOf).length := by simp
      refine .several hseveral ?_ ?_ (multipartBody_eq delivery _)
      · rw [Delivery.spans, multipart, Headers.values_set_of_ne _ (by decide),
          Headers.values_set_self]
        · simp
      · rw [Delivery.spans, multipart, Headers.values_set_of_ne _ (by decide),
          Headers.values_set_of_ne _ (by decide), values_contentRange]
        · simp

end Delivery

end SpaServer
