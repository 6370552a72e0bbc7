import SpaServer.Proofs.Http.Range
import SpaServer.Proofs.Http.Sending
import SpaServer.Proofs.Text.Utf8

/-!
# The length of a response

A response is framed if it gives the length of its body, and gives it once. The length of a file is
summed up from its size and its spans, without the body, so it has to be shown that the body gets
exactly as long: the spans lie in the file, and whatever a part is written with is in ASCII.
-/

namespace SpaServer

/-- Whether a response gives the length of its body, once. -/
def Response.Framed (response : Response) : Prop :=
  response.headers.values .contentLength = [Text.ofNat response.body.length]

theorem Response.framed_plain (status : Nat) (text : Text) : (plain status text).Framed := rfl

namespace Delivery

variable {delivery : Delivery} {span : Span} {spans : List Span}

/-! ### The length of a multipart body -/

theorem isAscii_contentType (delivery : Delivery) : delivery.contentType.IsAscii := by
  have htype : delivery.mediaType.IsAscii := fun c hc =>
    (MediaType.plain_of_isTypeChar (MediaType.plain_ofName _ c hc)).1
  rw [contentType, MediaType.contentType]
  split
  · exact htype.append (Text.isAscii_of_all (by decide))
  · exact htype

theorem isAscii_contentRange (span : Span) (size : Nat) : (span.contentRange size).IsAscii := by
  have hunit : Text.IsAscii "bytes ".toList := Text.isAscii_of_all (by decide)
  have hstart := hunit.append (Text.isAscii_ofNat span.start)
  have hstop := hstart.append ((Text.isAscii_ofNat (span.stop - 1)).cons (c := '-') (by decide))
  exact hstop.append ((Text.isAscii_ofNat size).cons (by decide))

theorem isAscii_partHead (span : Span) : Text.IsAscii (delivery.partHead span) := by
  have hfront : Text.IsAscii ("--".toList ++ boundary ++ lineEnd ++ "Content-Type: ".toList) :=
    Text.isAscii_of_all (by decide)
  have hend : lineEnd.IsAscii := Text.isAscii_of_all (by decide)
  have hname : Text.IsAscii "Content-Range: ".toList := Text.isAscii_of_all (by decide)
  have htype := ((hfront.append delivery.isAscii_contentType).append hend).append hname
  exact ((htype.append (isAscii_contentRange span delivery.size)).append hend).append hend

theorem length_contentRange (span : Span) (size : Nat) : (span.contentRange size).length =
    8 + (Text.ofNat span.start).length + (Text.ofNat (span.stop - 1)).length +
      (Text.ofNat size).length := by
  have hunit : "bytes ".toList.length = 6 := by decide
  unfold Span.contentRange
  simp only [List.length_append, List.length_cons, hunit]
  omega

theorem length_partHead (span : Span) :
    (delivery.partHead span).length + lineEnd.length + span.length = delivery.partLength span := by
  have hnames : "--".toList.length = 2 ∧ "Content-Type: ".toList.length = 14 ∧
      "Content-Range: ".toList.length = 15 ∧ lineEnd.length = 2 := by
    decide
  unfold partHead partLength fixedLength
  simp only [List.length_append, length_contentRange, hnames]
  -- The sum would be compared with the length of a content type by looking up the type.
  generalize delivery.contentType.length = typeLength
  omega

theorem length_part (hspan : span.stop ≤ delivery.size) :
    (delivery.part span).length = delivery.partLength span := by
  have hend : lineEnd.utf8.length = lineEnd.length := by decide
  rw [part, List.length_append, List.length_append, (isAscii_partHead span).length_utf8,
    Span.length_slice hspan, hend, ← length_partHead]
  omega

/-- **A multipart body is as long as the sum says.** -/
theorem length_multipartBody (hspans : ∀ span ∈ spans, span.stop ≤ delivery.size) :
    (delivery.multipartBody spans).length = delivery.multipartLength spans := by
  have hclosing : closing.length = closingLength := by decide
  unfold multipartBody multipartLength
  induction spans with
  | nil => exact hclosing
  | cons span rest ih =>
      obtain ⟨hspan, hrest⟩ := List.forall_mem_cons.1 hspans
      rw [List.flatMap_cons, List.append_assoc, List.length_append, ih hrest, length_part hspan,
        List.foldr_cons]

/-! ### Responses that send a file -/

theorem framed_whole (delivery : Delivery) : delivery.whole.Framed := by
  rw [Response.Framed, whole, headers_eq]
  rfl

theorem framed_spans (hspans : ∀ span ∈ spans, span.stop ≤ delivery.size) :
    (delivery.spans spans).Framed := by
  unfold Delivery.spans
  split
  · rename_i span
    have hspan : span.stop ≤ delivery.file.content.length := hspans span List.mem_cons_self
    rw [Response.Framed, single, Headers.values_set_self, Span.length_slice hspan]
  · rw [Response.Framed, multipart, Headers.values_set_self, length_multipartBody hspans]

theorem framed_refusal (delivery : Delivery) (error : RangeError) :
    (delivery.refusal error).Framed := by
  cases error with
  | unsatisfiable => simp [Response.Framed, refusal, Headers.values]
  | _ => exact Response.framed_plain 400 _

theorem framed_respondRange (delivery : Delivery) (range : Text) :
    (delivery.respondRange range).1.Framed := by
  rw [respondRange]
  split
  · exact framed_whole delivery
  · rename_i spans hread
    exact framed_spans fun span hspan => (Range.within_of_read hread span hspan).stop_le
  · exact framed_refusal delivery _

theorem framed_of_respond {range ifRange : Option Text} {answer : Response × Bool}
    (hrespond : delivery.respond range ifRange = .ok answer) : answer.1.Framed := by
  rcases respond_eq_whole_or hrespond with rfl | ⟨header, _, _, rfl⟩
  · exact framed_whole delivery
  · exact framed_respondRange delivery header

end Delivery

end SpaServer
