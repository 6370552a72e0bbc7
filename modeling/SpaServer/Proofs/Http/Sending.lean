import SpaServer.Http.Delivery
import SpaServer.Proofs.Http.Headers
import SpaServer.Proofs.Http.MediaType

/-!
# What a delivery sends

A delivery sends the whole file, one span of it or several spans, and otherwise refuses the range
that was asked for with a status of its own. So the status alone tells whether there is content of
the file in a response.
-/

namespace SpaServer.Delivery

variable {delivery : Delivery}

/-- A response that sends the file, or leaves out its content where only the headers are wanted. -/
inductive Sent (delivery : Delivery) : Response → Prop
  | whole : Sent delivery delivery.whole
  | spans (spans : List Span) : Sent delivery (delivery.spans spans)
  | headers {response : Response} (hsent : Sent delivery response) :
      Sent delivery { response with body := [] }

theorem spans_status (spans : List Span) : (delivery.spans spans).status = 206 := by
  unfold Delivery.spans
  split <;> rfl

theorem Sent.status {response : Response} (hsent : Sent delivery response) :
    response.status = delivery.status ∨ response.status = 206 := by
  induction hsent with
  | whole => exact Or.inl rfl
  | spans spans => exact Or.inr (spans_status spans)
  | headers _ ih => exact ih

theorem refusal_status (delivery : Delivery) (error : RangeError) :
    (delivery.refusal error).status = 400 ∨ (delivery.refusal error).status = 416 := by
  cases error with
  | unsatisfiable => exact Or.inr rfl
  | _ => exact Or.inl rfl

/-! ### Headers -/

theorem headers_eq (delivery : Delivery) : delivery.headers =
    [(.acceptRanges, "bytes".toList), (.cacheControl, CachePolicy.directive delivery.mediaType),
      (.contentLength, Text.ofNat delivery.size), (.contentType, delivery.contentType)] := rfl

theorem values_etag : delivery.headers.values .etag = [] := by
  rw [headers, settle, Headers.values_set_of_ne _ (by decide),
    Headers.values_remove_of_ne (by decide), Headers.values_remove_self]

theorem values_lastModified : delivery.headers.values .lastModified = [] := by
  rw [headers, settle, Headers.values_set_of_ne _ (by decide), Headers.values_remove_self]

theorem values_cacheControl :
    delivery.headers.values .cacheControl = [CachePolicy.directive delivery.mediaType] :=
  Headers.values_set_self _

theorem values_contentType : delivery.headers.values .contentType = [delivery.contentType] := by
  rw [headers, settle, Headers.values_set_of_ne _ (by decide),
    Headers.values_remove_of_ne (by decide), Headers.values_remove_of_ne (by decide)]
  simp [Headers.values, initialHeaders]

/-- Whatever part of the file is sent, only the headers that describe the content change. -/
theorem Sent.values {response : Response} (hsent : Sent delivery response) {header : Header}
    (hheader : header ∉ [.contentLength, .contentRange, .contentType]) :
    response.headers.values header = delivery.headers.values header := by
  simp only [List.mem_cons, List.not_mem_nil, or_false, not_or] at hheader
  obtain ⟨hlength, hrange, htype⟩ := hheader
  induction hsent with
  | whole => rfl
  | spans spans =>
      unfold Delivery.spans
      split
      · rw [single, Headers.values_set_of_ne _ hlength, Headers.values_set_of_ne _ hrange]
      · rw [multipart, Headers.values_set_of_ne _ hlength, Headers.values_set_of_ne _ htype]
  | headers _ ih => exact ih

theorem Sent.headers_eq {response : Response} (hsent : Sent delivery response)
    (hstatus : response.status ≠ 206) : response.headers = delivery.headers := by
  induction hsent with
  | whole => rfl
  | spans spans => exact absurd (spans_status spans) hstatus
  | headers _ ih => exact ih hstatus

/-- No validator is ever there to compare with. -/
theorem rangeCounts_eq (validator : Text) : delivery.rangeCounts validator =
    if isWeak validator then .ok false else .error .noValidator := by
  rw [rangeCounts, Headers.get?_eq_none values_lastModified]

/-! ### Answers to range headers -/

theorem respondRange_cases (delivery : Delivery) (range : Text) :
    delivery.respondRange range = (delivery.whole, true) ∨
      (∃ spans, delivery.respondRange range = (delivery.spans spans, true)) ∨
      ∃ error, delivery.respondRange range = (delivery.refusal error, false) := by
  rw [respondRange]
  split
  · exact Or.inl rfl
  · exact Or.inr (Or.inl ⟨_, rfl⟩)
  · exact Or.inr (Or.inr ⟨_, rfl⟩)

/-- Without a strong validator to compare with, the range headers are answered. -/
theorem respond_eq_ok (delivery : Delivery) {range ifRange : Option Text}
    (hweak : range = none ∨ ∀ validator, ifRange = some validator → isWeak validator = true) :
    delivery.respond range ifRange = .ok (delivery.whole, true) ∨
      ∃ header, range = some header ∧ ifRange = none ∧
        delivery.respond range ifRange = .ok (delivery.respondRange header) := by
  cases range with
  | none => exact Or.inl rfl
  | some header =>
      cases ifRange with
      | none => exact Or.inr ⟨header, rfl, rfl, rfl⟩
      | some validator =>
          left
          rw [respond, rangeCounts_eq, if_pos (hweak.resolve_left (by simp) validator rfl)]

theorem respond_eq_error {range validator : Text} (hstrong : isWeak validator = false) :
    delivery.respond (some range) (some validator) = .error .noValidator := by
  rw [respond, rangeCounts_eq, hstrong]
  rfl

theorem respond_eq_whole_or {range ifRange : Option Text} {answer : Response × Bool}
    (hrespond : delivery.respond range ifRange = .ok answer) :
    answer = (delivery.whole, true) ∨
      ∃ header, range = some header ∧ ifRange = none ∧ answer = delivery.respondRange header := by
  by_cases hweak : range = none ∨ ∀ validator, ifRange = some validator → isWeak validator = true
  · rcases respond_eq_ok delivery hweak with hwhole | ⟨header, hrange, hifRange, hanswer⟩
    · exact Or.inl (Except.ok.inj (hrespond.symm.trans hwhole))
    · exact Or.inr ⟨header, hrange, hifRange, Except.ok.inj (hrespond.symm.trans hanswer)⟩
  · push Not at hweak
    obtain ⟨hrange, validator, rfl, hstrong⟩ := hweak
    obtain ⟨header, rfl⟩ := Option.ne_none_iff_exists'.1 hrange
    rw [respond_eq_error (by simpa using hstrong)] at hrespond
    simp at hrespond

theorem respond_cases {range ifRange : Option Text} {response : Response} {sendsContent : Bool}
    (hrespond : delivery.respond range ifRange = .ok (response, sendsContent)) :
    (sendsContent = true ∧ Sent delivery response) ∨
      (sendsContent = false ∧ ∃ error, response = delivery.refusal error) := by
  rcases respond_eq_whole_or hrespond with hwhole | ⟨header, _, _, hheader⟩
  · obtain ⟨rfl, rfl⟩ := Prod.mk.inj hwhole
    exact Or.inl ⟨rfl, .whole⟩
  · rcases respondRange_cases delivery header with
      hrange | ⟨spans, hrange⟩ | ⟨error, hrange⟩
    · obtain ⟨rfl, rfl⟩ := Prod.mk.inj (hheader.trans hrange)
      exact Or.inl ⟨rfl, .whole⟩
    · obtain ⟨rfl, rfl⟩ := Prod.mk.inj (hheader.trans hrange)
      exact Or.inl ⟨rfl, .spans spans⟩
    · obtain ⟨rfl, rfl⟩ := Prod.mk.inj (hheader.trans hrange)
      exact Or.inr ⟨rfl, error, rfl⟩

theorem eq_whole_of_respond {range ifRange : Option Text} {response : Response}
    {sendsContent : Bool} (hrespond : delivery.respond range ifRange = .ok (response, sendsContent))
    (hstatus : response.status = 200) : response = delivery.whole := by
  rcases respond_eq_whole_or hrespond with hwhole | ⟨header, _, _, hheader⟩
  · exact (Prod.mk.inj hwhole).1
  · rcases respondRange_cases delivery header with
      hrange | ⟨spans, hrange⟩ | ⟨error, hrange⟩
    · exact (Prod.mk.inj (hheader.trans hrange)).1
    · obtain ⟨rfl, _⟩ := Prod.mk.inj (hheader.trans hrange)
      simp [spans_status spans] at hstatus
    · obtain ⟨rfl, _⟩ := Prod.mk.inj (hheader.trans hrange)
      rcases refusal_status delivery error with hrefusal | hrefusal <;>
        simp [hrefusal] at hstatus

end SpaServer.Delivery
