import Mathlib
import SpaServer.Proofs.Bindings
import SpaServer.Proofs.Http.Parts
import SpaServer.Proofs.Server.Bundle
import SpaServer.Proofs.Server.Course

/-!
# Partial content

An answer with partial content sends what its range header asks for, and nothing else, of the body
that the same request without the header gets. The parts are in order, no two of them overlap or
touch, and each one is named by the range that it is.
-/

namespace SpaServer

/-! ### The whole behind a part -/

/-- The request for the whole of what the request asks for, with its content. -/
def Request.forWhole (request : Request) : Request :=
  { request with
    method := Method.get.name
    headers := request.headers.filter (·.1 != "range".toList) }

namespace Request

variable {request : Request}

theorem range?_forWhole : request.forWhole.range? = none := by
  rw [range?, header?, forWhole, List.lookup_eq_none_iff]
  intro entry hentry
  have hother := (List.mem_filter.1 hentry).2
  exact bne_iff_ne.2 (Ne.symm (bne_iff_ne.1 hother))

theorem host?_forWhole : request.forWhole.host? = request.host? := by
  let keep : Text → Bool := (· != "range".toList)
  have hkeep : keep "host".toList = true := by decide
  exact Bindings.lookup_filter hkeep request.headers

theorem url_forWhole : request.forWhole.url = request.url := by
  have hauthority : request.forWhole.authority? = request.authority? := by
    rw [authority?, authority?, host?_forWhole]
    rfl
  have hurlTo : request.forWhole.urlTo = request.urlTo := by
    funext path
    rw [urlTo, urlTo, hauthority]
    rfl
  rw [url, url, hurlTo]
  rfl

end Request

namespace App

variable {lookup : Lookup} {request : Request} {method : Method} {file : File}

/-- A reading request and the one for the whole get the same file. -/
theorem Obtains.forWhole (hobtains : Obtains lookup request method file)
    (hreads : method.readsAssets = true) : Obtains lookup request.forWhole .get file := by
  have hserves : Serves request.forWhole .get :=
    ⟨hobtains.serves.onRoute, Method.ofName?_name .get⟩
  cases hobtains with
  | asset _ _ hurl hmatch => exact .asset hserves rfl (Request.url_forWhole.trans hurl) hmatch
  | entry _ hunmatched hindex =>
      rcases hunmatched with hother | ⟨url, hurl, hmatch⟩
      · rw [hreads] at hother
        exact Bool.noConfusion hother
      · exact .entry hserves (Or.inr ⟨url, Request.url_forWhole.trans hurl, hmatch⟩) hindex

end App

/-! ### Spans that are sent -/

namespace Delivery

variable {delivery : Delivery}

theorem spans_of_respondRange {header : Text}
    (hstatus : (delivery.respondRange header).1.status = 206) (hwhole : delivery.status ≠ 206) :
    ∃ spans, Range.read delivery.size header = .ok (some spans) ∧
      delivery.respondRange header = (delivery.spans spans, true) := by
  rw [respondRange] at hstatus ⊢
  cases hread : Range.read delivery.size header with
  | ok found =>
      rw [hread] at hstatus
      cases found with
      | none => exact absurd hstatus hwhole
      | some spans => exact ⟨spans, rfl, rfl⟩
  | error error =>
      rw [hread] at hstatus
      have hrefusal : (delivery.refusal error).status = 206 := hstatus
      rcases refusal_status delivery error with hother | hother <;> omega

/-- Spans are sent in answer to a range header without a validator next to it. -/
theorem spans_of_respond {range ifRange : Option Text} {answer : Response × Bool}
    (hrespond : delivery.respond range ifRange = .ok answer) (hstatus : answer.1.status = 206)
    (hwhole : delivery.status ≠ 206) :
    ∃ header spans, range = some header ∧ ifRange = none ∧
      Range.read delivery.size header = .ok (some spans) ∧
      answer = (delivery.spans spans, true) := by
  rcases respond_eq_whole_or hrespond with rfl | ⟨header, rfl, rfl, rfl⟩
  · exact absurd hstatus hwhole
  · obtain ⟨spans, hread, hspans⟩ := spans_of_respondRange hstatus hwhole
    exact ⟨header, spans, rfl, rfl, hread, hspans⟩

end Delivery

namespace App

variable {lookup : Lookup} {request : Request} {method : Method} {file : File}

theorem spans_of_deliver {response : Response}
    (hdeliver : deliver method request file = .ok response) (hstatus : response.status = 206) :
    method.readsAssets = true ∧ ∃ header spans, request.range? = some header ∧
      request.ifRange? = none ∧ Range.read file.content.length header = .ok (some spans) ∧
      response = if method = .head then { Delivery.spans ⟨200, file⟩ spans with body := [] }
        else Delivery.spans ⟨200, file⟩ spans := by
  rw [deliver] at hdeliver
  split at hdeliver
  · rename_i hreads
    split at hdeliver
    · rename_i sent sendsContent hrespond
      obtain rfl := Except.ok.inj hdeliver
      have hsent : sent.status = 206 := by
        split at hstatus <;> exact hstatus
      obtain ⟨header, spans, hrange, hifRange, hread, hspans⟩ :=
        Delivery.spans_of_respond hrespond hsent (by simp)
      obtain ⟨rfl, rfl⟩ := Prod.mk.inj hspans
      exact ⟨hreads, header, spans, hrange, hifRange, hread, by simp⟩
    · simp at hdeliver
  · obtain rfl := Except.ok.inj hdeliver
    exact absurd hstatus (by simp [Delivery.whole])

/-! ### Excerpts -/

/-- Whether the parts, at the given spans, are what a range header asks for of a whole response. -/
structure Excerpt (whole : Response) (header : Text) (spans : List Span) (parts : List Part) :
    Prop where
  within : ∀ span ∈ spans, span.Within whole.body.length
  separated : Span.Separated spans
  covered : ∀ position,
    Span.Covered spans position ↔ Range.Asks whole.body.length header position
  parts : List.Forall₂ (fun span part =>
    namedSpan? part.contentRange = some (span, whole.body.length) ∧
      part.content = span.slice whole.body ∧
      whole.headers.values .contentType = [part.contentType]) spans parts

theorem excerpt_of_read {header : Text} {spans : List Span}
    (hread : Range.read file.content.length header = .ok (some spans)) :
    Excerpt (Delivery.whole ⟨200, file⟩) header spans
      (spans.map (Delivery.partOf ⟨200, file⟩)) := by
  have hwithin := Range.within_of_read hread
  obtain ⟨_, hseparated, hcovered⟩ := Range.joined_of_read hread
  refine ⟨hwithin, hseparated, fun position => ?_, ?_⟩
  · rw [hcovered, Range.covered_requested]
    rfl
  · rw [List.forall₂_map_right_iff, List.forall₂_same]
    intro span hspan
    rw [Delivery.partOf_contentType, Delivery.partOf_contentRange]
    exact ⟨namedSpan?_contentRange (hwithin span hspan), rfl, Delivery.values_contentType⟩

/-- **An answer with partial content is the excerpt that the range header asks for**, of the body
that the whole is answered with. -/
theorem excerpt_of_partial {app : App}
    (hstatus : (app.answer lookup request).response.status = 206) :
    (app.answer lookup request.forWhole).response.status = 200 ∧
      ∃ header spans parts sent, request.range? = some header ∧ request.ifRange? = none ∧
        Excerpt (app.answer lookup request.forWhole).response header spans parts ∧
        Response.Sends sent parts ∧
        (app.answer lookup request).response =
          if request.method = Method.head.name then { sent with body := [] } else sent := by
  rcases answer_cases app lookup request with ⟨method, file, hobtains, hdeliver⟩ | hfileless
  · obtain ⟨hreads, header, spans, hrange, hifRange, hread, hresponse⟩ :=
      spans_of_deliver hdeliver hstatus
    have hwhole : app.answer lookup request.forWhole = ⟨Delivery.whole ⟨200, file⟩, [], none⟩ :=
      (hobtains.forWhole hreads).answer_whole (by decide) (Or.inr Request.range?_forWhole)
    have hmethod : request.method = Method.head.name ↔ method = .head := by
      rw [Method.name_of_ofName? hobtains.serves.ofName?]
      exact ⟨fun hname => Method.name_injective hname, fun hhead => by rw [hhead]⟩
    rw [hwhole]
    refine ⟨rfl, header, spans, _, Delivery.spans ⟨200, file⟩ spans, hrange, hifRange,
      excerpt_of_read hread, Delivery.sends_spans ⟨200, file⟩ (Range.joined_of_read hread).1, ?_⟩
    rw [hresponse]
    simp only [hmethod]
  · exact absurd hstatus hfileless.status.2

/-! ### Scattered ranges -/

/-- A bundle whose entry document has ten bytes. -/
def digitsBundle : Node :=
  .dir [(Bundle.directory, .dir [(Bundle.indexFile, .file (Text.utf8 "0123456789".toList))])]

/-- The request for ranges out of order, two of which touch, among parts that are no ranges. -/
def scattered : Request :=
  { Request.simple .get ['/'] with
    headers := [("range".toList, "bytes=8-,0-1,2-3,x,5-5".toList)] }

theorem read_scattered : Range.read 10 "bytes=8-,0-1,2-3,x,5-5".toList =
    .ok (some [⟨0, 4⟩, ⟨5, 6⟩, ⟨8, 10⟩]) := by
  cbv

theorem status_scattered :
    (standard.answer (digitsBundle.lookup standard.settings.assetRoot)
      scattered).response.status = 206 := by
  have hurl : scattered.url = .ok ⟨['/'], []⟩ :=
    Request.url_simple_headers _ rfl (by decide) (Url.isPlainChar_of_all (by decide))
  have hindex : (digitsBundle.lookup standard.settings.assetRoot).findFile Bundle.indexFile =
      .ok (some ⟨.inside [standard.settings.assetRoot, Bundle.indexFile],
        Text.utf8 "0123456789".toList⟩) :=
    findFile_indexFile (Node.linkFree_of_links rfl) (by rw [assetRoot_standard]; rfl)
  have hserves : Serves scattered .get := ⟨by decide, Method.ofName?_name .get⟩
  have hrespond := respond_of_asset standard.settings hserves rfl hurl
    (Lookup.matchMounts_of_root (matchMount_root _ _ rfl rfl hindex))
  have hrange : scattered.range? = some "bytes=8-,0-1,2-3,x,5-5".toList := by decide
  have hifRange : scattered.ifRange? = none := by decide
  have hdeliver : ∀ place, deliver .get scattered ⟨place, Text.utf8 "0123456789".toList⟩ =
      .ok (Delivery.multipart ⟨200, place, Text.utf8 "0123456789".toList⟩
        [⟨0, 4⟩, ⟨5, 6⟩, ⟨8, 10⟩]) := by
    intro place
    have hsize : Delivery.size ⟨200, place, Text.utf8 "0123456789".toList⟩ = 10 := rfl
    rw [deliver, if_pos (by rfl), hrange, hifRange, Delivery.respond, Delivery.respondRange,
      hsize, read_scattered]
    rfl
  rw [hdeliver] at hrespond
  rw [answer_of_delivered hrespond]
  rfl

theorem excerpt_scattered :
    (standard.answer (digitsBundle.lookup standard.settings.assetRoot)
        scattered).response.status = 206 ∧
      ∃ header spans parts sent, scattered.range? = some header ∧ scattered.ifRange? = none ∧
        Excerpt (standard.answer (digitsBundle.lookup standard.settings.assetRoot)
          scattered.forWhole).response header spans parts ∧
        Response.Sends sent parts ∧
        (standard.answer (digitsBundle.lookup standard.settings.assetRoot) scattered).response =
          if scattered.method = Method.head.name then { sent with body := [] } else sent :=
  ⟨status_scattered, (excerpt_of_partial status_scattered).2⟩

end App

end SpaServer
