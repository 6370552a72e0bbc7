import SpaServer.Proofs.Server.Course

/-!
# Requests for the headers alone

A `HEAD` request goes the way of the `GET` request with the same path, query and headers: it finds
the same file or the same directory, and fails where that one fails. Its answer has the same status
and the same headers. What a file holds is left out of it, and a text is sent all the same.
-/

namespace SpaServer

def Request.withMethod (request : Request) (method : Method) : Request :=
  { request with method := method.name }

/-- The response without what it sends of a file. -/
def Response.withoutContent (response : Response) : Response :=
  if response.status = 200 ∨ response.status = 206 then { response with body := [] } else response

theorem Response.withoutContent_of_sending {response : Response}
    (hstatus : response.status = 200 ∨ response.status = 206) :
    response.withoutContent = { response with body := [] } :=
  if_pos hstatus

theorem Response.withoutContent_of_other {response : Response}
    (hstatus : response.status ≠ 200 ∧ response.status ≠ 206) :
    response.withoutContent = response :=
  if_neg (not_or.2 hstatus)

namespace App

variable {settings : Settings} {lookup : Lookup} {request : Request} {file : File}

/-! ### Deliveries -/

theorem deliver_withMethod (method : Method) (request : Request) (file : File) :
    deliver method (request.withMethod method) file = deliver method request file := rfl

/-- Where content is sent it is left out, and a refusal has none. -/
theorem deliver_head (request : Request) (file : File) :
    deliver .head request file = (deliver .get request file).map Response.withoutContent := by
  rw [deliver, deliver, if_pos (by rfl), if_pos (by rfl)]
  cases hrespond : Delivery.respond ⟨200, file⟩ request.range? request.ifRange? with
  | error failure => rfl
  | ok answer =>
      obtain ⟨response, sendsContent⟩ := answer
      rcases Delivery.respond_cases hrespond with ⟨rfl, hsent⟩ | ⟨rfl, error, rfl⟩
      · simp [Except.map, Response.withoutContent_of_sending hsent.status]
      · have hstatus := Delivery.refusal_status ⟨200, file⟩ error
        have hother : (Delivery.refusal ⟨200, file⟩ error).withoutContent = _ :=
          Response.withoutContent_of_other (by omega)
        simp [Except.map, hother]

/-! ### Both requests -/

/-- Whether the outcome of a `HEAD` request has the response to the `GET` request, without its
content. Their logs differ, as each names its method. -/
def Mirrored (get head : Except Failure (Response × List LogEntry)) : Prop :=
  head.map Prod.fst = get.map fun result => result.1.withoutContent

theorem mirrored_of_delivered {get head : Except Failure (Response × List LogEntry)}
    (hget : get = delivered (deliver .get (request.withMethod .get) file))
    (hhead : head = delivered (deliver .head (request.withMethod .head) file)) :
    Mirrored get head := by
  rw [Mirrored, hget, hhead, deliver_withMethod, deliver_withMethod, deliver_head]
  cases deliver .get request file <;> rfl

theorem mirrored_of_unmatched (hget : Serves (request.withMethod .get) .get)
    (hhead : Serves (request.withMethod .head) .head) {url : Url.Parts}
    (hurl : request.url = .ok url) (hmatch : lookup.matchMounts url.path = .ok none) :
    Mirrored (respond settings lookup (request.withMethod .get))
      (respond settings lookup (request.withMethod .head)) := by
  have hgetUnmatched : Unmatched lookup (request.withMethod .get) .get := Or.inr ⟨url, hurl, hmatch⟩
  have hheadUnmatched : Unmatched lookup (request.withMethod .head) .head :=
    Or.inr ⟨url, hurl, hmatch⟩
  cases hindex : lookup.findFile Bundle.indexFile with
  | ok found =>
      cases found with
      | some file =>
          exact mirrored_of_delivered (respond_of_entry settings hget hgetUnmatched hindex)
            (respond_of_entry settings hhead hheadUnmatched hindex)
      | none =>
          rw [Mirrored, respond_of_noEntry settings hget hgetUnmatched hindex hurl,
            respond_of_noEntry settings hhead hheadUnmatched hindex hurl]
          rfl
  | error errno =>
      rw [Mirrored, respond_of_entryFailed settings hget hgetUnmatched hindex,
        respond_of_entryFailed settings hhead hheadUnmatched hindex]
      rfl

theorem mirrored_of_onRoute (hroute : onRoute request.path = true) :
    Mirrored (respond settings lookup (request.withMethod .get))
      (respond settings lookup (request.withMethod .head)) := by
  have hget : Serves (request.withMethod .get) .get := ⟨hroute, Method.ofName?_name .get⟩
  have hhead : Serves (request.withMethod .head) .head := ⟨hroute, Method.ofName?_name .head⟩
  cases hurl : request.url with
  | error error =>
      rw [Mirrored, respond_of_urlFailed settings hget rfl hurl,
        respond_of_urlFailed settings hhead rfl hurl]
      rfl
  | ok url =>
      cases hmatch : lookup.matchMounts url.path with
      | error errno =>
          rw [Mirrored, respond_of_matchFailed settings hget rfl hurl hmatch,
            respond_of_matchFailed settings hhead rfl hurl hmatch]
          rfl
      | ok found =>
          cases found with
          | none => exact mirrored_of_unmatched hget hhead hurl hmatch
          | some matched =>
              cases matched with
              | serve file =>
                  exact mirrored_of_delivered (respond_of_asset settings hget rfl hurl hmatch)
                    (respond_of_asset settings hhead rfl hurl hmatch)
              | redirect asset target =>
                  rw [Mirrored, respond_of_directory settings hget rfl hurl hmatch,
                    respond_of_directory settings hhead rfl hurl hmatch]
                  rfl

theorem mirrored_respond (settings : Settings) (lookup : Lookup) (request : Request) :
    Mirrored (respond settings lookup (request.withMethod .get))
      (respond settings lookup (request.withMethod .head)) := by
  cases hroute : onRoute request.path with
  | true => exact mirrored_of_onRoute hroute
  | false =>
      -- Off the route nobody looks at the method.
      have hsame : respond settings lookup (request.withMethod .head) =
          respond settings lookup (request.withMethod .get) := by
        rw [respond, respond]
        simp only [Request.withMethod, hroute]
        rfl
      rw [hsame]
      have hcourse := respond_course settings lookup (request.withMethod .get)
      generalize respond settings lookup (request.withMethod .get) = outcome at hcourse
      cases hcourse with
      | offRoute => rfl
      | slashes => rfl
      | slashesFailed => rfl
      | unknownMethod hon => exact absurd (hroute.symm.trans hon) Bool.false_ne_true
      | _ hserves => exact absurd (hroute.symm.trans hserves.onRoute) Bool.false_ne_true

/-- How the answer to a `HEAD` request is like that to the `GET` request. -/
structure Mirrors (get head : Exchange) : Prop where
  status : head.response.status = get.response.status
  headers : head.response.headers = get.response.headers
  raised : head.raised = get.raised
  sending : get.response.status = 200 ∨ get.response.status = 206 → head.response.body = []
  other : get.response.status ≠ 200 → get.response.status ≠ 206 →
    head.response.body = get.response.body

theorem mirrors_withoutContent (response : Response) {getLogs headLogs : List LogEntry}
    {raised : Option Failure} :
    Mirrors ⟨response, getLogs, raised⟩ ⟨response.withoutContent, headLogs, raised⟩ := by
  by_cases hstatus : response.status = 200 ∨ response.status = 206
  · rw [Response.withoutContent_of_sending hstatus]
    refine ⟨rfl, rfl, rfl, fun _ => rfl, fun hwhole hpart => ?_⟩
    exact absurd hstatus (not_or.2 ⟨hwhole, hpart⟩)
  · rw [Response.withoutContent_of_other (not_or.1 hstatus)]
    exact ⟨rfl, rfl, rfl, fun h => absurd h hstatus, fun _ _ => rfl⟩

/-- **A `HEAD` request is answered like the `GET` request, but for the content of a file.** -/
theorem answer_head_mirrors_get (app : App) (lookup : Lookup) (request : Request) :
    Mirrors (app.answer lookup (request.withMethod .get))
      (app.answer lookup (request.withMethod .head)) := by
  have hmirrored := mirrored_respond app.settings lookup request
  rw [answer, answer]
  generalize respond app.settings lookup (request.withMethod .get) = get at hmirrored
  generalize respond app.settings lookup (request.withMethod .head) = head at hmirrored
  cases get with
  | error failure =>
      cases head with
      | ok result => simp [Mirrored, Except.map] at hmirrored
      | error other =>
          obtain rfl : other = failure := Except.error.inj hmirrored
          exact mirrors_withoutContent .internalError
  | ok result =>
      cases head with
      | error other => simp [Mirrored, Except.map] at hmirrored
      | ok other =>
          obtain ⟨response, headLogs⟩ := other
          obtain rfl : response = result.1.withoutContent := Except.ok.inj hmirrored
          exact mirrors_withoutContent result.1

end App

end SpaServer
