import SpaServer.Proofs.Assets.Mounts
import SpaServer.Proofs.Http.Addressing
import SpaServer.Proofs.Http.Sending
import SpaServer.Proofs.Url.Location
import SpaServer.Server.App

/-!
# The course of a request

Every way in which a request can be answered, with all that was found out before. Statements about
what an answer can be go through the cases of `Course` and do not open `App.respond`.
-/

namespace SpaServer.App

variable {settings : Settings} {lookup : Lookup} {request : Request}

theorem head?_of_onRoute {path : Text} (hroute : onRoute path = true) :
    path.head? = some '/' := by
  rw [onRoute.eq_def] at hroute
  split at hroute
  · rfl
  · simp at hroute

/-- Only a line feed inside it takes a path off the route. -/
theorem onRoute_iff {path : Text} (hpath : path.head? = some '/') :
    onRoute path = true ↔ '\n' ∉ path.dropLast := by
  cases path with
  | nil => simp at hpath
  | cons first rest =>
      obtain rfl := Option.some.inj hpath
      cases hlast : rest.getLast? with
      | none =>
          obtain rfl := List.getLast?_eq_none_iff.1 hlast
          decide
      | some last =>
          obtain ⟨front, rfl⟩ := List.getLast?_eq_some_iff.1 hlast
          have hdrop : ('/' :: (front ++ [last])).dropLast = '/' :: front := by
            rw [← List.cons_append, List.dropLast_concat]
          rw [onRoute, hlast, hdrop]
          by_cases hfeed : last = '\n'
          · rw [if_pos (by rw [hfeed]), List.dropLast_concat]
            simp
          · rw [if_neg (by simpa using hfeed)]
            simp [Ne.symm hfeed]

theorem onRoute_of_plain {path : Text} (hpath : path.head? = some '/')
    (hplain : ∀ c ∈ path, Url.isPlainChar c = true) : onRoute path = true := by
  rw [onRoute_iff hpath]
  intro hfeed
  exact absurd (hplain '\n' (List.dropLast_subset _ hfeed)) (by decide)

/-- Whether a request is on the route with a method that the server knows. -/
structure Serves (request : Request) (method : Method) : Prop where
  onRoute : onRoute request.path = true
  ofName? : Method.ofName? request.method = some method

/-- Whether a request is left to the entry document: its method reads no assets, or its path matches
none. -/
def Unmatched (lookup : Lookup) (request : Request) (method : Method) : Prop :=
  method.readsAssets = false ∨
    ∃ url, request.url = .ok url ∧ lookup.matchMounts url.path = .ok none

/-- The outcome of a delivery, during which nothing is logged. -/
def delivered (outcome : Except Failure Response) : Except Failure (Response × List LogEntry) :=
  outcome.map fun response => (response, [])

inductive Course (settings : Settings) (lookup : Lookup) (request : Request) :
    Except Failure (Response × List LogEntry) → Prop
  /-- No path like the one of the request is on the route. -/
  | offRoute (hroute : onRoute request.path = false)
      (hother : onRoute (otherSlashes request.path) = false) :
      Course settings lookup request (.ok (.notFound, []))
  /-- The path is on the route with other slashes at its end. -/
  | slashes {url : Text} (hroute : onRoute request.path = false)
      (hother : onRoute (otherSlashes request.path) = true)
      (hurl : request.urlTo (otherSlashes request.path) = .ok url) :
      Course settings lookup request (.ok (.redirect 307 (Percent.encode url), []))
  | slashesFailed {error : Request.UrlError} (hroute : onRoute request.path = false)
      (hother : onRoute (otherSlashes request.path) = true)
      (hurl : request.urlTo (otherSlashes request.path) = .error error) :
      Course settings lookup request (.error (.url error))
  | unknownMethod (hroute : onRoute request.path = true)
      (hmethod : Method.ofName? request.method = none) :
      Course settings lookup request (.ok (methodNotAllowed, []))
  | urlFailed {method : Method} {error : Request.UrlError} (hserves : Serves request method)
      (hreads : method.readsAssets = true) (hurl : request.url = .error error) :
      Course settings lookup request (.error (.url error))
  | matchFailed {method : Method} {url : Url.Parts} {errno : Errno}
      (hserves : Serves request method) (hreads : method.readsAssets = true)
      (hurl : request.url = .ok url) (hmatch : lookup.matchMounts url.path = .error errno) :
      Course settings lookup request (.error (.system errno))
  /-- The path matches a directory, without a slash at its end. -/
  | directory {method : Method} {url : Url.Parts} {asset : Asset} {target : Text}
      (hserves : Serves request method) (hreads : method.readsAssets = true)
      (hurl : request.url = .ok url)
      (hmatch : lookup.matchMounts url.path = .ok (some (.redirect asset target))) :
      Course settings lookup request (.ok (directoryRedirect target url.query, []))
  /-- The path matches a file. -/
  | asset {method : Method} {url : Url.Parts} {file : File} (hserves : Serves request method)
      (hreads : method.readsAssets = true) (hurl : request.url = .ok url)
      (hmatch : lookup.matchMounts url.path = .ok (some (.serve file))) :
      Course settings lookup request (delivered (deliver method request file))
  /-- The entry document answers. -/
  | entry {method : Method} {file : File} (hserves : Serves request method)
      (hunmatched : Unmatched lookup request method)
      (hindex : lookup.findFile Bundle.indexFile = .ok (some file)) :
      Course settings lookup request (delivered (deliver method request file))
  | entryFailed {method : Method} {errno : Errno} (hserves : Serves request method)
      (hunmatched : Unmatched lookup request method)
      (hindex : lookup.findFile Bundle.indexFile = .error errno) :
      Course settings lookup request (.error (.system errno))
  /-- There is no entry document. -/
  | noEntry {method : Method} {url : Url.Parts} (hserves : Serves request method)
      (hunmatched : Unmatched lookup request method)
      (hindex : lookup.findFile Bundle.indexFile = .ok none) (hurl : request.url = .ok url) :
      Course settings lookup request (.ok (missingIndexResponse settings url.path,
        [missingIndexLog settings method url.path]))
  | noEntryFailed {method : Method} {error : Request.UrlError} (hserves : Serves request method)
      (hunmatched : Unmatched lookup request method)
      (hindex : lookup.findFile Bundle.indexFile = .ok none)
      (hurl : request.url = .error error) :
      Course settings lookup request (.error (.url error))

theorem fallback_course {method : Method} (hserves : Serves request method)
    (hunmatched : Unmatched lookup request method) :
    Course settings lookup request (fallback settings lookup method request) := by
  rw [fallback]
  cases hindex : lookup.findFile Bundle.indexFile with
  | error errno => exact .entryFailed hserves hunmatched hindex
  | ok found =>
      cases found with
      | some file =>
          have hcourse : Course settings lookup request _ := .entry hserves hunmatched hindex
          simp only
          cases hdeliver : deliver method request file <;> rw [hdeliver] at hcourse <;>
            exact hcourse
      | none =>
          simp only
          cases hurl : request.url with
          | error error => exact .noEntryFailed hserves hunmatched hindex hurl
          | ok url => exact .noEntry hserves hunmatched hindex hurl

theorem serve_course {method : Method} (hserves : Serves request method) :
    Course settings lookup request (serve settings lookup method request) := by
  rw [serve]
  cases hreads : method.readsAssets with
  | false => exact fallback_course hserves (Or.inl hreads)
  | true =>
      rw [if_pos rfl]
      cases hurl : request.url with
      | error error => exact .urlFailed hserves hreads hurl
      | ok url =>
          simp only
          cases hmatch : lookup.matchMounts url.path with
          | error errno => exact .matchFailed hserves hreads hurl hmatch
          | ok found =>
              cases found with
              | none => exact fallback_course hserves (Or.inr ⟨url, hurl, hmatch⟩)
              | some matched =>
                  cases matched with
                  | redirect asset target => exact .directory hserves hreads hurl hmatch
                  | serve file =>
                      have hcourse : Course settings lookup request _ :=
                        .asset hserves hreads hurl hmatch
                      simp only
                      cases hdeliver : deliver method request file <;>
                        rw [hdeliver] at hcourse <;> exact hcourse

/-- **A request is answered in one of these ways.** -/
theorem respond_course (settings : Settings) (lookup : Lookup) (request : Request) :
    Course settings lookup request (respond settings lookup request) := by
  rw [respond]
  cases hroute : onRoute request.path with
  | true =>
      rw [if_pos rfl]
      cases hmethod : Method.ofName? request.method with
      | none => exact .unknownMethod hroute hmethod
      | some method => exact serve_course ⟨hroute, hmethod⟩
  | false =>
      rw [if_neg Bool.false_ne_true]
      cases hother : onRoute (otherSlashes request.path) with
      | false => exact .offRoute hroute hother
      | true =>
          rw [if_pos rfl]
          cases hurl : request.urlTo (otherSlashes request.path) with
          | ok url => exact .slashes hroute hother hurl
          | error error => exact .slashesFailed hroute hother hurl

/-! ### Courses that are known beforehand -/

theorem respond_of_offRoute (hroute : onRoute request.path = false)
    (hother : onRoute (otherSlashes request.path) = false) :
    respond settings lookup request = .ok (.notFound, []) := by
  rw [respond, hroute, hother]
  rfl

theorem respond_of_slashes {url : Text} (hroute : onRoute request.path = false)
    (hother : onRoute (otherSlashes request.path) = true)
    (hurl : request.urlTo (otherSlashes request.path) = .ok url) :
    respond settings lookup request = .ok (.redirect 307 (Percent.encode url), []) := by
  rw [respond, hroute, hother, hurl]
  rfl

theorem respond_of_unknownMethod (hroute : onRoute request.path = true)
    (hmethod : Method.ofName? request.method = none) :
    respond settings lookup request = .ok (methodNotAllowed, []) := by
  rw [respond, if_pos hroute, hmethod]

theorem respond_of_serves {method : Method} (hserves : Serves request method) :
    respond settings lookup request = serve settings lookup method request := by
  rw [respond, if_pos hserves.onRoute]
  simp only [hserves.ofName?]

theorem respond_of_asset (settings : Settings) {method : Method} {url : Url.Parts} {file : File}
    (hserves : Serves request method) (hreads : method.readsAssets = true)
    (hurl : request.url = .ok url)
    (hmatch : lookup.matchMounts url.path = .ok (some (.serve file))) :
    respond settings lookup request = delivered (deliver method request file) := by
  rw [respond_of_serves hserves, serve, if_pos hreads]
  simp only [hurl, hmatch]
  cases deliver method request file <;> rfl

theorem respond_of_directory (settings : Settings) {method : Method} {url : Url.Parts}
    {asset : Asset} {target : Text} (hserves : Serves request method)
    (hreads : method.readsAssets = true) (hurl : request.url = .ok url)
    (hmatch : lookup.matchMounts url.path = .ok (some (.redirect asset target))) :
    respond settings lookup request = .ok (directoryRedirect target url.query, []) := by
  rw [respond_of_serves hserves, serve, if_pos hreads]
  simp only [hurl, hmatch]

theorem respond_of_urlFailed (settings : Settings) {method : Method} {error : Request.UrlError}
    (hserves : Serves request method) (hreads : method.readsAssets = true)
    (hurl : request.url = .error error) :
    respond settings lookup request = .error (.url error) := by
  rw [respond_of_serves hserves, serve, if_pos hreads, hurl]

theorem respond_of_matchFailed (settings : Settings) {method : Method} {url : Url.Parts}
    {errno : Errno} (hserves : Serves request method) (hreads : method.readsAssets = true)
    (hurl : request.url = .ok url) (hmatch : lookup.matchMounts url.path = .error errno) :
    respond settings lookup request = .error (.system errno) := by
  rw [respond_of_serves hserves, serve, if_pos hreads]
  simp only [hurl, hmatch]

theorem respond_of_unmatched (settings : Settings) {method : Method}
    (hserves : Serves request method) (hunmatched : Unmatched lookup request method) :
    respond settings lookup request = fallback settings lookup method request := by
  rw [respond_of_serves hserves, serve]
  rcases hunmatched with hreads | ⟨url, hurl, hmatch⟩
  · rw [hreads]
    rfl
  · cases hreads : method.readsAssets with
    | false => rfl
    | true =>
        rw [if_pos rfl]
        simp only [hurl, hmatch]

theorem respond_of_entry (settings : Settings) {method : Method} {file : File}
    (hserves : Serves request method) (hunmatched : Unmatched lookup request method)
    (hindex : lookup.findFile Bundle.indexFile = .ok (some file)) :
    respond settings lookup request = delivered (deliver method request file) := by
  rw [respond_of_unmatched settings hserves hunmatched, fallback, hindex]
  simp only
  cases deliver method request file <;> rfl

theorem respond_of_entryFailed (settings : Settings) {method : Method} {errno : Errno}
    (hserves : Serves request method) (hunmatched : Unmatched lookup request method)
    (hindex : lookup.findFile Bundle.indexFile = .error errno) :
    respond settings lookup request = .error (.system errno) := by
  rw [respond_of_unmatched settings hserves hunmatched, fallback, hindex]

theorem respond_of_noEntry (settings : Settings) {method : Method} {url : Url.Parts}
    (hserves : Serves request method) (hunmatched : Unmatched lookup request method)
    (hindex : lookup.findFile Bundle.indexFile = .ok none) (hurl : request.url = .ok url) :
    respond settings lookup request = .ok (missingIndexResponse settings url.path,
      [missingIndexLog settings method url.path]) := by
  rw [respond_of_unmatched settings hserves hunmatched, fallback, hindex]
  simp only [hurl]

theorem respond_of_noEntryFailed (settings : Settings) {method : Method}
    {error : Request.UrlError} (hserves : Serves request method)
    (hunmatched : Unmatched lookup request method)
    (hindex : lookup.findFile Bundle.indexFile = .ok none) (hurl : request.url = .error error) :
    respond settings lookup request = .error (.url error) := by
  rw [respond_of_unmatched settings hserves hunmatched, fallback, hindex]
  simp only [hurl]

theorem answer_of_delivered {app : App} {response : Response}
    (hrespond : respond app.settings lookup request = delivered (.ok response)) :
    app.answer lookup request = ⟨response, [], none⟩ := by
  rw [answer, hrespond]
  rfl

theorem answer_of_undelivered {app : App} {failure : Failure}
    (hrespond : respond app.settings lookup request = delivered (.error failure)) :
    app.answer lookup request = ⟨.internalError, [], some failure⟩ := by
  rw [answer, hrespond]
  rfl

/-- A redirect to a directory gives the path and the query as they were read. -/
theorem directoryRedirect_eq (target query : Text) : directoryRedirect target query =
    .redirect 301 (Percent.encode (target ++ Url.queryPart query)) := by
  rw [directoryRedirect, Url.queryPart]
  split <;> simp

/-! ### What a delivery comes to -/

/-- A delivery reads the range headers of a request and nothing else. -/
theorem deliver_congr_of_ranges {other : Request} (hrange : request.range? = other.range?)
    (hifRange : request.ifRange? = other.ifRange?) (method : Method) (file : File) :
    deliver method request file = deliver method other file := by
  rw [deliver, deliver, hrange, hifRange]

theorem deliver_congr {other : Request} (hheaders : request.headers = other.headers)
    (method : Method) (file : File) : deliver method request file = deliver method other file := by
  refine deliver_congr_of_ranges ?_ ?_ method file
  · rw [Request.range?, Request.range?, Request.header?, Request.header?, hheaders]
  · rw [Request.ifRange?, Request.ifRange?, Request.header?, Request.header?, hheaders]

theorem deliver_whole {method : Method} {file : File} (hhead : method ≠ .head)
    (hrange : method.readsAssets = false ∨ request.range? = none) :
    deliver method request file = .ok (Delivery.whole ⟨200, file⟩) := by
  rw [deliver]
  rcases hrange with hreads | hrange
  · rw [hreads]
    rfl
  · rw [hrange]
    simp [Delivery.respond, hhead]

theorem deliver_cases {method : Method} {file : File} {response : Response}
    (hdeliver : deliver method request file = .ok response) :
    Delivery.Sent ⟨200, file⟩ response ∨
      ∃ error, response = Delivery.refusal ⟨200, file⟩ error := by
  rw [deliver] at hdeliver
  split at hdeliver
  · split at hdeliver
    · rename_i sent sendsContent hrespond
      obtain rfl := Except.ok.inj hdeliver
      rcases Delivery.respond_cases hrespond with ⟨rfl, hsent⟩ | ⟨rfl, error, rfl⟩
      · left
        split
        · exact .headers hsent
        · exact hsent
      · right
        exact ⟨error, by simp⟩
    · simp at hdeliver
  · obtain rfl := Except.ok.inj hdeliver
    exact Or.inl .whole

theorem status_of_deliver {method : Method} {file : File} {response : Response}
    (hdeliver : deliver method request file = .ok response) :
    response.status ∈ [200, 206, 400, 416] := by
  simp only [List.mem_cons, List.not_mem_nil, or_false]
  rcases deliver_cases hdeliver with hsent | ⟨error, rfl⟩
  · rcases hsent.status with hstatus | hstatus
    · exact Or.inl hstatus
    · exact Or.inr (Or.inl hstatus)
  · rcases Delivery.refusal_status ⟨200, file⟩ error with hstatus | hstatus
    · exact Or.inr (Or.inr (Or.inl hstatus))
    · exact Or.inr (Or.inr (Or.inr hstatus))

theorem exists_deliver (hrange : request.range? = none) (method : Method) (file : File) :
    ∃ response, deliver method request file = .ok response ∧ response.status = 200 := by
  rw [deliver, hrange]
  cases method <;> exact ⟨_, rfl, rfl⟩

/-- A delivery that is not broken off is the answer. -/
theorem exists_answer_of_delivery {app : App} {method : Method} {file : File}
    (hrespond : respond app.settings lookup request = delivered (deliver method request file))
    (hstatus : (app.answer lookup request).response.status ≠ 500) :
    ∃ response, deliver method request file = .ok response ∧
      app.answer lookup request = ⟨response, [], none⟩ := by
  cases hdeliver : deliver method request file with
  | error failure =>
      rw [answer_of_undelivered (hdeliver ▸ hrespond)] at hstatus
      exact absurd rfl hstatus
  | ok response => exact ⟨response, rfl, answer_of_delivered (hdeliver ▸ hrespond)⟩

theorem eq_ok_of_delivered {outcome : Except Failure Response} {response : Response}
    {logs : List LogEntry} (hdelivered : delivered outcome = .ok (response, logs)) :
    outcome = .ok response ∧ logs = [] := by
  cases outcome with
  | error failure => simp [delivered, Except.map] at hdelivered
  | ok sent =>
      obtain ⟨rfl, rfl⟩ := Prod.mk.inj (Except.ok.inj hdelivered)
      exact ⟨rfl, rfl⟩

theorem sent_of_deliver {method : Method} {file : File} {response : Response}
    (hstatus : response.status = 200 ∨ response.status = 206)
    (hdeliver : deliver method request file = .ok response) :
    Delivery.Sent ⟨200, file⟩ response := by
  rcases deliver_cases hdeliver with hsent | ⟨error, rfl⟩
  · exact hsent
  · rcases Delivery.refusal_status ⟨200, file⟩ error with hrefusal | hrefusal <;>
      simp [hrefusal] at hstatus

/-! ### Requests that get a file -/

/-- Whether the request is answered with the file: its path matches the file, or the request is left
to the entry document and this is the one. -/
inductive Obtains (lookup : Lookup) (request : Request) (method : Method) (file : File) : Prop
  | asset {url : Url.Parts} (hserves : Serves request method)
      (hreads : method.readsAssets = true) (hurl : request.url = .ok url)
      (hmatch : lookup.matchMounts url.path = .ok (some (.serve file))) :
      Obtains lookup request method file
  | entry (hserves : Serves request method) (hunmatched : Unmatched lookup request method)
      (hindex : lookup.findFile Bundle.indexFile = .ok (some file)) :
      Obtains lookup request method file

theorem Obtains.serves {method : Method} {file : File}
    (hobtains : Obtains lookup request method file) : Serves request method := by
  cases hobtains with
  | asset hserves => exact hserves
  | entry hserves => exact hserves

theorem Obtains.respond {method : Method} {file : File}
    (hobtains : Obtains lookup request method file) (settings : Settings) :
    respond settings lookup request = delivered (deliver method request file) := by
  cases hobtains with
  | asset hserves hreads hurl hmatch => exact respond_of_asset settings hserves hreads hurl hmatch
  | entry hserves hunmatched hindex => exact respond_of_entry settings hserves hunmatched hindex

theorem Obtains.answer_whole {app : App} {method : Method} {file : File}
    (hobtains : Obtains lookup request method file) (hhead : method ≠ .head)
    (hrange : method.readsAssets = false ∨ request.range? = none) :
    app.answer lookup request = ⟨Delivery.whole ⟨200, file⟩, [], none⟩ := by
  have hrespond := hobtains.respond app.settings
  rw [deliver_whole hhead hrange] at hrespond
  exact answer_of_delivered hrespond

/-- A plain path that matches a file is answered with the whole file. -/
theorem answer_of_plain_match {app : App} {file : File} (hregular : request.Regular)
    (hget : request.method = Method.get.name) (hrange : request.range? = none) {query : Text}
    (hquery : Utf8.decode request.query = .ok query) (hstart : request.path.head? = some '/')
    (hdoubled : ¬['/', '/'] <+: request.path)
    (hplain : ∀ c ∈ request.path, Url.isPlainChar c = true)
    (hmatch : lookup.matchMounts request.path = .ok (some (.serve file))) :
    app.answer lookup request = ⟨Delivery.whole ⟨200, file⟩, [], none⟩ := by
  have hserves : Serves request .get :=
    ⟨onRoute_of_plain hstart hplain, by rw [hget, Method.ofName?_name]⟩
  have hurl := Request.url_of_plain hregular hstart hdoubled hplain hquery
  exact (Obtains.asset hserves rfl hurl hmatch).answer_whole (by decide) (Or.inr hrange)

theorem Obtains.sent {app : App} {method : Method} {file : File}
    (hobtains : Obtains lookup request method file)
    (hstatus : (app.answer lookup request).response.status = 200 ∨
      (app.answer lookup request).response.status = 206) :
    Delivery.Sent ⟨200, file⟩ (app.answer lookup request).response := by
  obtain ⟨response, hdeliver, hanswer⟩ :=
    exists_answer_of_delivery (hobtains.respond app.settings) (by omega)
  rw [hanswer] at hstatus ⊢
  exact sent_of_deliver hstatus hdeliver

theorem Obtains.findFile {method : Method} {file : File}
    (hobtains : Obtains lookup request method file) :
    ∃ path, lookup.findFile path = .ok (some file) := by
  cases hobtains with
  | asset _ _ _ hmatch => exact Lookup.findFile_of_matchMounts hmatch
  | entry _ _ hindex => exact ⟨Bundle.indexFile, hindex⟩

/-! ### Every answer -/

/-- The responses that have nothing to do with a file that was found. -/
inductive Fileless : Response → Prop
  | notFound : Fileless .notFound
  | methodNotAllowed : Fileless methodNotAllowed
  | internalError : Fileless .internalError
  | missing (text : Text) : Fileless (.plain 404 text)
  | moved {status : Nat} (hstatus : status = 301 ∨ status = 307) (location : Text) :
      Fileless (.redirect status location)

theorem Fileless.status {response : Response} (hfileless : Fileless response) :
    response.status ≠ 200 ∧ response.status ≠ 206 := by
  cases hfileless with
  | moved hstatus =>
      simp only [Response.redirect]
      omega
  | _ => simp [Response.notFound, Response.json, App.methodNotAllowed, Response.internalError,
      Response.plain]

theorem respond_ok_cases {response : Response} {logs : List LogEntry}
    (hrespond : respond settings lookup request = .ok (response, logs)) :
    (∃ method file, Obtains lookup request method file ∧
        deliver method request file = .ok response) ∨ Fileless response := by
  have hcourse := respond_course settings lookup request
  rw [hrespond] at hcourse
  generalize houtcome : (Except.ok (response, logs) : Except Failure (Response × List LogEntry)) =
    outcome at hcourse
  cases hcourse with
  | asset hserves hreads hurl hmatch =>
      exact Or.inl ⟨_, _, .asset hserves hreads hurl hmatch, (eq_ok_of_delivered houtcome.symm).1⟩
  | entry hserves hunmatched hindex =>
      exact Or.inl ⟨_, _, .entry hserves hunmatched hindex, (eq_ok_of_delivered houtcome.symm).1⟩
  | offRoute =>
      obtain ⟨rfl, _⟩ := Prod.mk.inj (Except.ok.inj houtcome)
      exact Or.inr .notFound
  | unknownMethod =>
      obtain ⟨rfl, _⟩ := Prod.mk.inj (Except.ok.inj houtcome)
      exact Or.inr .methodNotAllowed
  | slashes =>
      obtain ⟨rfl, _⟩ := Prod.mk.inj (Except.ok.inj houtcome)
      exact Or.inr (.moved (Or.inr rfl) _)
  | directory =>
      obtain ⟨rfl, _⟩ := Prod.mk.inj (Except.ok.inj houtcome)
      exact Or.inr (.moved (Or.inl rfl) _)
  | noEntry =>
      obtain ⟨rfl, _⟩ := Prod.mk.inj (Except.ok.inj houtcome)
      exact Or.inr (.missing _)
  | slashesFailed | urlFailed | matchFailed | entryFailed | noEntryFailed => simp at houtcome

/-- **An answer delivers the file that the request gets, if it has anything to do with a file.** -/
theorem answer_cases (app : App) (lookup : Lookup) (request : Request) :
    (∃ method file, Obtains lookup request method file ∧
        deliver method request file = .ok (app.answer lookup request).response) ∨
      Fileless (app.answer lookup request).response := by
  rw [answer]
  cases hrespond : respond app.settings lookup request with
  | ok result => exact respond_ok_cases hrespond
  | error failure => exact Or.inr .internalError

/-- Only a directory is moved to for good. -/
theorem directory_of_moved {app : App}
    (hstatus : (app.answer lookup request).response.status = 301) :
    ∃ url asset target, request.url = .ok url ∧
      lookup.matchMounts url.path = .ok (some (.redirect asset target)) ∧
      (app.answer lookup request).response = directoryRedirect target url.query := by
  have hcourse := respond_course app.settings lookup request
  have hfile : ∀ method file,
      respond app.settings lookup request ≠ delivered (deliver method request file) := by
    intro method file hrespond
    obtain ⟨response, hdeliver, hanswer⟩ := exists_answer_of_delivery hrespond (by omega)
    have hsent := status_of_deliver hdeliver
    rw [hanswer] at hstatus
    rw [hstatus] at hsent
    exact absurd hsent (by decide)
  rw [answer] at hstatus ⊢
  generalize respond app.settings lookup request = outcome at hcourse hstatus hfile
  cases hcourse with
  | directory hserves hreads hurl hmatch => exact ⟨_, _, _, hurl, hmatch, rfl⟩
  | asset => exact absurd rfl (hfile _ _)
  | entry => exact absurd rfl (hfile _ _)
  | _ => exact absurd hstatus (by simp [Response.notFound, Response.json, Response.redirect,
      methodNotAllowed, missingIndexResponse, Response.plain, Response.internalError])

/-- An answer with the status of a delivery sends the file that the request gets. -/
theorem exists_obtained {app : App} {response : Response}
    (hresponse : (app.answer lookup request).response = response)
    (hstatus : response.status = 200 ∨ response.status = 206) :
    ∃ method file, Obtains lookup request method file ∧ Delivery.Sent ⟨200, file⟩ response := by
  rcases answer_cases app lookup request with ⟨method, file, hobtains, hdeliver⟩ | hfileless
  · rw [hresponse] at hdeliver
    exact ⟨method, file, hobtains, sent_of_deliver hstatus hdeliver⟩
  · rw [hresponse] at hfileless
    have hother := hfileless.status
    omega

theorem exists_sent_file {app : App} {response : Response}
    (hresponse : (app.answer lookup request).response = response)
    (hstatus : response.status = 200 ∨ response.status = 206) :
    ∃ path file, lookup.findFile path = .ok (some file) ∧ Delivery.Sent ⟨200, file⟩ response := by
  obtain ⟨method, file, hobtains, hsent⟩ := exists_obtained hresponse hstatus
  obtain ⟨path, hfind⟩ := hobtains.findFile
  exact ⟨path, file, hfind, hsent⟩

end SpaServer.App
