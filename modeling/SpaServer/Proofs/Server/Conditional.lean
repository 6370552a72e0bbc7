import SpaServer.Proofs.Server.Bundle
import SpaServer.Proofs.Server.Course

/-!
# Requests under a condition

A reading request may ask for spans of a file on the condition that the file is still the one with a
given validator. Files are sent without validators, so the condition cannot hold, and a weak
validator gets the whole file. A strong one is compared with a header that has been taken out, and
this breaks the server. It is the only way in which headers keep a request from the file that it
gets.
-/

namespace SpaServer.App

variable {app : App} {lookup : Lookup} {request : Request} {method : Method} {file : File}

/-- Whether a strong validator is to be compared before a range is answered. -/
def ComparesValidator (request : Request) : Prop :=
  ∃ range validator, request.range? = some range ∧ request.ifRange? = some validator ∧
    Delivery.isWeak validator = false

/-- The whole file as a method gets it, without its content where only the headers are wanted. -/
def wholeFor (method : Method) (file : File) : Response :=
  if method = .head then { Delivery.whole ⟨200, file⟩ with body := [] }
  else Delivery.whole ⟨200, file⟩

/-! ### Deliveries -/

theorem deliver_of_compares (hreads : method.readsAssets = true)
    (hcompares : ComparesValidator request) :
    deliver method request file = .error .noValidator := by
  obtain ⟨range, validator, hrange, hifRange, hstrong⟩ := hcompares
  rw [deliver, if_pos hreads, hrange, hifRange, Delivery.respond_eq_error hstrong]

theorem weak_of_not_compares (hcompares : ¬ComparesValidator request) :
    request.range? = none ∨
      ∀ validator, request.ifRange? = some validator → Delivery.isWeak validator = true := by
  cases hrange : request.range? with
  | none => exact Or.inl rfl
  | some range =>
      right
      intro validator hifRange
      by_contra hweak
      exact hcompares ⟨range, validator, hrange, hifRange, by simpa using hweak⟩

theorem deliver_of_respond (hreads : method.readsAssets = true) {response : Response}
    {sendsContent : Bool} (hrespond : Delivery.respond ⟨200, file⟩ request.range? request.ifRange? =
      .ok (response, sendsContent)) :
    deliver method request file =
      .ok (if method = .head ∧ sendsContent then { response with body := [] } else response) := by
  rw [deliver, if_pos hreads, hrespond]

theorem exists_deliver_of_not_compares (hreads : method.readsAssets = true)
    (hcompares : ¬ComparesValidator request) :
    ∃ response, deliver method request file = .ok response := by
  rcases Delivery.respond_eq_ok ⟨200, file⟩ (weak_of_not_compares hcompares) with
    hwhole | ⟨header, _, _, hrange⟩
  · exact ⟨_, deliver_of_respond hreads hwhole⟩
  · exact ⟨_, deliver_of_respond hreads hrange⟩

/-- A condition that is not compared is one that does not hold. -/
theorem deliver_of_condition (hreads : method.readsAssets = true)
    (hcompares : ¬ComparesValidator request) {validator : Text}
    (hifRange : request.ifRange? = some validator) :
    deliver method request file = .ok (wholeFor method file) := by
  rcases Delivery.respond_eq_ok ⟨200, file⟩ (weak_of_not_compares hcompares) with
    hwhole | ⟨header, _, hnone, _⟩
  · rw [deliver_of_respond hreads hwhole]
    simp [wholeFor]
  · rw [hifRange] at hnone
    simp at hnone

/-! ### Answers -/

theorem answer_of_compares (hreads : method.readsAssets = true)
    (hobtains : Obtains lookup request method file) (hcompares : ComparesValidator request) :
    app.answer lookup request = ⟨.internalError, [], some .noValidator⟩ := by
  have hrespond := hobtains.respond app.settings
  rw [deliver_of_compares hreads hcompares] at hrespond
  exact answer_of_undelivered hrespond

/-- **A file that is found is answered exactly if no strong validator is to be compared.** What else
the headers of the request are makes no difference to that. -/
theorem found_file_answered_iff (hreads : method.readsAssets = true)
    (hobtains : Obtains lookup request method file) :
    ((app.answer lookup request).raised = none ∧
        (app.answer lookup request).response.status ∈ [200, 206, 400, 416] ↔
      ¬ComparesValidator request) ∧
      (ComparesValidator request →
        app.answer lookup request = ⟨.internalError, [], some .noValidator⟩) ∧
      ∀ validator, request.ifRange? = some validator → ¬ComparesValidator request →
        app.answer lookup request = ⟨wholeFor method file, [], none⟩ := by
  refine ⟨⟨?_, ?_⟩, answer_of_compares hreads hobtains, ?_⟩
  · rintro ⟨hraised, _⟩ hcompares
    rw [answer_of_compares hreads hobtains hcompares] at hraised
    simp at hraised
  · intro hcompares
    obtain ⟨response, hdeliver⟩ := exists_deliver_of_not_compares hreads hcompares
    have hrespond := hobtains.respond app.settings
    rw [hdeliver] at hrespond
    rw [answer_of_delivered hrespond]
    exact ⟨rfl, status_of_deliver hdeliver⟩
  · intro validator hifRange hcompares
    have hrespond := hobtains.respond app.settings
    rw [deliver_of_condition hreads hcompares hifRange] at hrespond
    exact answer_of_delivered hrespond

/-! ### The smallest bundle -/

/-- The request for the first byte of the entry document, if it is the one with the validator. -/
def firstByteIf (validator : Text) : Request :=
  { Request.simple .get ['/'] with
    headers := [("range".toList, "bytes=0-0".toList), ("if-range".toList, validator)] }

theorem obtains_firstByteIf (validator : Text) :
    Obtains (smallBundle.lookup standard.settings.assetRoot) (firstByteIf validator) .get
      ⟨.inside [standard.settings.assetRoot, Bundle.indexFile], [0x68]⟩ := by
  have hurl : (firstByteIf validator).url = .ok ⟨['/'], []⟩ :=
    Request.url_simple_headers _ rfl (by decide) (Url.isPlainChar_of_all (by decide))
  have hindex := findFile_indexFile linkFree_smallBundle get?_smallBundle
  exact .asset ⟨rfl, Method.ofName?_name .get⟩ rfl hurl
    (Lookup.matchMounts_of_root (matchMount_root _ _ rfl rfl hindex))

theorem answer_firstByteIf :
    standard.answer (smallBundle.lookup standard.settings.assetRoot)
        (firstByteIf "W/\"tag\"".toList) =
      ⟨wholeFor .get ⟨.inside [standard.settings.assetRoot, Bundle.indexFile], [0x68]⟩, [], none⟩ := by
  refine (found_file_answered_iff rfl (obtains_firstByteIf _)).2.2 "W/\"tag\"".toList rfl ?_
  rintro ⟨range, validator, _, hifRange, hstrong⟩
  obtain rfl : "W/\"tag\"".toList = validator := Option.some.inj hifRange
  exact absurd hstrong (by decide)

/-- A strong validator next to a range breaks the server. -/
theorem strong_validator_fails :
    Obtains (smallBundle.lookup standard.settings.assetRoot) (firstByteIf "\"tag\"".toList) .get
        ⟨.inside [standard.settings.assetRoot, Bundle.indexFile], [0x68]⟩ ∧
      (firstByteIf "\"tag\"".toList).host? = none ∧
      standard.answer (smallBundle.lookup standard.settings.assetRoot)
        (firstByteIf "\"tag\"".toList) = ⟨.internalError, [], some .noValidator⟩ :=
  ⟨obtains_firstByteIf _, by decide, answer_of_compares rfl (obtains_firstByteIf _)
    ⟨"bytes=0-0".toList, "\"tag\"".toList, by decide, by decide, by decide⟩⟩

end SpaServer.App
