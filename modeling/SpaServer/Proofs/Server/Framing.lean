import SpaServer.Proofs.Http.Framing
import SpaServer.Proofs.Server.EntryDocument

/-!
# Every answer is framed

Whatever an answer is, it gives the length of the body that is sent, once. The one exception is
meant to be one: where a client asks for the headers alone, the length is that of the content it
could have had.
-/

namespace SpaServer.App

theorem Fileless.framed {response : Response} (hfileless : Fileless response) :
    response.Framed := by
  cases hfileless with
  | moved => simp [Response.Framed, Response.redirect, Headers.values]
  | missing text => exact Response.framed_plain 404 text
  | _ => exact rfl

variable {request : Request} {method : Method} {file : File} {response : Response}

theorem framed_of_deliver (hhead : method ≠ .head)
    (hdeliver : deliver method request file = .ok response) : response.Framed := by
  rw [deliver] at hdeliver
  split at hdeliver
  · split at hdeliver
    · rename_i sent sendsContent hrespond
      rw [if_neg fun hboth => hhead hboth.1] at hdeliver
      obtain rfl := Except.ok.inj hdeliver
      exact Delivery.framed_of_respond hrespond
    · simp at hdeliver
  · obtain rfl := Except.ok.inj hdeliver
    exact Delivery.framed_whole _

/-- **Every answer gives the length of its body**, unless the headers alone were asked for. -/
theorem answer_framed (app : App) (lookup : Lookup) {request : Request}
    (hmethod : request.method ≠ Method.head.name) :
    (app.answer lookup request).response.Framed := by
  rcases answer_cases app lookup request with ⟨method, file, hobtains, hdeliver⟩ | hfileless
  · refine framed_of_deliver ?_ hdeliver
    rintro rfl
    exact hmethod (Method.name_of_ofName? hobtains.serves.ofName?)
  · exact hfileless.framed

theorem framed_firstByte : (firstByte .get).method ≠ Method.head.name ∧
    (standard.answer (smallBundle.lookup standard.settings.assetRoot)
      (firstByte .get)).response.Framed :=
  ⟨by decide, answer_framed standard _ (by decide)⟩

end SpaServer.App
