import SpaServer.Proofs.Assets.Searches
import SpaServer.Proofs.Server.Course

/-!
# Lookups that agree

The answer to a request depends on the files through what is found under the paths that are searched
for it, and of a regular request only paths of plain characters are ever searched. So two lookups
that find the same under all of these give the same answers. A search that fails is the outcome.
-/

namespace SpaServer

/-- Whether two lookups find the same under every path that can be read from a URL. -/
def Lookup.AgreesOnPlain (lookup other : Lookup) : Prop :=
  ∀ path : Text, (∀ c ∈ path, Url.isPlainChar c = true) → lookup.find path = other.find path

namespace Lookup

variable {lookup : Lookup}

theorem isPlainChar_of_searchedAt {inner path path' : Text}
    (hplain : ∀ c ∈ inner, Url.isPlainChar c = true)
    (hsearched : path' ∈ lookup.searchedAt inner path) : ∀ c ∈ path', Url.isPlainChar c = true := by
  have hindex : ∀ c ∈ inner ++ '/' :: Bundle.indexFile, Url.isPlainChar c = true := by
    intro c hc
    rcases List.mem_append.1 hc with hc | hc
    · exact hplain c hc
    · exact Url.isPlainChar_of_all (by decide) c hc
  have hcases : path' = inner ∨ path' = inner ++ '/' :: Bundle.indexFile := by
    rw [searchedAt] at hsearched
    split at hsearched
    · split at hsearched
      · simpa using hsearched
      · exact Or.inl (List.mem_singleton.1 hsearched)
    · exact Or.inl (List.mem_singleton.1 hsearched)
  rcases hcases with rfl | rfl
  · exact hplain
  · exact hindex

theorem isPlainChar_of_searched {path path' : Text} (hplain : ∀ c ∈ path, Url.isPlainChar c = true)
    (hsearched : path' ∈ lookup.searched path) : ∀ c ∈ path', Url.isPlainChar c = true := by
  rw [searched] at hsearched
  split at hsearched
  · rename_i inner _ hinner
    rcases List.mem_append.1 hsearched with hsearched | hsearched
    · exact isPlainChar_of_searchedAt hplain hsearched
    · exact isPlainChar_of_searchedAt (fun c hc => hplain c (mem_of_stripConsole hinner hc)) hsearched
  · exact isPlainChar_of_searchedAt hplain hsearched

end Lookup

namespace App

variable {settings : Settings} {lookup other : Lookup} {request : Request} {method : Method}

/-! ### What is searched for a request -/

/-- The paths that are searched to serve a request with a method, in order: those of its path, and
the entry document where they match nothing or the method reads no assets. -/
def searchedFor (lookup : Lookup) (method : Method) (request : Request) : List Text :=
  if method.readsAssets then
    match request.url with
    | .error _ => []
    | .ok url =>
      match lookup.matchMounts url.path with
      | .ok none => lookup.searched url.path ++ [Bundle.indexFile]
      | _ => lookup.searched url.path
  else [Bundle.indexFile]

/-- The paths that are searched to answer a request, in order. -/
def searched (lookup : Lookup) (request : Request) : List Text :=
  if onRoute request.path then
    match Method.ofName? request.method with
    | some method => searchedFor lookup method request
    | none => []
  else []

/-- The names that the lookup is asked for to answer a request, in order. -/
def consulted (lookup : Lookup) (request : Request) : List (List Text) :=
  (searched lookup request).flatMap Lookup.asked

theorem searched_of_serves (hserves : Serves request method) :
    searched lookup request = searchedFor lookup method request := by
  rw [searched, if_pos hserves.onRoute, hserves.ofName?]

theorem mem_searchedFor_index (hunmatched : Unmatched lookup request method) :
    Bundle.indexFile ∈ searchedFor lookup method request := by
  rw [searchedFor]
  rcases hunmatched with hreads | ⟨url, hurl, hmatch⟩
  · simp [hreads]
  · split <;> simp [hurl, hmatch]

theorem mem_searchedFor_path {url : Url.Parts} {path : Text} (hreads : method.readsAssets = true)
    (hurl : request.url = .ok url) (hpath : path ∈ lookup.searched url.path) :
    path ∈ searchedFor lookup method request := by
  rw [searchedFor, if_pos hreads]
  simp only [hurl]
  split
  · exact List.mem_append_left _ hpath
  · exact hpath

/-- A path is searched to serve a request because the request has it, or for the entry document. -/
theorem mem_searchedFor_cases {path : Text} (hsearched : path ∈ searchedFor lookup method request) :
    (∃ url, method.readsAssets = true ∧ request.url = .ok url ∧ path ∈ lookup.searched url.path) ∨
      Unmatched lookup request method ∧ path = Bundle.indexFile := by
  rw [searchedFor] at hsearched
  cases hreads : method.readsAssets with
  | false =>
      rw [hreads, if_neg Bool.false_ne_true, List.mem_singleton] at hsearched
      exact Or.inr ⟨Or.inl hreads, hsearched⟩
  | true =>
      rw [hreads, if_pos rfl] at hsearched
      cases hurl : request.url with
      | error error => simp [hurl] at hsearched
      | ok url =>
          simp only [hurl] at hsearched
          split at hsearched
          · rename_i hmatch
            rcases List.mem_append.1 hsearched with hpath | hindex
            · exact Or.inl ⟨url, rfl, rfl, hpath⟩
            · exact Or.inr ⟨Or.inr ⟨url, hurl, hmatch⟩, List.mem_singleton.1 hindex⟩
          · exact Or.inl ⟨url, rfl, rfl, hsearched⟩

theorem serves_of_mem_searched {path : Text} (hsearched : path ∈ searched lookup request) :
    ∃ method, Serves request method ∧ path ∈ searchedFor lookup method request := by
  rw [searched] at hsearched
  split at hsearched
  · rename_i hroute
    split at hsearched
    · rename_i method hmethod
      exact ⟨method, ⟨hroute, hmethod⟩, hsearched⟩
    · simp at hsearched
  · simp at hsearched

/-! ### Lookups that find the same -/

theorem fallback_congr (hindex : lookup.find Bundle.indexFile = other.find Bundle.indexFile)
    (method : Method) :
    fallback settings lookup method request = fallback settings other method request := by
  rw [fallback, fallback, Lookup.findFile_congr_of_find hindex]

theorem serve_congr
    (hsame : ∀ path ∈ searchedFor lookup method request, lookup.find path = other.find path) :
    serve settings lookup method request = serve settings other method request := by
  rw [serve, serve]
  cases hreads : method.readsAssets with
  | false => exact fallback_congr (hsame _ (mem_searchedFor_index (Or.inl hreads))) method
  | true =>
      cases hurl : request.url with
      | error error => rfl
      | ok url =>
          have hmatches : lookup.matchMounts url.path = other.matchMounts url.path :=
            Lookup.matchMounts_congr_of_searched fun path hpath =>
              hsame path (mem_searchedFor_path hreads hurl hpath)
          simp only [← hmatches]
          cases hmatch : lookup.matchMounts url.path with
          | error errno => rfl
          | ok found =>
              cases found with
              | some matched => cases matched <;> rfl
              | none =>
                  have hindex := hsame _ (mem_searchedFor_index (Or.inr ⟨url, hurl, hmatch⟩))
                  exact fallback_congr hindex method

/-- **The answer depends on what is searched for the request alone.** -/
theorem respond_congr_of_searched
    (hsame : ∀ path ∈ searched lookup request, lookup.find path = other.find path) :
    respond settings lookup request = respond settings other request := by
  rw [respond, respond]
  split
  · rename_i hroute
    cases hmethod : Method.ofName? request.method with
    | none => rfl
    | some method =>
        rw [searched_of_serves ⟨hroute, hmethod⟩] at hsame
        exact serve_congr hsame
  · rfl

theorem answer_congr_of_searched {app : App}
    (hsame : ∀ path ∈ searched lookup request, lookup.find path = other.find path) :
    app.answer lookup request = app.answer other request := by
  rw [answer, answer, respond_congr_of_searched hsame]

theorem isPlainChar_of_searched (hregular : request.Regular) {path : Text}
    (hsearched : path ∈ searched lookup request) : ∀ c ∈ path, Url.isPlainChar c = true := by
  obtain ⟨method, hserves, hsearched⟩ := serves_of_mem_searched hsearched
  rcases mem_searchedFor_cases hsearched with ⟨url, _, hurl, hpath⟩ | ⟨_, rfl⟩
  · refine Lookup.isPlainChar_of_searched (fun c hc => ?_) hpath
    exact Request.isPlainChar_of_url hregular (head?_of_onRoute hserves.onRoute) hurl hc
  · exact Url.isPlainChar_of_all (by decide)

/-- **Lookups that agree on what can be read from a URL give the same answers.** -/
theorem respond_congr (hagree : lookup.AgreesOnPlain other) (hregular : request.Regular) :
    respond settings lookup request = respond settings other request :=
  respond_congr_of_searched fun path hpath => hagree path (isPlainChar_of_searched hregular hpath)

/-- A reading request whose URL is missing or broken gets an answer that depends on no file. -/
theorem respond_congr_of_url_error (hmethod : Method.ofName? request.method = some method)
    (hreads : method.readsAssets = true) {error : Request.UrlError}
    (hurl : request.url = .error error) :
    respond settings lookup request = respond settings other request := by
  refine respond_congr_of_searched fun path hpath => absurd hpath ?_
  rw [searched]
  split
  · simp [hmethod, searchedFor, hreads, hurl]
  · simp

/-! ### Searches that fail -/

/-- **A search that fails breaks the answer.** -/
theorem respond_of_failed {path : Text} {errno : Errno}
    (hsearched : path ∈ searched lookup request) (hfailed : lookup.find path = .error errno) :
    respond settings lookup request = .error (.system errno) := by
  obtain ⟨method, hserves, hsearched⟩ := serves_of_mem_searched hsearched
  rcases mem_searchedFor_cases hsearched with ⟨url, hreads, hurl, hpath⟩ | ⟨hunmatched, rfl⟩
  · have hmatch := Lookup.matchMounts_of_failed hpath hfailed
    exact respond_of_matchFailed settings hserves hreads hurl hmatch
  · rw [respond_of_unmatched settings hserves hunmatched, fallback,
      Lookup.findFile_of_failed hfailed]

end App

end SpaServer
