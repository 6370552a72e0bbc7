import SpaServer.Proofs.Server.Agreement
import SpaServer.Proofs.Server.Bundle

/-!
# Lookups that fail

A lookup that fails because there can be no such asset might as well have found nothing. Any other
failure of a lookup that is consulted is the outcome: no entry document, redirect or later match
takes its place. Lookups that are not consulted make no difference, whether they fail or not.
-/

namespace SpaServer.App

variable {app : App} {lookup other : Lookup} {path : Text} {request : Request}

/-! ### Lookups that are not consulted -/

theorem find_congr_of_consulted {paths : List Text}
    (hsame : ∀ names ∈ paths.flatMap Lookup.asked, lookup names = other names) (hpath : path ∈ paths) :
    lookup.find path = other.find path :=
  Lookup.find_congr_of_asked fun names hnames => hsame names (List.mem_flatMap.2 ⟨path, hpath, hnames⟩)

theorem matchMounts_congr_of_consulted
    (hsame : ∀ names ∈ lookup.consulted path, lookup names = other names) :
    lookup.matchMounts path = other.matchMounts path :=
  Lookup.matchMounts_congr_of_searched fun _ hpath => find_congr_of_consulted hsame hpath

theorem answer_congr_of_consulted
    (hsame : ∀ names ∈ consulted lookup request, lookup names = other names) :
    app.answer lookup request = app.answer other request :=
  answer_congr_of_searched fun _ hpath => find_congr_of_consulted hsame hpath

/-! ### Lookups that are consulted -/

variable {names : List Text} {errno : Errno}

theorem matchMounts_of_consulted (hfailed : lookup names = .error (.system errno))
    (hfault : errno ∉ absenceErrors) (hconsulted : names ∈ lookup.consulted path) :
    lookup.matchMounts path = .error errno := by
  obtain ⟨path', hsearched, hasked⟩ := List.mem_flatMap.1 hconsulted
  exact Lookup.matchMounts_of_failed hsearched (Lookup.find_of_failed hasked hfailed hfault)

theorem answer_of_consulted (hfailed : lookup names = .error (.system errno))
    (hfault : errno ∉ absenceErrors) (hconsulted : names ∈ consulted lookup request) :
    app.answer lookup request = ⟨.internalError, [], some (.system errno)⟩ := by
  obtain ⟨path', hsearched, hasked⟩ := List.mem_flatMap.1 hconsulted
  rw [answer, respond_of_failed hsearched (Lookup.find_of_failed hasked hfailed hfault)]

/-- **A lookup that fails is absence or the outcome.** Absence is what has no asset at all, the
outcome is what any other failure of a consulted lookup comes to, and nothing else counts. -/
theorem failure_absence_or_outcome (app : App) (lookup : Lookup) (path : Text) (request : Request) :
    (lookup.forgiving.find path = lookup.find path ∧
        lookup.forgiving.findFile path = lookup.findFile path ∧
        lookup.forgiving.matchMounts path = lookup.matchMounts path ∧
        app.answer lookup.forgiving request = app.answer lookup request) ∧
      (∀ names errno, lookup names = .error (.system errno) → errno ∉ absenceErrors →
        (names ∈ Lookup.asked path →
          lookup.find path = .error errno ∧ lookup.findFile path = .error errno) ∧
        (names ∈ lookup.consulted path → lookup.matchMounts path = .error errno) ∧
        (names ∈ consulted lookup request →
          app.answer lookup request = ⟨.internalError, [], some (.system errno)⟩)) ∧
      ∀ other : Lookup,
        ((∀ names ∈ Lookup.asked path, lookup names = other names) →
          lookup.find path = other.find path ∧ lookup.findFile path = other.findFile path) ∧
        ((∀ names ∈ lookup.consulted path, lookup names = other names) →
          lookup.matchMounts path = other.matchMounts path) ∧
        ((∀ names ∈ consulted lookup request, lookup names = other names) →
          app.answer lookup request = app.answer other request) := by
  have hforgiving := lookup.find_forgiving
  refine ⟨⟨hforgiving path, Lookup.findFile_congr_of_find (hforgiving path), ?_, ?_⟩, ?_, ?_⟩
  · exact Lookup.matchMounts_congr_of_searched fun path' _ => hforgiving path'
  · exact answer_congr_of_searched fun path' _ => hforgiving path'
  · intro names errno hfailed hfault
    refine ⟨fun hasked => ?_, matchMounts_of_consulted hfailed hfault,
      answer_of_consulted hfailed hfault⟩
    have hfind := Lookup.find_of_failed hasked hfailed hfault
    exact ⟨hfind, Lookup.findFile_of_failed hfind⟩
  · intro other
    refine ⟨fun hsame => ?_, matchMounts_congr_of_consulted, answer_congr_of_consulted⟩
    have hfind := Lookup.find_congr_of_asked hsame
    exact ⟨hfind, Lookup.findFile_congr_of_find hfind⟩

/-! ### A lookup without permission -/

/-- A lookup that has nothing and may not look under one name. -/
def deniedLookup : Lookup := fun names =>
  if names = ["secret".toList] then .error (.system 13) else .ok none

theorem consulted_deniedLookup :
    ["secret".toList] ∈ consulted deniedLookup (.simple .get "/secret".toList) := by
  have hserves : Serves (.simple .get "/secret".toList) .get :=
    ⟨by decide, Method.ofName?_name .get⟩
  have hurl : (Request.simple .get "/secret".toList).url = .ok ⟨"/secret".toList, []⟩ :=
    Request.url_simple rfl (by decide) (Url.isPlainChar_of_all (by decide))
  refine List.mem_flatMap.2 ⟨"/secret".toList, ?_, by decide⟩
  rw [searched_of_serves hserves]
  exact mem_searchedFor_path rfl hurl
    (Lookup.mem_searched_of_root (Lookup.mem_searchedAt_self _ _ _))

theorem consulted_deniedLookup_post :
    consulted deniedLookup (.simple .post "/secret".toList) = [[Bundle.indexFile]] := by
  have hserves : Serves (.simple .post "/secret".toList) .post :=
    ⟨by decide, Method.ofName?_name .post⟩
  rw [consulted, searched_of_serves hserves]
  decide

/-- A reading request breaks on the name, and any other request does not get to it. -/
theorem answers_deniedLookup :
    standard.answer deniedLookup (.simple .get "/secret".toList) =
        ⟨.internalError, [], some (.system 13)⟩ ∧
      standard.answer deniedLookup (.simple .post "/secret".toList) =
        standard.answer (fun _ => .ok none) (.simple .post "/secret".toList) := by
  refine ⟨?_, ?_⟩
  · exact ((failure_absence_or_outcome standard deniedLookup "/secret".toList
      (.simple .get "/secret".toList)).2.1 ["secret".toList] 13 rfl (by decide)).2.2
        consulted_deniedLookup
  · refine ((failure_absence_or_outcome standard deniedLookup "/secret".toList
      (.simple .post "/secret".toList)).2.2 fun _ => .ok none).2.2 ?_
    intro names hnames
    rw [consulted_deniedLookup_post, List.mem_singleton] at hnames
    rw [hnames]
    decide

end SpaServer.App
