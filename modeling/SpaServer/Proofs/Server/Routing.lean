import SpaServer.Proofs.Server.Bundle
import SpaServer.Proofs.Server.Course

/-!
# No route is lost

Where there is an entry document and no link, every known method gets an answer under every path
that is on the route: a file, or the way to a directory. Nothing that can be wrong with a path keeps
a lookup from ending. The one thing that takes a path off the route is a line feed inside it.
-/

namespace SpaServer.App

theorem status_of_offRoute (app : App) (lookup : Lookup) {request : Request}
    (hroute : onRoute request.path = false) :
    (app.answer lookup request).response.status ∈ [307, 404, 500] := by
  rw [answer, respond, hroute, if_neg Bool.false_ne_true]
  cases onRoute (otherSlashes request.path) with
  | false =>
      rw [if_neg Bool.false_ne_true]
      exact List.mem_of_elem_eq_true rfl
  | true =>
      rw [if_pos rfl]
      cases request.urlTo (otherSlashes request.path) with
      | ok url => exact List.mem_cons_self
      | error error => exact List.mem_of_elem_eq_true rfl

variable {app : App} {tree : Node} {request : Request} {method : Method}

theorem status_of_delivered {lookup : Lookup} {file : File} (hrange : request.range? = none)
    (hrespond : respond app.settings lookup request = delivered (deliver method request file)) :
    (app.answer lookup request).response.status = 200 := by
  obtain ⟨sent, hsent, hstatus⟩ := exists_deliver hrange method file
  rw [hsent] at hrespond
  rw [answer_of_delivered hrespond, hstatus]

/-- On the route every lookup ends with a file or a directory, or leaves the request to the entry
document. -/
theorem status_of_serves (hfree : tree.LinkFree) {content : Bytes}
    (hindex : tree.get? [app.settings.assetRoot, Bundle.indexFile] = some (.file content))
    (hserves : Serves request method) {url : Url.Parts} (hurl : request.url = .ok url)
    (hrange : request.range? = none) :
    (app.answer (tree.lookup app.settings.assetRoot) request).response.status = 200 ∨
      (app.answer (tree.lookup app.settings.assetRoot) request).response.status = 301 := by
  have hfound := findFile_indexFile hfree hindex
  cases hreads : method.readsAssets with
  | false =>
      have hrespond := respond_of_entry app.settings hserves (Or.inl hreads) hfound
      exact Or.inl (status_of_delivered hrange hrespond)
  | true =>
      obtain ⟨found, hmatch⟩ := Lookup.exists_matchMounts
        (Node.exists_find_linkFree hfree app.settings.properName_assetRoot) url.path
      cases found with
      | none =>
          have hrespond := respond_of_entry app.settings hserves (Or.inr ⟨url, hurl, hmatch⟩) hfound
          exact Or.inl (status_of_delivered hrange hrespond)
      | some matched =>
          cases matched with
          | serve file =>
              have hrespond := respond_of_asset app.settings hserves hreads hurl hmatch
              exact Or.inl (status_of_delivered hrange hrespond)
          | redirect asset target =>
              right
              rw [answer, respond_of_directory app.settings hserves hreads hurl hmatch]
              rfl

/-- **With an entry document and without links exactly the paths on the route are answered.** -/
theorem status_iff_no_line_feed (app : App) {tree : Node} (hfree : tree.LinkFree) {content : Bytes}
    (hindex : tree.get? [app.settings.assetRoot, Bundle.indexFile] = some (.file content))
    {request : Request} (hregular : request.Regular) (hserver : request.server.isSome = true)
    {method : Method} (hmethod : Method.ofName? request.method = some method)
    (hpath : request.path.head? = some '/') {query : Text}
    (hquery : Utf8.decode request.query = .ok query) (hrange : request.range? = none)
    {response : Response}
    (hresponse : (app.answer (tree.lookup app.settings.assetRoot) request).response = response) :
    response.status = 200 ∨ response.status = 301 ↔ '\n' ∉ request.path.dropLast := by
  rw [← onRoute_iff hpath, ← hresponse]
  cases hroute : onRoute request.path with
  | true =>
      have hurl := Request.url_of_server hregular hserver hpath hquery
      exact iff_of_true (status_of_serves hfree hindex ⟨hroute, hmethod⟩ hurl hrange) rfl
  | false =>
      have hstatus := status_of_offRoute app (tree.lookup app.settings.assetRoot) hroute
      simp only [List.mem_cons, List.not_mem_nil, or_false] at hstatus
      refine iff_of_false ?_ Bool.false_ne_true
      omega

theorem status_smallBundle :
    ((standard.answer (smallBundle.lookup standard.settings.assetRoot)
        (.simple .delete "/users\n".toList)).response.status = 200 ∨
      (standard.answer (smallBundle.lookup standard.settings.assetRoot)
        (.simple .delete "/users\n".toList)).response.status = 301) ↔
      '\n' ∉ "/users\n".toList.dropLast :=
  status_iff_no_line_feed standard linkFree_smallBundle get?_smallBundle
    (Request.regular_simple .delete _) rfl (Method.ofName?_name .delete) (by decide)
    (Request.decode_simple .delete _) rfl rfl

/-- A line feed inside a path loses the route that the entry document would have answered. -/
theorem line_feed_loses_route : smallBundle.LinkFree ∧
    smallBundle.get? [standard.settings.assetRoot, Bundle.indexFile] = some (.file [0x68]) ∧
    (standard.answer (smallBundle.lookup standard.settings.assetRoot)
      (.simple .get "/a\nb".toList)).response.status = 404 := by
  refine ⟨linkFree_smallBundle, get?_smallBundle, ?_⟩
  rw [answer, respond_of_offRoute (by decide) (by decide)]
  rfl

end SpaServer.App
