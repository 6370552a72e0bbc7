import SpaServer.Http.Request
import SpaServer.Proofs.Url.Reading

/-!
# The URL of a request

The path of a regular request is read from its URL as it is visible. A request is regular if its
scheme is one with a port of its own and the address that the server listens on, where it is known,
can stand in a URL. The client may name any host: one that has not the form of an authority is not
used, and any other can stand in a URL.
-/

namespace SpaServer

/-! ### Methods and their names -/

namespace Method

theorem ofName?_name (method : Method) : ofName? method.name = some method := by
  cases method <;> decide

theorem name_of_ofName? {name : Text} {method : Method} (hmethod : ofName? name = some method) :
    name = method.name := by
  have hname := List.find?_some hmethod
  exact (beq_iff_eq.1 hname).symm

theorem name_injective {method other : Method} (hname : method.name = other.name) :
    method = other := by
  rw [← Option.some.injEq, ← ofName?_name method, hname, ofName?_name]

theorem ne_of_readsAssets {method : Method} (hreads : method.readsAssets = false) :
    method ≠ .get ∧ method ≠ .head := by
  cases method <;> simp_all [readsAssets]

end Method

/-! ### Reading the path -/

namespace Request

/-- What a server sees to when it passes a request on. -/
structure Regular (request : Request) : Prop where
  scheme : (Authority.defaultPort? request.scheme).isSome = true
  server : ∀ host port standard, request.server = some (host, port) →
    Authority.defaultPort? request.scheme = some standard →
    Authority.Readable (Authority.ofServer standard host port)

variable {request : Request}

/-- Whether the URL of a request has an authority: the client names one, or the address of the
server is known. -/
def IsPlaced (request : Request) : Prop :=
  request.host?.any Authority.isValid = true ∨ request.server.isSome = true

/-- The authority of a regular request is readable, if there is one. -/
theorem Regular.authority? (hregular : request.Regular) :
    ∃ authority, request.authority? = .ok authority ∧
      (∀ text, authority = some text → Authority.Readable text) ∧
      (authority.isSome = true ↔ request.IsPlaced) := by
  obtain ⟨standard, hstandard⟩ := Option.isSome_iff_exists.1 hregular.scheme
  rw [Request.authority?]
  cases hhost : request.host?.filter Authority.isValid with
  | some host =>
      rw [Option.filter_eq_some_iff] at hhost
      refine ⟨some host, rfl, ?_, iff_of_true rfl (Or.inl ?_)⟩
      · intro text htext
        obtain rfl := Option.some.inj htext
        exact Authority.readable_of_isValid hhost.2
      · rw [hhost.1, Option.any_some, hhost.2]
  | none =>
      have hnone : request.host?.any Authority.isValid = false := by
        rw [Option.filter_eq_none_iff] at hhost
        cases hfound : request.host? with
        | none => rfl
        | some host => simpa using hhost host hfound
      rw [IsPlaced, hnone]
      cases hserver : request.server with
      | none => exact ⟨none, rfl, by simp, by simp⟩
      | some address =>
          obtain ⟨host, port⟩ := address
          simp only [hstandard]
          refine ⟨_, rfl, ?_, iff_of_true rfl (Or.inr rfl)⟩
          intro text htext
          obtain rfl := Option.some.inj htext
          exact hregular.server host port standard hserver hstandard

theorem urlTo_of_undecodable (hregular : request.Regular) {fault : Utf8.Fault}
    (hquery : Utf8.decode request.query = .error fault) (path : Text) :
    request.urlTo path = .error (.undecodable fault) := by
  obtain ⟨authority, hauthority, _⟩ := hregular.authority?
  simp only [urlTo, hauthority, hquery]

theorem url_of_undecodable (hregular : request.Regular) {fault : Utf8.Fault}
    (hquery : Utf8.decode request.query = .error fault) :
    request.url = .error (.undecodable fault) := by
  rw [url, urlTo_of_undecodable hregular hquery]

/-- **The path is read as it is visible if there is an authority before it.** -/
theorem url_of_placed (hregular : request.Regular) (hplaced : request.IsPlaced)
    (hpath : request.path.head? = some '/') {query : Text}
    (hquery : Utf8.decode request.query = .ok query) :
    request.url = .ok ⟨Url.visiblePath request.path, Url.visibleQuery query⟩ := by
  obtain ⟨authority, hauthority, hreadable, hknown⟩ := hregular.authority?
  obtain ⟨text, rfl⟩ := Option.isSome_iff_exists.1 (hknown.2 hplaced)
  simp only [url, urlTo, hauthority, hquery,
    Url.split_write query (Url.isScheme_of_defaultPort? hregular.scheme) (hreadable text rfl) hpath]

theorem url_of_server (hregular : request.Regular) (hserver : request.server.isSome = true)
    (hpath : request.path.head? = some '/') {query : Text}
    (hquery : Utf8.decode request.query = .ok query) :
    request.url = .ok ⟨Url.visiblePath request.path, Url.visibleQuery query⟩ :=
  url_of_placed hregular (Or.inr hserver) hpath hquery

theorem urlTo_of_unplaced (hregular : request.Regular) (hplaced : ¬request.IsPlaced)
    {query : Text} (hquery : Utf8.decode request.query = .ok query) (path : Text) :
    request.urlTo path = .ok (Url.write request.scheme none path query) := by
  obtain ⟨authority, hauthority, _, hknown⟩ := hregular.authority?
  obtain rfl : authority = none := by
    rw [Option.eq_none_iff_forall_ne_some]
    rintro text rfl
    exact hplaced (hknown.1 rfl)
  simp only [urlTo, hauthority, hquery]

theorem split_of_unplaced (hregular : request.Regular) (hplaced : ¬request.IsPlaced) {query : Text}
    (hquery : Utf8.decode request.query = .ok query) {parts : Url.Parts}
    (hurl : request.url = .ok parts) :
    Url.split (Url.write request.scheme none request.path query) = .ok parts := by
  rw [url, urlTo_of_unplaced hregular hplaced hquery] at hurl
  simp only at hurl
  split at hurl
  · rename_i found hsplit
    rw [hsplit, Except.ok.inj hurl]
  · simp at hurl

/-- Without an authority a path that begins like one is read as another path. -/
theorem path_ne_of_unplaced (hregular : request.Regular) (hplaced : ¬request.IsPlaced)
    (hpath : request.path.head? = some '/') (hdoubled : ['/', '/'] <+: Url.visiblePath request.path)
    {parts : Url.Parts} (hurl : request.url = .ok parts) :
    parts.path ≠ Url.visiblePath request.path := by
  cases hquery : Utf8.decode request.query with
  | error fault => simp [url_of_undecodable hregular hquery] at hurl
  | ok query =>
      have hsplit := split_of_unplaced hregular hplaced hquery hurl
      exact Url.path_ne_of_split_write_none hpath hdoubled hsplit

/-- **A path that does not begin like an authority is read as it is visible.** -/
theorem url_of_not_doubled (hregular : request.Regular) (hpath : request.path.head? = some '/')
    (hdoubled : ¬['/', '/'] <+: Url.visiblePath request.path) {query : Text}
    (hquery : Utf8.decode request.query = .ok query) :
    request.url = .ok ⟨Url.visiblePath request.path, Url.visibleQuery query⟩ := by
  by_cases hplaced : request.IsPlaced
  · exact url_of_placed hregular hplaced hpath hquery
  · rw [url, urlTo_of_unplaced hregular hplaced hquery]
    simp only [Url.split_write_none request.scheme query hpath hdoubled]

theorem url_of_plain (hregular : request.Regular) (hpath : request.path.head? = some '/')
    (hdoubled : ¬['/', '/'] <+: request.path)
    (hplain : ∀ c ∈ request.path, Url.isPlainChar c = true) {query : Text}
    (hquery : Utf8.decode request.query = .ok query) :
    request.url = .ok ⟨request.path, Url.visibleQuery query⟩ := by
  have hvisible := Url.visiblePath_of_plain hplain
  have hurl := url_of_not_doubled hregular hpath (by rwa [hvisible]) hquery
  rwa [hvisible] at hurl

/-- The path of a regular request is read as it is visible, or there is no authority before it. -/
theorem path_of_url (hregular : request.Regular) (hpath : request.path.head? = some '/')
    {parts : Url.Parts} (hurl : request.url = .ok parts) :
    parts.path = Url.visiblePath request.path ∨
      ∃ query, Url.split (Url.write request.scheme none request.path query) = .ok parts := by
  cases hquery : Utf8.decode request.query with
  | error fault => simp [url_of_undecodable hregular hquery] at hurl
  | ok query =>
      by_cases hplaced : request.IsPlaced
      · rw [url_of_placed hregular hplaced hpath hquery] at hurl
        exact Or.inl (by rw [← Except.ok.inj hurl])
      · exact Or.inr ⟨query, split_of_unplaced hregular hplaced hquery hurl⟩

theorem path_of_url_of_server (hregular : request.Regular) (hserver : request.server.isSome = true)
    (hpath : request.path.head? = some '/') {parts : Url.Parts} (hurl : request.url = .ok parts) :
    parts.path = Url.visiblePath request.path := by
  cases hquery : Utf8.decode request.query with
  | error fault => simp [url_of_undecodable hregular hquery] at hurl
  | ok query =>
      rw [url_of_server hregular hserver hpath hquery] at hurl
      rw [← Except.ok.inj hurl]

theorem isPlainChar_of_url (hregular : request.Regular) (hpath : request.path.head? = some '/')
    {parts : Url.Parts} (hurl : request.url = .ok parts) {c : Char} (hc : c ∈ parts.path) :
    Url.isPlainChar c = true := by
  rcases path_of_url hregular hpath hurl with hvisible | ⟨query, hsplit⟩
  · rw [hvisible] at hc
    exact Url.isPlainChar_of_mem_visiblePath hc
  · exact Url.isPlainChar_of_split_write_none hpath hsplit hc

theorem head?_of_url (hregular : request.Regular) (hpath : request.path.head? = some '/')
    {parts : Url.Parts} (hurl : request.url = .ok parts) :
    parts.path = [] ∨ parts.path.head? = some '/' := by
  rcases path_of_url hregular hpath hurl with hvisible | ⟨query, hsplit⟩
  · rw [hvisible]
    exact Or.inr (Url.head?_visiblePath hpath)
  · exact Url.head?_of_split_write_none hpath hsplit

/-! ### Requests without headers -/

/-- A request without a query and headers, to a server on the port of its scheme. -/
def simple (method : Method) (path : Text) : Request where
  method := method.name
  path := path
  query := []
  headers := []
  server := some ("localhost".toList, 80)
  scheme := "http".toList

theorem regular_simple (method : Method) (path : Text) : (simple method path).Regular where
  scheme := by
    change (Authority.defaultPort? "http".toList).isSome = true
    decide
  server := by
    intro host port standard hserver hstandard
    obtain ⟨rfl, rfl⟩ : "localhost".toList = host ∧ 80 = port := by simpa [simple] using hserver
    have hport : Authority.defaultPort? "http".toList = some 80 := by decide
    obtain rfl : 80 = standard := Option.some.inj (hport.symm.trans hstandard)
    exact Authority.readable_of_isValid (by decide)

theorem decode_simple (method : Method) (path : Text) :
    Utf8.decode (simple method path).query = .ok [] := by
  change Utf8.decode [] = .ok []
  rw [Utf8.decode, Utf8.decodeFrom]

/-- Whatever the headers are, the path is read as it is. -/
theorem url_simple_headers {method : Method} {path : Text} (headers : List (Text × Text))
    (hpath : path.head? = some '/') (hdoubled : ¬['/', '/'] <+: path)
    (hplain : ∀ c ∈ path, Url.isPlainChar c = true) :
    ({ simple method path with headers := headers } : Request).url = .ok ⟨path, []⟩ := by
  have hregular : ({ simple method path with headers := headers } : Request).Regular :=
    ⟨(regular_simple method path).scheme, (regular_simple method path).server⟩
  exact url_of_plain hregular hpath hdoubled hplain (decode_simple method path)

theorem url_simple {method : Method} {path : Text} (hpath : path.head? = some '/')
    (hdoubled : ¬['/', '/'] <+: path) (hplain : ∀ c ∈ path, Url.isPlainChar c = true) :
    (simple method path).url = .ok ⟨path, []⟩ :=
  url_simple_headers [] hpath hdoubled hplain

end Request

end SpaServer
