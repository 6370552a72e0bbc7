import SpaServer.Proofs.Url.Reading
import SpaServer.Url.Percent

/-!
# Locations

What a browser makes of a location that begins with a slash: a path of the server that sent it, or,
if another slash or a backslash follows, the name of another host. Encoding a location keeps its
slashes and makes no new ones, and it leaves no backslash.
-/

namespace SpaServer

namespace Percent

theorem encode_append (front back : Text) : encode (front ++ back) = encode front ++ encode back :=
  List.flatMap_append

theorem encode_slash_cons (text : Text) : encode ('/' :: text) = '/' :: encode text := by
  have hslash : encodeChar '/' = ['/'] := by decide
  rw [encode, List.flatMap_cons, hslash]
  rfl

/-- An encoded text begins with its first character or with a percent sign. -/
theorem head?_encode_cons (c : Char) (text : Text) :
    (encode (c :: text)).head? = if isPlain c then some c else some '%' := by
  rw [encode, List.flatMap_cons, encodeChar]
  split
  · rfl
  · obtain ⟨byte, bytes, hbytes⟩ :=
      List.exists_cons_of_ne_nil (String.utf8EncodeChar_ne_nil : String.utf8EncodeChar c ≠ [])
    rw [hbytes]
    rfl

theorem head?_encode_ne_backslash (text : Text) : (encode text).head? ≠ some '\\' := by
  cases text with
  | nil => exact fun h => nomatch h
  | cons c text =>
      rw [head?_encode_cons]
      split
      · rename_i hplain
        intro hc
        obtain rfl := Option.some.inj hc
        exact absurd hplain (by decide)
      · decide

theorem head?_encode_eq_slash_iff (text : Text) :
    (encode text).head? = some '/' ↔ text.head? = some '/' := by
  cases text with
  | nil => rfl
  | cons c text =>
      rw [head?_encode_cons]
      split
      · rfl
      · rename_i hplain
        refine iff_of_false (by decide) fun hc => ?_
        obtain rfl := Option.some.inj hc
        exact hplain (by decide)

end Percent

namespace Url

/-- Whether a browser takes the location for a path of the server that sent it. -/
structure IsLocal (location : Text) : Prop where
  slash : location.head? = some '/'
  single : location.tail.head? ≠ some '/'
  noBackslash : location.tail.head? ≠ some '\\'

theorem isLocal_encode_iff (text : Text) :
    IsLocal (Percent.encode text) ↔ text.head? = some '/' ∧ ¬['/', '/'] <+: text := by
  have hstart := Percent.head?_encode_eq_slash_iff text
  constructor
  · intro hlocal
    have hslash := hstart.1 hlocal.slash
    refine ⟨hslash, ?_⟩
    rintro ⟨rest, rfl⟩
    have hsingle := hlocal.single
    simp [Percent.encode_slash_cons] at hsingle
  · rintro ⟨hslash, hsingle⟩
    cases text with
    | nil => simp at hslash
    | cons first rest =>
        obtain rfl := Option.some.inj hslash
        have hrest : rest.head? ≠ some '/' := by
          intro hrest
          cases rest with
          | nil => simp at hrest
          | cons second rest =>
              obtain rfl := Option.some.inj hrest
              exact hsingle (List.prefix_append ['/', '/'] rest)
        rw [Percent.encode_slash_cons]
        exact ⟨rfl, fun h => hrest ((Percent.head?_encode_eq_slash_iff rest).1 h),
          Percent.head?_encode_ne_backslash rest⟩

/-- A path with a slash and a query behind it leads to the server if it begins with one slash. -/
theorem isLocal_directory_iff {path : Text} (hlast : path.getLast? ≠ some '/') (query : Text) :
    IsLocal (Percent.encode (path ++ '/' :: queryPart query)) ↔
      (path = [] ∨ path.head? = some '/') ∧ ¬['/', '/'] <+: path := by
  rw [isLocal_encode_iff]
  -- The second character of a short path's location can be the first one of the query.
  have hquery : (queryPart query).head? ≠ some '/' := by
    rw [queryPart]
    split <;> simp
  cases path with
  | nil =>
      refine iff_of_true ⟨rfl, ?_⟩ (by simp)
      rintro ⟨rest, hrest⟩
      rw [List.nil_append, List.cons_append, List.cons_inj_right] at hrest
      exact hquery (by rw [← hrest]; rfl)
  | cons first path =>
      cases path with
      | nil =>
          have hfirst : first ≠ '/' := by simpa using hlast
          simp [hfirst]
      | cons second rest => simp

end Url

end SpaServer
