import Mathlib.Logic.Relation
import SpaServer.Proofs.Http.MediaType

/-!
# Which content types are kept fresh

A content type is that of a document in HTML if the text before its first semicolon, without the
blanks around it, is the word text/html up to the case of ASCII letters. These are never kept fresh,
and all others are for a day: `directive_recognises_html`. So parameters, blanks around the type and
the case of letters make no difference, and no letter of another script counts as one of the word.
-/

namespace SpaServer.CachePolicy

/-- Whether a text is the type that a content type names: what stands before the first semicolon,
or the whole if there is none, without the blanks at both ends. -/
inductive IsTypeOf : Text → Text → Prop
  | of {front type back parameters : Text} (hfront : ∀ c ∈ front, Text.isBlank c = true)
      (hback : ∀ c ∈ back, Text.isBlank c = true) (htype : Text.IsTrimmed Text.isBlank type)
      (hmark : ';' ∉ type) (hparameters : ∀ c ∈ parameters.head?, c = ';') :
    IsTypeOf type (front ++ type ++ back ++ parameters)

/-- The changes to a content type that leave what it means: parameters behind it, blanks around its
type, and another case of ASCII letters anywhere in it. -/
inductive Rephrases : Text → Text → Prop
  | parameters (contentType parameters : Text) :
    Rephrases contentType (contentType ++ ';' :: parameters)
  | blanks (front type back parameters : Text) (hfront : ∀ c ∈ front, Text.isBlank c = true)
      (hback : ∀ c ∈ back, Text.isBlank c = true) (hmark : ';' ∉ type)
      (hparameters : ∀ c ∈ parameters.head?, c = ';') :
    Rephrases (type ++ parameters) (front ++ type ++ back ++ parameters)
  | letters {contentType other : Text} (hsame : contentType.EqIgnoringCase other) :
    Rephrases contentType other

def typeOf (contentType : Text) : Text := Text.strip (Text.cut ';' contentType).1

/-! ### The type of a content type -/

theorem not_mem_of_blank {text : Text} (hblank : ∀ c ∈ text, Text.isBlank c = true) :
    ';' ∉ text := by
  intro hmark
  exact absurd (hblank ';' hmark) (by decide)

theorem typeOf_append {type parameters : Text} (hmark : ';' ∉ type)
    (hparameters : ∀ c ∈ parameters.head?, c = ';') :
    typeOf (type ++ parameters) = Text.strip type := by
  rw [typeOf, Text.fst_cut_eq_iff.2 ⟨hmark, parameters, rfl, hparameters⟩]

theorem typeOf_around {front type back parameters : Text}
    (hfront : ∀ c ∈ front, Text.isBlank c = true) (hback : ∀ c ∈ back, Text.isBlank c = true)
    (hmark : ';' ∉ type) (hparameters : ∀ c ∈ parameters.head?, c = ';') :
    typeOf (front ++ type ++ back ++ parameters) = Text.strip type := by
  have hwhole : ';' ∉ front ++ type ++ back := by
    simp only [List.mem_append, not_or]
    exact ⟨⟨not_mem_of_blank hfront, hmark⟩, not_mem_of_blank hback⟩
  rw [typeOf_append hwhole hparameters, Text.strip, Text.trim_around hfront hback, ← Text.strip]

/-- A content type names one type. -/
theorem isTypeOf_iff {type contentType : Text} :
    IsTypeOf type contentType ↔ type = typeOf contentType := by
  constructor
  · rintro ⟨hfront, hback, htype, hmark, hparameters⟩
    rw [typeOf_around hfront hback hmark hparameters, Text.strip, htype.trim_eq]
  · rintro rfl
    obtain ⟨hmark, parameters, hcut, hparameters⟩ :=
      Text.fst_cut_eq_iff.1 (Eq.refl (Text.cut ';' contentType).1)
    obtain ⟨front, back, htrim, hfront, hback⟩ :=
      Text.exists_trim Text.isBlank (Text.cut ';' contentType).1
    have hwhole : contentType = front ++ typeOf contentType ++ back ++ parameters := by
      rw [typeOf, Text.strip, ← htrim]
      exact hcut
    have htype : ';' ∉ typeOf contentType := by
      intro hc
      rw [htrim] at hmark
      exact hmark (List.mem_append_left _ (List.mem_append_right _ hc))
    have hform := IsTypeOf.of hfront hback (Text.isTrimmed_trim _ _) htype hparameters
    rwa [← Text.strip, ← typeOf, ← hwhole] at hform

/-! ### What makes no difference -/

theorem typeOf_parameters (contentType parameters : Text) :
    typeOf (contentType ++ ';' :: parameters) = typeOf contentType := by
  rw [typeOf, Text.fst_cut_append, ← typeOf]

theorem typeOf_congr {contentType other : Text}
    (hsame : contentType.EqIgnoringCase other) :
    (typeOf contentType).EqIgnoringCase (typeOf other) := by
  have hmark : ∀ c : Char, c.toLower = ';' ↔ c = ';' :=
    Text.toLower_induction (motive := fun c small => small = ';' ↔ c = ';') (fun _ => Iff.rfl)
      (by decide)
  have hcut : (Text.cut ';' contentType).1.EqIgnoringCase (Text.cut ';' other).1 := by
    show List.map Char.toLower _ = List.map Char.toLower _
    rw [← Text.fst_cut_map hmark, ← Text.fst_cut_map hmark, hsame]
  exact hcut.strip

theorem Rephrases.sameType {contentType other : Text} (hrephrases : Rephrases contentType other) :
    (typeOf contentType).EqIgnoringCase (typeOf other) := by
  cases hrephrases with
  | parameters contentType parameters => rw [typeOf_parameters]; rfl
  | blanks front type back parameters hfront hback hmark hparameters =>
      rw [typeOf_around hfront hback hmark hparameters, typeOf_append hmark hparameters]
      rfl
  | letters hsame => exact typeOf_congr hsame

theorem sameType_of_rephrased {contentType other : Text}
    (hchanges : Relation.ReflTransGen Rephrases contentType other) :
    (typeOf contentType).EqIgnoringCase (typeOf other) := by
  induction hchanges with
  | refl => rfl
  | tail _ hlast ih => exact ih.trans hlast.sameType

/-! ### The directive -/

theorem essence_eq_iff (contentType : Text) : essence contentType = MediaType.html ↔
    (typeOf contentType).EqIgnoringCase MediaType.html :=
  Text.lower_eq_iff (Text.isAscii_of_all (by decide)) (by decide) (by decide)

theorem directive_eq_iff (contentType : Text) :
    (directive contentType = "public, max-age=0".toList ↔
        essence contentType = MediaType.html) ∧
      (directive contentType = "public, max-age=86400".toList ↔
        ¬ essence contentType = MediaType.html) := by
  have hdistinct : "public, max-age=0".toList ≠ "public, max-age=86400".toList := by decide
  rw [MediaType.directive_eq]
  exact ⟨hdistinct.ite_eq_left_iff, hdistinct.ite_eq_right_iff⟩

theorem directive_congr {contentType other : Text}
    (hsame : (typeOf contentType).EqIgnoringCase (typeOf other)) :
    directive contentType = directive other := by
  have hessence : essence contentType = essence other := hsame.lower_eq
  rw [directive, directive, hessence]

/-- **A content type is never kept fresh exactly if its type is text/html up to the case of ASCII
letters**, whatever parameters and blanks stand around the type, and is kept for a day otherwise. -/
theorem directive_recognises_html (contentType : Text) :
    ∃ type, (∀ other, IsTypeOf other contentType ↔ other = type) ∧
      (directive contentType = "public, max-age=0".toList ↔
        type.EqIgnoringCase "text/html".toList) ∧
      (directive contentType = "public, max-age=86400".toList ↔
        ¬ type.EqIgnoringCase "text/html".toList) ∧
      (directive contentType = "public, max-age=0".toList → type.IsAscii) ∧
      ∀ other, Relation.ReflTransGen Rephrases contentType other →
        directive other = directive contentType := by
  obtain ⟨hnever, hday⟩ := directive_eq_iff contentType
  rw [essence_eq_iff] at hnever hday
  refine ⟨typeOf contentType, fun other => isTypeOf_iff, hnever, hday, ?_, ?_⟩
  · intro hdirective
    exact Text.IsAscii.of_eqIgnoringCase (hnever.1 hdirective) (Text.isAscii_of_all (by decide))
  · intro other hchanges
    exact (directive_congr (sameType_of_rephrased hchanges)).symm

/-- The type in other letters, then blanks around it, then parameters. -/
theorem directive_respelled :
    Relation.ReflTransGen Rephrases "text/html".toList
        "\u2003Text/HTML\t;charset=utf-8".toList ∧
      directive "\u2003Text/HTML\t;charset=utf-8".toList = "public, max-age=0".toList := by
  have hletters : Rephrases "text/html".toList "Text/HTML".toList := .letters (by decide)
  have hblanks : Rephrases "Text/HTML".toList "\u2003Text/HTML\t".toList :=
    .blanks "\u2003".toList "Text/HTML".toList "\t".toList [] (List.all_eq_true.1 (by decide))
      (List.all_eq_true.1 (by decide)) (by decide) (by simp)
  have hparameters : Rephrases "\u2003Text/HTML\t".toList
      "\u2003Text/HTML\t;charset=utf-8".toList := .parameters _ "charset=utf-8".toList
  have hchanges := ((Relation.ReflTransGen.single hletters).tail hblanks).tail hparameters
  have htype : IsTypeOf "text/html".toList "text/html".toList := isTypeOf_iff.2 (by decide)
  obtain ⟨type, hunique, hnever, _, _, hsame⟩ := directive_recognises_html "text/html".toList
  obtain rfl := (hunique _).1 htype
  exact ⟨hchanges, (hsame _ hchanges).trans (hnever.2 rfl)⟩

end SpaServer.CachePolicy
