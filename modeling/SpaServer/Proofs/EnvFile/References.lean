import Mathlib.Data.List.TakeWhile
import SpaServer.EnvFile.Reference
import SpaServer.Proofs.Text.Trimming

/-!
# Where references stand in a value

A value is cut from left to right: where a reference begins it is taken as a whole, and any other
character stands for itself. `CutInto` says this without a reader, and `cutInto_iff` says that the
reader finds these pieces and no others. So the pieces are settled by the value alone, before
anything is put in the place of a reference, and a value in which no reference begins is left as it
is.
-/

namespace SpaServer.EnvFile

/-- Whether a text begins with a reference that leaves the text `after` behind it. -/
inductive BeginsWith : Piece → Text → Text → Prop
  | plain {name after : Text} (hname : ∀ c ∈ name, c ≠ '\x7d' ∧ c ≠ ':') :
    BeginsWith (.reference name []) ('$' :: '\x7b' :: (name ++ '\x7d' :: after)) after
  | fallback {name fallback after : Text} (hname : ∀ c ∈ name, c ≠ '\x7d' ∧ c ≠ ':')
      (hfallback : '\x7d' ∉ fallback) :
    BeginsWith (.reference name fallback)
      ('$' :: '\x7b' :: (name ++ ':' :: '-' :: (fallback ++ '\x7d' :: after))) after

/-- Whether a text is cut into the pieces of a list, each reference where one begins. -/
inductive CutInto : Text → List Piece → Prop
  | nil : CutInto [] []
  | reference {piece : Piece} {text after : Text} {rest : List Piece}
      (hbegins : BeginsWith piece text after) (hrest : CutInto after rest) :
    CutInto text (piece :: rest)
  | literal {c : Char} {text : Text} {rest : List Piece}
      (hnone : ∀ piece after, ¬ BeginsWith piece (c :: text) after) (hrest : CutInto text rest) :
    CutInto (c :: text) (.literal c :: rest)

/-- Whether a reference begins somewhere in a text. -/
def HasReference (text : Text) : Prop :=
  ∃ before rest piece after, text = before ++ rest ∧ BeginsWith piece rest after

/-! ### One reference -/

/-- Whether a character may stand in the name of a reference. -/
abbrev isNameChar (c : Char) : Bool := c != '\x7d' && c != ':'

theorem isNameChar_iff {c : Char} : isNameChar c = true ↔ c ≠ '\x7d' ∧ c ≠ ':' := by
  simp [isNameChar]

theorem beginsWith_of_reference? {text after : Text} {piece : Piece}
    (hread : reference? text = some (piece, after)) :
    BeginsWith piece ('$' :: '\x7b' :: text) after := by
  have hname : ∀ c ∈ text.takeWhile isNameChar, c ≠ '\x7d' ∧ c ≠ ':' :=
    fun c hc => isNameChar_iff.1 (List.mem_takeWhile_imp hc)
  have htext := List.takeWhile_append_dropWhile (p := isNameChar) (l := text)
  rw [reference?] at hread
  split at hread
  next rest hrest =>
    obtain ⟨rfl, rfl⟩ := Prod.mk.inj (Option.some.inj hread)
    rw [hrest] at htext
    have hbegins := @BeginsWith.plain _ rest hname
    rwa [htext] at hbegins
  next rest hrest =>
    split at hread
    next mark rest' hrest' =>
      obtain ⟨rfl, rfl⟩ := Prod.mk.inj (Option.some.inj hread)
      have hmark : mark = '\x7d' := by simpa using Text.eq_false_of_dropWhile hrest'
      have hfallback : '\x7d' ∉ rest.takeWhile (· != '\x7d') := fun hmem => by
        simpa using List.mem_takeWhile_imp hmem
      have hrest'' := List.takeWhile_append_dropWhile (p := (· != '\x7d')) (l := rest)
      rw [hrest', hmark] at hrest''
      rw [hrest] at htext
      have hbegins := @BeginsWith.fallback _ _ rest' hname hfallback
      rwa [hrest'', htext] at hbegins
    next => simp at hread
  next => simp at hread

theorem reference?_of_beginsWith {text rest after : Text} {piece : Piece}
    (hbegins : BeginsWith piece text after) (htext : text = '$' :: '\x7b' :: rest) :
    reference? rest = some (piece, after) := by
  cases hbegins with
  | @plain name after hname =>
      obtain rfl : name ++ '\x7d' :: after = rest := by simpa using htext
      have hkept : ∀ c ∈ name, isNameChar c = true := fun c hc => isNameChar_iff.2 (hname c hc)
      rw [reference?, List.takeWhile_append_of_pos hkept, List.dropWhile_append_of_pos hkept]
      simp
  | @fallback name fallback after hname hfallback =>
      obtain rfl : name ++ ':' :: '-' :: (fallback ++ '\x7d' :: after) = rest := by
        simpa using htext
      have hkept : ∀ c ∈ name, isNameChar c = true := fun c hc => isNameChar_iff.2 (hname c hc)
      have hkept' : ∀ c ∈ fallback, (c != '\x7d') = true := fun c hc =>
        bne_iff_ne.2 fun heq => hfallback (heq ▸ hc)
      rw [reference?, List.takeWhile_append_of_pos hkept, List.dropWhile_append_of_pos hkept]
      simp [List.takeWhile_append_of_pos hkept', List.dropWhile_append_of_pos hkept']

theorem reference?_eq_some_iff {text after : Text} {piece : Piece} :
    reference? text = some (piece, after) ↔ BeginsWith piece ('$' :: '\x7b' :: text) after :=
  ⟨beginsWith_of_reference?, fun hbegins => reference?_of_beginsWith hbegins rfl⟩

theorem BeginsWith.exists_open {piece : Piece} {text after : Text}
    (hbegins : BeginsWith piece text after) : ∃ rest, text = '$' :: '\x7b' :: rest := by
  cases hbegins <;> exact ⟨_, rfl⟩

/-- A text begins with at most one reference. -/
theorem BeginsWith.unique {piece other : Piece} {text after after' : Text}
    (hbegins : BeginsWith piece text after) (hother : BeginsWith other text after') :
    piece = other ∧ after = after' := by
  obtain ⟨rest, rfl⟩ := hbegins.exists_open
  have hread := (reference?_of_beginsWith hbegins rfl).symm.trans
    (reference?_of_beginsWith hother rfl)
  simpa using hread

/-! ### All references -/

theorem cutInto_pieces (text : Text) : CutInto text (pieces text) := by
  fun_induction pieces text with
  | case1 => exact .nil
  | case2 rest piece after hread ih => exact .reference (reference?_eq_some_iff.1 hread) ih
  | case3 rest hread ih =>
      refine .literal (fun piece after hbegins => ?_) ih
      simp [reference?_eq_some_iff.2 hbegins] at hread
  | case4 c rest hopen ih =>
      refine .literal (fun piece after hbegins => ?_) ih
      obtain ⟨rest', heq⟩ := hbegins.exists_open
      obtain ⟨rfl, rfl⟩ := List.cons.inj heq
      exact hopen rest' rfl rfl

theorem CutInto.unique {text : Text} {cut other : List Piece} (hcut : CutInto text cut)
    (hother : CutInto text other) : cut = other := by
  induction hcut generalizing other with
  | nil =>
      cases hother with
      | nil => rfl
      | reference hbegins => cases hbegins
  | reference hbegins hrest ih =>
      cases hother with
      | nil => cases hbegins
      | reference hbegins' hrest' =>
          obtain ⟨rfl, rfl⟩ := hbegins.unique hbegins'
          rw [ih hrest']
      | literal hnone => exact absurd hbegins (hnone _ _)
  | literal hnone hrest ih =>
      cases hother with
      | reference hbegins => exact absurd hbegins (hnone _ _)
      | literal hnone' hrest' => rw [ih hrest']

/-- **The reader cuts a value where its references stand.** -/
theorem cutInto_iff {text : Text} {cut : List Piece} : CutInto text cut ↔ cut = pieces text :=
  ⟨fun hcut => hcut.unique (cutInto_pieces text), fun hcut => hcut ▸ cutInto_pieces text⟩

theorem pieces_of_not_hasReference {text : Text} (hnone : ¬ HasReference text) :
    pieces text = text.map Piece.literal := by
  refine (cutInto_iff.1 ?_).symm
  induction text with
  | nil => exact .nil
  | cons c rest ih =>
      refine .literal (fun piece after hbegins => ?_) (ih fun hrest => ?_)
      · exact hnone ⟨[], c :: rest, piece, after, rfl, hbegins⟩
      · obtain ⟨before, rest', piece, after, rfl, hbegins⟩ := hrest
        exact hnone ⟨c :: before, rest', piece, after, rfl, hbegins⟩

/-- A reference needs its closing brace. -/
theorem not_hasReference_of_not_mem {text : Text} (hclosed : '\x7d' ∉ text) :
    ¬ HasReference text := by
  rintro ⟨before, rest, piece, after, rfl, hbegins⟩
  cases hbegins <;> simp at hclosed

/-- A value without references stays as it is. -/
theorem expand_of_not_hasReference {text : Text} (hnone : ¬ HasReference text)
    (referent? : Text → Option Text) : expand referent? text = text := by
  rw [expand, pieces_of_not_hasReference hnone, List.flatMap_map]
  exact List.flatMap_singleton' text

end SpaServer.EnvFile
