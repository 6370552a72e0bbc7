import Mathlib.Data.List.TakeWhile
import SpaServer.Proofs.Text.Trimming

/-!
# Texts cut at a character

A cut takes the text before the first mark and the text after it, and the pieces of a text between
its marks hold every character of it but the marks.
-/

namespace SpaServer.Text

theorem cut_append {mark : Char} {front : Text} (back : Text) (hfront : mark ∉ front) :
    cut mark (front ++ mark :: back) = (front, some back) := by
  have hkept : ∀ c ∈ front, (c != mark) = true := by
    intro c hc
    rw [bne_iff_ne]
    rintro rfl
    exact hfront hc
  rw [cut, List.takeWhile_append_of_pos hkept, List.dropWhile_append_of_pos hkept]
  simp

theorem cut_of_not_mem {mark : Char} {text : Text} (htext : mark ∉ text) :
    cut mark text = (text, none) := by
  have hkept : ∀ c ∈ text, (c != mark) = true := by
    intro c hc
    rw [bne_iff_ne]
    rintro rfl
    exact htext hc
  rw [cut, List.takeWhile_eq_self_iff.2 hkept, List.dropWhile_eq_nil_iff.2 hkept]

theorem not_mem_cut {mark : Char} {text : Text} : mark ∉ (cut mark text).1 := by
  intro hmark
  have hkept := List.all_eq_true.1 List.all_takeWhile mark hmark
  simp at hkept

theorem eq_append_of_cut {mark : Char} {text front back : Text}
    (hcut : cut mark text = (front, some back)) : text = front ++ mark :: back := by
  rw [cut, Prod.mk.injEq] at hcut
  obtain ⟨rfl, hback⟩ := hcut
  cases hrest : text.dropWhile (· != mark) with
  | nil => simp [hrest] at hback
  | cons c rest =>
      rw [hrest] at hback
      obtain rfl : rest = back := Option.some.inj hback
      obtain rfl : c = mark := by simpa using eq_false_of_dropWhile hrest
      rw [← hrest, List.takeWhile_append_dropWhile]

/-- The first part of a cut is told by what it is: a text without the mark, with nothing behind it
or with the mark behind it. -/
theorem fst_cut_eq_iff {mark : Char} {text front : Text} :
    (cut mark text).1 = front ↔
      mark ∉ front ∧ ∃ back, text = front ++ back ∧ ∀ c ∈ back.head?, c = mark := by
  constructor
  · rintro rfl
    refine ⟨not_mem_cut, text.dropWhile (· != mark), List.takeWhile_append_dropWhile.symm, ?_⟩
    intro c hc
    simpa using not_head_dropWhile (· != mark) text c hc
  · rintro ⟨hfront, back, rfl, hback⟩
    cases back with
    | nil => rw [List.append_nil, cut_of_not_mem hfront]
    | cons c back =>
        obtain rfl : c = mark := hback c rfl
        rw [cut_append back hfront]

theorem fst_cut_append (mark : Char) (text back : Text) :
    (cut mark (text ++ mark :: back)).1 = (cut mark text).1 := by
  obtain ⟨hmark, rest, htext, hrest⟩ := fst_cut_eq_iff.1 (Eq.refl (cut mark text).1)
  refine fst_cut_eq_iff.2 ⟨hmark, rest ++ mark :: back, ?_, ?_⟩
  · rw [← List.append_assoc, ← htext]
  · cases rest with
    | nil => simp
    | cons c rest => exact hrest

theorem fst_cut_map {mark : Char} {f : Char → Char} (hf : ∀ c, f c = mark ↔ c = mark)
    (text : Text) : (cut mark (text.map f)).1 = (cut mark text).1.map f := by
  have hsame : (· != mark) ∘ f = (· != mark) := by
    funext c
    show (f c != mark) = (c != mark)
    rw [Bool.eq_iff_iff, bne_iff_ne, bne_iff_ne, Ne, Ne, hf c]
  rw [cut, cut, List.takeWhile_map, hsame]

theorem mem_splitOn (mark : Char) {c : Char} {text : Text} (hc : c ∈ text) :
    c = mark ∨ ∃ piece ∈ text.splitOn mark, c ∈ piece := by
  induction text with
  | nil => simp at hc
  | cons first text ih =>
      rw [List.splitOn_cons_eq_if_modifyHead]
      split
      · rename_i hmark
        rcases List.mem_cons.1 hc with rfl | hc
        · exact Or.inl (beq_iff_eq.1 hmark)
        · rcases ih hc with hc | ⟨piece, hpiece, hc⟩
          · exact Or.inl hc
          · exact Or.inr ⟨piece, List.mem_cons_of_mem _ hpiece, hc⟩
      · cases hsplit : text.splitOn mark with
        | nil => exact absurd hsplit (List.splitOn_ne_nil _ _)
        | cons piece pieces =>
            rw [hsplit] at ih
            rw [List.modifyHead_cons]
            rcases List.mem_cons.1 hc with rfl | hc
            · exact Or.inr ⟨c :: piece, List.mem_cons_self, List.mem_cons_self⟩
            · rcases ih hc with hc | ⟨found, hfound, hc⟩
              · exact Or.inl hc
              · rcases List.mem_cons.1 hfound with rfl | hfound
                · exact Or.inr ⟨_, List.mem_cons_self, List.mem_cons_of_mem _ hc⟩
                · exact Or.inr ⟨found, List.mem_cons_of_mem _ hfound, hc⟩

theorem mem_piece {mark : Char} {text piece : Text} (hpiece : piece ∈ text.splitOn mark) :
    mark ∉ piece ∧ ∀ c ∈ piece, c ∈ text := by
  induction text generalizing piece with
  | nil =>
      obtain rfl : piece = [] := by simpa using hpiece
      simp
  | cons first text ih =>
      rw [List.splitOn_cons_eq_if_modifyHead] at hpiece
      split at hpiece
      · rcases List.mem_cons.1 hpiece with rfl | hpiece
        · simp
        · obtain ⟨hmark, hchars⟩ := ih hpiece
          exact ⟨hmark, fun c hc => List.mem_cons_of_mem _ (hchars c hc)⟩
      · rename_i hfirst
        cases hsplit : text.splitOn mark with
        | nil => exact absurd hsplit (List.splitOn_ne_nil _ _)
        | cons head pieces =>
            rw [hsplit] at ih hpiece
            rw [List.modifyHead_cons] at hpiece
            rcases List.mem_cons.1 hpiece with rfl | hpiece
            · obtain ⟨hmark, hchars⟩ := ih List.mem_cons_self
              constructor
              · rw [List.mem_cons, not_or]
                exact ⟨fun heq => hfirst (beq_iff_eq.2 heq.symm), hmark⟩
              · intro c hc
                rcases List.mem_cons.1 hc with rfl | hc
                · exact List.mem_cons_self
                · exact List.mem_cons_of_mem _ (hchars c hc)
            · obtain ⟨hmark, hchars⟩ := ih (List.mem_cons_of_mem _ hpiece)
              exact ⟨hmark, fun c hc => List.mem_cons_of_mem _ (hchars c hc)⟩

end SpaServer.Text
