import Mathlib.Data.List.TakeWhile
import SpaServer.Text.Basic

/-!
# Trimmed texts

A trimmed text neither begins nor ends with a character of the class, and it is what stands between
the characters of the class at both ends of the text. So however many of them are put around a text,
it is trimmed to the same.
-/

namespace SpaServer.Text

/-- Whether a text neither begins nor ends with a character of the class. -/
structure IsTrimmed (drop : Char → Bool) (text : Text) : Prop where
  head : ∀ c ∈ text.head?, drop c = false
  last : ∀ c ∈ text.getLast?, drop c = false

variable {drop : Char → Bool} {front text back : Text}

theorem IsTrimmed.of_kept (hkept : ∀ c ∈ text, drop c = false) : IsTrimmed drop text where
  head c hc := hkept c (List.mem_of_mem_head? hc)
  last c hc := hkept c (List.mem_of_getLast? hc)

/-! ### Where dropping stops -/

theorem not_head_dropWhile {α : Type} (drop : α → Bool) (list : List α) :
    ∀ a ∈ (list.dropWhile drop).head?, drop a = false := by
  intro a ha
  have hhead := List.head?_dropWhile_not drop list
  rw [Option.mem_def.1 ha] at hhead
  exact hhead

theorem eq_false_of_dropWhile {α : Type} {drop : α → Bool} {list rest : List α} {a : α}
    (hrest : list.dropWhile drop = a :: rest) : drop a = false := by
  have hhead := not_head_dropWhile drop list
  rw [hrest] at hhead
  exact hhead a rfl

theorem dropWhile_of_head (hhead : ∀ c ∈ text.head?, drop c = false) :
    text.dropWhile drop = text := by
  cases text with
  | nil => rfl
  | cons c text => exact List.dropWhile_cons_of_neg (by simp [hhead c rfl])

/-! ### One end -/

theorem exists_trimEnd (drop : Char → Bool) (text : Text) :
    ∃ back, text = trimEnd drop text ++ back ∧ ∀ c ∈ back, drop c = true := by
  refine ⟨(text.reverse.takeWhile drop).reverse, ?_, ?_⟩
  · rw [trimEnd, ← List.reverse_append, List.takeWhile_append_dropWhile, List.reverse_reverse]
  · intro c hc
    exact List.mem_takeWhile_imp (List.mem_reverse.1 hc)

theorem trimEnd_append (hback : ∀ c ∈ back, drop c = true) (text : Text) :
    trimEnd drop (text ++ back) = trimEnd drop text := by
  have hdropped : ∀ c ∈ back.reverse, drop c = true := fun c hc => hback c (List.mem_reverse.1 hc)
  rw [trimEnd, trimEnd, List.reverse_append, List.dropWhile_append_of_pos hdropped]

theorem trimEnd_of_last (hlast : ∀ c ∈ text.getLast?, drop c = false) :
    trimEnd drop text = text := by
  rw [trimEnd, dropWhile_of_head (by rwa [List.head?_reverse]), List.reverse_reverse]

/-! ### Both ends -/

theorem isTrimmed_trim (drop : Char → Bool) (text : Text) : IsTrimmed drop (trim drop text) where
  head c hc := by
    obtain ⟨back, hback, _⟩ := exists_trimEnd drop (text.dropWhile drop)
    have hhead : (text.dropWhile drop).head? = some c := by
      rw [hback, List.head?_append, ← trim, Option.mem_def.1 hc]
      rfl
    exact not_head_dropWhile drop text c hhead
  last c hc := by
    rw [trim, trimEnd, List.getLast?_reverse] at hc
    exact not_head_dropWhile drop _ c hc

theorem exists_trim (drop : Char → Bool) (text : Text) :
    ∃ front back, text = front ++ trim drop text ++ back ∧ (∀ c ∈ front, drop c = true) ∧
      ∀ c ∈ back, drop c = true := by
  obtain ⟨back, htext, hback⟩ := exists_trimEnd drop (text.dropWhile drop)
  refine ⟨text.takeWhile drop, back, ?_, fun c hc => List.mem_takeWhile_imp hc, hback⟩
  rw [trim, List.append_assoc, ← htext, List.takeWhile_append_dropWhile]

theorem trim_append (hfront : ∀ c ∈ front, drop c = true) (htext : IsTrimmed drop text)
    (hback : ∀ c ∈ back, drop c = true) : trim drop (front ++ text ++ back) = text := by
  rw [trim, List.append_assoc, List.dropWhile_append_of_pos hfront]
  cases text with
  | nil => rw [List.nil_append, List.dropWhile_eq_nil_iff.2 hback]; rfl
  | cons c text =>
      have hhead : ∀ d ∈ (c :: text ++ back).head?, drop d = false := htext.head
      rw [dropWhile_of_head hhead, trimEnd_append hback, trimEnd_of_last htext.last]

/-- What is put around a text and is trimmed again makes no difference, whatever the text is. -/
theorem trim_around (hfront : ∀ c ∈ front, drop c = true) (hback : ∀ c ∈ back, drop c = true)
    (text : Text) : trim drop (front ++ text ++ back) = trim drop text := by
  obtain ⟨before, after, htext, hbefore, hafter⟩ := exists_trim drop text
  have hwhole : front ++ text ++ back = (front ++ before) ++ trim drop text ++ (after ++ back) :=
    calc front ++ text ++ back
        = front ++ (before ++ trim drop text ++ after) ++ back := by rw [← htext]
      _ = (front ++ before) ++ trim drop text ++ (after ++ back) := by simp only [List.append_assoc]
  rw [hwhole]
  refine trim_append ?_ (isTrimmed_trim drop text) ?_
  · exact List.forall_mem_append.2 ⟨hfront, hbefore⟩
  · exact List.forall_mem_append.2 ⟨hafter, hback⟩

theorem IsTrimmed.trim_eq (htext : IsTrimmed drop text) : trim drop text = text := by
  have htrim := trim_append (List.forall_mem_nil _) htext (List.forall_mem_nil _)
  rwa [List.nil_append, List.append_nil] at htrim

theorem trim_of_kept (hkept : ∀ c ∈ text, drop c = false) : trim drop text = text :=
  (IsTrimmed.of_kept hkept).trim_eq

theorem trim_map {f : Char → Char} (hf : ∀ c, drop (f c) = drop c) (text : Text) :
    trim drop (text.map f) = (trim drop text).map f := by
  have hsame : drop ∘ f = drop := funext hf
  rw [trim, trim, trimEnd, trimEnd, List.dropWhile_map, hsame, ← List.map_reverse,
    List.dropWhile_map, hsame, List.map_reverse]

end SpaServer.Text
