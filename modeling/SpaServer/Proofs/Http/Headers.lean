import SpaServer.Http.Header

/-!
# Headers that are set and removed

A list of headers gives every header a list of values. Removing a header leaves it without a value
and setting it leaves it with exactly one, and neither touches the values of any other header.
-/

namespace SpaServer.Headers

variable {headers : Headers} {header other : Header}

def values (header : Header) (headers : Headers) : List Text :=
  (headers.filter (·.1 == header)).map (·.2)

theorem values_append (header : Header) (front back : Headers) :
    values header (front ++ back) = front.values header ++ back.values header := by
  rw [values, List.filter_append, List.map_append]
  rfl

theorem values_remove_self (header : Header) (headers : Headers) :
    (headers.remove header).values header = [] := by
  rw [values, remove, List.filter_filter, List.map_eq_nil_iff, List.filter_eq_nil_iff]
  simp

theorem values_remove_of_ne (hne : other ≠ header) :
    (headers.remove header).values other = headers.values other := by
  rw [values, remove, List.filter_filter, values]
  congr 1
  apply List.filter_congr
  intro entry _
  by_cases hother : entry.1 = other
  · simp [hother, hne]
  · simp [hother]

/-- A header that is set stands between parts of what the others were. -/
theorem exists_set_eq (header : Header) (value : Text) (headers : Headers) :
    ∃ front back, headers.remove header = front ++ back ∧
      headers.set header value = front ++ (header, value) :: back :=
  ⟨_, _, List.takeWhile_append_dropWhile.symm, rfl⟩

theorem values_set_self (value : Text) : (headers.set header value).values header = [value] := by
  obtain ⟨front, back, hothers, hset⟩ := exists_set_eq header value headers
  have hnone := values_remove_self header headers
  rw [hothers, values_append, List.append_eq_nil_iff] at hnone
  have hhead : values header ((header, value) :: back) = value :: back.values header := by
    simp [values]
  rw [hset, values_append, hhead, hnone.1, hnone.2, List.nil_append]

theorem values_set_of_ne (value : Text) (hne : other ≠ header) :
    (headers.set header value).values other = headers.values other := by
  obtain ⟨front, back, hothers, hset⟩ := exists_set_eq header value headers
  have hhead : values other ((header, value) :: back) = back.values other := by
    simp [values, hne.symm]
  rw [hset, values_append, hhead, ← values_append, ← hothers, values_remove_of_ne hne]

theorem get?_eq_none (hnone : headers.values header = []) : headers.get? header = none := by
  rw [values, List.map_eq_nil_iff, List.filter_eq_nil_iff] at hnone
  rw [get?, List.lookup_eq_none_iff]
  intro entry hentry
  have hother := hnone entry hentry
  rw [beq_iff_eq] at hother
  exact bne_iff_ne.2 (Ne.symm hother)

end SpaServer.Headers
