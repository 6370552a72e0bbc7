import SpaServer.Http.Range

/-!
# Where the spans of a range header lie

A range header is answered with spans only if every one of them lies in the content and has a
position in it. Joining spans keeps them there.
-/

namespace SpaServer

namespace Span

/-- Whether the span lies in a content of the given size and has a position. -/
structure Within (size : Nat) (span : Span) : Prop where
  nonempty : span.start < span.stop
  stop_le : span.stop ≤ size

variable {size : Nat} {span : Span}

theorem length_slice {content : Bytes} (hspan : span.stop ≤ content.length) :
    (span.slice content).length = span.length := by
  rw [slice, List.length_take, List.length_drop, length]
  omega

theorem within_mergeFrom {current : Span} {spans : List Span} (hcurrent : current.Within size)
    (hspans : ∀ span ∈ spans, span.Within size) :
    ∀ span ∈ mergeFrom current spans, span.Within size := by
  induction spans generalizing current with
  | nil => simpa [mergeFrom] using hcurrent
  | cons next rest ih =>
      obtain ⟨hnext, hrest⟩ := List.forall_mem_cons.1 hspans
      rw [mergeFrom]
      split
      · refine ih ⟨?_, Nat.max_le.2 ⟨hcurrent.stop_le, hnext.stop_le⟩⟩ hrest
        exact Nat.lt_of_lt_of_le hcurrent.nonempty (Nat.le_max_left _ _)
      · exact List.forall_mem_cons.2 ⟨hcurrent, ih hnext hrest⟩

theorem within_merge {spans : List Span} (hspans : ∀ span ∈ spans, span.Within size) :
    ∀ span ∈ merge spans, span.Within size := by
  cases spans with
  | nil => simp [merge]
  | cons first rest =>
      obtain ⟨hfirst, hrest⟩ := List.forall_mem_cons.1 hspans
      exact within_mergeFrom hfirst hrest

end Span

namespace Range

variable {size : Nat}

/-- A part that asks for more than there is gets what there is. -/
theorem stop_le_of_span? {part : Text} {span : Span} (hspan : span? size part = some span) :
    span.stop ≤ size := by
  rw [span?] at hspan
  split at hspan
  · simp at hspan
  · split at hspan
    · obtain ⟨length, _, rfl⟩ := Option.map_eq_some_iff.1 hspan
      exact Nat.le_refl size
    · obtain ⟨first, _, rfl⟩ := Option.map_eq_some_iff.1 hspan
      exact Nat.le_refl size
    · split at hspan
      · obtain rfl := Option.some.inj hspan
        simp only
        split
        · omega
        · exact Nat.le_refl size
      · simp at hspan

theorem eq_merge_of_check {ranges spans : List Span} (hcheck : check size ranges = .ok spans) :
    ranges ≠ [] ∧ (∀ span ∈ ranges, span.start < span.stop) ∧
      spans = Span.merge (ranges.mergeSort Span.before) := by
  rw [check] at hcheck
  split at hcheck
  · simp at hcheck
  rename_i hsome
  split at hcheck
  · simp at hcheck
  split at hcheck
  · simp at hcheck
  rename_i hempty
  refine ⟨hsome, fun span hspan => Nat.lt_of_not_le fun hstop => ?_, (Except.ok.inj hcheck).symm⟩
  exact hempty (List.any_eq_true.2 ⟨span, hspan, decide_eq_true hstop⟩)

/-- The spans that a range header asks for, in its own order. -/
def requested (size : Nat) (header : Text) : List Span :=
  match (Text.cut '=' header).2 with
  | some parts => (parts.splitOn ',').filterMap (span? size)
  | none => []

theorem stop_le_of_mem_requested {header : Text} {span : Span}
    (hspan : span ∈ requested size header) : span.stop ≤ size := by
  rw [requested] at hspan
  split at hspan
  · obtain ⟨part, _, hpart⟩ := List.mem_filterMap.1 hspan
    exact stop_le_of_span? hpart
  · simp at hspan

theorem check_of_read {header : Text} {spans : List Span}
    (hread : read size header = .ok (some spans)) :
    check size (requested size header) = .ok spans := by
  rw [requested]
  rw [read] at hread
  split at hread
  · simp at hread
  · rename_i parts hcut
    split at hread
    · simp at hread
    split at hread
    · simp at hread
    rw [hcut]
    simp only
    cases hcheck : check size ((parts.splitOn ',').filterMap (span? size)) with
    | error error => simp [hcheck, Except.map] at hread
    | ok checked =>
        rw [hcheck] at hread
        rw [Option.some.inj (Except.ok.inj hread)]

/-- **The spans that answer a range header lie in the content.** -/
theorem within_of_read {header : Text} {spans : List Span}
    (hread : read size header = .ok (some spans)) : ∀ span ∈ spans, span.Within size := by
  obtain ⟨_, hnonempty, rfl⟩ := eq_merge_of_check (check_of_read hread)
  refine Span.within_merge fun span hspan => ?_
  rw [List.mem_mergeSort] at hspan
  exact ⟨hnonempty span hspan, stop_le_of_mem_requested hspan⟩

end Range

end SpaServer
