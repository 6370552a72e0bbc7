import SpaServer.Proofs.Http.Range

/-!
# What a range header asks for

The spans that answer a range header are those that it asks for, put in order and joined. Joining
neither adds a position nor leaves one out, and between two joined spans there is always a gap. What
one part of the header asks for is said of positions here, with both of its ends in it, and not of
the half-open spans that it is read as.
-/

namespace SpaServer

namespace Span

variable {current : Span} {spans : List Span} {position : Nat}

/-! ### Spans in order -/

/-- Whether each span starts where the one before it starts or behind that. -/
def InOrder (spans : List Span) : Prop := spans.Pairwise fun a b => a.start ≤ b.start

/-- Whether there is a gap between each span and the next one. -/
def Separated (spans : List Span) : Prop := spans.Pairwise fun a b => a.stop < b.start

def Covered (spans : List Span) (position : Nat) : Prop := ∃ span ∈ spans, span.Covers position

theorem covered_cons :
    Covered (current :: spans) position ↔ current.Covers position ∨ Covered spans position := by
  simp [Covered]

theorem covered_mergeSort : Covered (spans.mergeSort before) position ↔ Covered spans position := by
  simp only [Covered, List.mem_mergeSort]

theorem inOrder_mergeSort (spans : List Span) : InOrder (spans.mergeSort before) := by
  have htrans : ∀ a b c : Span, before a b = true → before b c = true → before a c = true := by
    intro a b c hab hbc
    simp only [before, Bool.or_eq_true, Bool.and_eq_true, decide_eq_true_eq] at hab hbc ⊢
    omega
  have htotal : ∀ a b : Span, (before a b || before b a) = true := by
    intro a b
    simp only [before, Bool.or_eq_true, Bool.and_eq_true, decide_eq_true_eq]
    omega
  refine (List.pairwise_mergeSort htrans htotal spans).imp fun {a b} hbefore => ?_
  simp only [before, Bool.or_eq_true, Bool.and_eq_true, decide_eq_true_eq] at hbefore
  omega

/-! ### Joining -/

/-- In spans in order the first two can become one that starts where the first does. -/
theorem InOrder.join {next : Span} (horder : InOrder (current :: next :: spans)) (stop : Nat) :
    InOrder (⟨current.start, stop⟩ :: spans) := by
  obtain ⟨hfirst, hnext⟩ := List.pairwise_cons.1 horder
  exact List.pairwise_cons.2 ⟨fun span hspan => hfirst span (List.mem_cons_of_mem _ hspan),
    (List.pairwise_cons.1 hnext).2⟩

theorem mergeFrom_ne_nil (current : Span) (spans : List Span) : mergeFrom current spans ≠ [] := by
  induction spans generalizing current with
  | nil => simp [mergeFrom]
  | cons next rest ih =>
      rw [mergeFrom]
      split
      · exact ih _
      · simp

/-- Joined spans start no earlier than the first one. -/
theorem start_le_of_mem_mergeFrom (horder : InOrder (current :: spans)) :
    ∀ span ∈ mergeFrom current spans, current.start ≤ span.start := by
  induction spans generalizing current with
  | nil => simp [mergeFrom]
  | cons next rest ih =>
      obtain ⟨hfirst, hnext⟩ := List.pairwise_cons.1 horder
      rw [mergeFrom]
      split
      · exact ih (horder.join _)
      · refine List.forall_mem_cons.2 ⟨Nat.le_refl _, fun span hspan => ?_⟩
        exact Nat.le_trans (hfirst next List.mem_cons_self) (ih hnext span hspan)

theorem separated_mergeFrom (horder : InOrder (current :: spans)) :
    Separated (mergeFrom current spans) := by
  induction spans generalizing current with
  | nil => exact List.pairwise_singleton _ _
  | cons next rest ih =>
      obtain ⟨_, hnext⟩ := List.pairwise_cons.1 horder
      rw [mergeFrom]
      split
      · exact ih (horder.join _)
      · rename_i hgap
        refine List.pairwise_cons.2 ⟨fun span hspan => ?_, ih hnext⟩
        have hstart := start_le_of_mem_mergeFrom hnext span hspan
        omega

/-- Two spans that overlap or touch cover together what the joined one covers. -/
theorem covers_join {next : Span} (hstart : current.start ≤ next.start)
    (htouch : next.start ≤ current.stop) :
    Covers ⟨current.start, max current.stop next.stop⟩ position ↔
      current.Covers position ∨ next.Covers position := by
  simp only [Covers]
  omega

theorem covered_mergeFrom (horder : InOrder (current :: spans)) :
    Covered (mergeFrom current spans) position ↔ Covered (current :: spans) position := by
  induction spans generalizing current with
  | nil => rfl
  | cons next rest ih =>
      obtain ⟨hfirst, hnext⟩ := List.pairwise_cons.1 horder
      rw [mergeFrom]
      split
      · rename_i htouch
        rw [ih (horder.join _), covered_cons, covered_cons, covered_cons,
          covers_join (hfirst next List.mem_cons_self) htouch, or_assoc]
      · rw [covered_cons, ih hnext, ← covered_cons]

/-- **Spans in order are joined to spans that cover the same positions.** -/
theorem covered_merge (horder : InOrder spans) :
    Covered (merge spans) position ↔ Covered spans position := by
  cases spans with
  | nil => rfl
  | cons first rest => exact covered_mergeFrom horder

/-- **Spans in order are joined to spans with gaps between them.** -/
theorem separated_merge (horder : InOrder spans) : Separated (merge spans) := by
  cases spans with
  | nil => exact List.Pairwise.nil
  | cons first rest => exact separated_mergeFrom horder

end Span

namespace Range

variable {size : Nat} {header part : Text} {position : Nat}

/-! ### Positions that are asked for -/

/-- Whether a part of a range header asks for a position of a content of the given size. -/
inductive Wants (size : Nat) (part : Text) (position : Nat) : Prop
  /-- All positions from the first to the last one, as far as there are so many. -/
  | between {start stop : Text} {first last : Int}
      (hpart : Text.cut '-' (Text.strip part) = (start, some stop))
      (hfirst : Text.toInt? (Text.strip start) = some first)
      (hlast : Text.toInt? (Text.strip stop) = some last) (hfrom : first ≤ position)
      (hto : position ≤ last) (hsize : position < size)
  /-- All positions from the first one on. -/
  | onward {start stop : Text} {first : Int}
      (hpart : Text.cut '-' (Text.strip part) = (start, some stop))
      (hfirst : Text.toInt? (Text.strip start) = some first) (hlast : Text.strip stop = [])
      (hfrom : first ≤ position) (hsize : position < size)
  /-- So many positions at the end. -/
  | final {start stop : Text} {count : Int}
      (hpart : Text.cut '-' (Text.strip part) = (start, some stop))
      (hfirst : Text.strip start = []) (hcount : Text.toInt? (Text.strip stop) = some count)
      (hfrom : (size : Int) - count ≤ position) (hsize : position < size)

theorem ne_nil_of_toInt? {text : Text} {n : Int} (hread : Text.toInt? text = some n) :
    text ≠ [] := by
  rintro rfl
  exact absurd hread (by simp [show Text.toInt? [] = none by decide])

/-- **The span of a part covers the positions that the part asks for.** -/
theorem covers_span? : (∃ span, span? size part = some span ∧ span.Covers position) ↔
    Wants size part position := by
  constructor
  · rintro ⟨span, hspan, hstart, hstop⟩
    rw [span?] at hspan
    split at hspan
    · simp at hspan
    · rename_i start stop hpart
      split at hspan
      · rename_i hfirst
        obtain ⟨count, hcount, rfl⟩ := Option.map_eq_some_iff.1 hspan
        exact .final hpart hfirst hcount (Int.toNat_le.1 hstart) hstop
      · rename_i hlast _
        obtain ⟨first, hfirst, rfl⟩ := Option.map_eq_some_iff.1 hspan
        exact .onward hpart hfirst hlast (Int.toNat_le.1 hstart) hstop
      · split at hspan
        · rename_i first last hfirst hlast
          obtain rfl := Option.some.inj hspan
          simp only at hstart hstop
          have hto : (position : Int) ≤ last ∧ position < size := by
            split at hstop <;> omega
          exact .between hpart hfirst hlast (Int.toNat_le.1 hstart) hto.1 hto.2
        · simp at hspan
  · intro hwants
    cases hwants with
    | between hpart hfirst hlast hfrom hto hsize =>
        obtain ⟨_, _, hstart⟩ := List.exists_cons_of_ne_nil (ne_nil_of_toInt? hfirst)
        obtain ⟨_, _, hstop⟩ := List.exists_cons_of_ne_nil (ne_nil_of_toInt? hlast)
        rw [hstart] at hfirst
        rw [hstop] at hlast
        refine ⟨_, by simp only [span?, hpart, hstart, hstop, hfirst, hlast]; rfl, ?_, ?_⟩
        · exact Int.toNat_le.2 hfrom
        · simp only
          split <;> omega
    | onward hpart hfirst hlast hfrom hsize =>
        obtain ⟨_, _, hstart⟩ := List.exists_cons_of_ne_nil (ne_nil_of_toInt? hfirst)
        rw [hstart] at hfirst
        exact ⟨_, by simp only [span?, hpart, hstart, hlast, hfirst]; rfl, Int.toNat_le.2 hfrom,
          hsize⟩
    | final hpart hfirst hcount hfrom hsize =>
        exact ⟨_, by simp only [span?, hpart, hfirst, hcount]; rfl, Int.toNat_le.2 hfrom, hsize⟩

/-- Whether a range header asks for a position in one of its parts. -/
def Asks (size : Nat) (header : Text) (position : Nat) : Prop :=
  ∃ parts, (Text.cut '=' header).2 = some parts ∧
    ∃ part ∈ parts.splitOn ',', Wants size part position

theorem covered_requested :
    Span.Covered (requested size header) position ↔ Asks size header position := by
  rw [requested, Asks]
  cases hparts : (Text.cut '=' header).2 with
  | none => simp [Span.Covered]
  | some parts =>
      simp only [Span.Covered, List.mem_filterMap, Option.some.injEq, exists_eq_left',
        ← covers_span?]
      constructor
      · rintro ⟨span, ⟨part, hpart, hspan⟩, hcovers⟩
        exact ⟨part, hpart, span, hspan, hcovers⟩
      · rintro ⟨part, hpart, span, hspan, hcovers⟩
        exact ⟨span, ⟨part, hpart, hspan⟩, hcovers⟩

/-! ### Headers that are answered with spans -/

/-- **The spans that answer a range header have gaps between them and cover what it asks for.** -/
theorem joined_of_read {spans : List Span} (hread : read size header = .ok (some spans)) :
    spans ≠ [] ∧ Span.Separated spans ∧
      ∀ position, Span.Covered spans position ↔ Span.Covered (requested size header) position := by
  obtain ⟨hsome, _, rfl⟩ := eq_merge_of_check (check_of_read hread)
  have horder := Span.inOrder_mergeSort (requested size header)
  refine ⟨?_, Span.separated_merge horder, fun position => ?_⟩
  · cases hsorted : (requested size header).mergeSort Span.before with
    | nil =>
        have hlength : ((requested size header).mergeSort Span.before).length = _ :=
          List.length_mergeSort _
        rw [hsorted] at hlength
        exact absurd (List.length_eq_zero_iff.1 hlength.symm) hsome
    | cons first rest => exact Span.mergeFrom_ne_nil first rest
  · rw [Span.covered_merge horder, Span.covered_mergeSort]

end Range

end SpaServer
