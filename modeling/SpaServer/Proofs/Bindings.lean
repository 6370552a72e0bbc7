import Mathlib.Data.List.Basic
import Mathlib.Data.List.Induction
import SpaServer.Bindings

/-!
# Which binding wins

Names are looked up without regard to case, so several of them can agree. In the given values the
first of them wins and in the environment the last. A list of pairs that are bound one after the
other is different: a name keeps the place where it was bound first and the value to which it was
bound last, so the name that wins is the one whose first place comes last.
-/

namespace SpaServer.Bindings

variable {α : Type}

def names (bindings : Bindings α) : List Text := bindings.map (·.1)

def Has (key : Text) (bindings : Bindings α) : Prop :=
  ∃ name ∈ names bindings, Text.lower name = key

/-- Whether `value` belongs to the first name that is `key` in lower case. -/
def IsFirst (key : Text) (value : α) (bindings : Bindings α) : Prop :=
  ∃ before name after, bindings = before ++ (name, value) :: after ∧ Text.lower name = key ∧
    ¬ Has key before

/-- Whether `value` belongs to the last name that is `key` in lower case. -/
def IsLast (key : Text) (value : α) (bindings : Bindings α) : Prop :=
  ∃ before name after, bindings = before ++ (name, value) :: after ∧ Text.lower name = key ∧
    ¬ Has key after

/-- Of the names that are `key` in lower case `name` is the one whose first place comes last. -/
structure IsNewest (key name : Text) (names : List Text) : Prop where
  mem : name ∈ names
  lower : Text.lower name = key
  newest : ∀ other ∈ names, Text.lower other = key → names.idxOf other ≤ names.idxOf name

/-- Whether `value` is the last value of the newest of the names that are `key` in lower case. -/
def IsNewestValue (key : Text) (value : α) (pairs : List (Text × α)) : Prop :=
  ∃ name, IsNewest key name (names pairs) ∧ pairs.reverse.lookup name = some value

/-! ### The first and the last of the names that agree -/

theorem has_cons {key : Text} {entry : Text × α} {rest : Bindings α} :
    Has key (entry :: rest) ↔ Text.lower entry.1 = key ∨ Has key rest := by
  simp [Has, names]

theorem has_append {key : Text} {front back : Bindings α} :
    Has key (front ++ back) ↔ Has key front ∨ Has key back := by
  simp only [Has, names, List.map_append, List.mem_append]
  grind

theorem not_has_iff {key : Text} {bindings : Bindings α} :
    ¬ Has key bindings ↔ ∀ entry ∈ bindings, (!(Text.lower entry.1 == key)) = true := by
  simp only [Has, names, List.mem_map, Bool.not_eq_true', beq_eq_false_iff_ne]
  grind

theorem firstFolded?_eq_some_iff {key : Text} {value : α} {bindings : Bindings α} :
    firstFolded? key bindings = some value ↔ IsFirst key value bindings := by
  simp only [firstFolded?, Option.map_eq_some_iff, List.find?_eq_some_iff_append, beq_iff_eq,
    ← not_has_iff, IsFirst]
  constructor
  · rintro ⟨⟨name, _⟩, ⟨hname, before, after, hsplit, hbefore⟩, rfl⟩
    exact ⟨before, name, after, hsplit, hname, hbefore⟩
  · rintro ⟨before, name, after, hsplit, hname, hbefore⟩
    exact ⟨(name, value), ⟨hname, before, after, hsplit, hbefore⟩, rfl⟩

theorem firstFolded?_eq_none_iff {key : Text} {bindings : Bindings α} :
    firstFolded? key bindings = none ↔ ¬ Has key bindings := by
  rw [firstFolded?, Option.map_eq_none_iff, List.find?_eq_none, not_has_iff]
  simp

theorem lastFolded?_eq {key : Text} {bindings : Bindings α} :
    lastFolded? key bindings = firstFolded? key bindings.reverse := by
  rw [lastFolded?, firstFolded?, List.findRev?_eq_find?_reverse]

theorem has_reverse {key : Text} {bindings : Bindings α} :
    Has key bindings.reverse ↔ Has key bindings := by
  simp [Has, names]

theorem lastFolded?_eq_some_iff {key : Text} {value : α} {bindings : Bindings α} :
    lastFolded? key bindings = some value ↔ IsLast key value bindings := by
  rw [lastFolded?_eq, firstFolded?_eq_some_iff]
  constructor
  · rintro ⟨before, name, after, hsplit, hname, hbefore⟩
    refine ⟨after.reverse, name, before.reverse, ?_, hname, mt has_reverse.1 hbefore⟩
    rw [← List.reverse_reverse bindings, hsplit]
    simp
  · rintro ⟨before, name, after, rfl, hname, hafter⟩
    exact ⟨after.reverse, name, before.reverse, by simp, hname, mt has_reverse.1 hafter⟩

theorem lastFolded?_eq_none_iff {key : Text} {bindings : Bindings α} :
    lastFolded? key bindings = none ↔ ¬ Has key bindings := by
  rw [lastFolded?_eq, firstFolded?_eq_none_iff, has_reverse]

theorem exists_firstFolded? {key : Text} {bindings : Bindings α} (hhas : Has key bindings) :
    ∃ value, firstFolded? key bindings = some value :=
  Option.ne_none_iff_exists'.1 fun hnone => firstFolded?_eq_none_iff.1 hnone hhas

theorem exists_lastFolded? {key : Text} {bindings : Bindings α} (hhas : Has key bindings) :
    ∃ value, lastFolded? key bindings = some value :=
  Option.ne_none_iff_exists'.1 fun hnone => lastFolded?_eq_none_iff.1 hnone hhas

/-! ### Binding one name -/

@[simp]
theorem set_nil (name : Text) (value : α) : set name value [] = [(name, value)] := rfl

theorem set_cons (name : Text) (value : α) (entry : Text × α) (rest : Bindings α) :
    set name value (entry :: rest) =
      if entry.1 = name then (name, value) :: rest else entry :: set name value rest := rfl

/-- A name bound again keeps its place, and a new one comes last. -/
theorem names_set (name : Text) (value : α) (bindings : Bindings α) :
    names (set name value bindings) =
      if name ∈ names bindings then names bindings else names bindings ++ [name] := by
  induction bindings with
  | nil => rfl
  | cons entry rest ih =>
      rw [set_cons]
      by_cases hentry : entry.1 = name
      · simp [names, hentry]
      · rw [if_neg hentry]
        simp only [names, List.map_cons, List.mem_cons, Ne.symm hentry, false_or] at ih ⊢
        rw [ih]
        by_cases hold : name ∈ rest.map (·.1) <;> simp [hold]

theorem set_of_notMem {name : Text} {bindings : Bindings α} (hnew : name ∉ names bindings)
    (value : α) : set name value bindings = bindings ++ [(name, value)] := by
  induction bindings with
  | nil => rfl
  | cons entry rest ih =>
      simp only [names, List.map_cons, List.mem_cons, not_or] at hnew
      rw [set_cons, if_neg (Ne.symm hnew.1), ih hnew.2, List.cons_append]

theorem nodup_names_set {bindings : Bindings α} (hnodup : (names bindings).Nodup) (name : Text)
    (value : α) : (names (set name value bindings)).Nodup := by
  rw [names_set]
  split
  next => exact hnodup
  next hnew => exact List.nodup_append.2 ⟨hnodup, by simp, by grind⟩

theorem mem_names_set {name other : Text} {value : α} {bindings : Bindings α} :
    other ∈ names (set name value bindings) ↔ other = name ∨ other ∈ names bindings := by
  rw [names_set]
  grind

theorem lookup_eq_none_iff {name : Text} {bindings : Bindings α} :
    bindings.lookup name = none ↔ name ∉ names bindings := by
  simp only [List.lookup_eq_none_iff, names, List.mem_map, bne_iff_ne]
  grind

theorem lookup_filter {keep : Text → Bool} {name : Text} (hkeep : keep name = true)
    (bindings : Bindings α) :
    List.lookup name (bindings.filter fun entry => keep entry.1) = bindings.lookup name := by
  induction bindings with
  | nil => rfl
  | cons entry rest ih =>
      obtain ⟨first, value⟩ := entry
      rw [List.filter_cons, List.lookup_cons]
      split
      next => rw [List.lookup_cons, ih]
      next hdrop =>
        have hne : (name == first) = false := beq_false_of_ne fun heq => hdrop (heq ▸ hkeep)
        rw [ih, hne]

/-- A name that gets another value is found where it was found before. -/
theorem findRev?_set_of_mem {name : Text} {bindings : Bindings α} (p : Text → Bool)
    (hnodup : (names bindings).Nodup) (hold : name ∈ names bindings) (value : α) :
    (set name value bindings).findRev? (fun entry => p entry.1) =
      (bindings.findRev? fun entry => p entry.1).map fun entry =>
        if entry.1 = name then (name, value) else entry := by
  induction bindings with
  | nil => simp [names] at hold
  | cons entry rest ih =>
      simp only [names, List.map_cons, List.nodup_cons, List.mem_cons] at hnodup hold
      rw [set_cons]
      by_cases hentry : entry.1 = name
      · rw [if_pos hentry, List.findRev?, List.findRev?]
        cases hrest : rest.findRev? fun entry => p entry.1 with
        | none =>
            simp only [hentry]
            cases p name <;> simp [hentry]
        | some found =>
            rw [List.findRev?_eq_find?_reverse] at hrest
            have hmem : found ∈ rest := List.mem_reverse.1 (List.mem_of_find?_eq_some hrest)
            have hne : found.1 ≠ name := fun heq =>
              hnodup.1 (hentry ▸ heq ▸ List.mem_map_of_mem hmem)
            simp [hne]
      · rw [if_neg hentry, List.findRev?, List.findRev?,
          ih hnodup.2 (hold.resolve_left (Ne.symm hentry))]
        cases rest.findRev? fun entry => p entry.1 with
        | none => cases p entry.1 <;> simp [hentry]
        | some found => rfl

theorem filter_set (keep : Text → Bool) (name : Text) (value : α) (bindings : Bindings α) :
    (set name value bindings).filter (fun entry => keep entry.1) =
      if keep name then set name value (bindings.filter fun entry => keep entry.1)
      else bindings.filter fun entry => keep entry.1 := by
  induction bindings with
  | nil => by_cases hname : keep name <;> simp [hname]
  | cons entry rest ih =>
      rw [set_cons]
      by_cases hentry : entry.1 = name <;> by_cases hname : keep name <;>
        by_cases hkeep : keep entry.1 <;> simp_all [set_cons]

/-! ### Binding one name after the other -/

theorem ofList_concat (pairs : List (Text × α)) (name : Text) (value : α) :
    ofList (pairs ++ [(name, value)]) = set name value (ofList pairs) := by
  rw [ofList, List.foldl_append]
  rfl

theorem names_concat (pairs : List (Text × α)) (name : Text) (value : α) :
    names (pairs ++ [(name, value)]) = names pairs ++ [name] := by
  simp [names]

theorem nodup_names_ofList (pairs : List (Text × α)) : (names (ofList pairs)).Nodup := by
  induction pairs using List.reverseRecOn with
  | nil => exact List.nodup_nil
  | append_singleton pairs pair ih =>
      rw [ofList_concat]
      exact nodup_names_set ih _ _

theorem mem_names_ofList {name : Text} {pairs : List (Text × α)} :
    name ∈ names (ofList pairs) ↔ name ∈ names pairs := by
  induction pairs using List.reverseRecOn with
  | nil => rfl
  | append_singleton pairs pair ih =>
      rw [ofList_concat, mem_names_set, names_concat]
      grind

theorem IsNewest.eq {key name other : Text} {names : List Text} (hname : IsNewest key name names)
    (hother : IsNewest key other names) : name = other :=
  (List.idxOf_inj hname.mem).1 (Nat.le_antisymm (hother.newest name hname.mem hname.lower)
    (hname.newest other hother.mem hother.lower))

/-- A name that is not new, or that does not agree with `key`, changes nothing. -/
theorem IsNewest.concat {key name other : Text} {names : List Text}
    (hname : IsNewest key name names)
    (hother : other ∈ names ∨ Text.lower other ≠ key) : IsNewest key name (names ++ [other]) where
  mem := List.mem_append_left _ hname.mem
  lower := hname.lower
  newest third hthird hlower := by
    have hmem : third ∈ names := by grind
    rw [List.idxOf_append_of_mem hmem, List.idxOf_append_of_mem hname.mem]
    exact hname.newest third hmem hlower

theorem isNewest_concat {key name : Text} {names : List Text} (hnew : name ∉ names)
    (hlower : Text.lower name = key) : IsNewest key name (names ++ [name]) where
  mem := by simp
  lower := hlower
  newest other hother _ := by
    rw [List.idxOf_append_of_notMem hnew]
    grind

theorem has_concat {key name : Text} {value : α} {pairs : List (Text × α)} :
    Has key (pairs ++ [(name, value)]) ↔ Has key pairs ∨ Text.lower name = key := by
  rw [has_append, has_cons]
  simp [Has, names]

theorem lookup_reverse_concat (pairs : List (Text × α)) (name other : Text) (value : α) :
    (pairs ++ [(name, value)]).reverse.lookup other =
      if other = name then some value else pairs.reverse.lookup other := by
  rw [List.reverse_append, List.reverse_singleton, List.singleton_append, List.lookup_cons]
  grind

theorem findRev?_concat (p : Text → Bool) (bindings : Bindings α) (name : Text) (value : α) :
    (bindings ++ [(name, value)]).findRev? (fun entry => p entry.1) =
      if p name then some (name, value) else bindings.findRev? fun entry => p entry.1 := by
  rw [List.findRev?_eq_find?_reverse, List.findRev?_eq_find?_reverse, List.reverse_append,
    List.reverse_singleton, List.singleton_append, List.find?_cons]
  cases p name <;> rfl

/-- What is found among pairs that are bound one after the other. -/
theorem findRev?_ofList (key : Text) (pairs : List (Text × α)) :
    (∃ name value, (ofList pairs).findRev? (fun entry => Text.lower entry.1 == key) =
        some (name, value) ∧
      IsNewest key name (names pairs) ∧ pairs.reverse.lookup name = some value) ∨
    (ofList pairs).findRev? (fun entry => Text.lower entry.1 == key) = none ∧ ¬ Has key pairs := by
  induction pairs using List.reverseRecOn with
  | nil => exact Or.inr ⟨rfl, by simp [Has, names]⟩
  | append_singleton pairs pair ih =>
      obtain ⟨name, value⟩ := pair
      simp only [ofList_concat, names_concat, lookup_reverse_concat, has_concat]
      -- A name bound before keeps its place, so the winner stays, perhaps with another value.
      by_cases hold : name ∈ names pairs
      · rw [findRev?_set_of_mem (Text.lower · == key) (nodup_names_ofList pairs)
          (mem_names_ofList.2 hold)]
        rcases ih with ⟨winner, last, hfound, hnewest, hlast⟩ | ⟨hfound, hnone⟩
        · refine Or.inl ⟨winner, if winner = name then value else last, ?_,
            hnewest.concat (Or.inl hold), ?_⟩
          · rw [hfound, Option.map_some]
            split <;> simp_all
          · rw [hlast]
            exact (apply_ite some _ _ _).symm
        · have hlower : Text.lower name ≠ key := fun hlower => hnone ⟨name, hold, hlower⟩
          exact Or.inr ⟨by rw [hfound, Option.map_none], not_or.2 ⟨hnone, hlower⟩⟩
      -- A new name is the winner if it agrees with `key`, and else it changes nothing.
      · rw [set_of_notMem (mt mem_names_ofList.1 hold), findRev?_concat (Text.lower · == key)]
        by_cases hlower : Text.lower name = key
        · exact Or.inl ⟨name, value, if_pos (beq_iff_eq.2 hlower), isNewest_concat hold hlower,
            if_pos rfl⟩
        · rw [if_neg (mt beq_iff_eq.1 hlower)]
          rcases ih with ⟨winner, last, hfound, hnewest, hlast⟩ | ⟨hfound, hnone⟩
          · have hne : winner ≠ name := fun heq => hold (heq ▸ hnewest.mem)
            exact Or.inl ⟨winner, last, hfound, hnewest.concat (Or.inr hlower),
              by rw [if_neg hne, hlast]⟩
          · exact Or.inr ⟨hfound, not_or.2 ⟨hnone, hlower⟩⟩

theorem lastFolded?_ofList_eq_some_iff {key : Text} {value : α} {pairs : List (Text × α)} :
    lastFolded? key (ofList pairs) = some value ↔ IsNewestValue key value pairs := by
  rw [lastFolded?]
  rcases findRev?_ofList key pairs with ⟨name, last, hfound, hnewest, hlast⟩ | ⟨hfound, hnone⟩
  · rw [hfound, Option.map_some, Option.some.injEq]
    constructor
    · rintro rfl
      exact ⟨name, hnewest, hlast⟩
    · rintro ⟨other, hother, hvalue⟩
      rw [hnewest.eq hother, hvalue] at hlast
      exact (Option.some.inj hlast).symm
  · rw [hfound]
    refine iff_of_false nofun ?_
    rintro ⟨name, hnewest, -⟩
    exact hnone ⟨name, hnewest.mem, hnewest.lower⟩

/-! ### Names that do not matter -/

/-- The bindings of names that are `key` in lower case. -/
def matching (key : Text) (bindings : Bindings α) : Bindings α :=
  bindings.filter fun entry => Text.lower entry.1 == key

theorem firstFolded?_filter {key : Text} {keep : Text → Bool}
    (hkeep : ∀ name, Text.lower name = key → keep name = true) (bindings : Bindings α) :
    firstFolded? key (bindings.filter fun entry => keep entry.1) = firstFolded? key bindings := by
  rw [firstFolded?, firstFolded?, List.find?_filter]
  congr 2
  funext entry
  by_cases hlower : Text.lower entry.1 = key
  · simp [hlower, hkeep entry.1 hlower]
  · simp [hlower]

theorem lastFolded?_filter {key : Text} {keep : Text → Bool}
    (hkeep : ∀ name, Text.lower name = key → keep name = true) (bindings : Bindings α) :
    lastFolded? key (bindings.filter fun entry => keep entry.1) = lastFolded? key bindings := by
  rw [lastFolded?_eq, lastFolded?_eq, ← List.filter_reverse, firstFolded?_filter hkeep]

theorem firstFolded?_congr {key : Text} {first second : Bindings α}
    (hsame : matching key first = matching key second) :
    firstFolded? key first = firstFolded? key second := by
  have hkeep : ∀ name, Text.lower name = key → (Text.lower name == key) = true :=
    fun _ => beq_iff_eq.2
  rw [← firstFolded?_filter hkeep first, ← firstFolded?_filter hkeep second]
  exact congrArg (firstFolded? key) hsame

theorem lastFolded?_congr {key : Text} {first second : Bindings α}
    (hsame : matching key first = matching key second) :
    lastFolded? key first = lastFolded? key second := by
  rw [lastFolded?_eq, lastFolded?_eq]
  refine firstFolded?_congr ?_
  rw [matching, matching, List.filter_reverse, List.filter_reverse]
  exact congrArg List.reverse hsame

end SpaServer.Bindings
