import SpaServer.EnvFile.Basic
import SpaServer.Proofs.Bindings

/-!
# What a value of an environment file depends on

References are replaced from top to bottom, and the keys are then bound one after the other, as
`values_eq` puts it. A value depends on the environment only through the names that it refers to and
that no key above has, and on the other keys of the file only through the names that it refers to:
keys that nothing refers to can be left out.
-/

namespace SpaServer.EnvFile

open Bindings (names ofList)

/-- The bindings of a file below those of `above`, each with its references replaced. -/
def replacedFrom (environment : Environment) (above : Bindings (Option Text)) :
    List Binding → List Binding
  | [] => []
  | entry :: rest =>
    (entry.1, entry.2.map (expand (referent? environment above))) ::
      replacedFrom environment (bind environment above entry) rest

/-- The bindings of a file in the order in which they stand there, each with its references
replaced. -/
def replaced (environment : Environment) (entries : List Binding) : List Binding :=
  replacedFrom environment [] entries

theorem values_eq (environment : Environment) (entries : List Binding) :
    values environment entries = ofList (replaced environment entries) := by
  have hfold : ∀ above, entries.foldl (bind environment) above =
      (replacedFrom environment above entries).foldl
        (fun bound pair => Bindings.set pair.1 pair.2 bound) above := by
    induction entries with
    | nil => exact fun above => rfl
    | cons entry rest ih => exact fun above => ih _
  exact hfold []

/-! ### Names that are referred to -/

def Piece.name? : Piece → Option Text
  | .literal _ => none
  | .reference name _ => some name

def references (value : Option Text) : List Text :=
  (pieces (value.getD [])).filterMap Piece.name?

def referred (entries : List Binding) : List Text :=
  entries.flatMap fun entry => references entry.2

/-- Whether a value of the file refers to a name that no key above it has. -/
def Asks (entries : List Binding) (name : Text) : Prop :=
  ∃ before entry after, entries = before ++ entry :: after ∧ name ∈ references entry.2 ∧
    name ∉ names before

theorem mem_referred_of_asks {entries : List Binding} {name : Text} (hasks : Asks entries name) :
    name ∈ referred entries := by
  obtain ⟨before, entry, after, rfl, hname, -⟩ := hasks
  exact List.mem_flatMap.2 ⟨entry, by simp, hname⟩

theorem not_asks_nil {name : Text} : ¬ Asks [] name := by
  rintro ⟨before, entry, after, hsplit, -⟩
  simp at hsplit

theorem asks_cons {entry : Binding} {rest : List Binding} {name : Text} :
    Asks (entry :: rest) name ↔ name ∈ references entry.2 ∨ name ≠ entry.1 ∧ Asks rest name := by
  constructor
  · rintro ⟨before, asking, after, hsplit, hname, hbefore⟩
    cases before with
    | nil =>
        obtain ⟨rfl, rfl⟩ := List.cons.inj hsplit
        exact Or.inl hname
    | cons first before =>
        obtain ⟨rfl, rfl⟩ := List.cons.inj hsplit
        simp only [names, List.map_cons, List.mem_cons, not_or] at hbefore
        exact Or.inr ⟨hbefore.1, before, asking, after, rfl, hname, hbefore.2⟩
  · rintro (hname | ⟨hne, before, asking, after, rfl, hname, hbefore⟩)
    · exact ⟨[], entry, rest, rfl, hname, List.not_mem_nil⟩
    · refine ⟨entry :: before, asking, after, rfl, hname, ?_⟩
      simp only [names, List.map_cons, List.mem_cons, not_or]
      exact ⟨hne, hbefore⟩

theorem map_expand_congr {first second : Text → Option Text} {value : Option Text}
    (hsame : ∀ name ∈ references value, first name = second name) :
    value.map (expand first) = value.map (expand second) := by
  cases value with
  | none => rfl
  | some value =>
      refine congrArg some (List.flatMap_congr fun piece hpiece => ?_)
      cases piece with
      | literal c => rfl
      | reference name fallback =>
          have hname : name ∈ references (some value) :=
            List.mem_filterMap.2 ⟨.reference name fallback, hpiece, rfl⟩
          rw [Piece.expand, Piece.expand, hsame name hname]

/-! ### The environment -/

theorem foldl_bind_congr {environment other : Environment} {entries : List Binding}
    {above : Bindings (Option Text)}
    (hsame : ∀ name, Asks entries name → name ∉ names above →
      environment.lookup name = other.lookup name) :
    entries.foldl (bind environment) above = entries.foldl (bind other) above := by
  induction entries generalizing above with
  | nil => rfl
  | cons entry rest ih =>
      have hbind : bind environment above entry = bind other above entry := by
        refine congrArg (above.set entry.1) (map_expand_congr fun name hname => ?_)
        rw [referent?, referent?]
        cases habove : above.lookup name with
        | some value => rfl
        | none =>
            exact hsame name ⟨[], entry, rest, rfl, hname, List.not_mem_nil⟩
              (Bindings.lookup_eq_none_iff.1 habove)
      rw [List.foldl_cons, List.foldl_cons, hbind]
      refine ih fun name ⟨before, asking, after, hsplit, hname, hbefore⟩ hnew => ?_
      rw [bind, Bindings.mem_names_set, not_or] at hnew
      refine hsame name ⟨entry :: before, asking, after, congrArg _ hsplit, hname, ?_⟩ hnew.2
      rw [names, List.map_cons, List.mem_cons, not_or]
      exact ⟨hnew.1, hbefore⟩

/-- The environment counts only where the file asks for it. -/
theorem values_congr {environment other : Environment} {entries : List Binding}
    (hsame : ∀ name, Asks entries name → environment.lookup name = other.lookup name) :
    values environment entries = values other entries :=
  foldl_bind_congr fun name hasks _ => hsame name hasks

/-! ### Keys that are left out -/

theorem filter_foldl_bind (environment : Environment) {keep : Text → Bool} {entries : List Binding}
    (hkeep : ∀ name ∈ referred (entries.filter fun entry => keep entry.1), keep name = true)
    (above : Bindings (Option Text)) :
    (entries.foldl (bind environment) above).filter (fun entry => keep entry.1) =
      (entries.filter fun entry => keep entry.1).foldl (bind environment)
        (above.filter fun entry => keep entry.1) := by
  induction entries generalizing above with
  | nil => rfl
  | cons entry rest ih =>
      rw [List.foldl_cons]
      by_cases hentry : keep entry.1 = true
      · rw [List.filter_cons, if_pos hentry] at hkeep ⊢
        have hbind : (bind environment above entry).filter (fun entry => keep entry.1) =
            bind environment (above.filter fun entry => keep entry.1) entry := by
          rw [bind, bind, Bindings.filter_set, if_pos hentry]
          refine congrArg (Bindings.set entry.1 · _) (map_expand_congr fun name hname => ?_)
          rw [referent?, referent?, Bindings.lookup_filter]
          exact hkeep name (List.mem_flatMap.2 ⟨entry, List.mem_cons_self, hname⟩)
        rw [List.foldl_cons, ← hbind]
        exact ih (fun name hname => hkeep name (List.mem_append_right _ hname)) _
      · rw [List.filter_cons, if_neg hentry] at hkeep ⊢
        rw [ih hkeep, bind, Bindings.filter_set, if_neg hentry]

/-- Keys that are referred to nowhere can be left out. -/
theorem filter_values (environment : Environment) {keep : Text → Bool} {entries : List Binding}
    (hkeep : ∀ name ∈ referred (entries.filter fun entry => keep entry.1), keep name = true) :
    (values environment entries).filter (fun entry => keep entry.1) =
      values environment (entries.filter fun entry => keep entry.1) :=
  filter_foldl_bind environment hkeep []

end SpaServer.EnvFile
