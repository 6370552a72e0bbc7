import SpaServer.Proofs.EnvFile.Templates
import SpaServer.Proofs.Settings.Precedence
import SpaServer.Proofs.Text.Utf8

/-!
# What the environment can change

A process reads its settings from the environment in two ways only: a field takes the variable that
wins for its name, and a reference in the environment file asks for a variable by its exact name if
no key above has it. Two environments that agree on these give the same settings, whatever else they
hold and in whatever order. And what a reference finds is taken as it stands: the environment fills
templates in that the file alone has settled, so no text of the environment is read as a reference.
-/

namespace SpaServer.Settings

open Bindings (IsLast)

/-- Whether two environments agree on everything that the settings are read from: on the value that
wins for each field, if there is one, and on each variable that a reference in the environment file
asks for. -/
structure SameDoors (tree : Node) (environment other : Environment) : Prop where
  winning : ∀ (field : Field) (value : Text),
    IsLast field.key value environment ↔ IsLast field.key value other
  asked : ∀ text : Text, tree.envFile? = .ok (some text.utf8) →
    ∀ name, EnvFile.Asks (EnvFile.bindings (EnvFile.dropMark (EnvFile.unifyLineEnds text))) name →
      environment.lookup name = other.lookup name

variable {tree : Node} {environment other : Environment}

theorem SameDoors.lastFolded?_eq (hsame : SameDoors tree environment other) (field : Field) :
    Bindings.lastFolded? field.key environment = Bindings.lastFolded? field.key other := by
  apply Option.ext
  intro value
  rw [Bindings.lastFolded?_eq_some_iff, Bindings.lastFolded?_eq_some_iff]
  exact hsame.winning field value

theorem SameDoors.ofSources_eq (hsame : SameDoors tree environment other)
    (given : List (Text × Value)) (file : Bindings (Option Text)) :
    ofSources ⟨given, environment, file⟩ = ofSources ⟨given, other, file⟩ := by
  rw [ofSources, ofSources]
  apply congrArg
  funext field
  simp only [Sources.value?, hsame.lastFolded?_eq field]

theorem SameDoors.read_eq (hsame : SameDoors tree environment other) {file : Option Bytes}
    (hfile : tree.envFile? = .ok file) :
    read .none environment file = read .none other file := by
  cases file with
  | none => exact hsame.ofSources_eq [] []
  | some content =>
      by_cases htext : ∃ text : Text, text.utf8 = content
      · obtain ⟨text, rfl⟩ := htext
        rw [read_utf8, read_utf8, hsame.ofSources_eq,
          EnvFile.values_congr (hsame.asked text hfile)]
      · push Not at htext
        obtain ⟨fault, hfault⟩ := Utf8.exists_fault_iff.2 htext
        rw [read_of_fault hfault, read_of_fault hfault]

theorem ofProcess_of_envFile {file : Option Bytes} (hfile : tree.envFile? = .ok file)
    (environment : Environment) :
    ofProcess environment tree = (read .none environment file).mapError .settings := by
  rw [ofProcess, hfile]
  simp only
  cases read .none environment file <;> rfl

/-- **The environment reaches the settings only through the variables that win for a field and those
that the environment file asks for**, and what is found there is never looked through again. -/
theorem ofProcess_doors (tree : Node) :
    (∀ environment other, SameDoors tree environment other →
        ofProcess environment tree = ofProcess other tree) ∧
      ∀ text : Text, tree.envFile? = .ok (some text.utf8) →
        ∃ templates, List.Forall₂ EnvFile.IsTemplateOf
            (EnvFile.bindings (EnvFile.dropMark (EnvFile.unifyLineEnds text))) templates ∧
          ∀ environment, ofProcess environment tree =
            (ofSources ⟨[], environment, EnvFile.fill environment templates⟩).mapError
              .settings := by
  constructor
  · intro environment other hsame
    cases hfile : tree.envFile? with
    | error errno => rw [ofProcess, ofProcess, hfile]
    | ok file =>
        rw [ofProcess_of_envFile hfile, ofProcess_of_envFile hfile, hsame.read_eq hfile]
  · intro text hfile
    obtain ⟨templates, htemplates⟩ := EnvFile.exists_templates
      (EnvFile.bindings (EnvFile.dropMark (EnvFile.unifyLineEnds text)))
    refine ⟨templates, htemplates, fun environment => ?_⟩
    rw [ofProcess_of_envFile hfile, read_utf8, EnvFile.values_eq_fill htemplates]

/-! ### A file that hides a variable -/

/-- A file whose deployment refers to a variable and to the key above, which hides a variable. -/
def hidingFile : Text := "X=x\nGAE_ENV=$\x7bB\x7d$\x7bX\x7d".toList

/-- The variable that the file asks for, with a text that looks like a reference itself. -/
def fewVariables : Environment :=
  [("B".toList, "$\x7bX\x7d".toList), ("port".toList, "1".toList)]

def manyVariables : Environment :=
  [("X".toList, "y".toList), ("PORT".toList, "2".toList), ("Port".toList, "1".toList),
    ("A".toList, "a".toList), ("B".toList, "$\x7bX\x7d".toList)]

instance decidableAsks (name : Text) :
    (entries : List EnvFile.Binding) → Decidable (EnvFile.Asks entries name)
  | [] => .isFalse EnvFile.not_asks_nil
  | _ :: rest =>
    have := decidableAsks name rest
    decidable_of_iff _ EnvFile.asks_cons.symm

theorem envFile?_envFileOnly (content : Bytes) :
    (envFileOnly content).envFile? = .ok (some content) := by
  have hplain : (envFileOnly content).NoLinkAt (.inside [envFileName]) := by
    intro target
    simp [Node.at?, envFileOnly, Node.get?, Node.child?, Node.entries]
  rw [Node.envFile?_of_plain hplain]
  rfl

theorem sameDoors_hidingFile :
    SameDoors (envFileOnly hidingFile.utf8) fewVariables manyVariables where
  winning field value := by
    have hsame : Bindings.lastFolded? field.key fewVariables =
        Bindings.lastFolded? field.key manyVariables := by
      cases field <;> decide
    rw [← Bindings.lastFolded?_eq_some_iff, ← Bindings.lastFolded?_eq_some_iff, hsame]
  asked text htext name hasks := by
    rw [envFile?_envFileOnly] at htext
    obtain rfl : hidingFile = text :=
      Text.utf8_injective (Option.some.inj (Except.ok.inj htext))
    let entries := EnvFile.bindings (EnvFile.dropMark (EnvFile.unifyLineEnds hidingFile))
    have hchecked : ∀ name ∈ EnvFile.referred entries, EnvFile.Asks entries name →
        fewVariables.lookup name = manyVariables.lookup name := by
      decide +kernel
    exact hchecked name (EnvFile.mem_referred_of_asks hasks) hasks

theorem ofProcess_manyVariables :
    SameDoors (envFileOnly hidingFile.utf8) fewVariables manyVariables ∧
      ofProcess fewVariables (envFileOnly hidingFile.utf8) =
        ofProcess manyVariables (envFileOnly hidingFile.utf8) ∧
      ofProcess manyVariables (envFileOnly hidingFile.utf8) =
        .ok ⟨"$\x7bX\x7dx".toList, 1, defaultHost, .info⟩ ∧
      ∃ templates, List.Forall₂ EnvFile.IsTemplateOf
          (EnvFile.bindings (EnvFile.dropMark (EnvFile.unifyLineEnds hidingFile))) templates ∧
        ∀ environment, ofProcess environment (envFileOnly hidingFile.utf8) =
          (ofSources ⟨[], environment, EnvFile.fill environment templates⟩).mapError
            .settings := by
  have hfile := envFile?_envFileOnly hidingFile.utf8
  refine ⟨sameDoors_hidingFile, (ofProcess_doors _).1 _ _ sameDoors_hidingFile, ?_,
    (ofProcess_doors _).2 hidingFile hfile⟩
  rw [ofProcess_of_envFile hfile, read_utf8]
  decide +kernel

end SpaServer.Settings
