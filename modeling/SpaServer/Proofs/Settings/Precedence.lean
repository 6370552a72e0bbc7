import SpaServer.Proofs.EnvFile.Replacement
import SpaServer.Proofs.Settings.Fields
import SpaServer.Proofs.Settings.Reading

/-!
# Which source a setting is taken from

Every field takes its value from the first source that has one: the given values, the environment,
the environment file. Each source has its own rule for names that differ in case only, which
`Written.Takes` spells out. Sources of a lower rank and names of other fields never change a field,
except through the references of the environment file.
-/

namespace SpaServer.Settings

open Bindings (Has IsFirst IsLast IsNewestValue matching)

/-- What settings are read from, with the text of the environment file if there is one. -/
structure Written where
  given : Given
  environment : Environment
  file : Option Text

namespace Written

/-- The bindings that are written in the environment file, unless the given values leave it out. -/
def entries (written : Written) : List EnvFile.Binding :=
  match written.given.file? written.file with
  | none => []
  | some text => EnvFile.bindings (EnvFile.dropMark (EnvFile.unifyLineEnds text))

def read (written : Written) : Except Error Settings :=
  Settings.read written.given written.environment (written.file.map Text.utf8)

def replaced (written : Written) : List EnvFile.Binding :=
  EnvFile.replaced written.environment written.entries

/-- Whether a field takes a value, or none and is left to its default. A key of the environment file
that has no value hides those that agree with it and gives none itself. -/
inductive Takes (written : Written) (field : Field) : Option Value → Prop
  | given {value : Value} (hgiven : IsFirst field.key value written.given.values) :
    Takes written field (some value)
  | environment {text : Text} (hgiven : ¬ Has field.key written.given.values)
      (henvironment : IsLast field.key text written.environment) :
    Takes written field (some (.text text))
  | file {text : Text} (hgiven : ¬ Has field.key written.given.values)
      (henvironment : ¬ Has field.key written.environment)
      (hfile : IsNewestValue field.key (some text) written.replaced) :
    Takes written field (some (.text text))
  | default (hgiven : ¬ Has field.key written.given.values)
      (henvironment : ¬ Has field.key written.environment)
      (hfile : ∀ text, ¬ IsNewestValue field.key (some text) written.replaced) :
    Takes written field none

/-- Whether other sources agree on a field as far as it counts. If the given values have the field,
only they count, and if the environment has it, only these two. Otherwise the environment file
counts too, but of its keys only those that are kept, which are the ones that agree with the field
and whatever the values of kept keys refer to; and where these ask for variables, the environment
counts again. -/
inductive AgreesOn (field : Field) (written other : Written) : Prop
  | given (hhas : Has field.key written.given.values)
      (hgiven : matching field.key other.given.values =
        matching field.key written.given.values)
  | environment (hhas : Has field.key written.environment)
      (hgiven : matching field.key other.given.values =
        matching field.key written.given.values)
      (henvironment :
        matching field.key other.environment = matching field.key written.environment)
  | file (keep : Text → Bool) (kept : List EnvFile.Binding)
      (hgiven : matching field.key other.given.values =
        matching field.key written.given.values)
      (henvironment :
        matching field.key other.environment = matching field.key written.environment)
      (hkeep : ∀ name, Text.lower name = field.key → keep name = true)
      (hreferred : ∀ name ∈ EnvFile.referred kept, keep name = true)
      (hwritten : (written.entries.filter fun entry => keep entry.1) = kept)
      (hother : (other.entries.filter fun entry => keep entry.1) = kept)
      (hasks : ∀ name, EnvFile.Asks kept name →
        other.environment.lookup name = written.environment.lookup name)

end Written

/-! ### The value that a field takes -/

namespace Sources

variable {sources : Sources} {field : Field}

theorem value?_of_given {value : Value}
    (hgiven : Bindings.firstFolded? field.key sources.given = some value) :
    sources.value? field = some value := by
  rw [value?, hgiven]

theorem value?_of_environment {text : Text}
    (hgiven : Bindings.firstFolded? field.key sources.given = none)
    (henvironment : Bindings.lastFolded? field.key sources.environment = some text) :
    sources.value? field = some (.text text) := by
  rw [value?, hgiven, henvironment]

theorem value?_of_file (hgiven : Bindings.firstFolded? field.key sources.given = none)
    (henvironment : Bindings.lastFolded? field.key sources.environment = none) :
    sources.value? field =
      (Bindings.lastFolded? field.key sources.file).join.map Value.text := by
  rw [value?, hgiven, henvironment]
  rcases Bindings.lastFolded? field.key sources.file with _ | _ | text <;> rfl

end Sources

namespace Written

def sources (written : Written) : Sources :=
  ⟨written.given.values, written.environment, EnvFile.values written.environment written.entries⟩

theorem read_eq (written : Written) : written.read = ofValues written.sources.value? := by
  change written.read = ofSources written.sources
  rw [read, sources, entries]
  cases hfile : written.given.file? written.file with
  | none => exact read_of_no_file (by rw [Given.file?_map, hfile]; rfl) _
  | some text => exact read_of_text (by rw [Given.file?_map, hfile]; rfl) _

variable {written other : Written} {field : Field}

theorem join_lastFolded?_file {text : Text} :
    (Bindings.lastFolded? field.key written.sources.file).join = some text ↔
      IsNewestValue field.key (some text) written.replaced := by
  rw [Option.join_eq_some_iff, sources, EnvFile.values_eq]
  exact Bindings.lastFolded?_ofList_eq_some_iff

theorem Takes.eq {raw : Option Value} (htakes : written.Takes field raw) :
    raw = written.sources.value? field := by
  cases htakes with
  | given hgiven =>
      exact (Sources.value?_of_given (Bindings.firstFolded?_eq_some_iff.2 hgiven)).symm
  | environment hgiven henvironment =>
      exact (Sources.value?_of_environment (Bindings.firstFolded?_eq_none_iff.2 hgiven)
        (Bindings.lastFolded?_eq_some_iff.2 henvironment)).symm
  | file hgiven henvironment hfile =>
      rw [Sources.value?_of_file (Bindings.firstFolded?_eq_none_iff.2 hgiven)
        (Bindings.lastFolded?_eq_none_iff.2 henvironment), join_lastFolded?_file.2 hfile]
      rfl
  | default hgiven henvironment hfile =>
      rw [Sources.value?_of_file (Bindings.firstFolded?_eq_none_iff.2 hgiven)
        (Bindings.lastFolded?_eq_none_iff.2 henvironment), Option.eq_none_iff_forall_ne_some.2
          fun text htext => hfile text (join_lastFolded?_file.1 htext)]
      rfl

theorem takes_value? (written : Written) (field : Field) :
    written.Takes field (written.sources.value? field) := by
  cases hgiven : Bindings.firstFolded? field.key written.given.values with
  | some value =>
      rw [Sources.value?_of_given hgiven]
      exact .given (Bindings.firstFolded?_eq_some_iff.1 hgiven)
  | none =>
      have hnone := Bindings.firstFolded?_eq_none_iff.1 hgiven
      cases henvironment : Bindings.lastFolded? field.key written.environment with
      | some text =>
          rw [Sources.value?_of_environment hgiven henvironment]
          exact .environment hnone (Bindings.lastFolded?_eq_some_iff.1 henvironment)
      | none =>
          have hnone' := Bindings.lastFolded?_eq_none_iff.1 henvironment
          rw [Sources.value?_of_file hgiven henvironment]
          cases hfile : (Bindings.lastFolded? field.key written.sources.file).join with
          | some text => exact .file hnone hnone' (join_lastFolded?_file.1 hfile)
          | none =>
              refine .default hnone hnone' fun text htext => ?_
              exact absurd (hfile.symm.trans (join_lastFolded?_file.2 htext)) nofun

theorem takes_iff {raw : Option Value} :
    written.Takes field raw ↔ raw = written.sources.value? field :=
  ⟨Takes.eq, fun heq => heq ▸ takes_value? written field⟩

/-! ### What does not change a field -/

theorem AgreesOn.value?_eq (hagrees : AgreesOn field written other) :
    other.sources.value? field = written.sources.value? field := by
  cases hagrees with
  | given hhas hgiven =>
      obtain ⟨value, hvalue⟩ := Bindings.exists_firstFolded? hhas
      have hfirst := (Bindings.firstFolded?_congr hgiven).trans hvalue
      simp only [Sources.value?, sources, hfirst, hvalue]
  | environment hhas hgiven henvironment =>
      have hfirst := Bindings.firstFolded?_congr hgiven
      obtain ⟨text, htext⟩ := Bindings.exists_lastFolded? hhas
      have hlast := (Bindings.lastFolded?_congr henvironment).trans htext
      simp only [Sources.value?, sources, hfirst, hlast, htext]
  | file keep kept hgiven henvironment hkeep hreferred hwritten hother hasks =>
      have hfile : Bindings.lastFolded? field.key other.sources.file =
          Bindings.lastFolded? field.key written.sources.file := by
        calc Bindings.lastFolded? field.key (EnvFile.values other.environment other.entries)
            = Bindings.lastFolded? field.key (EnvFile.values other.environment kept) := by
              rw [← hother, ← EnvFile.filter_values _ (by rwa [hother]),
                Bindings.lastFolded?_filter hkeep]
          _ = Bindings.lastFolded? field.key (EnvFile.values written.environment kept) := by
              rw [EnvFile.values_congr hasks]
          _ = Bindings.lastFolded? field.key
                (EnvFile.values written.environment written.entries) := by
              rw [← hwritten, ← EnvFile.filter_values _ (by rwa [hwritten]),
                Bindings.lastFolded?_filter hkeep]
      have hfirst := Bindings.firstFolded?_congr hgiven
      have hlast := Bindings.lastFolded?_congr henvironment
      rw [Sources.value?, Sources.value?, hfile]
      simp only [sources, hfirst, hlast]

/-- **Every field takes its value from the first source that has one**, by the rule of that source,
and no change to lower sources or to other names changes it. Settings are read exactly if these
values make them. -/
theorem read_takes (written : Written) :
    ∃ raw : Field → Option Value,
      (∀ field value, written.Takes field value ↔ value = raw field) ∧
      (∀ settings, written.read = .ok settings ↔ settings.IsMadeOf raw) ∧
      ∀ field other, AgreesOn field written other → other.Takes field (raw field) := by
  refine ⟨written.sources.value?, fun _ _ => takes_iff, fun settings => ?_,
    fun _ _ hagrees => takes_iff.2 hagrees.value?_eq.symm⟩
  rw [read_eq, ofValues_eq_ok_iff]

/-! ### Two hosts in an environment file -/

/-- Sources that name the host twice, in small letters and in capitals, and the first name again. -/
def twoHosts : Written :=
  ⟨.none, [("A".toList, "x".toList)], some "host=1\nHOST=$\x7bA\x7d2\nhost=3".toList⟩

/-- The same with another name in the environment and in the file. -/
def moreNames : Written :=
  ⟨.none, [("B".toList, "y".toList), ("A".toList, "x".toList)],
    some "B=$\x7bB\x7d\nhost=1\nHOST=$\x7bA\x7d2\nhost=3".toList⟩

theorem takes_twoHosts : twoHosts.Takes .host (some (.text "x2".toList)) := by
  refine .file (by simp [Has, Bindings.names, twoHosts, Given.none]) ?_ ?_
  · rintro ⟨name, hname, hlower⟩
    rw [List.mem_singleton.1 hname] at hlower
    exact absurd hlower (by decide)
  · exact ⟨"HOST".toList, ⟨by decide +kernel, by decide, by decide +kernel⟩, by decide +kernel⟩

theorem agreesOn_moreNames : AgreesOn .host twoHosts moreNames := by
  have hreferred : ∀ name ∈ EnvFile.referred twoHosts.entries, name = "A".toList := by
    decide +kernel
  refine .file (fun name => Text.lower name == Field.host.key || name == "A".toList)
    twoHosts.entries rfl (by decide) ?_ ?_ (by decide +kernel) (by decide +kernel) ?_
  · exact fun name hlower => Bool.or_eq_true_iff.2 (Or.inl (beq_iff_eq.2 hlower))
  · exact fun name hname => Bool.or_eq_true_iff.2 (Or.inr (beq_iff_eq.2 (hreferred name hname)))
  · intro name hasks
    rw [hreferred name (EnvFile.mem_referred_of_asks hasks)]
    decide

theorem read_takes_moreNames :
    AgreesOn .host twoHosts moreNames ∧ twoHosts.Takes .host (some (.text "x2".toList)) ∧
      moreNames.Takes .host (some (.text "x2".toList)) ∧
      ∃ settings raw, twoHosts.read = .ok settings ∧ settings.IsMadeOf raw ∧
        raw .host = some (.text "x2".toList) := by
  obtain ⟨raw, htakes, hmade, hkeeps⟩ := read_takes twoHosts
  have hraw := (htakes .host _).1 takes_twoHosts
  have hread : twoHosts.read = .ok ⟨[], 8080, "x2".toList, .info⟩ := by decide +kernel
  exact ⟨agreesOn_moreNames, takes_twoHosts, hraw ▸ hkeeps .host _ agreesOn_moreNames, _, raw,
    hread, (hmade _).1 hread, hraw.symm⟩

/-! ### An environment file that is left out -/

def portInFile : Written := ⟨.none, [], some "PORT=1".toList⟩

/-- The same, with a given value that leaves the environment file out. -/
def portLeftOut : Written := ⟨⟨[(fileName, .null)], rfl⟩, [], some "PORT=1".toList⟩

/-- A given value that is for no field takes the port of the environment file away. -/
theorem left_out_file_loses_port :
    (∀ field : Field, ¬ Has field.key portLeftOut.given.values) ∧
      (∃ settings, portInFile.read = .ok settings ∧ settings.port = 1) ∧
      ∃ settings, portLeftOut.read = .ok settings ∧ settings.port = 8080 := by
  refine ⟨?_, ⟨⟨[], 1, defaultHost, .info⟩, by decide +kernel, rfl⟩,
    ⟨[], 8080, defaultHost, .info⟩, by decide +kernel, rfl⟩
  rintro field ⟨name, hname, hlower⟩
  obtain rfl : name = fileName := List.mem_singleton.1 hname
  cases field <;> exact absurd hlower (by decide)

end Written

end SpaServer.Settings
