import SpaServer.Proofs.EnvFile.Quoting
import SpaServer.Proofs.Settings.Doors

/-!
# Settings from values between quotes

Any two texts that hold no reference can be given as the deployment and the host in an environment
file, between quotes of either kind, and they are read exactly. That goes for texts that look like
more lines, comments or keys as well: they give no other field a value.
-/

namespace SpaServer.Settings

open Bindings (Has)
open EnvFile (HasReference Quoting)

/-- The text of an environment file that gives a deployment and a host between quotes. -/
def quotedFile (first second : Quoting) (deployment host ending : Text) : Text :=
  first.line Field.deployment.name deployment ++
    '\n' :: (second.line Field.host.name host ++ ending)

def quotedBindings (deployment host : Text) : List EnvFile.Binding :=
  [(Field.deployment.name, some deployment), (Field.host.name, some host)]

variable {first second : Quoting} {deployment host ending : Text} {environment : Environment}

theorem isPlainKey_name (field : Field) : EnvFile.IsPlainKey field.name where
  plain := List.all_eq_true.1 (by cases field <;> decide)
  ne_nil := by cases field <;> decide
  unquoted := by cases field <;> decide

theorem bindings_quotedFile (hending : ending = [] ∨ ending = ['\n']) :
    EnvFile.bindings (quotedFile first second deployment host ending) =
      quotedBindings deployment host := by
  have hend : EnvFile.skipLineEnd? (EnvFile.skipComment ending) = some [] := by
    rcases hending with rfl | rfl <;> rfl
  rw [EnvFile.bindings, quotedFile,
    EnvFile.statements_line_append (isPlainKey_name .deployment),
    EnvFile.statements_line (isPlainKey_name .host) _ _ hend, EnvFile.statements_nil]
  rfl

/-- The file holds no carriage return and no byte order mark, so its text is read as it is. -/
theorem dropMark_quotedFile (hending : ending = [] ∨ ending = ['\n'])
    (hdeployment : first.Fits deployment) (hhost : second.Fits host) :
    EnvFile.dropMark (EnvFile.unifyLineEnds (quotedFile first second deployment host ending)) =
      quotedFile first second deployment host ending := by
  have hreturn : '\r' ∉ quotedFile first second deployment host ending := by
    have hfirst := EnvFile.not_mem_line (isPlainKey_name .deployment).plain hdeployment
    have hsecond := EnvFile.not_mem_line (isPlainKey_name .host).plain hhost
    rcases hending with rfl | rfl <;> simp [quotedFile, hfirst, hsecond]
  rw [EnvFile.unifyLineEnds_of_not_mem hreturn]
  rfl

theorem values_quotedBindings (hdeployment : ¬ HasReference deployment)
    (hhost : ¬ HasReference host) :
    EnvFile.values environment (quotedBindings deployment host) =
      quotedBindings deployment host := by
  simp only [EnvFile.values, quotedBindings, List.foldl, EnvFile.bind, Option.map_some,
    EnvFile.expand_of_not_hasReference hdeployment, EnvFile.expand_of_not_hasReference hhost]
  rfl

/-- The file gives no value to another field. -/
theorem value?_quotedBindings (field : Field) (hother : field ≠ .deployment ∧ field ≠ .host) :
    Sources.value? ⟨[], environment, quotedBindings deployment host⟩ field =
      Sources.value? ⟨[], environment, []⟩ field := by
  have hnone : Bindings.lastFolded? field.key (quotedBindings deployment host) = none := by
    cases field with
    | deployment => exact absurd rfl hother.1
    | host => exact absurd rfl hother.2
    | port => rfl
    | logLevel => rfl
  simp only [Sources.value?, hnone]
  rfl

theorem envFile?_empty : (Node.dir []).envFile? = .ok none := by
  have hplain : (Node.dir []).NoLinkAt (.inside [envFileName]) := by
    intro target
    simp [Node.at?, Node.get?, Node.child?, Node.entries]
  rw [Node.envFile?_of_plain hplain]
  rfl

/-- **What is written between quotes is read back.** If the environment has neither field, the
settings are those without the file but for the deployment and the host. -/
theorem ofProcess_quotedFile {tree : Node} (hending : ending = [] ∨ ending = ['\n'])
    (hfile : tree.envFile? =
      .ok (some (Text.utf8 (quotedFile first second deployment host ending))))
    (hdeployment : first.Fits deployment ∧ ¬ HasReference deployment)
    (hhost : second.Fits host ∧ ¬ HasReference host)
    (hfree : ¬ Has Field.deployment.key environment ∧ ¬ Has Field.host.key environment) :
    ∃ port level,
      ofProcess environment (.dir []) = .ok ⟨[], port, defaultHost, level⟩ ∧
      ofProcess environment tree = .ok ⟨deployment, port, host, level⟩ := by
  have hread : read .none environment
      (some (Text.utf8 (quotedFile first second deployment host ending))) =
        ofSources ⟨[], environment, quotedBindings deployment host⟩ := by
    rw [read_utf8, dropMark_quotedFile hending hdeployment.1 hhost.1, bindings_quotedFile hending,
      values_quotedBindings hdeployment.2 hhost.2]
  have hdeployment' := Bindings.lastFolded?_eq_none_iff.2 hfree.1
  have hhost' := Bindings.lastFolded?_eq_none_iff.2 hfree.2
  have htext : ∀ field, IsText (Sources.value? ⟨[], environment, []⟩ field) :=
    fun field => isText_value? rfl
  obtain ⟨port, hport, -⟩ := exists_portOf (htext .port)
  obtain ⟨level, hlevel⟩ := exists_logLevelOf (htext .logLevel)
  have hbare : read .none environment none = ofSources ⟨[], environment, []⟩ := rfl
  refine ⟨port, level, ?_, ?_⟩
  · rw [ofProcess_of_envFile envFile?_empty, hbare, ofSources, ofValues, hport, hlevel,
      Sources.value?_of_file rfl hdeployment', Sources.value?_of_file rfl hhost']
    rfl
  · rw [ofProcess_of_envFile hfile, hread, ofSources, ofValues,
      value?_quotedBindings .port (by decide), value?_quotedBindings .logLevel (by decide), hport,
      hlevel,
      Sources.value?_of_file rfl hdeployment', Sources.value?_of_file rfl hhost']
    rfl

/-! ### Texts that look like lines -/

/-- A text that begins like a reference and holds what needs a backslash between double quotes. -/
def openDeployment : Text := "$\x7bX\r\n\"\\".toList

/-- A text that would bind a port and the host if it were not between quotes. -/
def manyLines : Text := "'#=\nPORT=1\nHOST='".toList

def linesFile : Text :=
  "GAE_ENV=\"$\x7bX\\r\n\\\"\\\\\"\nHOST='\\'#=\nPORT=1\nHOST=\\''".toList

theorem ofProcess_linesFile :
    quotedFile .double .single openDeployment manyLines [] = linesFile ∧
      (Quoting.double.Fits openDeployment ∧ ¬ HasReference openDeployment) ∧
      (Quoting.single.Fits manyLines ∧ ¬ HasReference manyLines) ∧
      ofProcess [("port".toList, "9".toList)] (envFileOnly linesFile.utf8) =
        .ok ⟨openDeployment, 9, manyLines, .info⟩ := by
  have hlines : quotedFile .double .single openDeployment manyLines [] = linesFile := by
    decide +kernel
  have hopen : Quoting.double.Fits openDeployment ∧ ¬ HasReference openDeployment :=
    ⟨trivial, EnvFile.not_hasReference_of_not_mem (by decide)⟩
  have hmany : Quoting.single.Fits manyLines ∧ ¬ HasReference manyLines :=
    ⟨(by decide : '\r' ∉ manyLines), EnvFile.not_hasReference_of_not_mem (by decide)⟩
  have hfree : ∀ field, field ≠ .port → ¬ Has (Field.key field) [("port".toList, "9".toList)] := by
    rintro field hfield ⟨name, hname, hlower⟩
    obtain rfl := List.mem_singleton.1 hname
    cases field with
    | port => exact hfield rfl
    | deployment | host | logLevel => exact absurd hlower (by decide)
  obtain ⟨port, level, hbare, htree⟩ := ofProcess_quotedFile (Or.inl rfl)
    (hlines ▸ envFile?_envFileOnly linesFile.utf8) hopen hmany
    ⟨hfree .deployment nofun, hfree .host nofun⟩
  have hport : ofProcess [("port".toList, "9".toList)] (.dir []) =
      .ok ⟨[], 9, defaultHost, .info⟩ := by
    rw [ofProcess_of_envFile envFile?_empty]
    decide +kernel
  obtain ⟨-, rfl, -, rfl⟩ := Settings.mk.inj (Except.ok.inj (hbare.symm.trans hport))
  exact ⟨hlines, hopen, hmany, htree⟩

end SpaServer.Settings
