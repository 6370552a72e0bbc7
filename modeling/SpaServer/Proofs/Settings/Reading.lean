import SpaServer.Proofs.Assets.Root
import SpaServer.Proofs.Text.Decoding
import SpaServer.Proofs.Text.Numeral
import SpaServer.Server.Startup

/-!
# Settings can be read

The environment and the environment file give texts, and every text is good for every field: a port
or a level that cannot be used falls back to its default. So a process fails to read its settings
only if there is an environment file that is not text. What it reads is in a normal form: given back
to the program, it comes out the same, whatever else there is by then.
-/

namespace SpaServer

namespace Settings

/-! ### Texts are good for every field -/

/-- Whether a value is a text, if there is one. -/
def IsText (value : Option Value) : Prop :=
  ∀ content, value = some content → ∃ text, content = .text text

theorem isText_value? {sources : Sources} {field : Field}
    (hgiven : Bindings.firstFolded? field.key sources.given = none) :
    IsText (sources.value? field) := by
  intro content hvalue
  rw [Sources.value?, hgiven] at hvalue
  simp only at hvalue
  split at hvalue
  · exact ⟨_, (Option.some.inj hvalue).symm⟩
  · split at hvalue
    · exact ⟨_, (Option.some.inj hvalue).symm⟩
    · simp at hvalue

theorem exists_textOf {value : Option Value} (htext : IsText value) (default : Text) :
    ∃ text, textOf default value = some text := by
  cases value with
  | none => exact ⟨default, rfl⟩
  | some content =>
      obtain ⟨text, rfl⟩ := htext content rfl
      exact ⟨text, rfl⟩

/-- A port that is read from a text can be written again. -/
theorem exists_portOf {value : Option Value} (htext : IsText value) :
    ∃ port, portOf value = some port ∧ port.natAbs < 10 ^ Text.maxDigits := by
  have hdefault : defaultPort.natAbs < 10 ^ Text.maxDigits :=
    Nat.lt_of_lt_of_le (by decide : defaultPort.natAbs < 10 ^ 4)
      (Nat.pow_le_pow_right (by decide) (by decide))
  cases value with
  | none => exact ⟨defaultPort, rfl, hdefault⟩
  | some content =>
      obtain ⟨text, rfl⟩ := htext content rfl
      rw [portOf, Value.toInt?]
      cases hport : Text.toInt? text with
      | none => exact ⟨defaultPort, rfl, hdefault⟩
      | some port => exact ⟨port, rfl, Text.natAbs_lt_of_toInt? hport⟩

theorem exists_logLevelOf {value : Option Value} (htext : IsText value) :
    ∃ level, logLevelOf value = some level := by
  cases value with
  | none => exact ⟨defaultLogLevel, rfl⟩
  | some content =>
      obtain ⟨text, rfl⟩ := htext content rfl
      exact ⟨_, rfl⟩

/-- Settings that are read from texts alone are read without fail, and their port can be written
again. -/
theorem exists_ofSources (environment : Environment) (file : Bindings (Option Text)) :
    ∃ settings, ofSources ⟨[], environment, file⟩ = .ok settings ∧
      settings.port.natAbs < 10 ^ Text.maxDigits := by
  have htext : ∀ field, IsText (Sources.value? ⟨[], environment, file⟩ field) :=
    fun field => isText_value? rfl
  obtain ⟨port, hport, hshort⟩ := exists_portOf (htext .port)
  obtain ⟨deployment, hdeployment⟩ := exists_textOf (htext .deployment) []
  obtain ⟨host, hhost⟩ := exists_textOf (htext .host) defaultHost
  obtain ⟨level, hlevel⟩ := exists_logLevelOf (htext .logLevel)
  refine ⟨⟨deployment, port, host, level⟩, ?_, hshort⟩
  rw [ofSources, ofValues, hport, hdeployment, hhost, hlevel]

/-! ### Settings given back -/

/-- The fields of settings as values to be given, the port as its numeral. -/
def asGiven (settings : Settings) : Given where
  values := [(Field.deployment.name, .text settings.deployment),
    (Field.port.name, .text (Text.ofInt settings.port)),
    (Field.host.name, .text settings.host),
    (Field.logLevel.name, .text settings.logLevel.name)]
  known := rfl

def valueOf (settings : Settings) : Field → Value
  | .deployment => .text settings.deployment
  | .port => .text (Text.ofInt settings.port)
  | .host => .text settings.host
  | .logLevel => .text settings.logLevel.name

theorem value?_asGiven (settings : Settings) (environment : Environment)
    (file : Bindings (Option Text)) (field : Field) :
    Sources.value? ⟨settings.asGiven.values, environment, file⟩ field = some (settings.valueOf field) := by
  have hfirst : Bindings.firstFolded? field.key settings.asGiven.values =
      some (settings.valueOf field) := by
    cases field <;> rfl
  rw [Sources.value?, hfirst]

theorem ofText?_name (level : LogLevel) : LogLevel.ofText? level.name = some level := by
  cases level <;> decide

theorem ofSources_asGiven {settings : Settings}
    (hshort : settings.port.natAbs < 10 ^ Text.maxDigits)
    (environment : Environment) (file : Bindings (Option Text)) :
    ofSources ⟨settings.asGiven.values, environment, file⟩ = .ok settings := by
  rw [ofSources, ofValues]
  simp only [value?_asGiven, valueOf, portOf, Value.toInt?, Text.toInt?_ofInt hshort, Option.elim,
    textOf, logLevelOf, ofText?_name, Option.getD_some]

/-! ### The environment file -/

/-- Whether the environment file, if there is one, is text. -/
def IsReadable (file : Option Bytes) : Prop :=
  ∀ content, file = some content → ∃ text : Text, text.utf8 = content

theorem read_of_no_file {given : Given} {file : Option Bytes} (hfile : given.file? file = none)
    (environment : Environment) :
    read given environment file = ofSources ⟨given.values, environment, []⟩ := by
  rw [read, hfile]

theorem read_of_text {given : Given} {file : Option Bytes} {text : Text}
    (hfile : given.file? file = some text.utf8) (environment : Environment) :
    read given environment file = ofSources ⟨given.values, environment,
      EnvFile.values environment
        (EnvFile.bindings (EnvFile.dropMark (EnvFile.unifyLineEnds text)))⟩ := by
  rw [read, hfile]
  simp only [EnvFile.read, Utf8.decode_eq_ok_iff.2 rfl]

theorem read_utf8 (environment : Environment) (text : Text) :
    read .none environment (some text.utf8) = ofSources ⟨[], environment,
      EnvFile.values environment
        (EnvFile.bindings (EnvFile.dropMark (EnvFile.unifyLineEnds text)))⟩ :=
  read_of_text rfl environment

/-- All that counts of a file that is text are its bindings. -/
theorem exists_read_eq {file : Option Bytes} (hfile : IsReadable file) (environment : Environment) :
    ∃ bindings, ∀ given : Given, given.file? file = file →
      read given environment file = ofSources ⟨given.values, environment, bindings⟩ := by
  cases file with
  | none => exact ⟨[], fun given hgiven => read_of_no_file hgiven environment⟩
  | some content =>
      obtain ⟨text, rfl⟩ := hfile content rfl
      exact ⟨_, fun given hgiven => read_of_text hgiven environment⟩

theorem read_of_fault {content : Bytes} {fault : Utf8.Fault}
    (hfault : Utf8.decode content = .error fault) (environment : Environment) :
    read .none environment (some content) = .error (.undecodable fault) := by
  have hfile : Given.none.file? (some content) = some content := rfl
  rw [read, hfile]
  simp only [EnvFile.read, hfault]

/-- Without given values reading fails only on a file that is not text. -/
theorem read_cases (environment : Environment) (file : Option Bytes) :
    (∃ content fault, file = some content ∧ Utf8.decode content = .error fault ∧
        read .none environment file = .error (.undecodable fault)) ∨
      IsReadable file ∧ ∃ settings, read .none environment file = .ok settings ∧
        settings.port.natAbs < 10 ^ Text.maxDigits := by
  by_cases hfile : IsReadable file
  · obtain ⟨bindings, hread⟩ := exists_read_eq hfile environment
    obtain ⟨settings, hsettings, hshort⟩ := exists_ofSources environment bindings
    exact Or.inr ⟨hfile, settings, (hread .none rfl).trans hsettings, hshort⟩
  · cases file with
    | none => exact absurd (fun _ => nofun) hfile
    | some content =>
        have hnone : ∀ text : Text, text.utf8 ≠ content := by
          intro text htext
          refine hfile fun content' hcontent => ⟨text, ?_⟩
          rw [htext, Option.some.inj hcontent]
        obtain ⟨fault, hfault⟩ := Utf8.exists_fault_iff.2 hnone
        exact Or.inl ⟨content, fault, rfl, hfault, read_of_fault hfault environment⟩

/-- Settings that have been read are read again when they are given. -/
theorem read_asGiven {settings : Settings} (hshort : settings.port.natAbs < 10 ^ Text.maxDigits)
    (environment : Environment) {file : Option Bytes} (hfile : IsReadable file) :
    read settings.asGiven environment file = .ok settings := by
  obtain ⟨bindings, hread⟩ := exists_read_eq hfile environment
  rw [hread settings.asGiven rfl, ofSources_asGiven hshort]

end Settings

/-! ### Reading as a process does -/

namespace Node

def content? : Node → Option Bytes
  | .file content => some content
  | _ => none

theorem bind_content?_eq_some_iff {node : Option Node} {content : Bytes} :
    node.bind content? = some content ↔ node = some (.file content) := by
  cases node with
  | none => simp
  | some node => cases node <;> simp [content?]

variable {tree : Node}

theorem envFile?_of_plain (hplain : tree.NoLinkAt (.inside [envFileName])) :
    tree.envFile? = .ok ((tree.get? [envFileName]).bind content?) := by
  have hproper : ProperName envFileName := ⟨by decide, by decide, by decide⟩
  have hstraight : tree.Straight .home [envFileName] := ⟨hproper, hplain, trivial⟩
  have hstat : tree.stat (.inside [envFileName]) = tree.walk maxLinks .home [envFileName] := by
    rw [stat, if_neg (by decide)]
    rfl
  rw [envFile?, hstat]
  cases hwalk : tree.walk maxLinks .home [envFileName] with
  | ok node =>
      have hnode : tree.get? [envFileName] = some node := ((walk_straight hstraight).1 hwalk).2
      rw [hnode]
      cases node <;> rfl
  | error error =>
      have hnone : (tree.get? [envFileName]).bind content? = none := by
        refine Option.eq_none_iff_forall_ne_some.2 fun content hcontent => ?_
        have hfound : tree.walk maxLinks .home [envFileName] = .ok (.file content) :=
          (walk_straight hstraight).2 ⟨by decide, bind_content?_eq_some_iff.1 hcontent⟩
        exact absurd (hwalk.symm.trans hfound) (by simp)
      rw [hnone]
      rcases walk_straight_error hstraight hwalk with rfl | rfl | ⟨-, name, hname, hlong⟩
      · rfl
      · rfl
      · rw [List.mem_singleton.1 hname] at hlong
        exact absurd hlong (by decide)

end Node

namespace Settings

/-- What settings are like when they have been read. -/
structure IsNormal (settings : Settings) : Prop where
  level : settings.logLevel.name ∈
    ["critical".toList, "error".toList, "warning".toList, "info".toList, "debug".toList]
  root : settings.assetRoot = "console-alpha".toList ∧ settings.deployment = "standard".toList ∨
    settings.assetRoot = "dist".toList ∧ settings.deployment ≠ "standard".toList
  stable : ∀ environment file, IsReadable file →
    read settings.asGiven environment file = .ok settings

theorem isNormal_of_short {settings : Settings}
    (hshort : settings.port.natAbs < 10 ^ Text.maxDigits) : settings.IsNormal where
  level := by cases settings.logLevel <;> decide
  root := by
    rw [assetRoot]
    by_cases halpha : settings.isAlpha = true
    · exact Or.inl ⟨if_pos halpha, beq_iff_eq.1 halpha⟩
    · exact Or.inr ⟨if_neg halpha, mt beq_iff_eq.2 halpha⟩
  stable environment _ hfile := read_asGiven hshort environment hfile

/-- **A process reads its settings unless its environment file is not text**, and what it reads is
in a normal form. -/
theorem ofProcess_error_iff (environment : Environment) {tree : Node}
    (hplain : tree.NoLinkAt (.inside [envFileName])) :
    ((∃ error, ofProcess environment tree = .error error) ↔
        ∃ content, tree.get? [envFileName] = some (.file content) ∧
          ∀ text : Text, text.utf8 ≠ content) ∧
      (∀ error, ofProcess environment tree = .error error →
        ∃ fault, error = .settings (.undecodable fault)) ∧
      ∀ settings, ofProcess environment tree = .ok settings → settings.IsNormal := by
  have hcontent : ∀ content, (tree.get? [envFileName]).bind Node.content? = some content ↔
      tree.get? [envFileName] = some (.file content) :=
    fun _ => Node.bind_content?_eq_some_iff
  rw [ofProcess, Node.envFile?_of_plain hplain]
  rcases read_cases environment ((tree.get? [envFileName]).bind Node.content?) with
    ⟨content, fault, hfile, hfault, hread⟩ | ⟨hreadable, settings, hread, hshort⟩
  · simp only [hread]
    refine ⟨iff_of_true ⟨_, rfl⟩ ⟨content, (hcontent content).1 hfile, ?_⟩, ?_, nofun⟩
    · exact Utf8.exists_fault_iff.1 ⟨fault, hfault⟩
    · exact fun error herror => ⟨fault, (Except.error.inj herror).symm⟩
  · simp only [hread]
    refine ⟨iff_of_false (by simp) ?_, nofun, fun other hother => ?_⟩
    · rintro ⟨content, hget, hnone⟩
      obtain ⟨text, htext⟩ := hreadable content ((hcontent content).2 hget)
      exact hnone text htext
    · obtain rfl := Except.ok.inj hother
      exact isNormal_of_short hshort

def envFileOnly (content : Bytes) : Node := .dir [(envFileName, .file content)]

theorem ofProcess_envFileOnly :
    (∀ content, (envFileOnly content).NoLinkAt (.inside [envFileName])) ∧
      (∃ error, ofProcess [] (envFileOnly [0x41, 0xff]) = .error error) ∧
      ∃ settings, ofProcess [] (envFileOnly (Text.utf8 "PORT='8O'".toList)) = .ok settings ∧
        settings.IsNormal := by
  have hplain : ∀ content, (envFileOnly content).NoLinkAt (.inside [envFileName]) := by
    intro content target
    simp [Node.at?, envFileOnly, Node.get?, Node.child?, Node.entries]
  refine ⟨hplain, ?_, ?_⟩
  · refine (ofProcess_error_iff [] (hplain _)).1.2 ⟨[0x41, 0xff], rfl, ?_⟩
    exact Utf8.exists_fault_iff.1 ⟨_, by cbv⟩
  · cases hread : ofProcess [] (envFileOnly (Text.utf8 "PORT='8O'".toList)) with
    | ok settings => exact ⟨settings, rfl, (ofProcess_error_iff [] (hplain _)).2.2 settings hread⟩
    | error error =>
        obtain ⟨content, hfile, hnone⟩ := (ofProcess_error_iff [] (hplain _)).1.1 ⟨error, hread⟩
        exact absurd (Node.file.inj (Option.some.inj hfile)) (hnone _)

end Settings

end SpaServer
