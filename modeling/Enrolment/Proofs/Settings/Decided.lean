import Enrolment.Proofs.Settings.Kind
import Enrolment.Proofs.Text.Utf8
import Enrolment.Proofs.Toml.Entries
/-!
How each setting is decided: by its variable, else by the settings file, else by the default of the build. A variable
that holds nothing acceptable counts as unset, and a file with anything wrong in it as absent. Main result:
`settings_decided`.
-/
namespace Enrolment.Settings

inductive Field
  | serverUrl
  | databaseUrl
  | strictLockChecks
  | groupLockTimeout
  | httpTimeout

namespace Field

@[reducible] def kind : Field → Kind
  | serverUrl | databaseUrl => .text
  | strictLockChecks => .flag
  | groupLockTimeout | httpTimeout => .count

@[reducible] def Value (f : Field) : Type := f.kind.Value

def variableName : Field → String
  | serverUrl => "APP__SERVER_URL"
  | databaseUrl => "APP__DATABASE_URL"
  | strictLockChecks => "APP__STRICT_LOCK_CHECKS"
  | groupLockTimeout => "APP__GROUP_LOCK_TIMEOUT_MS"
  | httpTimeout => "APP__HTTP_TIMEOUT_SECS"

def key : Field → String
  | serverUrl => "server_url"
  | databaseUrl => "database_url"
  | strictLockChecks => "strict_lock_checks"
  | groupLockTimeout => "group_lock_timeout_ms"
  | httpTimeout => "http_timeout_secs"

def get : (f : Field) → Settings → f.Value
  | serverUrl, s => s.serverUrl
  | databaseUrl, s => s.databaseUrl
  | strictLockChecks, s => s.strictLockChecks
  | groupLockTimeout, s => s.groupLockTimeoutMs
  | httpTimeout, s => s.httpTimeoutSecs

def said : (f : Field) → Layer → Option f.Value
  | serverUrl, layer => layer.serverUrl
  | databaseUrl, layer => layer.databaseUrl
  | strictLockChecks, layer => layer.strictLockChecks
  | groupLockTimeout, layer => layer.groupLockTimeoutMs
  | httpTimeout, layer => layer.httpTimeoutSecs

theorem variableName_injective {f g : Field} (same : f.variableName = g.variableName) : f = g := by
  cases f <;> cases g <;> simp [variableName] at same ⊢

end Field

/-- A settings file is good as a whole: it is text, the text is a document, and no setting in it has a value of
another type. Other entries may be anything. -/
structure Sound (file : Option Bytes) (entries : Toml.Entries) : Prop where
  reads : ∃ text, file = some (Text.utf8 text) ∧ Toml.document? text = some entries
  typed : ∀ (f : Field) v, (f.key, v) ∈ entries → ∃ x, v = f.kind.inDocument x

/-- The variable of a setting is not set, or not to something acceptable. -/
def Unsaid (environment : String → Option String) (f : Field) : Prop :=
  ∀ given, environment f.variableName = some given → ∀ x, ¬ f.kind.Accepts given x

/-- The value of a setting is that of its variable, else that of a good file that has it, else the default of the build. -/
inductive Decided (build : Build) (file : Option Bytes) (environment : String → Option String) (f : Field) : f.Value → Prop
  | byVariable {given x} (set : environment f.variableName = some given) (accepted : f.kind.Accepts given x) :
      Decided build file environment f x
  | byFile {entries x} (unsaid : Unsaid environment f) (sound : Sound file entries)
      (there : (f.key, f.kind.inDocument x) ∈ entries) : Decided build file environment f x
  | byDefault (unsaid : Unsaid environment f) (lacking : ∀ entries, Sound file entries → ∀ v, (f.key, v) ∉ entries) :
      Decided build file environment f (f.get (defaults build))

/-! ## Layers -/

variable {build : Build} {file : Option Bytes} {environment : String → Option String} {entries : Toml.Entries}

theorem ext_get {s s' : Settings} (same : ∀ f : Field, f.get s = f.get s') : s = s' := by
  cases s
  cases s'
  congr
  · exact same .serverUrl
  · exact same .databaseUrl
  · exact same .strictLockChecks
  · exact same .groupLockTimeout
  · exact same .httpTimeout

theorem get_overlay (f : Field) (s : Settings) (layer : Layer) :
    f.get (s.overlay layer) = (f.said layer).getD (f.get s) := by
  cases f <;> rfl

theorem said_ofEnvironment (f : Field) (environment : String → Option String) :
    f.said (.ofEnvironment environment) = (environment f.variableName).bind f.kind.parse? := by
  cases f with
  | serverUrl | databaseUrl => exact (Option.bind_fun_some _).symm
  | strictLockChecks | groupLockTimeout | httpTimeout => rfl

theorem said_silent (f : Field) : f.said .silent = none := by
  cases f <;> rfl

theorem optional?_eq_some_iff {α : Type} {read : Toml.Value → Option α} {key : String} {x? : Option α} :
    optional? entries read key = some x? ↔ (entries.get? key).map read = x?.map some := by
  unfold optional?
  cases entries.get? key with
  | none => cases x? <;> simp
  | some v => cases h : read v <;> cases x? <;> simp [h]

theorem ofEntries?_eq_some_iff {layer : Layer} : Layer.ofEntries? entries = some layer ↔
    ∀ f : Field, optional? entries f.kind.read? f.key = some (f.said layer) := by
  have fields : Layer.ofEntries? entries = some layer ↔
      optional? entries text? "server_url" = some layer.serverUrl ∧
      optional? entries text? "database_url" = some layer.databaseUrl ∧
      optional? entries boolean? "strict_lock_checks" = some layer.strictLockChecks ∧
      optional? entries count? "group_lock_timeout_ms" = some layer.groupLockTimeoutMs ∧
      optional? entries count? "http_timeout_secs" = some layer.httpTimeoutSecs := by
    obtain ⟨serverUrl, databaseUrl, strictLockChecks, groupLockTimeoutMs, httpTimeoutSecs⟩ := layer
    simp [Layer.ofEntries?, Option.bind_eq_some_iff]
  rw [fields]
  constructor
  · rintro ⟨serverUrl, databaseUrl, strictLockChecks, groupLockTimeout, httpTimeout⟩ f
    cases f <;> assumption
  · intro each
    exact ⟨each .serverUrl, each .databaseUrl, each .strictLockChecks, each .groupLockTimeout, each .httpTimeout⟩

/-! ## The settings file -/

variable {layer : Layer}

theorem said_eq_some_iff (taken : Layer.ofEntries? entries = some layer) (f : Field) {x : f.Value} :
    f.said layer = some x ↔ entries.get? f.key = some (f.kind.inDocument x) := by
  have agrees := optional?_eq_some_iff.1 (ofEntries?_eq_some_iff.1 taken f)
  calc f.said layer = some x
      ↔ (f.said layer).map some = some (some x) := by simp
    _ ↔ (entries.get? f.key).map f.kind.read? = some (some x) := by rw [agrees]
    _ ↔ ∃ v, entries.get? f.key = some v ∧ v = f.kind.inDocument x := by
      simp only [Option.map_eq_some_iff, Kind.read?_eq_some_iff]
    _ ↔ entries.get? f.key = some (f.kind.inDocument x) := by simp

theorem exists_said (taken : Layer.ofEntries? entries = some layer) {f : Field} {v : Toml.Value}
    (there : entries.get? f.key = some v) : ∃ x, f.said layer = some x := by
  have agrees := optional?_eq_some_iff.1 (ofEntries?_eq_some_iff.1 taken f)
  rw [there, Option.map_some, eq_comm, Option.map_eq_some_iff] at agrees
  obtain ⟨x, said, -⟩ := agrees
  exact ⟨x, said⟩

theorem exists_taken (typed : ∀ (f : Field) v, entries.get? f.key = some v → ∃ x, v = f.kind.inDocument x) :
    ∃ layer, Layer.ofEntries? entries = some layer := by
  have found (f : Field) : ∃ x?, optional? entries f.kind.read? f.key = some x? := by
    cases there : entries.get? f.key with
    | none => exact ⟨none, optional?_eq_some_iff.2 (by rw [there]; rfl)⟩
    | some v =>
      obtain ⟨x, rfl⟩ := typed f v there
      exact ⟨some x, optional?_eq_some_iff.2 (by rw [there]; exact congrArg some (Kind.read?_eq_some_iff.2 rfl))⟩
  -- what is found for each of them makes up a layer
  choose said each using found
  refine ⟨⟨said .serverUrl, said .databaseUrl, said .strictLockChecks, said .groupLockTimeout, said .httpTimeout⟩, ?_⟩
  refine ofEntries?_eq_some_iff.2 fun f => ?_
  rw [each f]
  cases f <;> rfl

theorem Sound.get?_eq_some_iff (sound : Sound file entries) {key : String} {v : Toml.Value} :
    entries.get? key = some v ↔ (key, v) ∈ entries := by
  obtain ⟨text, -, document⟩ := sound.reads
  exact Toml.get?_of_document? document

theorem Sound.taken (sound : Sound file entries) : Layer.ofEntries? entries = some (.ofFile file) := by
  obtain ⟨layer, taken⟩ := exists_taken fun f v there => sound.typed f v (sound.get?_eq_some_iff.1 there)
  obtain ⟨text, rfl, document⟩ := sound.reads
  rw [taken, Layer.ofFile, Option.bind_some, Text.ofUtf8?_utf8, Option.bind_some, document, Option.bind_some, taken]

theorem Sound.said_eq_some_iff (sound : Sound file entries) (f : Field) {x : f.Value} :
    f.said (.ofFile file) = some x ↔ (f.key, f.kind.inDocument x) ∈ entries := by
  rw [Settings.said_eq_some_iff sound.taken, sound.get?_eq_some_iff]

theorem Sound.mem_iff (sound : Sound file entries) {f : Field} {v : Toml.Value} :
    (f.key, v) ∈ entries ↔ ∃ x, f.said (.ofFile file) = some x ∧ v = f.kind.inDocument x := by
  constructor
  · intro there
    obtain ⟨x, rfl⟩ := sound.typed f v there
    exact ⟨x, (sound.said_eq_some_iff f).2 there, rfl⟩
  · rintro ⟨x, said, rfl⟩
    exact (sound.said_eq_some_iff f).1 said

/-- Whether a file is good can be told by running its readers. -/
theorem exists_sound_iff : (∃ entries, Sound file entries) ↔
    (((file.bind Text.ofUtf8?).bind Toml.document?).bind Layer.ofEntries?).isSome = true := by
  rw [Option.isSome_iff_exists]
  constructor
  · rintro ⟨entries, sound⟩
    obtain ⟨text, same, document⟩ := sound.reads
    refine ⟨.ofFile file, ?_⟩
    rw [← sound.taken, same, Option.bind_some, Text.ofUtf8?_utf8, Option.bind_some, document, Option.bind_some]
  · rintro ⟨layer, said⟩
    obtain ⟨entries, read, taken⟩ := Option.bind_eq_some_iff.1 said
    obtain ⟨text, decoded, document⟩ := Option.bind_eq_some_iff.1 read
    obtain ⟨bytes, rfl, utf8⟩ := Option.bind_eq_some_iff.1 decoded
    refine ⟨entries, ⟨text, congrArg some (Text.ofUtf8?_eq_some_iff.1 utf8), document⟩, ?_⟩
    intro f v there
    have found := (Toml.get?_of_document? document).2 there
    obtain ⟨x, said⟩ := exists_said taken found
    exact ⟨x, Option.some_inj.1 (found.symm.trans ((said_eq_some_iff taken f).1 said))⟩

theorem ofFile_of_unsound (unsound : ∀ entries, ¬ Sound file entries) : Layer.ofFile file = .silent := by
  have nothing := mt exists_sound_iff.2 (not_exists.2 unsound)
  rw [Option.not_isSome_iff_eq_none] at nothing
  rw [Layer.ofFile, nothing]

theorem said_ofFile_eq_some_iff {f : Field} {x : f.Value} : f.said (.ofFile file) = some x ↔
    ∃ entries, Sound file entries ∧ (f.key, f.kind.inDocument x) ∈ entries := by
  constructor
  · intro said
    by_cases good : ∃ entries, Sound file entries
    · obtain ⟨entries, sound⟩ := good
      exact ⟨entries, sound, (sound.said_eq_some_iff f).1 said⟩
    · rw [ofFile_of_unsound (not_exists.1 good), said_silent] at said
      cases said
  · rintro ⟨entries, sound, there⟩
    exact (sound.said_eq_some_iff f).2 there

theorem said_ofFile_eq_none_iff {f : Field} : f.said (.ofFile file) = none ↔
    ∀ entries, Sound file entries → ∀ v, (f.key, v) ∉ entries := by
  rw [Option.eq_none_iff_forall_ne_some]
  constructor
  · intro unsaid entries sound v there
    obtain ⟨x, rfl⟩ := sound.typed f v there
    exact unsaid x (said_ofFile_eq_some_iff.2 ⟨entries, sound, there⟩)
  · intro lacking x said
    obtain ⟨entries, sound, there⟩ := said_ofFile_eq_some_iff.1 said
    exact lacking entries sound _ there

/-! ## What is loaded -/

theorem get_load (build : Build) (f : Field) (file : Option Bytes) (environment : String → Option String) :
    f.get (load file environment build) =
      ((environment f.variableName).bind f.kind.parse?).getD ((f.said (.ofFile file)).getD (f.get (defaults build))) := by
  rw [load, get_overlay, get_overlay, said_ofEnvironment]

theorem unsaid_iff {f : Field} : Unsaid environment f ↔ (environment f.variableName).bind f.kind.parse? = none := by
  rw [Option.eq_none_iff_forall_ne_some]
  constructor
  · intro unsaid x heard
    obtain ⟨given, set, parsed⟩ := Option.bind_eq_some_iff.1 heard
    exact unsaid given set x (Kind.parse?_eq_some_iff.1 parsed)
  · intro unheard given set x accepted
    exact unheard x (Option.bind_eq_some_iff.2 ⟨given, set, Kind.parse?_eq_some_iff.2 accepted⟩)

theorem decided_load (f : Field) : Decided build file environment f (f.get (load file environment build)) := by
  rw [get_load]
  cases heard : (environment f.variableName).bind f.kind.parse? with
  | some x =>
    obtain ⟨given, set, parsed⟩ := Option.bind_eq_some_iff.1 heard
    exact .byVariable set (Kind.parse?_eq_some_iff.1 parsed)
  | none =>
    cases said : f.said (.ofFile file) with
    | some x =>
      obtain ⟨entries, sound, there⟩ := said_ofFile_eq_some_iff.1 said
      exact .byFile (unsaid_iff.2 heard) sound there
    | none => exact .byDefault (unsaid_iff.2 heard) (said_ofFile_eq_none_iff.1 said)

theorem Decided.get_load {f : Field} {x : f.Value} (decided : Decided build file environment f x) :
    f.get (load file environment build) = x := by
  rw [Settings.get_load]
  cases decided with
  | byVariable set accepted => rw [set, Option.bind_some, Kind.parse?_eq_some_iff.2 accepted, Option.getD_some]
  | byFile unsaid sound there =>
    rw [unsaid_iff.1 unsaid, (sound.said_eq_some_iff f).2 there, Option.getD_none, Option.getD_some]
  | byDefault unsaid lacking =>
    rw [unsaid_iff.1 unsaid, said_ofFile_eq_none_iff.2 lacking, Option.getD_none, Option.getD_none]

/-- Every setting has the value of its own variable if that is acceptable, else what a file that is good as a whole
has for it, else the default of the build, whatever the file and the environment. Hence no other variable has a say in
it. A variable that is not acceptable might as well not be set; a file with anything wrong in it might as well not be
there; and of a good file no other entry has a say. -/
theorem settings_decided (build : Build) (file : Option Bytes) (environment : String → Option String) :
    (∀ (f : Field) x, f.get (load file environment build) = x ↔ Decided build file environment f x) ∧
    (∀ (f : Field) environment', environment' f.variableName = environment f.variableName →
      f.get (load file environment' build) = f.get (load file environment build)) ∧
    (∀ f, Unsaid environment f →
      load file environment build = load file (Function.update environment f.variableName none) build) ∧
    ((∀ entries, ¬ Sound file entries) → load file environment build = load none environment build) ∧
    ∀ (f : Field) file' entries entries', Sound file entries → Sound file' entries' →
      (∀ v, (f.key, v) ∈ entries ↔ (f.key, v) ∈ entries') →
        f.get (load file environment build) = f.get (load file' environment build) := by
  refine ⟨?_, ?_, ?_, ?_, ?_⟩
  · intro f x
    constructor
    · rintro rfl
      exact decided_load f
    · exact Decided.get_load
  · intro f environment' same
    rw [get_load, get_load, same]
  · intro f unsaid
    refine ext_get fun g => ?_
    rw [get_load, get_load]
    -- the others have variables of their own, which are left alone
    by_cases same : g = f
    · subst same
      rw [unsaid_iff.1 unsaid, Function.update_self, Option.bind_none]
    · rw [Function.update_of_ne fun names => same (Field.variableName_injective names)]
  · intro unsound
    rw [load, load, ofFile_of_unsound unsound]
    rfl
  · intro f file' entries entries' sound sound' alike
    have said : f.said (.ofFile file) = f.said (.ofFile file') := by
      ext x
      rw [sound.said_eq_some_iff, sound'.said_eq_some_iff, alike]
    rw [get_load, get_load, said]

/-- A good file with an entry of its own, which leaves one setting open; another one, with the same number in
another base; a file with a time in quotes; and an environment in which one variable has a blank too many. In a
release build the order of locks goes unchecked if neither the file nor a variable asks for it. -/
theorem settings_decided_mixed :
    let good := some (Text.utf8
      "server_url = \"https://chat.example.org\"\nstrict_lock_checks = false\ngroup_lock_timeout_ms = 250\ncolours = [7]\n")
    let other := some (Text.utf8 "group_lock_timeout_ms = 0xFA\nhttp_timeout_secs = 1\n")
    let bad := some (Text.utf8 "server_url = \"https://chat.example.org\"\nhttp_timeout_secs = \"9\"\n")
    let environment : String → Option String := fun name =>
      if name = "APP__STRICT_LOCK_CHECKS" then some "\tYes\u00a0"
      else if name = "APP__GROUP_LOCK_TIMEOUT_MS" then some " 9"
      else if name = "APP__HTTP_TIMEOUT_SECS" then some "+007"
      else none
    load good environment .release = ⟨"https://chat.example.org", "sqlite://./data/client.db", true, 250, 7⟩ ∧
      (load good (Function.update environment "APP__SERVER_URL" (some "")) .release).httpTimeoutSecs = 7 ∧
      Unsaid environment .groupLockTimeout ∧
      load good environment .release = load good (Function.update environment "APP__GROUP_LOCK_TIMEOUT_MS" none) .release ∧
      (∀ entries, ¬ Sound bad entries) ∧ load bad environment .release = load none environment .release ∧
      (∃ entries, Sound other entries) ∧ (load other environment .release).groupLockTimeoutMs = 250 ∧
      (load other (fun _ => none) .release).strictLockChecks = false := by
  intro good other bad environment
  obtain ⟨decided, apart, unset, -, alike⟩ := settings_decided .release good environment
  obtain ⟨-, -, -, dropped, -⟩ := settings_decided .release bad environment
  obtain ⟨silent, -, -, -, -⟩ := settings_decided .release other fun _ => none
  have unsaid : Unsaid environment .groupLockTimeout := unsaid_iff.2 (by decide)
  have unsound : ∀ entries, ¬ Sound bad entries := not_exists.1 (mt exists_sound_iff.1 (by decide +kernel))
  have told : Layer.ofFile good = ⟨some "https://chat.example.org", none, some false, some 250, none⟩ := by decide +kernel
  have told' : Layer.ofFile other = ⟨none, none, none, some 250, some 1⟩ := by decide +kernel
  have here : Field.groupLockTimeout.said (.ofFile good) = some 250 := congrArg (Field.said .groupLockTimeout) told
  have there : Field.groupLockTimeout.said (.ofFile other) = some 250 := congrArg (Field.said .groupLockTimeout) told'
  obtain ⟨entries, sound, entry⟩ := said_ofFile_eq_some_iff.1 here
  obtain ⟨entries', sound', -⟩ := said_ofFile_eq_some_iff.1 there
  have serverUrl := (decided .serverUrl "https://chat.example.org").2
    (.byFile (unsaid_iff.2 (by decide)) sound ((sound.said_eq_some_iff _).1 (congrArg (Field.said .serverUrl) told)))
  have databaseUrl := (decided .databaseUrl "sqlite://./data/client.db").2
    (.byDefault (unsaid_iff.2 (by decide)) (said_ofFile_eq_none_iff.1 (congrArg (Field.said .databaseUrl) told)))
  have strictLockChecks := (decided .strictLockChecks true).2
    (.byVariable rfl (Kind.parse?_eq_some_iff.1 (by decide)))
  have groupLockTimeout := (decided .groupLockTimeout 250).2 (.byFile unsaid sound entry)
  have httpTimeout := (decided .httpTimeout 7).2 (.byVariable rfl (Kind.parse?_eq_some_iff.1 (by decide)))
  refine ⟨?_, ?_, unsaid, unset _ unsaid, unsound, dropped unsound, ⟨entries', sound'⟩, ?_, ?_⟩
  · apply ext_get
    intro f
    cases f <;> assumption
  · exact (apart .httpTimeout _ (by decide)).trans httpTimeout
  · have same := alike .groupLockTimeout other entries entries' sound sound' fun v => by
      rw [sound.mem_iff, sound'.mem_iff, here, there]
    exact same.symm.trans groupLockTimeout
  · exact (silent .strictLockChecks false).2
      (.byDefault (unsaid_iff.2 rfl) (said_ofFile_eq_none_iff.1 (congrArg (Field.said .strictLockChecks) told')))

end Enrolment.Settings
