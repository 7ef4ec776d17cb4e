import Mathlib.Data.List.Sort
import XGovernor.Domain.Json
import XGovernor.Lib.Record

/-!
# Provider options across a restart

The options of a remote sandbox come as a JSON value and are read into a record; unknown names are
refused.  What is stored for a restart is the same value without its secrets.  Reading it again
should give the same options, apart from the secrets.

A record with many optional fields is a function from its fields.  The reader accepts an object,
with an alias for most names, or the array of the values in the order of the fields.
-/

namespace XGovernor.E2b

open Domain Lib

/-! ## The fields -/

inductive OptionField where
  | apiKey | apiKeyEnv | apiBase | domain | templateId | timeoutSecs | secure
  | allowInternetAccess | autoPause | autoResume | envdPort | envdScheme | workspaceRoot | homeDir
  | tempRoot | defaultShell | envdFileUpload | username | metadata | envVars | network | mcp
  | volumeMounts | bootstrap
  deriving DecidableEq

open OptionField

/-- The fields in the order of their declaration. -/
def OptionField.all : List OptionField :=
  [.apiKey, .apiKeyEnv, .apiBase, .domain, .templateId, .timeoutSecs, .secure,
    .allowInternetAccess, .autoPause, .autoResume, .envdPort, .envdScheme, .workspaceRoot,
    .homeDir, .tempRoot, .defaultShell, .envdFileUpload, .username, .metadata, .envVars, .network,
    .mcp, .volumeMounts, .bootstrap]

/-- The field that a name stands for. -/
def OptionField.ofKey : String → Option OptionField
  | "api_key" => some apiKey
  | "api_key_env" => some apiKeyEnv
  | "api_base" | "apiBase" | "api_url" | "apiUrl" => some apiBase
  | "domain" | "sandbox_domain" | "sandboxDomain" => some domain
  | "template_id" | "templateID" | "template" => some templateId
  | "timeout_secs" | "timeout" => some timeoutSecs
  | "secure" => some secure
  | "allow_internet_access" | "allowInternetAccess" => some allowInternetAccess
  | "auto_pause" | "autoPause" => some autoPause
  | "auto_resume" | "autoResume" => some autoResume
  | "envd_port" | "envdPort" => some envdPort
  | "envd_scheme" | "envdScheme" => some envdScheme
  | "workspace_root" | "workspaceRoot" | "remoteWorkspaceRoot" => some workspaceRoot
  | "home_dir" | "homeDir" => some homeDir
  | "temp_root" | "tempRoot" => some tempRoot
  | "default_shell" | "defaultShell" => some defaultShell
  | "envd_file_upload" | "envdFileUpload" => some envdFileUpload
  | "username" => some username
  | "metadata" => some metadata
  | "env_vars" | "envVars" => some envVars
  | "network" => some network
  | "mcp" => some mcp
  | "volume_mounts" | "volumeMounts" => some volumeMounts
  | "bootstrap" => some bootstrap
  | _ => none

/-- The fields that are not stored. -/
def OptionField.secret : OptionField → Bool
  | apiKey | envVars => true
  | _ => false

/-! ## The values -/

inductive BootstrapField where
  | workspace | skillDirs | skillsRoot
  deriving DecidableEq

inductive OptionValue where
  | text (value : String)
  | number (value : Nat)
  | flag (value : Bool)
  | texts (value : List String)
  | textMap (entries : List (String × String))
  | json (value : Json)
  | bootstrap (get : BootstrapField → Option OptionValue)

/-- A value that may be missing: `null` counts as missing. -/
def optional (read : Json → Option OptionValue) : Json → Option (Option OptionValue)
  | .null => some none
  | value => (read value).map some

def readText : Json → Option OptionValue
  | .string value => some (.text value)
  | _ => none

def readNumber (bound : Nat) : Json → Option OptionValue
  | .number value => if 0 ≤ value ∧ value < bound then some (.number value.toNat) else none
  | _ => none

def readFlag : Json → Option OptionValue
  | .bool value => some (.flag value)
  | _ => none

def readTextMap : Json → Option OptionValue
  | .object fields =>
    (fields.mapM fun (entry : String × Json) =>
      entry.2.asStr?.map fun text => (entry.1, text)).map .textMap
  | _ => none

def readTexts : Json → Option OptionValue
  | .array items => (items.mapM Json.asStr?).map .texts
  | _ => none

def BootstrapField.ofKey : String → Option BootstrapField
  | "workspace" => some workspace
  | "skill_dirs" | "skillDirs" => some skillDirs
  | "skills_root" | "skillsRoot" => some skillsRoot
  | _ => none

def readBootstrapField : BootstrapField → Json → Option (Option OptionValue)
  | .workspace => optional readText
  -- A list is not optional: it has a default, but no missing value.
  | .skillDirs => fun value => (readTexts value).map some
  | .skillsRoot => optional readText

/-- The nested record of bootstrap options. -/
def readBootstrap : Json → Option OptionValue
  | .object fields =>
    (collect BootstrapField.ofKey readBootstrapField fields fun _ => none).map fun get =>
      .bootstrap fun f => (get f).join
  | .array items =>
    if items.length ≤ 3 then
      (collect some readBootstrapField
        ([BootstrapField.workspace, .skillDirs, .skillsRoot].zip items) fun _ => none).map
          fun get => .bootstrap fun f => (get f).join
    else none
  | _ => none

/-- How the value of each field is read. -/
def readField : OptionField → Json → Option (Option OptionValue)
  | .timeoutSecs => optional (readNumber (2 ^ 64))
  | .envdPort => optional (readNumber (2 ^ 16))
  | .secure | .allowInternetAccess | .autoPause | .autoResume => optional readFlag
  | .metadata | .envVars => optional readTextMap
  | .network | .mcp | .volumeMounts => optional fun value => some (.json value)
  | .bootstrap => optional readBootstrap
  | _ => optional readText

/-! ## Reading and storing -/

structure E2bProviderOptions where
  get : OptionField → Option OptionValue

open E2bProviderOptions

/-- A field that did not come is missing. -/
def E2bProviderOptions.ofFields (fields : OptionField → Option (Option OptionValue)) :
    E2bProviderOptions :=
  ⟨fun f => (fields f).join⟩

/-- `parse_options`; the text of the refusal belongs to the JSON library. -/
def parseOptions (value : Json) : Option E2bProviderOptions :=
  match value with
  | .null => some (.ofFields fun _ => none)
  | .object fields =>
    (collect ofKey readField fields fun _ => none).map .ofFields
  | .array items =>
    if items.length ≤ all.length then
      (collect some readField (all.zip items) fun _ => none).map .ofFields
    else none
  | _ => none

/-- `redacted_provider_options`. -/
def redactedProviderOptions (providerOptions : Json) (options : E2bProviderOptions) : Json :=
  let object := match providerOptions with
    | .object fields => fields
    | _ => []
  let object := object.filter fun entry => entry.1 ≠ "api_key"
  let object := object.filter fun entry => entry.1 ≠ "env_vars"
  let object := object.filter fun entry => entry.1 ≠ "envVars"
  .object (if (options.get .apiKey).isSome then
      (object.filter fun entry => entry.1 ≠ "api_key_configured").orderedInsert
        (fun entry other => entry.1 ≤ other.1) ("api_key_configured", .bool true)
    else object)

/-! ## The round trip -/

/-- **The stored value is as good as the original**: it is accepted, and gives the same options in
every field that is not a secret. -/
def Survives (value : Json) (options : E2bProviderOptions) : Prop :=
  ∃ options', parseOptions (redactedProviderOptions value options) = some options' ∧
    ∀ f, f.secret = false → options'.get f = options.get f

/-- The value names no key of its own, and if it is an array it holds nothing but environment
variables. -/
def Storable : Json → Prop
  | .object fields => ∀ value, ("api_key", value) ∈ fields → value = .null
  | .array items => ∀ f value, (f, value) ∈ all.zip items → f ≠ .envVars → value = .null
  | _ => True

/-- The names that are taken out are those of the secret fields. -/
theorem secret_ofKey (key : String) :
    (!(ofKey key).any secret) =
      (decide (key ≠ "envVars") && (decide (key ≠ "env_vars") && decide (key ≠ "api_key"))) := by
  unfold ofKey
  split <;> simp_all [secret]

theorem ofKey_apiKey {key : String} :
    ofKey key = some .apiKey ↔ key = "api_key" := by
  constructor
  · unfold ofKey
    split <;> simp
  · rintro rfl
    rfl

/-- A missing value is `null`, for every field. -/
theorem readField_none_iff {f} {value : Json} :
    readField f value = some none ↔ value = .null := by
  have hoptional : ∀ read, optional read value = some none ↔ value = .null := by
    intro read
    cases value <;> simp [optional]
  cases f <;> exact hoptional _

variable {options : E2bProviderOptions} {fields : List (String × Json)}

/-- The stored form of an object without a key: the entries of the other fields. -/
theorem redacted_object (hkey : options.get .apiKey = none) :
    redactedProviderOptions (.object fields) options =
      .object (fields.filter fun entry => !(ofKey entry.1).any secret) := by
  simp only [redactedProviderOptions, hkey, Option.isSome_none, Bool.false_eq_true, if_false,
    List.filter_filter, secret_ofKey]

/-- The note that a key was given is not an option. -/
theorem parse_redacted_of_key {value} (hkey : (options.get .apiKey).isSome = true) :
    parseOptions (redactedProviderOptions value options) = none := by
  simp only [redactedProviderOptions, hkey, if_true, parseOptions, Option.map_eq_none_iff]
  by_contra haccepted
  obtain ⟨result, hres⟩ := Option.ne_none_iff_exists'.1 haccepted
  obtain ⟨f, v, hf, -⟩ := collect_mem hres
    ((List.mem_orderedInsert _).2 (.inl (Eq.refl ("api_key_configured", Json.bool true))))
  cases hf

/-- A field that was read is missing exactly when all its entries are `null`. -/
theorem missing_iff {K : Type} {fieldOf : K → Option OptionField} {entries : List (K × Json)}
    {result : OptionField → Option (Option OptionValue)}
    (hres : collect fieldOf readField entries (fun _ => none) = some result) (f) :
    (result f).join = none ↔
      ∀ key value, (key, value) ∈ entries → fieldOf key = some f → value = .null := by
  constructor
  · intro hnone key value hentry hkey
    obtain ⟨g, v, hg, hv, hresultg⟩ := collect_mem hres hentry
    cases hg.symm.trans hkey
    rw [hresultg] at hnone
    obtain rfl : v = none := hnone
    exact readField_none_iff.1 hv
  · intro hnull
    cases hf : result f with
    | none => rfl
    | some v =>
      rcases collect_origin hres hf with hbef | ⟨key, value, hentry, hkey, hvalue⟩
      · cases hbef
      · rw [hnull key value hentry hkey, readField_none_iff.2 rfl] at hvalue
        exact (Option.some.inj hvalue).symm

/-- Without a key of its own an object is stored field by field. -/
theorem survives_object_iff (haccepted : parseOptions (.object fields) = some options) :
    Survives (.object fields) options ↔ Storable (.object fields) := by
  obtain ⟨result, hres, rfl⟩ := Option.map_eq_some_iff.1 haccepted
  have hkey : (ofFields result).get .apiKey = none ↔ Storable (.object fields) := by
    refine (missing_iff hres .apiKey).trans ⟨fun h value hentry => h _ value hentry rfl, ?_⟩
    intro h key value hentry hkey
    rw [ofKey_apiKey.1 hkey] at hentry
    exact h value hentry
  rw [← hkey]
  constructor
  · rintro ⟨options', hopt', -⟩
    by_contra hsome
    rw [parse_redacted_of_key (Option.isSome_iff_ne_none.2 hsome)] at hopt'
    cases hopt'
  · intro hnone
    refine ⟨.ofFields (hide secret result), ?_, fun f hf => ?_⟩
    · rw [redacted_object hnone]
      have hwithout := collect_without secret hres
      rw [show hide secret (fun _ => (none : Option (Option OptionValue))) =
        fun _ => none by funext f; simp [hide]] at hwithout
      simp only [parseOptions, hwithout, Option.map_some]
    · simp [ofFields, hide, hf]

/-- An array is stored as an empty object. -/
theorem survives_array_iff {items : List Json}
    (haccepted : parseOptions (.array items) = some options) :
    Survives (.array items) options ↔ Storable (.array items) := by
  simp only [parseOptions] at haccepted
  split_ifs at haccepted
  obtain ⟨result, hres, rfl⟩ := Option.map_eq_some_iff.1 haccepted
  have hmissing : ∀ f, (ofFields result).get f = none ↔
      ∀ value, (f, value) ∈ all.zip items → value = .null := by
    intro f
    refine (missing_iff hres f).trans ⟨fun h value hentry => h f value hentry rfl, ?_⟩
    rintro h g value hentry hg
    exact h value (Option.some.inj hg ▸ hentry)
  constructor
  · rintro ⟨options', hopt', hsame⟩ f value hentry hf
    have hnone : (ofFields result).get .apiKey = none := by
      by_contra hsome
      rw [parse_redacted_of_key (Option.isSome_iff_ne_none.2 hsome)] at hopt'
      cases hopt'
    refine (hmissing f).1 ?_ value hentry
    cases hsecret : f.secret with
    | true =>
      obtain rfl : f = .apiKey := by
        cases f <;> simp_all [secret]
      exact hnone
    | false =>
      rw [← hsame f hsecret]
      simp only [redactedProviderOptions, hnone, List.filter_nil] at hopt'
      exact Option.some.inj hopt' ▸ rfl
  · intro hstorable
    have hnone : ∀ f, f ≠ .envVars → (ofFields result).get f = none :=
      fun f hf => (hmissing f).2 fun value hentry => hstorable f value hentry hf
    refine ⟨.ofFields fun _ => none, ?_, fun f hf => ?_⟩
    · simp only [redactedProviderOptions, hnone .apiKey (by simp), List.filter_nil]
      rfl
    · rw [hnone f (by rintro rfl; cases hf)]
      rfl

/-- **What survives a restart.**  An accepted value survives exactly when it gives no key of its
own and, if it is an array, nothing but environment variables. -/
theorem options_survive_iff (value : Json) (options : E2bProviderOptions)
    (haccepted : parseOptions value = some options) : Survives value options ↔ Storable value := by
  cases value with
  | null =>
    obtain rfl := Option.some.inj haccepted
    exact ⟨fun _ => trivial, fun _ => ⟨_, rfl, fun _ _ => rfl⟩⟩
  | object fields => exact survives_object_iff haccepted
  | array items => exact survives_array_iff haccepted
  | bool | number | float | string => cases haccepted

/-- Options with a key in the environment survive, under whichever names they come. -/
theorem env_key_survives :
    let value := Json.object [("api_key_env", .string "KEY"), ("envVars", .object []),
      ("template", .string "base"), ("timeout", .number 60)]
    ∃ options, parseOptions value = some options ∧ (options.get .templateId).isSome = true ∧
      Survives value options := by
  intro value
  obtain ⟨options, haccepted, htemplate⟩ : ∃ options, parseOptions value = some options ∧
      (options.get .templateId).isSome = true := ⟨_, rfl, rfl⟩
  refine ⟨options, haccepted, htemplate, (options_survive_iff value options haccepted).2 ?_⟩
  intro key hentry
  simp at hentry

/-- **A key locks its instance out.**  Options with a key are accepted, and what is stored for
them is refused. -/
theorem key_does_not_survive :
    let value := Json.object [("api_key", .string "secret")]
    ∃ options, parseOptions value = some options ∧
      redactedProviderOptions value options = .object [("api_key_configured", .bool true)] ∧
      parseOptions (redactedProviderOptions value options) = none ∧ ¬Survives value options := by
  refine ⟨_, rfl, rfl, rfl, ?_⟩
  rintro ⟨options', hopt', -⟩
  cases hopt'

end XGovernor.E2b
