import Mathlib.Algebra.GroupWithZero.Nat
import XGovernor.Joint.HostTypes
import XGovernor.Joint.Validate

/-!
# Host policies and canonical requests

The mapping of logical paths into the workspace, the limits a policy may set, and the
native steps that a canonical request stands for.  What a path resolves to is the workspace
followed by names of entries below it (`IsEntry`), whatever the caller wrote.
-/

namespace XGovernor.Joint

open Domain Lib HostPathPolicyV1

/-! ## Paths -/

/-- `str::starts_with`. -/
def startsWith (value head : String) : Bool :=
  head.toList.isPrefixOf value.toList

/-- `value.trim_end_matches('/')`. -/
def trimEndSlash (value : String) : String :=
  String.ofList (value.toList.reverse.dropWhile (· = '/')).reverse

/-- `value.trim_start_matches('/')`. -/
def trimStartSlash (value : String) : String :=
  String.ofList (value.toList.dropWhile (· = '/'))

/-- `value.strip_prefix(head)`. -/
def stripHead (value head : String) : Option String :=
  if startsWith value head then some (String.ofList (value.toList.drop head.toList.length))
  else none

variable (path : String)

/-- A path that stays below the directory it is taken from. -/
def isRelative : Bool :=
  !startsWith path "/" && !path.toList.contains '\x00' &&
    !(splitSlash path).any fun part => part = ".." || startsWith part "~"

def hostInvalid (message : String) : SessionDomainError :=
  .invalidRequest message

variable (policy : HostPathPolicyV1)

/-- The fixed part of a path mapping. -/
def HostPathPolicyV1.validateMapping :
    Except SessionDomainError Unit := do
  ensure (policy.mappingVersion = 1 && startsWith policy.workspaceBackendRoot "/" &&
      !policy.workspaceBackendRoot.toList.contains '\x00' &&
      !(splitSlash policy.workspaceBackendRoot).contains ".." &&
      isRelative policy.fsRelativeWorkspace && policy.homeRelative.all isRelative)
    (hostInvalid "invalid fixed workspace mapping")
  let workspace := trimEndSlash policy.fsRelativeWorkspace
  ensure (policy.homeRelative.all fun home =>
      workspace = "." || workspace = "" || home = workspace || startsWith home (workspace ++ "/"))
    (unsupportedJoint "home_outside_workspace_mapping")

/-- The base directory and the rest of a logical path. -/
def HostPathPolicyV1.split (raw : String) :
    Except SessionDomainError (String × String) :=
  if startsWith raw "/" then
    match (stripHead raw (trimEndSlash policy.workspaceBackendRoot)).filter
        fun rest => rest = "" || startsWith rest "/" with
    | some rest => .ok (policy.fsRelativeWorkspace, trimStartSlash rest)
    | none => .error (hostInvalid "path is outside workspace mapping")
  else if raw = "~" || startsWith raw "~/" then
    match policy.homeRelative with
    | some home => .ok (home, trimStartSlash (String.ofList (raw.toList.drop 1)))
    | none => .error (hostInvalid "HOME is not configured")
  else .ok (policy.fsRelativeWorkspace, raw)

/-- Maps a logical path to a path relative to the file system of the workspace. -/
def HostPathPolicyV1.resolve (raw : String) :
    Except SessionDomainError String := do
  policy.validateMapping
  let parts ← policy.split raw
  ensure (isRelative parts.2) (hostInvalid "invalid logical path")
  let joined := "/".intercalate
    ((splitSlash (parts.1 ++ "/" ++ parts.2)).filter fun part => part ≠ "" && part ≠ ".")
  pure (if joined = "" then "." else joined)

/-! ## Mapped paths -/

/-- The components of a path that name something. -/
def components : List String :=
  (splitSlash path).filter fun part => part ≠ "" && part ≠ "."

theorem components_join (base rest : String) :
    components (base ++ "/" ++ rest) = components base ++ components rest := by
  simp [components, splitSlash, List.splitOn_append_cons_self]

theorem slash_not_mem {path part} (h : part ∈ splitSlash path) : '/' ∉ part.toList := by
  obtain ⟨chars, hchars, rfl⟩ := List.mem_map.1 h
  clear h
  rw [String.toList_ofList]
  generalize path.toList = text at hchars
  induction text generalizing chars with
  | nil => simp_all
  | cons c text ih =>
    rw [List.splitOn_cons_eq_if_modifyHead] at hchars
    obtain ⟨head, tail, hsplit⟩ := List.exists_cons_of_ne_nil (List.splitOn_ne_nil '/' text)
    rw [hsplit, List.modifyHead_cons] at hchars
    grind

/-- Slashes at the end of a path do not change its components. -/
theorem components_trimEndSlash :
    components (trimEndSlash path) = components path := by
  have hslashes : ∀ text : List Char,
      components (String.ofList (text.dropWhile (· = '/')).reverse) =
        components (String.ofList text.reverse) := by
    intro text
    induction text with
    | nil => rfl
    | cons c text ih =>
      by_cases hc : c = '/'
      · subst hc
        rw [List.dropWhile_cons_of_pos (by simp), ih]
        simp [components, splitSlash, List.splitOn_append_cons_self]
      · rw [List.dropWhile_cons_of_neg (by simpa using hc)]
  have htrimmed := hslashes path.toList.reverse
  rwa [List.reverse_reverse, String.ofList_toList] at htrimmed

theorem startsWith_iff {value head : String} :
    startsWith value head = true ↔ ∃ rest, value = head ++ rest := by
  simp only [startsWith, List.isPrefixOf_iff_prefix]
  constructor
  · rintro ⟨rest, hrest⟩
    exact ⟨String.ofList rest, String.toList_injective (by simp [hrest])⟩
  · rintro ⟨rest, rfl⟩
    exact ⟨rest.toList, by simp⟩

/-- A name of a directory entry below its parent. -/
def IsEntry (part : String) : Prop :=
  part ≠ "" ∧ part ≠ "." ∧ part ≠ ".." ∧ startsWith part "~" = false ∧ '/' ∉ part.toList

theorem isEntry_of_isRelative {path part} (h : isRelative path = true)
    (hpart : part ∈ components path) : IsEntry part := by
  obtain ⟨hmem, hnamed⟩ := List.mem_filter.1 hpart
  simp only [isRelative, Bool.and_eq_true, Bool.not_eq_true', List.any_eq_false] at h
  have hinside := h.2 part hmem
  simp only [Bool.or_eq_true, decide_eq_true_eq, not_or, Bool.not_eq_true] at hinside
  simp only [Bool.and_eq_true, decide_eq_true_eq] at hnamed
  exact ⟨hnamed.1, hnamed.2, hinside.1, hinside.2, slash_not_mem hmem⟩

/-- What an accepted mapping promises: an absolute root, and two relative bases of which the
home lies in the workspace. -/
theorem HostPathPolicyV1.of_validateMapping {policy : HostPathPolicyV1}
    (h : policy.validateMapping = .ok ()) :
    startsWith policy.workspaceBackendRoot "/" = true ∧
      isRelative policy.fsRelativeWorkspace = true ∧
      ∀ home, policy.homeRelative = some home →
        isRelative home = true ∧ components policy.fsRelativeWorkspace <+: components home := by
  simp only [validateMapping, except_bind_eq_ok, ensure_eq_ok, Bool.and_eq_true] at h
  obtain ⟨-, ⟨⟨⟨⟨⟨-, hroot⟩, -⟩, -⟩, hbase⟩, hhomes⟩, hbelow⟩ := h
  refine ⟨hroot, hbase, fun home hhome => ?_⟩
  simp only [hhome, Option.all_some, Bool.or_eq_true, decide_eq_true_eq, startsWith_iff]
    at hhomes hbelow
  refine ⟨hhomes, ?_⟩
  rw [← components_trimEndSlash]
  rcases hbelow with ((hdot | hempty) | rfl) | ⟨rest, rfl⟩
  · rw [hdot]
    exact List.nil_prefix
  · rw [hempty]
    exact List.nil_prefix
  · exact List.prefix_rfl
  · rw [components_join]
    exact List.prefix_append _ _

/-- A path is taken from the workspace or from the home in it. -/
theorem HostPathPolicyV1.base_of_split {policy : HostPathPolicyV1} {raw : String}
    {parts : String × String} (hvalid : policy.validateMapping = .ok ())
    (hsplit : policy.split raw = .ok parts) :
    isRelative parts.1 = true ∧ components policy.fsRelativeWorkspace <+: components parts.1 := by
  obtain ⟨-, hbase, hhomes⟩ := of_validateMapping hvalid
  unfold split at hsplit
  split at hsplit
  · split at hsplit <;> cases hsplit
    exact ⟨hbase, List.prefix_rfl⟩
  · split at hsplit
    · split at hsplit <;> cases hsplit
      exact hhomes _ ‹_›
    · cases hsplit
      exact ⟨hbase, List.prefix_rfl⟩

/-- An absolute path below the root stands for what follows the root. -/
theorem HostPathPolicyV1.split_absolute {policy : HostPathPolicyV1} {s : String}
    (hroot : startsWith policy.workspaceBackendRoot "/" = true) (hs : startsWith s "/" = false) :
    policy.split (policy.workspaceBackendRoot ++ "/" ++ s) =
      .ok (policy.fsRelativeWorkspace, s) := by
  obtain ⟨slashes, hslashes, hsplit⟩ : ∃ slashes : List Char, (∀ c ∈ slashes, c = '/') ∧
      policy.workspaceBackendRoot.toList =
        (trimEndSlash policy.workspaceBackendRoot).toList ++ slashes := by
    refine ⟨(policy.workspaceBackendRoot.toList.reverse.takeWhile (· = '/')).reverse, ?_, ?_⟩
    · intro c hc
      simpa using List.all_eq_true.1 List.all_takeWhile c (List.mem_reverse.1 hc)
    · rw [trimEndSlash, String.toList_ofList, ← List.reverse_append,
        List.takeWhile_append_dropWhile, List.reverse_reverse]
  have hrest : stripHead (policy.workspaceBackendRoot ++ "/" ++ s)
      (trimEndSlash policy.workspaceBackendRoot) =
        some (String.ofList (slashes ++ '/' :: s.toList)) := by
    simp [stripHead, startsWith, hsplit]
  have hslash : startsWith (String.ofList (slashes ++ '/' :: s.toList)) "/" = true := by
    cases slashes <;> simp_all [startsWith]
  have htrim : trimStartSlash (String.ofList (slashes ++ '/' :: s.toList)) = s := by
    have hstays : s.toList.dropWhile (· = '/') = s.toList := by
      cases hchars : s.toList with
      | nil => rfl
      | cons c chars =>
        have hne : '/' ≠ c := by simpa [startsWith, List.isPrefixOf, hchars] using hs
        exact List.dropWhile_cons_of_neg (by simpa using hne.symm)
    rw [trimStartSlash, String.toList_ofList,
      List.dropWhile_append_of_pos (by simpa using hslashes),
      List.dropWhile_cons_of_pos (by simp), hstays, String.ofList_toList]
  have habsolute : startsWith (policy.workspaceBackendRoot ++ "/" ++ s) "/" = true := by
    obtain ⟨rest, heq⟩ := startsWith_iff.1 hroot
    exact startsWith_iff.2 ⟨rest ++ "/" ++ s, by rw [heq]; simp [String.append_assoc]⟩
  rw [split, if_pos habsolute, hrest, Option.filter_some, if_pos (by rw [hslash, Bool.or_true])]
  simp only [htrim]

theorem intercalate_eq_empty {parts} (h : ∀ part ∈ parts, part ≠ "") :
    "/".intercalate parts = "" ↔ parts = [] := by
  match parts with
  | [] => simp
  | [part] => simpa using h
  | part :: next :: rest => simp [String.intercalate_cons_cons]

/-- **Path mapping**: what a path resolves to is the workspace followed by names of entries, so it
stays inside; and a path below the root of the backend resolves as what follows the root. -/
theorem path_mapping (policy : HostPathPolicyV1) :
    (∀ raw path, policy.resolve raw = .ok path → ∃ parts, (∀ part ∈ parts, IsEntry part) ∧
      components policy.fsRelativeWorkspace <+: parts ∧
      path = if parts = [] then "." else "/".intercalate parts) ∧
    ∀ s, startsWith s "/" = false → startsWith s "~" = false →
      policy.resolve (policy.workspaceBackendRoot ++ "/" ++ s) = policy.resolve s := by
  constructor
  · intro raw path hpath
    simp only [resolve, except_bind_eq_ok, ensure_eq_ok] at hpath
    obtain ⟨_, hvalid, ⟨base, rest⟩, hsplit, _, hrest, hpath⟩ := hpath
    obtain ⟨hbase, hbelow⟩ := base_of_split hvalid hsplit
    have hentr : ∀ part ∈ components base ++ components rest, IsEntry part := by
      intro part hpart
      rcases List.mem_append.1 hpart with hpart | hpart
      · exact isEntry_of_isRelative hbase hpart
      · exact isEntry_of_isRelative hrest hpart
    refine ⟨_, hentr, hbelow.trans (List.prefix_append _ _), ?_⟩
    change Except.ok (if "/".intercalate (components (base ++ "/" ++ rest)) = "" then "."
      else "/".intercalate (components (base ++ "/" ++ rest))) = _ at hpath
    rw [components_join] at hpath
    simpa only [intercalate_eq_empty fun part hpart => (hentr part hpart).1,
      Except.ok.injEq, eq_comm] using hpath
  · intro s hslash hhome
    cases hvalid : policy.validateMapping with
    | error e =>
      simp only [resolve, hvalid]
      rfl
    | ok u =>
      have hroot := (of_validateMapping hvalid).1
      have hrelative : policy.split s = .ok (policy.fsRelativeWorkspace, s) := by
        have hnothome : ¬ (s = "~" || startsWith s "~/") = true := by
          rw [Bool.or_eq_true, decide_eq_true_eq, startsWith_iff]
          rintro (rfl | ⟨rest, rfl⟩)
          · exact absurd hhome (by decide)
          · exact absurd hhome (by simp [startsWith])
        rw [split, if_neg (by simp [hslash]), if_neg hnothome]
      unfold resolve
      rw [split_absolute hroot hslash, hrelative]

/-- A path below the root of a deployment, and the same path relative to its workspace. -/
theorem path_mapping_workspace :
    resolve ⟨"/srv", "work", some "work/home", 1⟩ "/srv/a/./b" =
        resolve ⟨"/srv", "work", some "work/home", 1⟩ "a/./b" ∧
      resolve ⟨"/srv", "work", some "work/home", 1⟩ "a/./b" = .ok "work/a/b" :=
  ⟨(path_mapping ⟨"/srv", "work", some "work/home", 1⟩).2 "a/./b" (by decide) (by decide),
    by decide⟩

/-! ## Policies -/

def HostCapabilityPolicyV1.validate (policy : HostCapabilityPolicyV1) :
    Except SessionDomainError Unit := do
  ensure (policy.schemaVersion = 1 && policy.configurationRevision ≠ "" &&
      policy.deploymentId ≠ "" && policy.backendReleaseRef ≠ "" && policy.sdkFingerprint ≠ "" &&
      !policy.evidenceRefs.isEmpty && (1 ≤ policy.maxTimeoutMs && policy.maxTimeoutMs ≤ 300000) &&
      (1 ≤ policy.maxOutputBytes && policy.maxOutputBytes ≤ 65536) &&
      (1 ≤ policy.maxArgvItems && policy.maxArgvItems ≤ 256) &&
      (1 ≤ policy.maxArgvBytes && policy.maxArgvBytes ≤ 32768) &&
      (1 ≤ policy.maxFileBytes && policy.maxFileBytes ≤ 67108864) &&
      policy.maxInflight ≠ 0 && policy.maxReservedBytes ≠ 0)
    (hostInvalid "unsupported Host policy or limits")
  let _ ← policy.paths.resolve ""
  pure ()

/-! ## Canonical requests -/

/-- The parameters of a native execution. -/
def execParams (childId : String) (argv : List String) (cwd : String)
    (timeoutMs maxOutputBytes : Nat) : Json :=
  .object
    [("argv", .array (argv.map .string)), ("cwd", .string cwd),
      ("maxOutputBytes", .number maxOutputBytes), ("thinkthreadId", .string childId),
      ("timeoutMs", .string (toString timeoutMs))]

/-- The native steps of a canonical request: method and parameters of each. -/
def nativeParams (t : HostTargetV1) (r : HostCanonicalRequestV1) : List (String × Json) :=
  match r with
  | .read .. => []
  | .exec argv cwd timeoutMs maxOutputBytes =>
    [("thinkthread.exec", execParams t.nativeChildId argv cwd timeoutMs maxOutputBytes)]
  | .write path size sha256 maxBytes mkdir =>
    (mkdir.toList.map fun m =>
      ("thinkthread.exec", execParams t.nativeChildId m.argv m.cwd m.timeoutMs m.maxOutputBytes)) ++
    [("thinkthread.write", .object
      [("byteLength", .number size), ("maxBytes", .number maxBytes), ("path", .string path),
        ("sha256", .string sha256), ("thinkthreadId", .string t.nativeChildId)])]

/-- The total length of the arguments. -/
def argvBytes (argv : List String) : Nat :=
  (argv.map String.utf8ByteSize).sum

/-- The directory part of a path, `"."` when it has none. -/
def parentPath : String :=
  match (splitSlash path).dropLast with
  | [] => "."
  | parts => "/".intercalate parts

/-- The request is the operation that the context names, for the session of the target. -/
def verifyContext (p : HostPreparedV1) : Bool :=
  let c := p.context
  let t := p.target
  c.intentId ≠ "" && c.operation = p.request.operation &&
    c.sourceRuntimeId = some t.publicRuntimeId && c.targetRuntimeId.isNone &&
    c.checkpointId.isNone && c.principal ≠ "" && c.ownerRef = t.ownerRef &&
    tenantKey c.tenantId = t.tenantKey && c.configurationRevision = p.policy.configurationRevision

/-- Each native step is the canonical one. -/
def verifySteps : List (String × Json) → List JointNativeIntent → Except SessionDomainError Unit
  | (method, params) :: expected, n :: natives => do
    validateNative n
    ensure (n.method = method && n.params = params && n.effect = .mutate && !n.compensation)
      (.conflict "Host canonical step mismatch")
    verifySteps expected natives
  | _, _ => .ok ()

/-- The limits of the policy, applied again at the storage boundary; the path to map is
returned. -/
def verifyLimits (policy : HostCapabilityPolicyV1) :
    HostCanonicalRequestV1 → Except SessionDomainError (Option String)
  | .exec argv cwd timeoutMs maxOutputBytes => do
    ensure (policy.exec && !argv.isEmpty && argv.length ≤ policy.maxArgvItems &&
        !(argv.any fun v => v.toList.contains '\x00') && !(argv.head?.any isBlank) &&
        argvBytes argv ≤ policy.maxArgvBytes &&
        (1 ≤ timeoutMs && timeoutMs ≤ policy.maxTimeoutMs) &&
        maxOutputBytes = policy.maxOutputBytes && !startsWith cwd "/" &&
        !(splitSlash cwd).contains "..")
      (.conflict "Host exec exceeds policy")
    pure none
  | .read path maxBytes => do
    ensure (policy.read && maxBytes = policy.maxFileBytes)
      (.conflict "Host read exceeds policy")
    pure (some path)
  | .write path size sha256 maxBytes mkdir => do
    ensure (policy.overwrite && size ≤ policy.maxFileBytes && maxBytes = policy.maxFileBytes &&
        isDigest sha256)
      (.conflict "Host write exceeds policy")
    ensure (mkdir.all fun m =>
        policy.exec && m.argv = ["mkdir", "-p", "--", parentPath path] &&
          m.argv.length ≤ policy.maxArgvItems && argvBytes m.argv ≤ policy.maxArgvBytes &&
          (1 ≤ m.timeoutMs && m.timeoutMs ≤ policy.maxTimeoutMs) &&
          m.maxOutputBytes = policy.maxOutputBytes && m.cwd = ".")
      (.conflict "Host mkdir exceeds policy")
    pure (some path)

def verifyRequest (p : HostPreparedV1) : Except SessionDomainError Unit := do
  ensure (verifyContext p) (.conflict "Host context mismatch")
  let expected := nativeParams p.target p.request
  ensure (expected.length = p.native.length) (.conflict "Host step count mismatch")
  verifySteps expected p.native
  let path ← verifyLimits p.policy p.request
  ensure (path.all isRelative) (.conflict "Host path exceeds mapping")

variable {p : HostPreparedV1}

section

variable (h : verifyRequest p = .ok ())
include h

theorem native_length_of_verifyRequest :
    p.native.length = (nativeParams p.target p.request).length := by
  simp only [verifyRequest, except_bind_eq_ok, ensure_eq_ok, decide_eq_true_eq] at h
  obtain ⟨_, -, _, hlen, -⟩ := h
  exact hlen.symm

/-- A verified request has a native step unless it is a read, which has none. -/
theorem native_eq_nil_iff_of_verifyRequest : p.native = [] ↔ p.request.isRead = true := by
  rw [← List.length_eq_zero_iff, native_length_of_verifyRequest h, List.length_eq_zero_iff]
  cases p.request <;> simp [nativeParams, HostCanonicalRequestV1.isRead]

theorem operation_of_verifyRequest :
    p.context.operation = p.request.operation := by
  simp only [verifyRequest, except_bind_eq_ok, ensure_eq_ok] at h
  obtain ⟨_, hctx, -⟩ := h
  simp only [verifyContext, Bool.and_eq_true, decide_eq_true_eq] at hctx
  exact hctx.1.1.1.1.1.1.1.2

end

end XGovernor.Joint
