import XGovernor.Lib.Transaction
import XGovernor.Joint.Types

/-!
# Checks on requests

The checks a joint request passes before its transaction begins.  They do not read the
store; a request that fails one is answered with an error and changes nothing.
-/

namespace XGovernor.Joint

open Domain Lib

variable (request : JointPrepareRequest)

/-- The public identity an operation's source fence is named after. -/
def Operation.source (operation : Operation) (c : JointOperationContext) : Option String :=
  match operation with
  | openSession => c.targetRuntimeId
  | load => c.checkpointId
  | checkpoint => c.sourceRuntimeId
  | close | turn => c.sourceRuntimeId
  | deleteCheckpoint => c.checkpointId
  | _ => none

/-- The resource an operation has to reserve one unit of. -/
def Operation.reservation : Operation → Option ResourceKind
  | openSession | load => some .session
  | checkpoint => some .checkpoint
  | _ => none

/-- The operations that name a parent binding. -/
def Operation.hasParent : Operation → Bool
  | load | checkpoint => true
  | _ => false

/-- Only an operation that creates a binding names a parent. -/
theorem Operation.hasParent_eq_false {operation : Operation}
    (h : operation.creates = false) : operation.hasParent = false := by
  cases operation <;> first | rfl | contradiction

/-- A hyphenated UUID: 36 bytes, hexadecimal digits except for the four hyphens. -/
def isUuid (value : String) : Bool :=
  decide (value.utf8ByteSize = 36) && value.toList.zipIdx.all fun (c, i) =>
    if [8, 13, 18, 23].contains i then c = '-' else isHexDigit c

def validateNative (native : JointNativeIntent) : Except SessionDomainError Unit :=
  ensure ([native.step, native.operationId, native.method].all nonempty &&
      isDigest native.digest && isUuid native.operationId && noCredentials native.params)
    (.conflict "invalid or credential-bearing native intent")

/-- A record that a joint owner publishes belongs to the operation's caller and target. -/
def validateCommittedSession (record : SessionRecord) (context : JointOperationContext)
    (ownerKind : String) : Except SessionDomainError Unit :=
  match record.executionBacking.joint with
  | none => .error (unsupportedJoint "publication")
  | some binding => do
    binding.validate
    ensure (binding.ownerKind = ownerKind && record.runtime.runtimeKind = context.runtimeKind &&
        record.runtimeId = context.targetRuntimeId.getD "" && record.tenantId = context.tenantId &&
        binding.configurationRevision = context.configurationRevision)
      (.unavailable "joint publication identity mismatch")

/-- The identity of the request, its owner and its operation. -/
def validateIdentity : Except SessionDomainError Unit :=
  let c := request.context
  ensure ([c.intentId, c.runtimeKind, c.configurationRevision, c.ownerRef, c.principal,
        request.rootId, request.sourceId].all nonempty && c.ownerRef = tenantKey c.tenantId &&
      c.configurationRevision = request.binding.configurationRevision &&
      [.openSession, .load, .checkpoint, .close, .deleteCheckpoint, .turn].contains
        c.operation && !(c.actorRole = .tenant && c.tenantId.isNone) && !request.native.isEmpty)
    (.conflict "invalid joint admission identity")

/-- The source, the parent and the reservations that the operation calls for. -/
def validateShape : Except SessionDomainError Unit :=
  let c := request.context
  ensure (c.operation.source c = some request.sourceId &&
      request.parentBinding.isSome == c.operation.hasParent &&
      (match c.operation.reservation with
        | some kind => request.reservations.any fun v => v.kind = kind && v.units = 1
        | none => request.reservations.isEmpty))
    (.conflict "joint source or reservation does not match operation")

/-- The public identities that the operation names. -/
def validatePublicIdentity (c : JointOperationContext) : Except SessionDomainError Unit :=
  ensure (!([.openSession, .load].contains c.operation && !c.targetRuntimeId.any nonempty ||
      [.checkpoint, .load, .deleteCheckpoint].contains c.operation &&
        !c.checkpointId.any nonempty ||
      [.checkpoint, .close, .turn].contains c.operation && !c.sourceRuntimeId.any nonempty))
    (.conflict "incomplete joint public identity")

/-- The record an operation is going to publish, when it is known at admission. -/
def validatePublicationInput :
    Except SessionDomainError Unit :=
  match request.publicationInput with
  | none => .ok ()
  | some record => do
    validateCommittedSession record request.context request.binding.ownerKind
    ensure ([.openSession, .load].contains request.context.operation &&
        record.executionBacking.joint = some request.binding &&
        record.status = .idle && record.noCredentials)
      (.conflict "invalid durable publication input")

/-- A turn carries its identity and one message; no other operation carries one. -/
def validateTurn : Except SessionDomainError Unit :=
  ensure (match request.turn, request.context.operation with
      | some turn, .turn =>
        nonempty turn.turnId && turn.clientRequestId.all nonempty &&
          isDigest turn.inputDigest && !request.exclusiveRoot && request.publicationInput.isNone &&
          (match request.native with
            | [native] => native.method = "message.send" && native.effect = .mutate
            | _ => false)
      | none, operation => operation ≠ .turn
      | _, _ => false)
    (.conflict "invalid durable turn admission")

/-- Known kinds, at least one unit each, no kind twice. -/
def validateReservations (reservations : List JointResourceReservation) :
    Except SessionDomainError Unit :=
  ensure (reservations.all (fun v =>
        [.session, .root, .replica, .checkpoint, .repair, .disk].contains v.kind && v.units ≠ 0) &&
      decide (reservations.map (·.kind)).Nodup)
    (.conflict "invalid joint reservation")

/-- Valid native steps, no step name and no operation id twice; `steps` and `ids` are those
of the natives before. -/
def validateNatives (steps ids : List String) :
    List JointNativeIntent → Except SessionDomainError Unit
  | [] => .ok ()
  | native :: rest => do
    validateNative native
    ensure (!steps.contains native.step && !ids.contains native.operationId)
      (.conflict "duplicate joint native operation")
    validateNatives (native.step :: steps) (native.operationId :: ids) rest

def validateRequest : Except SessionDomainError Unit := do
  request.binding.validate
  validateIdentity request
  validateShape request
  validatePublicIdentity request.context
  ensure (!(request.context.operation = .openSession &&
      !request.reservations.any fun r => r.kind = .root && r.units = 1))
    (.conflict "new Root requires a resource reservation")
  validatePublicationInput request
  validateTurn request
  validateReservations request.reservations
  validateNatives [] [] request.native

/-! ## What an accepted request looks like -/

/-- The facts about an accepted request that its transaction relies on. -/
structure ValidRequest (request : JointPrepareRequest) : Prop where
  operation_known : request.context.operation.isHost = false ∧
    (request.context.operation.creates ∨ request.context.operation.releases ∨
      request.context.operation = .turn)
  source_eq : request.context.operation.source request.context = some request.sourceId
  parent_iff : request.parentBinding.isSome = request.context.operation.hasParent
  reservations_ne_nil : request.context.operation.creates = true → request.reservations ≠ []
  reservations_eq_nil : request.context.operation.creates = false → request.reservations = []
  native_ne_nil : request.native ≠ []
  turn_iff : request.turn.isSome = true ↔ request.context.operation = .turn
  turn_ordinary : request.context.operation = .turn → request.exclusiveRoot = false

theorem identity_of_validateCommittedSession {record context ownerKind}
    (h : validateCommittedSession record context ownerKind = .ok ()) :
    record.runtimeId = context.targetRuntimeId.getD "" ∧ record.tenantId = context.tenantId := by
  unfold validateCommittedSession at h
  split at h
  · contradiction
  · simp only [except_bind_eq_ok, ensure_eq_ok, Bool.and_eq_true, decide_eq_true_eq] at h
    obtain ⟨_, -, ⟨⟨⟨-, hid⟩, htenant⟩, -⟩⟩ := h
    exact ⟨hid, htenant⟩

private theorem isSome_turn_iff {request} (h : validateTurn request = .ok ()) :
    request.turn.isSome = true ↔ request.context.operation = .turn := by
  simp only [validateTurn, ensure_eq_ok] at h
  cases hturn : request.turn with
  | none => simpa [hturn] using h
  | some turn =>
    cases hop : request.context.operation <;> simp [hturn, hop] at h ⊢

private theorem exclusiveRoot_of_validateTurn {request}
    (h : validateTurn request = .ok ()) (hop : request.context.operation = .turn) :
    request.exclusiveRoot = false := by
  simp only [validateTurn, ensure_eq_ok, hop] at h
  cases hturn : request.turn with
  | none => simp [hturn] at h
  | some turn =>
    simp only [hturn, Bool.and_eq_true, Bool.not_eq_true'] at h
    exact h.1.1.2

theorem validRequest_of_validateRequest {request}
    (h : validateRequest request = .ok ()) : ValidRequest request := by
  simp only [validateRequest, except_bind_eq_ok] at h
  obtain ⟨_, -, _, hident, _, hshape, _, -, _, -, _, -, _, hturn, _⟩ := h
  simp only [validateIdentity, ensure_eq_ok, Bool.and_eq_true] at hident
  simp only [validateShape, ensure_eq_ok, Bool.and_eq_true, decide_eq_true_eq, beq_iff_eq]
    at hshape
  obtain ⟨⟨⟨-, hoper⟩, -⟩, hnat⟩ := hident
  obtain ⟨⟨hsrc, hpar⟩, hresv⟩ := hshape
  refine
    { operation_known := ?_
      source_eq := hsrc
      parent_iff := hpar
      reservations_ne_nil := ?_
      reservations_eq_nil := ?_
      native_ne_nil := by simpa using hnat
      turn_iff := isSome_turn_iff hturn
      turn_ordinary := exclusiveRoot_of_validateTurn hturn }
  · revert hoper
    cases request.context.operation <;> simp [Operation.isHost, Operation.creates,
      Operation.releases]
  · intro hcreates hnil
    revert hresv hcreates
    cases request.context.operation <;>
      simp [Operation.reservation, Operation.creates, hnil]
  · intro hcreates
    revert hresv hcreates
    cases request.context.operation <;>
      simp [Operation.reservation, Operation.creates]

end XGovernor.Joint
