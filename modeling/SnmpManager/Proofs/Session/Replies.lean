import Mathlib.Data.List.GetD
import SnmpManager.Proofs.Message.RoundTrip
import SnmpManager.Proofs.Session.Interpretation

/-!
# What replies are to a session

Every message that an agent can send in full has one meaning for an attempt that waits,
and `interpret_classifies` says which: the version is looked at first, then the kind of
unit, then the id. An answer is its bindings, or the error that its status stands for.

- `Response.Reports`: what an answer tells about the attempt, and about the object its
  error index points at.
-/

namespace SnmpManager

/-! ## Error statuses -/

namespace ErrorStatus

/-- A status with a name has the number of its place among the names. -/
theorem code_named : ∀ i : Fin named.length, named[i].code = Int32.ofNat i := by
  decide

/-- No code is lost by `ofCode`, whether it has a name or not. -/
theorem code_ofCode (n : Int32) : (ofCode n).code = n := by
  unfold ofCode
  split
  case isTrue notNegative =>
    by_cases hasName : n.toInt.toNat < named.length
    · have value : ((n.toInt.toNat : Nat) : Int) = n.toInt := by omega
      rw [List.getD_eq_getElem _ _ hasName]
      calc named[n.toInt.toNat].code
          = Int32.ofNat n.toInt.toNat := code_named ⟨n.toInt.toNat, hasName⟩
        _ = Int32.ofInt n.toInt := by rw [← Int32.ofInt_eq_ofNat, value]
        _ = n := Int32.ofInt_toInt n
    · rw [List.getD_eq_default _ _ (Nat.not_lt.mp hasName)]
      rfl
  case isFalse => rfl

theorem ofCode_eq_noError_iff (n : Int32) : ofCode n = .noError ↔ n = 0 := by
  constructor
  · intro h
    rw [← code_ofCode n, h]
    rfl
  · rintro rfl
    rfl

end ErrorStatus

/-! ## Answers -/

/-- A negative index counts as zero for `indexField`, and no other one changes on its way. -/
theorem toNat_indexField (n : Int32) : (indexField n).toNat = n.toInt.toNat := by
  have high := n.toInt_lt
  rw [indexField, UInt32.toNat_ofNat_of_lt']
  show n.toInt.toNat < 2 ^ 32
  omega

namespace Response

/-- What an answer tells: the bindings, or else the status as it came, with the object of the
request at its index, which counts from one. -/
structure Reports (response : Response) (expected : Expected) (pdu : Pdu) : Prop where
  bindings : response.bindings = pdu.bindings
  requested : response.requested = expected.requested
  source : response.source = expected.source
  check_eq_ok_iff : response.check = .ok pdu.bindings ↔ pdu.errorStatus = 0
  check_eq_error : pdu.errorStatus ≠ 0 → ∃ status index oid,
    response.check = .error (.snmp expected.source status index oid) ∧
      status.code = pdu.errorStatus ∧
      (∀ position (there : position < expected.requested.length),
        pdu.errorIndex.toInt = position + 1 → oid = some expected.requested[position]) ∧
      (pdu.errorIndex.toInt < 1 ∨ (expected.requested.length : Int) < pdu.errorIndex.toInt →
        oid = none)

theorem check_eq_error {response : Response} (error : response.isError = true) :
    response.check
      = .error (.snmp response.source response.status response.index response.offending?) := by
  rw [check, error?, error]
  rfl

variable {expected : Expected} {message : Message}

/-- An index within the request points at its object, which is `offending?`. -/
theorem offending_answer_of_eq {position : Nat} (there : position < expected.requested.length)
    (points : message.pdu.errorIndex.toInt = position + 1) :
    (expected.answer message).offending? = some expected.requested[position] := by
  have index : (expected.answer message).index.toNat = position + 1 := by
    show (indexField _).toNat = _
    rw [toNat_indexField, points]
    rfl
  have some : (expected.answer message).index ≠ 0 := by
    intro zero
    rw [zero] at index
    cases index
  rw [offending?, if_neg some, index, Nat.add_sub_cancel]
  exact List.getElem?_eq_getElem there

/-- An index before the first object or after the last points at none. -/
theorem offending_answer_of_outside
    (outside : message.pdu.errorIndex.toInt < 1 ∨
      (expected.requested.length : Int) < message.pdu.errorIndex.toInt) :
    (expected.answer message).offending? = none := by
  have index : (expected.answer message).index.toNat = message.pdu.errorIndex.toInt.toNat :=
    toNat_indexField _
  unfold offending?
  split
  case isTrue => rfl
  case isFalse some =>
    have positive : (expected.answer message).index.toNat ≠ 0 :=
      fun zero => some (UInt32.toNat_inj.mp zero)
    rw [index] at positive ⊢
    refine List.getElem?_eq_none ?_
    show expected.requested.length ≤ _
    omega

/-- What a message that answers an attempt `Reports` is what its own unit has. -/
theorem reports_answer (expected : Expected) (message : Message) :
    (expected.answer message).Reports expected message.pdu := by
  have noError : (expected.answer message).isError = false ↔ message.pdu.errorStatus = 0 := by
    rw [← ErrorStatus.ofCode_eq_noError_iff, isError, bne_eq_false_iff_eq]
    rfl
  refine ⟨rfl, rfl, rfl, ?_, ?_⟩
  · constructor
    · intro succeeds
      by_contra status
      rw [← noError, Bool.not_eq_false] at status
      rw [check_eq_error status] at succeeds
      cases succeeds
    · intro status
      exact check_eq_ok (noError.mpr status)
  · intro status
    rw [Ne, ← noError, Bool.not_eq_false] at status
    refine ⟨_, _, _, check_eq_error status, ErrorStatus.code_ofCode _, ?_, ?_⟩
    · intro position there points
      exact offending_answer_of_eq there points
    · intro outside
      exact offending_answer_of_outside outside

end Response

/-! ## Replies -/

/-- What `interpret` makes of a message in the domain of the codec: of the things that can be wrong
with it, the version is told first, then the kind of unit, then the id. Octets that are no message
are a failure of the transport. -/
theorem interpret_classifies (expected : Expected) :
    (∀ message : Message, message.Encodable → message.content.length ≤ Length.max →
      (message.version ≠ expected.version →
        interpret expected message.encode
          = .error (.versionMismatch expected.version message.version)) ∧
      (message.version = expected.version → message.pdu.kind ≠ .response →
        interpret expected message.encode = .error (.unexpectedPdu message.pdu.kind.tag)) ∧
      (message.version = expected.version → message.pdu.kind = .response →
        message.pdu.requestId ≠ expected.requestId →
        interpret expected message.encode = .ok (.stale message.pdu.requestId)) ∧
      (message.version = expected.version → message.pdu.kind = .response →
        message.pdu.requestId = expected.requestId →
        ∃ response, interpret expected message.encode = .ok (.answer response) ∧
          response.Reports expected message.pdu)) ∧
    ∀ data e, Message.decode data = .error e →
      ∃ error, interpret expected data = .error error ∧ error.category = .transport := by
  constructor
  · intro message encodable short
    -- the message is read as it was written, so what is wrong with it is wrong with what is read
    have decoded : Message.decode message.encode = .ok message := by
      rw [Message.encode_eq]
      exact Message.decode_content encodable short
    refine ⟨?_, ?_, ?_, ?_⟩
    · intro version
      simp only [interpret, decoded, ne_eq, version, not_false_eq_true, if_true]
    · intro version kind
      simp only [interpret, decoded, ne_eq, version, kind, not_true_eq_false, not_false_eq_true,
        if_true, if_false]
    · intro version kind id
      simp only [interpret, decoded, ne_eq, version, kind, id, not_true_eq_false,
        not_false_eq_true, if_true, if_false]
    · intro version kind id
      exact ⟨expected.answer message, interpret_eq_answer_iff.mpr
        ⟨message, decoded, version, kind, id, rfl⟩, Response.reports_answer expected message⟩
  · intro data e broken
    refine ⟨.decode e, ?_, rfl⟩
    rw [interpret, broken]

/-- Messages with several things wrong, an index at the last object and one past it, and octets that
end too early. -/
theorem interpret_classifies_edges :
    let expected : Expected := ⟨.v2c, 10, [⟨[1, 3, 6, 1]⟩, ⟨[1, 3, 6, 2]⟩], none⟩
    let reply (version : Version) (kind : PduKind) (id status index : Int32) : Message :=
      ⟨version, [0x70], ⟨kind, id, status, index, [⟨⟨[1, 3, 6, 1]⟩, .integer 1⟩]⟩⟩
    interpret expected (reply .v1 .getRequest 99 5 0).encode
      = .error (.versionMismatch .v2c .v1) ∧
    interpret expected (reply .v2c .getRequest 99 5 0).encode = .error (.unexpectedPdu 0xA0) ∧
    interpret expected (reply .v2c .response 99 5 0).encode = .ok (.stale 99) ∧
    (∃ response, interpret expected (reply .v2c .response 10 0 0).encode = .ok (.answer response) ∧
      response.check = .ok [⟨⟨[1, 3, 6, 1]⟩, .integer 1⟩]) ∧
    (∃ response, interpret expected (reply .v2c .response 10 5 2).encode = .ok (.answer response) ∧
      ∃ status index, response.check = .error (.snmp none status index (some ⟨[1, 3, 6, 2]⟩)) ∧
        status.code = 5) ∧
    (∃ response, interpret expected (reply .v2c .response 10 99 3).encode
        = .ok (.answer response) ∧
      ∃ status index, response.check = .error (.snmp none status index none) ∧
        status.code = 99) ∧
    ∃ error, interpret expected [0x30, 0x05, 0x02] = .error error ∧
      error.category = .transport := by
  intro expected reply
  obtain ⟨messages, octets⟩ := interpret_classifies expected
  refine ⟨?_, ?_, ?_, ?_, ?_, ?_, octets _ ⟨2, .truncatedData⟩ (by decide)⟩
  · exact (messages (reply .v1 .getRequest 99 5 0) (by decide) (by decide)).1 (by decide)
  · exact (messages (reply .v2c .getRequest 99 5 0) (by decide) (by decide)).2.1 rfl (by decide)
  · exact (messages (reply .v2c .response 99 5 0) (by decide) (by decide)).2.2.1 rfl rfl (by decide)
  · obtain ⟨response, answered, reports⟩ :=
      (messages (reply .v2c .response 10 0 0) (by decide) (by decide)).2.2.2 rfl rfl rfl
    exact ⟨response, answered, reports.check_eq_ok_iff.mpr rfl⟩
  · obtain ⟨response, answered, reports⟩ :=
      (messages (reply .v2c .response 10 5 2) (by decide) (by decide)).2.2.2 rfl rfl rfl
    obtain ⟨status, index, oid, fails, code, points, -⟩ := reports.check_eq_error (by decide)
    rw [points 1 (by decide) (by decide)] at fails
    exact ⟨response, answered, status, index, fails, code⟩
  · obtain ⟨response, answered, reports⟩ :=
      (messages (reply .v2c .response 10 99 3) (by decide) (by decide)).2.2.2 rfl rfl rfl
    obtain ⟨status, index, oid, fails, code, -, outside⟩ := reports.check_eq_error (by decide)
    rw [outside (by decide)] at fails
    exact ⟨response, answered, status, index, fails, code⟩

end SnmpManager
