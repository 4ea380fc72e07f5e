import SnmpManager.Response

/-!
# What counts as an answer

`interpret` sorts what is received for one attempt. `interpret_eq_answer_iff` says
which octets it takes for the answer, and what it makes of them.
-/

namespace SnmpManager

/-- A response without an error status passes `check`, which gives its bindings. -/
theorem Response.check_eq_ok {response : Response} (noError : response.isError = false) :
    response.check = .ok response.bindings := by
  rw [check, error?, noError]
  rfl

/-- What a message that answers an attempt is to the session. -/
def Expected.answer (expected : Expected) (message : Message) : Response where
  status := .ofCode message.pdu.errorStatus
  index := indexField message.pdu.errorIndex
  requested := expected.requested
  bindings := message.pdu.bindings
  source := expected.source

/-- `interpret` takes octets for an answer if they are a response, of the right version and under
the right id. -/
theorem interpret_eq_answer_iff {expected : Expected} {data : Octets} {response : Response} :
    interpret expected data = .ok (.answer response) ↔
      ∃ message, Message.decode data = .ok message ∧ message.version = expected.version ∧
        message.pdu.kind = .response ∧ message.pdu.requestId = expected.requestId ∧
        response = expected.answer message := by
  constructor
  · intro h
    rw [interpret] at h
    split at h
    case h_1 => cases h
    case h_2 message decoded =>
      -- three checks, in their order
      dsimp only at h
      split at h
      case isTrue => cases h
      case isFalse version =>
        split at h
        case isTrue => cases h
        case isFalse kind =>
          split at h
          case isTrue => cases h
          case isFalse id =>
            cases h
            exact ⟨message, decoded, Decidable.not_not.mp version, Decidable.not_not.mp kind,
              Decidable.not_not.mp id, rfl⟩
  · rintro ⟨message, decoded, version, kind, id, rfl⟩
    rw [interpret, decoded]
    dsimp only
    rw [if_neg (not_not_intro version), if_neg (not_not_intro kind), if_neg (not_not_intro id),
      Expected.answer]

end SnmpManager
