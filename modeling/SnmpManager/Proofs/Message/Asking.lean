import SnmpManager.Proofs.Message.RoundTrip
import SnmpManager.Proofs.Oid.OnWire
import SnmpManager.Session.Basic

/-!
# Questions on the wire

What an agent reads when it is asked about some objects: the same question about
the objects that are read for them (`Session.decode_message`).

- `Request.onWire`: the request that is read where another was written.
-/

namespace SnmpManager

namespace Request

/-- The request that is read where this one was written: its objects are as `Oid.onWire` has
them. -/
def onWire : Request → Request
  | .get oids => .get (oids.map Oid.onWire)
  | .getNext oids => .getNext (oids.map Oid.onWire)
  | .getBulk oids nonRepeaters maxRepetitions =>
    .getBulk (oids.map Oid.onWire) nonRepeaters maxRepetitions
  | .trap uptime trapOid bindings => .trap uptime trapOid bindings

@[simp] theorem requested_onWire (request : Request) :
    request.onWire.requested = request.requested.map Oid.onWire := by
  cases request <;> rfl

@[simp] theorem isAnswered_onWire (request : Request) :
    request.onWire.isAnswered = request.isAnswered := by
  cases request <;> rfl

/-- A question that is answered has one empty binding for each object it is about. -/
theorem bindings_pdu {request : Request} (answered : request.isAnswered = true)
    (requestId : Int32) :
    (request.pdu requestId).bindings = request.requested.map VarBind.ofOid := by
  cases request with
  | get | getNext | getBulk => rfl
  | trap => cases answered

/-- The bindings of a question go out as the same octets for the objects that are read. -/
theorem content_map_onWire (oids : List Oid) :
    VarBindList.content ((oids.map Oid.onWire).map VarBind.ofOid)
      = VarBindList.content (oids.map VarBind.ofOid) := by
  have same (oid : Oid) : (VarBind.ofOid oid.onWire).octets = (VarBind.ofOid oid).octets := by
    rw [VarBind.octets, VarBind.octets, VarBind.ofOid, VarBind.ofOid, Oid.octets_onWire]
  simp only [VarBindList.content, List.flatMap_map, same]

theorem octets_pdu_onWire (request : Request) (requestId : Int32) :
    (request.onWire.pdu requestId).octets = (request.pdu requestId).octets := by
  cases request with
  | trap => rfl
  | get oids | getNext oids | getBulk oids _ _ =>
    simp only [onWire, pdu, Pdu.asking, Pdu.octets, Pdu.content, VarBindList.octets,
      content_map_onWire]

end Request

namespace Session

variable (settings : SessionSettings) (request : Request) (requestId : Int32)

theorem content_message_onWire :
    (message settings request.onWire requestId).content
      = (message settings request requestId).content := by
  rw [Message.content, Message.content]
  simp only [message, Request.octets_pdu_onWire]

/-- The two requests are one message on the wire. -/
theorem encode_message_onWire :
    (message settings request.onWire requestId).encode
      = (message settings request requestId).encode := by
  rw [Message.encode_eq, Message.encode_eq, content_message_onWire]

variable {settings request requestId}

/-- A question is read as one about the objects that are read for those it was about, since both go
out as the same octets and the second is `Encodable`. -/
theorem decode_message (answered : request.isAnswered = true)
    (writable : ∀ oid ∈ request.requested, oid.Writable)
    (short : (message settings request.onWire requestId).content.length ≤ Length.max) :
    Message.decode (message settings request requestId).encode
      = .ok (message settings request.onWire requestId) := by
  have answered : request.onWire.isAnswered = true := by rw [Request.isAnswered_onWire, answered]
  have encodable : (message settings request.onWire requestId).Encodable := by
    intro binding mem
    rw [message, Request.bindings_pdu answered, Request.requested_onWire, List.map_map] at mem
    obtain ⟨oid, asked, rfl⟩ := List.mem_map.mp mem
    exact ⟨Oid.encodable_onWire (writable oid asked), trivial⟩
  rw [← encode_message_onWire, Message.encode_eq]
  exact Message.decode_content encodable short

end Session

end SnmpManager
