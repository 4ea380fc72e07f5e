import SnmpManager.Proofs.Session.Ledger

/-!
# Which messages a session sends

A request is refused before an id is taken, or every message sent for it carries it.

- `Request.refusal?`: why a request is refused, if it is.
- `Session.execute_of_refusal`, `Session.notify_of_refusal`: a session does nothing
  at all for a request that is refused.
- `Ledger.Holds`: all messages sent are of some kind. `Session.execute_holds` and
  `Session.notify_holds` say when they still are afterwards.
-/

namespace SnmpManager

/-! ## Refusals -/

namespace Request

/-- Why a request whose answer is waited for is refused, if it is. -/
def refusal? (version : Version) (request : Request) : Option UsageFault :=
  if request.isAnswered then
    match request.check version with
    | .error fault => some fault
    | .ok () => none
  else some .unconfirmed

theorem refusal?_eq_none_iff {version : Version} {request : Request} :
    request.refusal? version = none ↔
      request.isAnswered = true ∧ request.check version = .ok () := by
  rw [refusal?]
  split
  case isTrue answered =>
    split
    case h_1 fault refused => simp [answered, refused]
    case h_2 passed => simp [answered, passed]
  case isFalse unanswered => simp [unanswered]

/-- Over the later version a request in bulk is refused by `refusal?` if it wants more non-repeaters
than it has objects. -/
theorem refusal?_of_few {oids : List Oid} {nonRepeaters : UInt32}
    (few : oids.length < nonRepeaters.toNat) (maxRepetitions : UInt32) :
    (getBulk oids nonRepeaters maxRepetitions).refusal? .v2c
      = some (.tooFewObjects nonRepeaters oids.length) := by
  rw [refusal?, check, if_pos few]
  rfl

/-- Over the version that carries it, a request in bulk is refused for its counts only. -/
theorem few_of_refusal? {oids : List Oid} {nonRepeaters maxRepetitions : UInt32}
    {fault : UsageFault}
    (refused : (getBulk oids nonRepeaters maxRepetitions).refusal? .v2c = some fault) :
    fault = .tooFewObjects nonRepeaters oids.length ∧ oids.length < nonRepeaters.toNat := by
  by_cases few : oids.length < nonRepeaters.toNat
  case pos =>
    rw [refusal?_of_few few] at refused
    cases refused
    exact ⟨rfl, few⟩
  case neg =>
    have passes : (getBulk oids nonRepeaters maxRepetitions).refusal? .v2c = none :=
      refusal?_eq_none_iff.mpr ⟨rfl, if_neg few⟩
    rw [passes] at refused
    cases refused

end Request

namespace Session

section

variable {m : Type → Type} [Monad m] (session : Session m)

/-- For a request that is refused `execute` does nothing. -/
theorem execute_of_refusal {request : Request} {fault : UsageFault}
    (refused : request.refusal? session.settings.version = some fault) :
    session.execute request = pure (.error (.usage fault)) := by
  rw [Request.refusal?] at refused
  cases answered : request.isAnswered with
  | false =>
    rw [answered] at refused
    cases refused
    rw [execute, answered]
    rfl
  | true =>
    cases checked : request.check session.settings.version with
    | error why =>
      rw [answered, checked] at refused
      cases refused
      rw [execute, answered, checked]
      rfl
    | ok =>
      rw [answered, checked] at refused
      cases refused

/-- For a notification that is refused `notify` does nothing. -/
theorem notify_of_refusal {uptime : UInt32} {trapOid : Oid} {bindings : List VarBind}
    {fault : UsageFault}
    (refused : (Request.trap uptime trapOid bindings).check session.settings.version
      = .error fault) :
    session.notify uptime trapOid bindings = pure (.error (.usage fault)) := by
  rw [notify]
  simp only [refused]

end

end Session

/-! ## Messages of some kind -/

variable {σ : Type}

namespace Ledger

/-- All messages sent are of some kind. -/
def Holds (kind : Octets → Prop) (ledger : Ledger σ) : Prop :=
  ∀ data ∈ ledger.sent, kind data

theorem holds_empty (kind : Octets → Prop) (world : σ) (nextId : Int32) :
    Holds kind { world, nextId } :=
  fun _ mem => absurd mem List.not_mem_nil

/-- Attempts at a request leave a ledger that `Holds` messages of some kind as one that does, if all
messages for the request are of that kind. -/
theorem Holds.advance {kind : Octets → Prop} {ledger : Ledger σ} (held : ledger.Holds kind)
    {settings : SessionSettings} {request : Request}
    (sends : ∀ requestId, kind (Session.message settings request requestId).encode) (count : Nat)
    (world : σ) (received : List Octets) :
    (ledger.advance settings request count world received).Holds kind := by
  intro data mem
  obtain mem | mem := List.mem_append.mp mem
  · exact held data mem
  · obtain ⟨requestId, -, rfl⟩ := List.mem_map.mp mem
    exact sends requestId

end Ledger

namespace Session

variable {kind : Octets → Prop} (inner : Channel (StateM σ)) (settings : SessionSettings)

/-- A request that passes its checks is all that `execute` sends for it. -/
theorem execute_holds (request : Request)
    (sends : request.refusal? settings.version = none →
      ∀ requestId, kind (message settings request requestId).encode)
    {ledger : Ledger σ} (held : ledger.Holds kind) :
    Ensures ((ledgered inner settings).execute request) ledger fun _ after => after.Holds kind := by
  cases refusal : request.refusal? settings.version with
  | some fault =>
    rw [execute_of_refusal (ledgered inner settings) refusal]
    exact held
  | none =>
    refine ensures_mono (execute_ensures inner settings request ledger) ?_
    rintro outcome _ ⟨count, world, received, rfl, -⟩
    exact held.advance (sends refusal) count world received

/-- A notification that passes its checks is all that `notify` sends for it. -/
theorem notify_holds (uptime : UInt32) (trapOid : Oid) (bindings : List VarBind)
    (sends : (Request.trap uptime trapOid bindings).check settings.version = .ok () →
      ∀ requestId, kind (message settings (.trap uptime trapOid bindings) requestId).encode)
    {ledger : Ledger σ} (held : ledger.Holds kind) :
    Ensures ((ledgered inner settings).notify uptime trapOid bindings) ledger fun _ after =>
      after.Holds kind := by
  cases refusal : (Request.trap uptime trapOid bindings).check settings.version with
  | error fault =>
    rw [notify_of_refusal (ledgered inner settings) refusal]
    exact held
  | ok =>
    refine ensures_mono (notify_ensures inner settings uptime trapOid bindings ledger) ?_
    rintro outcome _ ⟨count, world, rfl⟩
    exact held.advance (sends refusal) count world []

/-- `notify` sends a notification once, under the next id. -/
theorem notify_sends (v2c : settings.version = .v2c) (uptime : UInt32) (trapOid : Oid)
    (bindings : List VarBind) (ledger : Ledger σ) :
    Ensures ((ledgered inner settings).notify uptime trapOid bindings) ledger fun _ after =>
      after.sent = ledger.sent
        ++ [(message settings (.trap uptime trapOid bindings) ledger.nextId).encode] := by
  have passed : (Request.trap uptime trapOid bindings).check settings.version = .ok () := by
    rw [v2c]
    rfl
  rw [notify]
  split
  case h_1 fault refused =>
    rw [show (ledgered inner settings).settings.version = settings.version from rfl,
      passed] at refused
    cases refused
  case h_2 =>
    refine ensures_bind (ensures_mono
      (send_ensures inner settings (.trap uptime trapOid bindings) ledger) ?_)
    rintro _ between ⟨rfl, sending⟩
    refine ensures_mono sending ?_
    rintro outcome _ ⟨world, rfl⟩
    rw [Ledger.advance_one]

end Session

end SnmpManager
