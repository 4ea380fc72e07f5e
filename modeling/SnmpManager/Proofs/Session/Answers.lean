import SnmpManager.Proofs.Message.Decoded
import SnmpManager.Proofs.Session.Interpretation
import SnmpManager.Proofs.Session.Sent

/-!
# What comes of an exchange

An exchange is made of the operations of its channel, of waits that may end in a
timeout, and of messages that are interpreted. What all of these keep, and what holds
of everything they can give, holds of the exchange (`Session.Behaves.execute`).

- `Session.Behaves`: a fact about the state and a fact about what can come of an
  exchange, for each of its parts.
- `Session.execute_encodable`: an answer is a message that was received and decoded,
  so that the objects in it are encodable.
-/

namespace SnmpManager

namespace Session

variable {σ : Type}

/-- Every part of an exchange keeps a fact about the state, and what it gives is as `post` says. -/
structure Behaves (session : Session (StateM σ)) (kept : σ → Prop)
    (post : Except Error Response → Prop) : Prop where
  freshId {state : σ} (h : kept state) : Ensures session.freshId state fun _ after => kept after
  now {state : σ} (h : kept state) : Ensures session.channel.now state fun _ after => kept after
  backlog {state : σ} (h : kept state) :
    Ensures session.channel.backlog state fun _ after => kept after
  send (data : Octets) {state : σ} (h : kept state) :
    Ensures (session.channel.send data) state fun outcome after =>
      kept after ∧ ∀ e, outcome = .error e → post (.error e)
  receive (requestId : Int32) (limit : Duration) {state : σ} (h : kept state) :
    Ensures (session.channel.receive requestId limit) state fun outcome after =>
      kept after ∧ ∀ e, outcome = .error e → post (.error e)
  timeout (target : Option SocketAddress) (elapsed : Duration) (requestId : Int32)
    (retries : Nat) : post (.error (.timeout target elapsed requestId retries))
  overflow : post (.error .clockOverflow)
  misread {expected : Expected} {data : Octets} {e : Error}
    (h : interpret expected data = .error e) : post (.error e)
  answered {expected : Expected} {data : Octets} {response : Response}
    (h : interpret expected data = .ok (.answer response)) : post (.ok response)

namespace Behaves

variable {session : Session (StateM σ)} {kept : σ → Prop} {post : Except Error Response → Prop}
  (behaves : session.Behaves kept post)
include behaves

/-- By induction on the fuel: `await` starts again after a stale message, and its other ends are
parts of the exchange. -/
theorem await (expected : Expected) (deadline : Duration) (fuel : Nat) {state : σ}
    (h : kept state) :
    Ensures (session.await expected deadline fuel) state fun outcome after =>
      kept after ∧ post outcome := by
  induction fuel generalizing state with
  | zero => exact ⟨h, behaves.timeout ..⟩
  | succ fuel ih =>
    rw [Session.await]
    refine ensures_bind (ensures_mono (behaves.now h) fun now state h => ?_)
    dsimp only
    split
    case isTrue => exact ⟨h, behaves.timeout ..⟩
    case isFalse =>
      refine ensures_bind (ensures_mono (behaves.receive _ _ h) ?_)
      rintro outcome state ⟨h, failed⟩
      cases outcome with
      | error e => exact ⟨h, failed e rfl⟩
      | ok data =>
        -- what is read ends the wait, unless it is stale
        cases meaning : interpret expected data with
        | error e =>
          simp only [meaning]
          exact ⟨h, behaves.misread meaning⟩
        | ok interpretation =>
          cases interpretation with
          | answer answer =>
            simp only [meaning]
            exact ⟨h, behaves.answered meaning⟩
          | stale id =>
            simp only [meaning]
            exact ih h

/-- `attempt` is an id, a message, a deadline and a wait; only the wait may leave it to another
attempt. -/
theorem attempt (request : Request) {state : σ} (h : kept state) :
    Ensures (session.attempt request) state fun result after =>
      kept after ∧ ∀ outcome, result.2 = .settled outcome → post outcome := by
  refine ensures_bind (ensures_mono (behaves.freshId h) fun requestId state h => ?_)
  refine ensures_bind (ensures_mono (behaves.send _ h) ?_)
  rintro outcome state ⟨h, failed⟩
  cases outcome with
  | error e =>
    refine ⟨h, ?_⟩
    rintro _ ⟨⟩
    exact failed e rfl
  | ok _ =>
    refine ensures_bind (ensures_mono (behaves.now h) fun now state h => ?_)
    dsimp only
    split
    -- the clock cannot count to the deadline
    case h_1 =>
      refine ⟨h, ?_⟩
      rintro _ ⟨⟩
      exact behaves.overflow
    case h_2 deadline _ =>
      refine ensures_bind (ensures_mono (behaves.backlog h) fun backlog state h => ?_)
      refine ensures_bind (ensures_mono (behaves.await _ _ _ h) ?_)
      rintro waited state ⟨h, gives⟩
      exact ⟨h, fun outcome settled => ofWait_eq_settled settled ▸ gives⟩

/-- By induction on the attempts that are left, with `attempt` for each. -/
theorem attempts (request : Request) (start : Duration) (retries left : Nat) {state : σ}
    (h : kept state) :
    Ensures (session.attempts request start retries left) state fun outcome after =>
      kept after ∧ post outcome := by
  induction left generalizing state with
  | zero =>
    refine ensures_bind (ensures_mono (behaves.attempt request h) ?_)
    rintro ⟨requestId, outcome | _⟩ state ⟨h, gives⟩
    case settled => exact ⟨h, gives outcome rfl⟩
    case expired =>
      refine ensures_bind (ensures_mono (behaves.now h) fun now state h => ?_)
      exact ⟨h, behaves.timeout ..⟩
  | succ left ih =>
    refine ensures_bind (ensures_mono (behaves.attempt request h) ?_)
    rintro ⟨requestId, outcome | _⟩ state ⟨h, gives⟩
    case settled => exact ⟨h, gives outcome rfl⟩
    case expired => exact ih h

/-- What the parts of an exchange keep and give, `execute` does, if its request is not refused. -/
theorem execute (request : Request)
    (refused : ∀ fault, request.refusal? session.settings.version = some fault →
      post (.error (.usage fault))) {state : σ} (h : kept state) :
    Ensures (session.execute request) state fun outcome after => kept after ∧ post outcome := by
  cases refusal : request.refusal? session.settings.version with
  | some fault =>
    rw [execute_of_refusal session refusal]
    exact ⟨h, refused fault refusal⟩
  | none =>
    obtain ⟨answered, passed⟩ := Request.refusal?_eq_none_iff.mp refusal
    rw [Session.execute, answered, passed]
    refine ensures_bind (ensures_mono (behaves.now h) fun start state h => ?_)
    exact behaves.attempts request start _ _ h

end Behaves

/-! ## Where answers come from -/

/-- A response that is an interpretation of some octets. -/
def Interpreted (outcome : Except Error Response) : Prop :=
  ∀ response, outcome = .ok response →
    ∃ expected data, interpret expected data = .ok (.answer response)

theorem interpreted_error (error : Error) : Interpreted (.error error) :=
  fun _ ok => nomatch ok

variable (session : Session (StateM σ))

/-- Over any session at all, an answer is what some octets were interpreted as: the session
`Behaves` so with nothing asked of its state. -/
theorem behaves_interpreted : session.Behaves (fun _ => True) Interpreted where
  freshId _ := trivial
  now _ := trivial
  backlog _ := trivial
  send _ _ _ := ⟨trivial, fun e _ => interpreted_error e⟩
  receive _ _ _ _ := ⟨trivial, fun e _ => interpreted_error e⟩
  timeout _ _ _ _ := interpreted_error _
  overflow := interpreted_error _
  misread _ := interpreted_error _
  answered {expected data response} meaning := by
    rintro _ ⟨⟩
    exact ⟨expected, data, meaning⟩

/-- The objects in an answer are encodable, since `Message.decode` yields no others. -/
theorem execute_encodable (request : Request) (state : σ) :
    Ensures (session.execute request) state fun outcome _ => ∀ response, outcome = .ok response →
      VarBindList.OidsEncodable response.bindings := by
  refine ensures_mono (session.behaves_interpreted.execute request
    (fun _ _ => interpreted_error _) trivial) ?_
  rintro outcome _ ⟨-, answers⟩ response rfl
  obtain ⟨expected, data, meaning⟩ := answers response rfl
  obtain ⟨message, decoded, -, -, -, rfl⟩ := interpret_eq_answer_iff.mp meaning
  exact Message.decode_encodable decoded

end Session

end SnmpManager
