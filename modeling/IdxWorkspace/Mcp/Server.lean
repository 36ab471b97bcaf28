import Mathlib.Data.List.Forall2
import IdxWorkspace.Mcp.ByteTransport
import IdxWorkspace.Mcp.Router

/-!
`Server::run`: the loop that answers what the transport receives. A request gets
one response and a line that is no message gets one error without an id, in the
order they came in; everything else is passed over. The loop ends early only
when a reply cannot be written.
-/

namespace IdxWorkspace.Mcp

open Library Library.Effect Library.Framing

inductive ServerError where
  | transport (e : TransportError)
  | service (message : String)
  | internal (message : String)
  | timeout

/-- What the loop works on: the state of its service, and what it has written. -/
structure ServerState (σ : Type) where
  service : σ
  written : List JsonRpcMessage

abbrev Incoming := Except TransportError JsonRpcMessage

variable {σ : Type}

/-- `fails` says with which error a message cannot be written, after those written before. -/
def writeMessage (fails : List JsonRpcMessage → Option String) (m : JsonRpcMessage) :
    EStateM ServerError (ServerState σ) Unit := fun s =>
  match fails s.written with
  | some e => .error (.transport (.io e)) s
  | none => .ok () { s with written := s.written ++ [m] }

/-- The service's own response, or one that tells its error. -/
def respondTo (service : JsonRpcRequest → EStateM String σ JsonRpcResponse)
    (request : JsonRpcRequest) : EStateM ServerError (ServerState σ) JsonRpcResponse := fun s =>
  match (service request).run s.service with
  | .ok response s' => .ok response { s with service := s' }
  | .error message s' =>
      .ok
        { jsonrpc := "2.0", id := request.id, result := none,
          error := some { code := INTERNAL_ERROR, message := message, data := none } }
        { s with service := s' }

/-- The error a failure of the transport is reported as. -/
def transportErrorData (e : TransportError) : ErrorData :=
  match e with
  | .json _ | .invalidMessage _ =>
      { code := PARSE_ERROR, message := e.display, data := none }
  | .protocol _ => { code := INVALID_REQUEST, message := e.display, data := none }
  | _ => { code := INTERNAL_ERROR, message := e.display, data := none }

/-- One round of the loop. -/
def answer (service : JsonRpcRequest → EStateM String σ JsonRpcResponse)
    (fails : List JsonRpcMessage → Option String) :
    Incoming → EStateM ServerError (ServerState σ) Unit
  | .ok (.request request) => do
      let response ← respondTo service request
      writeMessage fails (.response response)
  | .ok _ => pure ()
  | .error e =>
      writeMessage fails (.error { jsonrpc := "2.0", id := none, error := transportErrorData e })

def run (service : JsonRpcRequest → EStateM String σ JsonRpcResponse)
    (fails : List JsonRpcMessage → Option String) (incoming : List Incoming) :
    EStateM ServerError (ServerState σ) Unit :=
  incoming.forM (answer service fails)

/-- A server on a router and a transport. -/
def serve (serde : Serde) (router : Router σ) (fails : List JsonRpcMessage → Option String)
    (reader : Reader) : EStateM ServerError (ServerState σ) Unit :=
  run (call router) fails (messages serde reader)

/-- What a reply to a request says: the result, that there is no such method, or
the text of what the method raised. -/
inductive Says (req : JsonRpcRequest) (response : JsonRpcResponse) : Prop where
  | result (h : Answers req response)
  | unknown (hmethod : req.method ∉ methods) (h : Refuses req response)
  | raised (e : RouterError) (h : response =
      { jsonrpc := "2.0", id := req.id, result := none,
        error := some { code := INTERNAL_ERROR, message := e.display, data := none } })

def ReplyTo : Incoming → JsonRpcMessage → Prop
  | .ok (.request req), .response response => Says req response
  | .error e, m => m = .error { jsonrpc := "2.0", id := none, error := transportErrorData e }
  | _, _ => False

/-- What the loop replies to. -/
def answerable : Incoming → Bool
  | .ok (.request _) => true
  | .ok _ => false
  | .error _ => true

theorem Says.id {req : JsonRpcRequest} {response : JsonRpcResponse} (h : Says req response) :
    response.jsonrpc = "2.0" ∧ response.id = req.id := by
  cases h with
  | result h => exact ⟨h.jsonrpc, h.id⟩
  | unknown _ h => exact ⟨h.jsonrpc, h.id⟩
  | raised e h => exact h ▸ ⟨rfl, rfl⟩

variable {router : Router σ} {fails : List JsonRpcMessage → Option String}

theorem respondTo_returns (req : JsonRpcRequest) :
    Returns (respondTo (call router) req) (Says req) := by
  intro s response s' hrun
  change respondTo (call router) req s = .ok response s' at hrun
  unfold respondTo at hrun
  split at hrun
  · rename_i response' t hcall
    cases hrun
    rcases handle_returns req _ _ _ (adaptExcept_ok_iff.mp hcall) with ⟨_, h⟩ | ⟨hmethod, h⟩
    · exact .result h
    · exact .unknown hmethod h
  · rename_i message t hcall
    cases hrun
    obtain ⟨e, _, rfl⟩ := adaptExcept_error_iff.mp hcall
    exact .raised e rfl

theorem respondTo_written (service : JsonRpcRequest → EStateM String σ JsonRpcResponse)
    (req : JsonRpcRequest) : Preserves ServerState.written (respondTo service req) := by
  intro s
  change (after (respondTo service req s)).written = s.written
  unfold respondTo
  split <;> rfl

theorem writeMessage_ok_iff {m : JsonRpcMessage} {s s' : ServerState σ} :
    (writeMessage fails m).run s = .ok () s' ↔
      fails s.written = none ∧ s' = { s with written := s.written ++ [m] } := by
  change writeMessage fails m s = .ok () s' ↔ _
  unfold writeMessage
  cases fails s.written with
  | some e => simp
  | none => simp [eq_comm]

theorem writeMessage_error {m : JsonRpcMessage} {s s' : ServerState σ} {e : ServerError}
    (h : (writeMessage fails m).run s = .error e s') : s' = s := by
  change writeMessage fails m s = .error e s' at h
  unfold writeMessage at h
  split at h <;> cases h
  rfl

/-- A round that returns has written the reply, where there is one. -/
theorem answer_ok {item : Incoming} {s s' : ServerState σ}
    (h : (answer (call router) fails item).run s = .ok () s') :
    ∃ replies, s'.written = s.written ++ replies ∧
      List.Forall₂ ReplyTo ([item].filter answerable) replies := by
  cases item with
  | error e =>
      obtain ⟨_, rfl⟩ := writeMessage_ok_iff.mp h
      exact ⟨[_], rfl, .cons rfl .nil⟩
  | ok m =>
      cases m with
      | request req =>
          obtain ⟨response, mid, hrespond, hwrite⟩ := bind_ok h
          obtain ⟨_, rfl⟩ := writeMessage_ok_iff.mp hwrite
          have hmid := (respondTo_written (call router) req).of_ok hrespond
          exact ⟨[.response response], by rw [hmid],
            .cons (respondTo_returns req s response mid hrespond) .nil⟩
      | response r | notification n | error e | nil =>
          obtain ⟨_, rfl⟩ := pure_ok_iff.mp h
          exact ⟨[], by simp, .nil⟩

/-- A round that raises has written nothing. -/
theorem answer_error {item : Incoming} {s s' : ServerState σ} {e : ServerError}
    (h : (answer (call router) fails item).run s = .error e s') :
    s'.written = s.written := by
  cases item with
  | error e => rw [writeMessage_error h]
  | ok m =>
      cases m with
      | request req =>
          rcases bind_error h with hrespond | ⟨response, mid, hrespond, hwrite⟩
          · exact (respondTo_written (call router) req).of_error hrespond
          · rw [writeMessage_error hwrite]
            exact (respondTo_written (call router) req).of_ok hrespond
      | response r | notification n | error e | nil => cases h

/-- The loop replies to every request and every line that is no message, once and
in order. -/
theorem run_ok {incoming : List Incoming} {s s' : ServerState σ}
    (h : (run (call router) fails incoming).run s = .ok () s') :
    ∃ replies, s'.written = s.written ++ replies ∧
      List.Forall₂ ReplyTo (incoming.filter answerable) replies := by
  induction incoming generalizing s with
  | nil =>
      obtain ⟨_, rfl⟩ := pure_ok_iff.mp h
      exact ⟨[], by simp, .nil⟩
  | cons item incoming ih =>
      obtain ⟨_, mid, hitem, hrest⟩ := bind_ok h
      obtain ⟨first, hfirst, hreply⟩ := answer_ok hitem
      obtain ⟨replies, hreplies, hall⟩ := ih hrest
      refine ⟨first ++ replies, by rw [hreplies, hfirst, List.append_assoc], ?_⟩
      rw [← List.singleton_append, List.filter_append]
      exact List.rel_append hreply hall

/-- A loop that ends early has replied to what came before the reply it could not write. -/
theorem run_error {incoming : List Incoming} {s s' : ServerState σ} {e : ServerError}
    (h : (run (call router) fails incoming).run s = .error e s') :
    ∃ handled item rest replies, incoming = handled ++ item :: rest ∧
      s'.written = s.written ++ replies ∧
      List.Forall₂ ReplyTo (handled.filter answerable) replies := by
  induction incoming generalizing s with
  | nil => cases h
  | cons item incoming ih =>
      rcases bind_error h with hitem | ⟨_, mid, hitem, hrest⟩
      · exact ⟨[], item, incoming, [], rfl, by rw [answer_error hitem, List.append_nil], .nil⟩
      · obtain ⟨first, hfirst, hreply⟩ := answer_ok hitem
        obtain ⟨handled, last, rest, replies, hsplit, hreplies, hall⟩ := ih hrest
        refine ⟨item :: handled, last, rest, first ++ replies, by rw [hsplit]; rfl,
          by rw [hreplies, hfirst, List.append_assoc], ?_⟩
        rw [← List.singleton_append, List.filter_append]
        exact List.rel_append hreply hall

/-- However the loop ends, it has replied to the first messages; to all of them, if
it ends well. -/
theorem run_replies (fails : List JsonRpcMessage → Option String) (incoming : List Incoming)
    (s : ServerState σ) :
    ∃ handled rest replies, incoming = handled ++ rest ∧
      (after ((run (call router) fails incoming).run s)).written = s.written ++ replies ∧
      List.Forall₂ ReplyTo (handled.filter answerable) replies ∧
      ((∃ s', (run (call router) fails incoming).run s = .ok () s') → rest = []) := by
  cases hrun : (run (call router) fails incoming).run s with
  | ok u s' =>
      obtain ⟨replies, hwritten, hreplies⟩ := run_ok hrun
      exact ⟨incoming, [], replies, (List.append_nil _).symm, hwritten, hreplies, fun _ => rfl⟩
  | error e s' =>
      obtain ⟨handled, item, rest, replies, hsplit, hwritten, hreplies⟩ := run_error hrun
      refine ⟨handled, item :: rest, replies, hsplit, hwritten, hreplies, ?_⟩
      rintro ⟨t, ht⟩
      cases ht

/-- Whatever comes in and whether or not it can be written, what is written are the
replies to the first messages, in order; to all of them, if the loop ends well. The
stream, the router and its state are arbitrary, and `fails` says of every write
whether it fails, by what was written before. -/
theorem serve_in_order (serde : Serde) (router : Router σ)
    (fails : List JsonRpcMessage → Option String) (reader : Reader) (s : ServerState σ) :
    ∃ handled rest replies, messages serde reader = handled ++ rest ∧
      (after ((serve serde router fails reader).run s)).written = s.written ++ replies ∧
      List.Forall₂ ReplyTo (handled.filter answerable) replies ∧
      ((∃ s', (serve serde router fails reader).run s = .ok () s') → rest = []) :=
  run_replies fails (messages serde reader) s

/-- If every reply can be written, the loop runs until the transport ends. -/
theorem run_finishes (service : JsonRpcRequest → EStateM String σ JsonRpcResponse)
    (hfails : ∀ written, fails written = none) (incoming : List Incoming) :
    Finishes (fun _ => True) (run service fails incoming) fun _ _ => True := by
  have hwrite (m : JsonRpcMessage) :
      Finishes (fun _ => True) (writeMessage (σ := σ) fails m) fun _ _ => True := by
    intro s _
    exact ⟨(), _, writeMessage_ok_iff.mpr ⟨hfails _, rfl⟩, trivial⟩
  have hrespond (req : JsonRpcRequest) :
      Finishes (fun _ => True) (respondTo service req) fun _ _ => True := by
    intro s _
    change ∃ response s', respondTo service req s = .ok response s' ∧ True
    unfold respondTo
    split <;> exact ⟨_, _, rfl, trivial⟩
  apply Finishes.forM
  intro item _
  cases item with
  | error e => exact hwrite _
  | ok m =>
      cases m with
      | request req => exact Finishes.bind (hrespond req) fun response => hwrite _
      | response r | notification n | error e | nil => exact Finishes.pure fun _ _ => trivial

/-- What an incoming message does to the state of the service. -/
def served (service : JsonRpcRequest → EStateM String σ JsonRpcResponse) (t : σ) : Incoming → σ
  | .ok (.request request) => after ((service request).run t)
  | _ => t

theorem answer_state {service : JsonRpcRequest → EStateM String σ JsonRpcResponse}
    {item : Incoming} {s s' : ServerState σ} (h : (answer service fails item).run s = .ok () s') :
    s'.service = served service s.service item := by
  cases item with
  | error e =>
      obtain ⟨_, rfl⟩ := writeMessage_ok_iff.mp h
      rfl
  | ok m =>
      cases m with
      | request req =>
          obtain ⟨response, mid, hrespond, hwrite⟩ := bind_ok h
          obtain ⟨_, rfl⟩ := writeMessage_ok_iff.mp hwrite
          change respondTo service req s = .ok response mid at hrespond
          unfold respondTo at hrespond
          cases hcall : (service req).run s.service with
          | ok response' t =>
              rw [hcall] at hrespond
              cases hrespond
              simp [served, hcall]
          | error message t =>
              rw [hcall] at hrespond
              cases hrespond
              simp [served, hcall]
      | response r | notification n | error e | nil =>
          obtain ⟨_, rfl⟩ := pure_ok_iff.mp h
          rfl

/-- Each request is put to the service once, in the order they come in. -/
theorem run_state {service : JsonRpcRequest → EStateM String σ JsonRpcResponse}
    {incoming : List Incoming} {s s' : ServerState σ}
    (h : (run service fails incoming).run s = .ok () s') :
    s'.service = incoming.foldl (served service) s.service := by
  induction incoming generalizing s with
  | nil =>
      obtain ⟨_, rfl⟩ := pure_ok_iff.mp h
      rfl
  | cons item incoming ih =>
      obtain ⟨_, mid, hitem, hrest⟩ := bind_ok h
      rw [ih hrest, answer_state hitem, List.foldl_cons]

/-- Requests that arrive line by line get their responses in the same order. -/
theorem serve_requests {serde : Serde} {reqs : List JsonRpcRequest} {reader : Reader}
    (hcarried : ∀ req ∈ reqs, serde.Carries (.request req))
    (hfaithful : ∀ req ∈ reqs, (JsonRpcMessage.request req).Faithful)
    (hversion : ∀ req ∈ reqs, req.jsonrpc = "2.0")
    (hsent : items reader = (reqs.map .request).flatMap (lineOf serde))
    (haligned : Aligned newline [] reader) (hsound : ∀ e, .failed e ∉ reader)
    (hfails : ∀ written, fails written = none) (s : ServerState σ) :
    ∃ responses s', (serve serde router fails reader).run s = .ok () s' ∧
      s'.written = s.written ++ responses ∧
      List.Forall₂ (fun req m => ∃ response, m = .response response ∧ Says req response)
        reqs responses := by
  have hmessages : messages serde reader = reqs.map fun req => .ok (.request req) := by
    rw [messages_of_lines _ _ _ hsent haligned hsound, List.map_map]
    · rfl
    · simpa using hcarried
    · simpa using hfaithful
    · simpa [JsonRpcMessage.jsonrpc] using hversion
  obtain ⟨_, s', hrun, _⟩ := run_finishes (call router) hfails (messages serde reader) s trivial
  obtain ⟨replies, hreplies, hall⟩ := run_ok hrun
  refine ⟨replies, s', hrun, hreplies, ?_⟩
  have hanswerable : (messages serde reader).filter answerable =
      reqs.map fun req => .ok (.request req) := by
    rw [hmessages, List.filter_eq_self]
    simp [answerable]
  rw [hanswerable, List.forall₂_map_left_iff] at hall
  apply hall.imp
  intro req m hreply
  cases m with
  | response response => exact ⟨response, rfl, hreply⟩
  | request r | notification n | error e | nil => exact hreply.elim

/-- The code of an error reply. -/
def JsonRpcMessage.code : JsonRpcMessage → Option Int32
  | .response r => r.error.map ErrorData.code
  | .error e => some e.error.code
  | _ => none

theorem parseLine_ne_protocol (serde : Serde) (line : List UInt8) (message : String) :
    parseLine serde line ≠ .error (.protocol message) := by
  unfold parseLine
  split
  · simp
  · split
    · simp
    · split
      · simp
      · split
        · simp
        · rename_i value _ _ _
          cases JsonRpcMessage.decode serde.rejects value <;> simp [Except.mapError]

/-- The transport never reports a protocol error. -/
theorem messages_ne_protocol (serde : Serde) (reader : Reader) (message : String) :
    .error (.protocol message) ∉ messages serde reader := by
  rw [messages_eq]
  intro h
  obtain ⟨frame, _, hframe⟩ := List.mem_map.mp h
  cases frame with
  | ok line => exact parseLine_ne_protocol serde line message hframe
  | error e => cases hframe

theorem ReplyTo.code {item : Incoming} {m : JsonRpcMessage} (h : ReplyTo item m)
    (hitem : ∀ message, item ≠ .error (.protocol message)) :
    m.code = none ∨ m.code = some METHOD_NOT_FOUND ∨ m.code = some PARSE_ERROR ∨
      m.code = some INTERNAL_ERROR := by
  cases item with
  | error e =>
      cases h
      cases e with
      | protocol message => exact absurd rfl (hitem message)
      | json _ | invalidMessage _ => exact Or.inr (Or.inr (Or.inl rfl))
      | io _ | utf8 _ => exact Or.inr (Or.inr (Or.inr rfl))
  | ok received =>
      cases received with
      | response r | notification n | error e | nil => exact absurd h id
      | request req =>
          cases m with
          | request r | notification n | error e | nil => exact absurd h id
          | response r =>
              cases h with
              | result h => exact Or.inl (by rw [JsonRpcMessage.code, h.error]; rfl)
              | unknown _ h => exact Or.inr (Or.inl (by rw [JsonRpcMessage.code, h.error]; rfl))
              | raised e h => exact Or.inr (Or.inr (Or.inr (by rw [h]; rfl)))

/-- Whatever comes in, invalid parameters and invalid requests are never reported
under the codes that stand for them: the service boxes the error of its router, and
the loop reports what is boxed as an internal error. The stream, the router, its
state and the writes that fail are arbitrary. -/
theorem serve_code (serde : Serde) (router : Router σ)
    (fails : List JsonRpcMessage → Option String) (reader : Reader) (s : ServerState σ) :
    ∃ replies, (after ((serve serde router fails reader).run s)).written = s.written ++ replies ∧
      ∀ m ∈ replies, m.code = none ∨ m.code = some METHOD_NOT_FOUND ∨
        m.code = some PARSE_ERROR ∨ m.code = some INTERNAL_ERROR := by
  have hserve : ∃ handled rest replies, messages serde reader = handled ++ rest ∧
      (after ((run (call router) fails (messages serde reader)).run s)).written =
        s.written ++ replies ∧
      List.Forall₂ ReplyTo (handled.filter answerable) replies ∧ _ := run_replies fails _ s
  obtain ⟨handled, rest, replies, hsplit, hwritten, hall, _⟩ := hserve
  refine ⟨replies, hwritten, fun m hm => ?_⟩
  obtain ⟨i, hi, rfl⟩ := List.getElem_of_mem hm
  obtain ⟨hlength, hrelated⟩ := List.forall₂_iff_get.mp hall
  have hitem := List.get_mem _ ⟨i, hlength ▸ hi⟩
  apply (hrelated i (hlength ▸ hi) hi).code
  intro message hmessage
  rw [hmessage] at hitem
  apply messages_ne_protocol serde reader message
  rw [hsplit]
  exact List.mem_append_left _ (List.mem_of_mem_filter hitem)

end IdxWorkspace.Mcp
