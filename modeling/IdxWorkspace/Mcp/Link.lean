import Mathlib.Data.List.Nodup
import Mathlib.Data.List.Perm.Subperm
import Mathlib.Data.List.Range
import IdxWorkspace.Library.Sequential
import IdxWorkspace.Mcp.Conversation
import IdxWorkspace.Mcp.Transport

/-!
A client and a server at the two ends of a link: any number of tasks that call,
give up and call again, a transport of the client with its actor, and
`Server::run` on its `ByteTransport`. Messages arrive in the order they were sent.
Some may be lost on their way to the server, and of those that arrive some are
torn: a line in which the server's reader is interrupted is no message to it, and
it answers with an error that has no id.

Whatever the interleaving, the server does nothing but a sequence of exchanges,
each with a message that was asked for, in the order of asking; and a call that
returns a message returns the reply of the exchange of its own request.
-/

namespace IdxWorkspace.Mcp.Link

open Library Library.Effect Library.History Library.Sequential

/-- The messages of the client: a request has an id. -/
inductive Sendable : JsonRpcMessage → Prop where
  | request (id : UInt64) (method : String) (params : Value) :
      Sendable (.request (newRequest id method params))
  | notification (method : String) (params : Value) :
      Sendable (.notification ⟨"2.0", method, some params⟩)

theorem Sendable.version {m : JsonRpcMessage} (h : Sendable m) : m.jsonrpc = some "2.0" := by
  cases h <;> rfl

theorem Sendable.isObject {m : JsonRpcMessage} (h : Sendable m) :
    m.encode.asObject.isNone = false := by
  cases h <;> rfl

/-- The ids of the first requests. -/
def ids (count : Nat) : List UInt64 := (List.range count).map fun k => UInt64.ofNat (k + 1)

theorem ids_succ (count : Nat) : ids (count + 1) = ids count ++ [UInt64.ofNat (count + 1)] := by
  simp [ids, List.range_succ]

/-- What an action of the client can do to what is on its way. -/
structure Moved (t t' : Traffic) (asked written : List JsonRpcMessage) : Prop where
  queue : (written ++ t'.queue.map TransportMessage.message).Sublist
    (t.queue.map TransportMessage.message ++ asked)
  sendable : ∀ m ∈ asked, Sendable m
  tickets : t.tickets ≤ t'.tickets
  numbered : ∀ before : List JsonRpcMessage, before.filterMap Traffic.requestId = ids t.tickets →
    (before ++ asked).filterMap Traffic.requestId = ids t'.tickets
  answered : ∀ call m, .answered call m ∈ t'.log → .answered call m ∈ t.log
  sent : ∀ call, .sent call ∈ t'.log → .sent call ∈ t.log ∨ call ∈ t.senders

theorem Moved.of_same {t t' : Traffic} {written : List JsonRpcMessage}
    (hqueue : (written ++ t'.queue.map TransportMessage.message).Sublist
      (t.queue.map TransportMessage.message))
    (htickets : t'.tickets = t.tickets) (hanswered : ∀ call m, .answered call m ∈ t'.log →
      .answered call m ∈ t.log)
    (hsent : ∀ call, .sent call ∈ t'.log → .sent call ∈ t.log ∨ call ∈ t.senders) :
    Moved t t' [] written := by
  constructor
  · simpa using hqueue
  · simp
  · exact Nat.le_of_eq htickets.symm
  · intro before hbefore
    rw [List.append_nil, hbefore, htickets]
  · exact hanswered
  · exact hsent

/-- What is dropped from the queue on top of that changes nothing. -/
theorem Moved.less {t t' t'' : Traffic} {asked written : List JsonRpcMessage}
    (h : Moved t t' asked written) (hqueue : t''.queue.Sublist t'.queue)
    (htickets : t''.tickets = t'.tickets) (hlog : t''.log = t'.log) :
    Moved t t'' asked written := by
  constructor
  · exact ((hqueue.map _).append_left _).trans h.queue
  · exact h.sendable
  · rw [htickets]
    exact h.tickets
  · rw [htickets]
    exact h.numbered
  · rw [hlog]
    exact h.answered
  · rw [hlog]
    exact h.sent

theorem Moved.of_log {t t' : Traffic} (hqueue : t'.queue.Sublist t.queue)
    (htickets : t'.tickets = t.tickets) (hlog : t'.log = t.log) : Moved t t' [] [] := by
  have hsame : Moved t t [] [] :=
    Moved.of_same (List.Sublist.refl _) rfl (fun _ _ h => h) (fun _ h => Or.inl h)
  exact hsame.less hqueue htickets hlog

theorem moved_enqueue {t t' : Traffic} {tm : TransportMessage} (hsendable : Sendable tm.message)
    (hqueue : t'.queue = t.queue) (hlog : t'.log = t.log)
    (hnumbered : ids t'.tickets = ids t.tickets ++ (Traffic.requestId tm.message).toList) :
    Moved t (t'.enqueue tm) [tm.message] [] := by
  have hsame : (t'.enqueue tm).tickets = t'.tickets ∧ (t'.enqueue tm).log = t.log := by
    unfold Traffic.enqueue
    split <;> exact ⟨rfl, hlog⟩
  constructor
  · unfold Traffic.enqueue
    split
    · simp [hqueue]
    · simp [hqueue]
  · simpa using hsendable
  · have hlength := congrArg List.length hnumbered
    simp only [ids, List.length_append, List.length_map, List.length_range] at hlength
    rw [hsame.1]
    omega
  · intro before hbefore
    rw [List.filterMap_append, hbefore, hsame.1, hnumbered]
    cases h : Traffic.requestId tm.message <;> simp [h]
  · rw [hsame.2]
    exact fun call m h => h
  · rw [hsame.2]
    exact fun call h => Or.inl h

theorem moved_forward {t : Traffic} (h : t.Inv) {tm : TransportMessage}
    {rest : List TransportMessage} (hqueue : t.queue = tm :: rest) :
    Moved t (t.forward tm rest) [] [tm.message] := by
  unfold Traffic.forward
  split
  · rename_i call id hcall hid
    apply Moved.of_same
    · simp [Traffic.insert, hqueue]
    · rfl
    · intro call' m hanswered
      simpa [Traffic.insert] using hanswered
    · intro call' hsent
      rcases List.mem_append.mp hsent with hold | hlast
      · exact Or.inl hold
      · cases List.mem_singleton.mp hlast
        exact Or.inr (h.head hqueue hcall).1
  · apply Moved.of_same
    · simp [hqueue]
    · rfl
    · exact fun call' m hanswered => hanswered
    · exact fun call' hsent => Or.inl hsent

theorem moved_request {t : Traffic} (h : t.Inv) (method : String) (params : Value) :
    Moved t (t.request method params) [.request (newRequest t.nextId method params)] [] := by
  apply moved_enqueue
  · exact .request _ _ _
  · rfl
  · rfl
  · change ids (t.tickets + 1) = ids t.tickets ++ [t.nextId]
    rw [ids_succ, h.next]

theorem moved_notify (t : Traffic) (method : String) (params : Value) :
    Moved t (t.notify method params) [.notification ⟨"2.0", method, some params⟩] [] := by
  apply moved_enqueue
  · exact .notification _ _
  · rfl
  · rfl
  · exact (List.append_nil _).symm

/-- An event of another kind is recorded. -/
theorem Moved.of_event {t t' : Traffic} {e : Event} (hqueue : t'.queue.Sublist t.queue)
    (htickets : t'.tickets = t.tickets) (hlog : t'.log = t.log ++ [e])
    (hanswered : ∀ call m, e ≠ .answered call m) (hsent : ∀ call, e ≠ .sent call) :
    Moved t t' [] [] := by
  apply Moved.of_same (hqueue.map _) htickets
  · intro call m hmem
    rw [hlog] at hmem
    rcases List.mem_append.mp hmem with hold | hlast
    · exact hold
    · exact absurd (List.mem_singleton.mp hlast).symm (hanswered call m)
  · intro call hmem
    rw [hlog] at hmem
    rcases List.mem_append.mp hmem with hold | hlast
    · exact Or.inl hold
    · exact absurd (List.mem_singleton.mp hlast).symm (hsent call)

theorem moved_finish (t : Traffic) (call : Call) (outcome : Except ServiceError JsonRpcMessage) :
    Moved t (t.finish call outcome) [] [] :=
  Moved.of_event (List.Sublist.refl _) rfl rfl nofun nofun

theorem moved_giveUp (t : Traffic) (call : Call) : Moved t (t.giveUp call) [] [] :=
  Moved.of_event (List.take_sublist _ _) rfl rfl nofun nofun

/-- A transport of the client, as the other end sees it. -/
structure Transport (rejects : Value → String) (T A : Type) where
  traffic : T → Traffic
  start : T
  /-- What its tasks and its actor do, other than reading. -/
  act : T → A → Option T
  receive : T → Value → Option T
  /-- What an action asks for. -/
  asks : T → A → List JsonRpcMessage
  /-- What an action gets onto the way. -/
  writes : T → A → List JsonRpcMessage
  started : traffic start = Traffic.start
  acts : ∀ {t t' a}, (traffic t).Inv → act t a = some t' → (traffic t').Inv ∧
    ∃ lost, Moved (traffic t) (traffic t') (asks t a) (lost ++ writes t a)
  receives : ∀ {t t' line}, receive t line = some t' → traffic t' = traffic t ∨
    ∃ m, JsonRpcMessage.decode rejects line = .ok m ∧ traffic t' = (traffic t).incoming m

theorem Transport.receive_inv {rejects : Value → String} {T A : Type}
    (transport : Transport rejects T A) {t t' : T} (h : (transport.traffic t).Inv) {line : Value}
    (hreceive : transport.receive t line = some t') : (transport.traffic t').Inv := by
  rcases transport.receives hreceive with hsame | ⟨m, hdecode, hincoming⟩
  · rw [hsame]
    exact h
  · rw [hincoming]
    exact h.incoming (decode_faithful rejects hdecode)

structure State (T σ : Type) where
  client : T
  /-- What the tasks have asked for. -/
  asked : List JsonRpcMessage
  outbound : List JsonRpcMessage
  service : σ
  inbound : List Value
  /-- The messages in whose lines the server was interrupted. -/
  torn : List JsonRpcMessage

inductive Action (A : Type) where
  | client (a : A)
  /-- The server takes a message and answers it. -/
  | serve
  /-- The server is interrupted in the line of a message, and reads the rest of it
  as this error. -/
  | tear (e : TransportError)
  /-- The client takes a reply. -/
  | read

variable {T A σ : Type} {rejects : Value → String}

/-- The server's round with what its transport gives it. -/
def takes (router : Router σ) (item : Incoming) (service : σ) :
    EStateM.Result ServerError (ServerState σ) Unit :=
  (run (call router) (fun _ => none) [item]).run { service := service, written := [] }

/-- The server's round with what was written for `m`. -/
def round (rejects : Value → String) (router : Router σ) (m : JsonRpcMessage) (service : σ) :
    EStateM.Result ServerError (ServerState σ) Unit :=
  takes router ((JsonRpcMessage.decode rejects m.encode).mapError .json) service

section Steps

variable (transport : Transport rejects T A) (router : Router σ)

def start (service : σ) : State T σ :=
  { client := transport.start, asked := [], outbound := [], service := service, inbound := [],
    torn := [] }

def step (c : State T σ) : Action A → Option (State T σ)
  | .client a => do
      let client ← transport.act c.client a
      return { c with
        client := client
        asked := c.asked ++ transport.asks c.client a
        outbound := c.outbound ++ transport.writes c.client a }
  | .serve =>
      match c.outbound with
      | [] => none
      | m :: rest =>
          match round rejects router m c.service with
          | .error _ _ => none
          | .ok _ s => some { c with
              outbound := rest
              service := s.service
              inbound := c.inbound ++ s.written.map JsonRpcMessage.encode }
  | .tear e =>
      match c.outbound with
      | [] => none
      | m :: rest =>
          match takes router (.error e) c.service with
          | .error _ _ => none
          | .ok _ s => some { c with
              outbound := rest
              service := s.service
              inbound := c.inbound ++ s.written.map JsonRpcMessage.encode
              torn := c.torn ++ [m] }
  | .read =>
      match c.inbound with
      | [] => none
      | line :: rest => do
          let client ← transport.receive c.client line
          return { c with client := client, inbound := rest }

def runs (c : State T σ) (actions : List (Action A)) : Option (State T σ) :=
  actions.foldlM (step transport router) c

/-- What a step does, case by case. -/
inductive Stepped (c : State T σ) : Action A → State T σ → Prop where
  | client {a : A} {client : T} (hact : transport.act c.client a = some client) :
      Stepped c (.client a) { c with
        client := client, asked := c.asked ++ transport.asks c.client a,
        outbound := c.outbound ++ transport.writes c.client a }
  | serve {m : JsonRpcMessage} {rest : List JsonRpcMessage} {s : ServerState σ}
      (houtbound : c.outbound = m :: rest) (hround : round rejects router m c.service = .ok () s) :
      Stepped c .serve { c with
        outbound := rest, service := s.service,
        inbound := c.inbound ++ s.written.map JsonRpcMessage.encode }
  | tear {e : TransportError} {m : JsonRpcMessage} {rest : List JsonRpcMessage}
      {s : ServerState σ} (houtbound : c.outbound = m :: rest)
      (htakes : takes router (.error e) c.service = .ok () s) :
      Stepped c (.tear e) { c with
        outbound := rest, service := s.service,
        inbound := c.inbound ++ s.written.map JsonRpcMessage.encode, torn := c.torn ++ [m] }
  | read {line : Value} {rest : List Value} {client : T} (hinbound : c.inbound = line :: rest)
      (hreceive : transport.receive c.client line = some client) :
      Stepped c .read { c with client := client, inbound := rest }

/-- What a line of the server says: the reply of an exchange, or an error that is
for no call. -/
inductive FromServer (rejects : Value → String) (history : List (JsonRpcMessage × JsonRpcMessage))
    (line : Value) : Prop where
  | reply {m reply : JsonRpcMessage} {id : UInt64} (hmem : (m, reply) ∈ history)
      (hid : Traffic.requestId m = some id)
      (hdecode : JsonRpcMessage.decode rejects line = .ok reply)
      (hreply : replyId reply = some id)
  | stray {m : JsonRpcMessage} (hdecode : JsonRpcMessage.decode rejects line = .ok m)
      (hreply : replyId m = none)

/-- The exchanges that have taken place, each with its message and its reply. -/
structure Linked (service : σ) (history : List (JsonRpcMessage × JsonRpcMessage)) (c : State T σ) :
    Prop where
  performed : perform (exchange rejects router) service (history.map Prod.fst) =
    (history.map fun h => .ok h.2, c.service)
  inOrder : (history.map Prod.fst ++
    (c.outbound ++ (transport.traffic c.client).queue.map TransportMessage.message)).Sublist c.asked
  sendable : ∀ m ∈ c.asked, Sendable m
  numbered : c.asked.filterMap Traffic.requestId = ids (transport.traffic c.client).tickets
  accounted : (history.map Prod.fst ++
    (c.outbound ++ (transport.traffic c.client).queue.map TransportMessage.message) ++
    c.torn).Subperm c.asked
  lines : ∀ line ∈ c.inbound, FromServer rejects history line
  answers : ∀ call m, .answered call m ∈ (transport.traffic c.client).log →
    ∃ req, (req, m) ∈ history ∧ Traffic.requestId req = some call.id
  sent : ∀ call, .sent call ∈ (transport.traffic c.client).log →
    call.id = UInt64.ofNat (call.ticket + 1)

end Steps

variable {transport : Transport rejects T A} {router : Router σ} {service : σ}
variable {history : List (JsonRpcMessage × JsonRpcMessage)} {c c' : State T σ}

theorem stepped {action : Action A} (hstep : step transport router c action = some c') :
    Stepped transport router c action c' := by
  cases action with
  | client a =>
      obtain ⟨client, hact, ⟨⟩⟩ := Option.bind_eq_some_iff.mp hstep
      exact .client hact
  | serve =>
      simp only [step] at hstep
      split at hstep
      · cases hstep
      · rename_i m rest houtbound
        split at hstep <;> cases hstep
        rename_i s hround
        exact .serve houtbound hround
  | tear e =>
      simp only [step] at hstep
      split at hstep
      · cases hstep
      · rename_i m rest houtbound
        split at hstep <;> cases hstep
        rename_i s htakes
        exact .tear houtbound htakes
  | read =>
      simp only [step] at hstep
      split at hstep
      · cases hstep
      · rename_i line rest hinbound
        obtain ⟨client, hreceive, ⟨⟩⟩ := Option.bind_eq_some_iff.mp hstep
        exact .read hinbound hreceive

theorem respondTo_ends (service : JsonRpcRequest → EStateM String σ JsonRpcResponse)
    (req : JsonRpcRequest) (s : ServerState σ) :
    ∃ response t, (respondTo service req).run s = .ok response { s with service := t } := by
  change ∃ response t, respondTo service req s = .ok response { s with service := t }
  unfold respondTo
  cases (service req).run s.service with
  | ok response t => exact ⟨_, t, rfl⟩
  | error e t => exact ⟨_, t, rfl⟩

/-- The server answers a request by one line, which the client reads as the reply
of an exchange. -/
theorem round_request (rejects : Value → String) (router : Router σ) (id : UInt64)
    (method : String) (params : Value) (s : σ) :
    ∃ response t, round rejects router (.request (newRequest id method params)) s =
        .ok () { service := t, written := [.response response] } ∧
      JsonRpcMessage.decode rejects (JsonRpcMessage.response response).encode =
        .ok (arrival response) ∧
      replyId (arrival response) = some id ∧
      (exchange rejects router (.request (newRequest id method params))).run s =
        .ok (arrival response) t := by
  let req : JsonRpcRequest := { newRequest id method params with params := nonNull (some params) }
  have hdecode : JsonRpcMessage.decode rejects
      (JsonRpcMessage.request (newRequest id method params)).encode = .ok (.request req) := by
    rw [JsonRpcMessage.encode, decode_request]
    rfl
  obtain ⟨response, t, hrespond⟩ :=
    respondTo_ends (call router) req { service := s, written := [] }
  have hsays := respondTo_returns _ _ _ _ hrespond
  have hround : round rejects router (.request (newRequest id method params)) s =
      .ok () { service := t, written := [.response response] } := by
    rw [round, hdecode, Except.mapError, takes, run_request, hrespond]
    rfl
  have hreply := decode_says rejects hsays
  have hid : replyId (arrival response) = some id := by
    have hresponse : response.id = some id := hsays.id.2
    unfold arrival
    split <;> exact hresponse
  refine ⟨response, t, hround, hreply, hid, ?_⟩
  have hrun : (exchange rejects router (.request (newRequest id method params))).run s =
      exchange rejects router (.request (newRequest id method params)) s := rfl
  unfold round takes at hround
  rw [hrun, exchange, hround]
  simp only [hreply]

/-- A notification is passed over. -/
theorem round_notification (n : JsonRpcNotification) (s : σ) :
    round rejects router (.notification n) s = .ok () { service := s, written := [] } := by
  rw [round, JsonRpcMessage.encode, decode_notification]
  rfl

/-- To what is no message the server replies with an error for no call. -/
theorem takes_error (e : TransportError) (s : σ) :
    takes router (.error e) s = .ok ()
      { service := s
        written := [.error { jsonrpc := "2.0", id := none, error := transportErrorData e }] } :=
  rfl

theorem fromServer_error (rejects : Value → String) (e : TransportError) :
    FromServer rejects history (JsonRpcMessage.error
      { jsonrpc := "2.0", id := none, error := transportErrorData e }).encode := by
  refine .stray (decode_of_faithful rejects ?_) rfl
  cases e <;> exact nofun

theorem FromServer.decoded {line : Value} (h : FromServer rejects history line) :
    ∃ m, JsonRpcMessage.decode rejects line = .ok m := by
  cases h with
  | reply _ _ hdecode _ => exact ⟨_, hdecode⟩
  | stray hdecode _ => exact ⟨_, hdecode⟩

/-- A line stays what it was when more exchanges take place. -/
theorem FromServer.more {line : Value} (h : FromServer rejects history line)
    (exchanged : JsonRpcMessage × JsonRpcMessage) :
    FromServer rejects (history ++ [exchanged]) line := by
  cases h with
  | reply hmem hid hdecode hreply =>
      exact .reply (List.mem_append_left _ hmem) hid hdecode hreply
  | stray hdecode hreply => exact .stray hdecode hreply

/-- A round ends, with one line for a request and none for a notification. -/
theorem Sendable.round {m : JsonRpcMessage} (h : Sendable m) (rejects : Value → String)
    (router : Router σ) (s : σ) :
    ∃ s', round rejects router m s = .ok () s' ∧ s'.written.length ≤ 1 ∧
      ∀ id, Traffic.requestId m = some id → ∃ line ∈ s'.written.map JsonRpcMessage.encode,
        ∃ reply, JsonRpcMessage.decode rejects line = .ok reply ∧ replyId reply = some id := by
  cases h with
  | request id method params =>
      obtain ⟨response, t, hround, hdecode, hid, _⟩ :=
        round_request rejects router id method params s
      refine ⟨_, hround, Nat.le_refl 1, ?_⟩
      rintro id' ⟨⟩
      exact ⟨_, List.mem_singleton_self _, arrival response, hdecode, hid⟩
  | notification method params =>
      exact ⟨_, round_notification _ s, Nat.zero_le 1, nofun⟩

theorem Linked.outbound_sendable (h : Linked transport router service history c)
    {m : JsonRpcMessage} (hm : m ∈ c.outbound) : Sendable m := by
  apply h.sendable
  apply h.inOrder.subset
  simp [hm]

/-- What is lost aside, what was on its way or was asked for is written or waits. -/
theorem moved_on {t t' : Traffic} {asked lost written : List JsonRpcMessage}
    (hmoved : Moved t t' asked (lost ++ written)) :
    (written ++ t'.queue.map TransportMessage.message).Sublist
      (t.queue.map TransportMessage.message ++ asked) := by
  refine List.Sublist.trans ?_ hmoved.queue
  rw [List.append_assoc]
  exact List.sublist_append_right _ _

/-- What was accounted for still is when messages move on. -/
theorem accounted_moved {exchanged outbound queue torn all : List JsonRpcMessage}
    {written queue' asked : List JsonRpcMessage}
    (hmoved : (written ++ queue').Sublist (queue ++ asked))
    (h : (exchanged ++ (outbound ++ queue) ++ torn).Subperm all) :
    (exchanged ++ ((outbound ++ written) ++ queue') ++ torn).Subperm (all ++ asked) := by
  have hmore : (exchanged ++ (outbound ++ (written ++ queue')) ++ torn).Subperm
      (exchanged ++ (outbound ++ (queue ++ asked)) ++ torn) :=
    (((hmoved.append_left outbound).append_left exchanged).append_right torn).subperm
  have hlast : List.Perm (exchanged ++ (outbound ++ queue) ++ (asked ++ torn))
      (exchanged ++ (outbound ++ queue) ++ (torn ++ asked)) :=
    List.perm_append_comm.append_left _
  have hall : (exchanged ++ (outbound ++ queue) ++ torn ++ asked).Subperm (all ++ asked) :=
    (List.subperm_append_right asked).mpr h
  rw [List.append_assoc _ torn] at hall
  have hasked := hlast.subperm.trans hall
  simp only [List.append_assoc] at hmore hasked ⊢
  exact hmore.trans hasked

/-- So it is when the next message on its way is torn. -/
theorem accounted_torn {exchanged rest queue torn all : List JsonRpcMessage} {m : JsonRpcMessage}
    (h : (exchanged ++ (m :: rest ++ queue) ++ torn).Subperm all) :
    (exchanged ++ (rest ++ queue) ++ (torn ++ [m])).Subperm all := by
  have hlast : List.Perm ((rest ++ queue ++ torn) ++ [m]) ([m] ++ (rest ++ queue ++ torn)) :=
    List.perm_append_comm
  have hall := hlast.append_left exchanged
  simp only [List.append_assoc, List.cons_append, List.nil_append] at h hall ⊢
  exact hall.subperm.trans h

theorem Linked.moved (h : Linked transport router service history c)
    (hinv : (transport.traffic c.client).Inv) {client : T}
    {asked written : List JsonRpcMessage} (lost : List JsonRpcMessage)
    (hmoved : Moved (transport.traffic c.client) (transport.traffic client) asked
      (lost ++ written)) :
    Linked transport router service history
      { c with
        client := client
        asked := c.asked ++ asked
        outbound := c.outbound ++ written } := by
  constructor
  · exact h.performed
  · have hkept := moved_on hmoved
    have hall := (hkept.append_left c.outbound).append_left (history.map Prod.fst)
    have hrest := h.inOrder.append_right asked
    simp only [List.append_assoc] at hall hrest ⊢
    exact hall.trans hrest
  · intro m hm
    rcases List.mem_append.mp hm with hold | hnew
    · exact h.sendable m hold
    · exact hmoved.sendable m hnew
  · exact hmoved.numbered _ h.numbered
  · exact accounted_moved (moved_on hmoved) h.accounted
  · exact h.lines
  · exact fun call m hanswered => h.answers call m (hmoved.answered call m hanswered)
  · intro call hsent
    rcases hmoved.sent call hsent with hold | hsender
    · exact h.sent call hold
    · exact hinv.numbered call hsender

/-- The server takes the next message in: one more exchange has taken place. -/
theorem Linked.serve (h : Linked transport router service history c) {m : JsonRpcMessage}
    {rest : List JsonRpcMessage} (houtbound : c.outbound = m :: rest)
    {s : ServerState σ} (hround : round rejects router m c.service = .ok () s) :
    ∃ reply, Linked transport router service (history ++ [(m, reply)])
      { c with outbound := rest, service := s.service,
               inbound := c.inbound ++ s.written.map JsonRpcMessage.encode } := by
  have hasked : m ∈ c.asked := by
    apply h.inOrder.subset
    simp [houtbound]
  have horder (reply : JsonRpcMessage) : ((history ++ [(m, reply)]).map Prod.fst ++
      (rest ++ (transport.traffic c.client).queue.map TransportMessage.message)).Sublist
        c.asked := by
    have hbefore := h.inOrder
    rw [houtbound] at hbefore
    simpa using hbefore
  have haccounted (reply : JsonRpcMessage) : ((history ++ [(m, reply)]).map Prod.fst ++
      (rest ++ (transport.traffic c.client).queue.map TransportMessage.message) ++
        c.torn).Subperm c.asked := by
    have hbefore := h.accounted
    rw [houtbound] at hbefore
    simpa using hbefore
  have hperformed {reply : JsonRpcMessage} {t : σ}
      (hexchange : (exchange rejects router m).run c.service = .ok reply t) :
      perform (exchange rejects router) service ((history ++ [(m, reply)]).map Prod.fst) =
        ((history ++ [(m, reply)]).map fun h => .ok h.2, t) := by
    rw [List.map_append, List.map_singleton, perform_snoc, h.performed, hexchange]
    simp
  have hanswers (reply : JsonRpcMessage) :
      ∀ call m', .answered call m' ∈ (transport.traffic c.client).log →
      ∃ req, (req, m') ∈ history ++ [(m, reply)] ∧ Traffic.requestId req = some call.id := by
    intro call m' hanswered
    obtain ⟨req, hreq, hid⟩ := h.answers call m' hanswered
    exact ⟨req, List.mem_append_left _ hreq, hid⟩
  cases h.sendable m hasked with
  | request id method params =>
      obtain ⟨response, t, hrun, hdecode, hid, hexchange⟩ :=
        round_request rejects router id method params c.service
      rw [hround] at hrun
      cases hrun
      refine ⟨arrival response, hperformed hexchange, horder _, h.sendable, h.numbered,
        haccounted _, ?_, hanswers _, h.sent⟩
      intro line hline
      rcases List.mem_append.mp hline with hbefore | hnew
      · exact (h.lines line hbefore).more _
      · obtain rfl := List.mem_singleton.mp hnew
        have hlast : (JsonRpcMessage.request (newRequest id method params), arrival response) ∈
            history ++ [(.request (newRequest id method params), arrival response)] :=
          List.mem_append_right _ (List.mem_singleton_self _)
        exact .reply hlast rfl hdecode hid
  | notification method params =>
      rw [round_notification] at hround
      cases hround
      refine ⟨.nil, hperformed (exchange_notification rejects router _ c.service), horder _,
        h.sendable, h.numbered, haccounted _, ?_, hanswers _, h.sent⟩
      intro line hline
      exact (h.lines line (by simpa using hline)).more _

/-- The next message is torn: no exchange takes place. -/
theorem Linked.tear (h : Linked transport router service history c) {m : JsonRpcMessage}
    {rest : List JsonRpcMessage} (houtbound : c.outbound = m :: rest) {e : TransportError}
    {s : ServerState σ} (htakes : takes router (.error e) c.service = .ok () s) :
    Linked transport router service history
      { c with outbound := rest, service := s.service,
               inbound := c.inbound ++ s.written.map JsonRpcMessage.encode,
               torn := c.torn ++ [m] } := by
  rw [takes_error] at htakes
  cases htakes
  constructor
  · exact h.performed
  · refine List.Sublist.trans ?_ h.inOrder
    rw [houtbound, List.cons_append]
    exact (List.sublist_cons_self _ _).append_left _
  · exact h.sendable
  · exact h.numbered
  · apply accounted_torn
    rw [← houtbound]
    exact h.accounted
  · intro line hline
    rcases List.mem_append.mp hline with hbefore | hnew
    · exact h.lines line hbefore
    · obtain rfl := List.mem_singleton.mp hnew
      exact fromServer_error rejects e
  · exact h.answers
  · exact h.sent

/-- What a line of the server leaves in the log: at most one answer, which is the
reply of an exchange. -/
theorem read_log {t t' : Traffic} (hinv : t.Inv) {line : Value}
    (hline : FromServer rejects history line)
    (hreceives : t' = t ∨ ∃ m, JsonRpcMessage.decode rejects line = .ok m ∧ t' = t.incoming m) :
    t'.log = t.log ∨ ∃ call m reply, (m, reply) ∈ history ∧
      Traffic.requestId m = some call.id ∧ t'.log = t.log ++ [.answered call reply] := by
  rcases hreceives with rfl | ⟨m', hdecode', rfl⟩
  · exact Or.inl rfl
  · cases hline with
    | @reply m reply id hmem hid hdecode hreply =>
        rw [hdecode] at hdecode'
        cases hdecode'
        rw [Traffic.incoming_eq _ hreply]
        rcases Traffic.Inv.respond_log hinv id m' with hsame | ⟨call, rfl, hlast⟩
        · exact Or.inl hsame
        · exact Or.inr ⟨call, m, m', hmem, hid, hlast⟩
    | stray hdecode hreply =>
        rw [hdecode] at hdecode'
        cases hdecode'
        exact Or.inl (by rw [Traffic.incoming_of_stray _ hreply])

/-- A reply is handed to the call under whose id it was asked for. -/
theorem Linked.read (h : Linked transport router service history c)
    (hinv : (transport.traffic c.client).Inv) {line : Value} {rest : List Value}
    (hinbound : c.inbound = line :: rest) {client : T}
    (hreceive : transport.receive c.client line = some client) :
    Linked transport router service history { c with client := client, inbound := rest } := by
  have hlog := read_log hinv (h.lines line (by simp [hinbound])) (transport.receives hreceive)
  have hsame' : (transport.traffic client).queue = (transport.traffic c.client).queue ∧
      (transport.traffic client).tickets = (transport.traffic c.client).tickets := by
    rcases transport.receives hreceive with hsame | ⟨m', _, hincoming⟩
    · exact ⟨by rw [hsame], by rw [hsame]⟩
    · rw [hincoming]
      obtain ⟨hqueue, _, _, htickets⟩ := Traffic.incoming_same (transport.traffic c.client) m'
      exact ⟨hqueue, htickets⟩
  constructor
  · exact h.performed
  · rw [hsame'.1]
    exact h.inOrder
  · exact h.sendable
  · rw [hsame'.2]
    exact h.numbered
  · rw [hsame'.1]
    exact h.accounted
  · intro line' hline'
    exact h.lines line' (by rw [hinbound]; exact List.mem_cons_of_mem _ hline')
  · intro call' m' hanswered
    rcases hlog with hsame | ⟨call, m, reply, hmem, hid, hlast⟩
    · exact h.answers call' m' (hsame ▸ hanswered)
    · rw [hlast] at hanswered
      rcases List.mem_append.mp hanswered with hbefore | hnew
      · exact h.answers call' m' hbefore
      · cases List.mem_singleton.mp hnew
        exact ⟨m, hmem, hid⟩
  · intro call' hsent
    rcases hlog with hsame | ⟨_, _, _, _, _, hlast⟩
    · exact h.sent call' (hsame ▸ hsent)
    · rw [hlast] at hsent
      exact h.sent call' (by simpa using hsent)

/-- What every step keeps. -/
def Kept (transport : Transport rejects T A) (router : Router σ) (service : σ)
    (c : State T σ) : Prop :=
  (transport.traffic c.client).Inv ∧ ∃ history, Linked transport router service history c

theorem linked_start (service : σ) :
    Linked transport router service [] (start transport service) := by
  constructor <;> simp [start, transport.started, Traffic.start, perform, ids,
    List.Subperm.refl]

theorem kept_start (service : σ) : Kept transport router service (start transport service) := by
  refine ⟨?_, [], linked_start service⟩
  change (transport.traffic transport.start).Inv
  rw [transport.started]
  exact Traffic.inv_start

theorem step_kept {action : Action A} (h : Kept transport router service c)
    (hstep : step transport router c action = some c') : Kept transport router service c' := by
  obtain ⟨hinv, history, hlinked⟩ := h
  cases stepped hstep with
  | client hact =>
      obtain ⟨hkept, lost, hmoved⟩ := transport.acts hinv hact
      exact ⟨hkept, history, hlinked.moved hinv lost hmoved⟩
  | serve houtbound hround =>
      obtain ⟨reply, hserved⟩ := hlinked.serve houtbound hround
      exact ⟨hinv, _, hserved⟩
  | tear houtbound htakes => exact ⟨hinv, history, hlinked.tear houtbound htakes⟩
  | read hinbound hreceive =>
      exact ⟨transport.receive_inv hinv hreceive, history, hlinked.read hinv hinbound hreceive⟩

theorem runs_kept {actions : List (Action A)}
    (hruns : runs transport router (start transport service) actions = some c) :
    Kept transport router service c :=
  foldlM_keeps (fun _ _ _ _ h hstep => step_kept h hstep) (kept_start service) hruns

/-- The request a call made: as many calls came before it as its ticket says. -/
def requestOf (asked : List JsonRpcMessage) (call : Call) : Option JsonRpcMessage :=
  (asked.filter fun m => (Traffic.requestId m).isSome)[call.ticket]?

/-- As long as the ids have not come round, the request under a call's id is its own. -/
theorem Linked.requestOf_eq (h : Linked transport router service history c)
    (htickets : (transport.traffic c.client).tickets < 18446744073709551616) {call : Call}
    (hcall : call.id = UInt64.ofNat (call.ticket + 1))
    (hissued : call.ticket < (transport.traffic c.client).tickets)
    {req : JsonRpcMessage} (hreq : req ∈ c.asked) (hid : Traffic.requestId req = some call.id) :
    requestOf c.asked call = some req := by
  let requests := c.asked.filter fun m => (Traffic.requestId m).isSome
  have hids : requests.map Traffic.requestId =
      (ids (transport.traffic c.client).tickets).map some := by
    rw [← h.numbered]
    have hsplit (ms : List JsonRpcMessage) :
        (ms.filter fun m => (Traffic.requestId m).isSome).map Traffic.requestId =
          (ms.filterMap Traffic.requestId).map some := by
      induction ms with
      | nil => rfl
      | cons m ms ih => cases hm : Traffic.requestId m <;> simp [hm, ih]
    exact hsplit c.asked
  have hmem : req ∈ requests := List.mem_filter.mpr ⟨hreq, by rw [hid]; rfl⟩
  obtain ⟨i, hi, hget⟩ := List.getElem_of_mem hmem
  have hcount : requests.length = (transport.traffic c.client).tickets := by
    have hlength := congrArg List.length hids
    simpa [ids] using hlength
  have hnumber : UInt64.ofNat (i + 1) = UInt64.ofNat (call.ticket + 1) := by
    have hith : (requests.map Traffic.requestId)[i]? = some (some call.id) := by
      rw [List.getElem?_map, List.getElem?_eq_getElem hi, hget, Option.map_some, hid]
    rw [hids, ids, List.map_map, List.getElem?_map, List.getElem?_range (by omega)] at hith
    have hsame : UInt64.ofNat (i + 1) = call.id := by
      simpa using hith
    rw [hsame, hcall]
  have hticket : i = call.ticket := by
    have hmod : (i + 1) % 18446744073709551616 = (call.ticket + 1) % 18446744073709551616 := by
      simpa using congrArg UInt64.toNat hnumber
    omega
  change requests[call.ticket]? = some req
  rw [← hticket, List.getElem?_eq_getElem hi, hget]

theorem ids_nodup {count : Nat} (h : count < 18446744073709551616) : (ids count).Nodup := by
  apply List.Nodup.map_on ?_ List.nodup_range
  intro i hi j hj hij
  rw [List.mem_range] at hi hj
  have hmod : (i + 1) % 18446744073709551616 = (j + 1) % 18446744073709551616 := by
    simpa using congrArg UInt64.toNat hij
  omega

/-- As long as the ids have not come round, a request that was torn is not one that
took place. -/
theorem Linked.torn_apart (h : Linked transport router service history c)
    (htickets : (transport.traffic c.client).tickets < 18446744073709551616)
    {req reply m : JsonRpcMessage} {id : UInt64} (hexchanged : (req, reply) ∈ history)
    (hreq : Traffic.requestId req = some id) (htorn : m ∈ c.torn) :
    Traffic.requestId m ≠ some id := by
  intro hm
  have hids : (((history.map Prod.fst ++ (c.outbound ++
      (transport.traffic c.client).queue.map TransportMessage.message)) ++
        c.torn).filterMap Traffic.requestId).Nodup := by
    obtain ⟨some_asked, hperm, hsub⟩ := h.accounted
    rw [← (hperm.filterMap Traffic.requestId).nodup_iff]
    refine List.Nodup.sublist (hsub.filterMap Traffic.requestId) ?_
    rw [h.numbered]
    exact ids_nodup htickets
  rw [List.filterMap_append, List.nodup_append] at hids
  obtain ⟨_, _, hapart⟩ := hids
  refine hapart id (List.mem_filterMap.mpr ⟨req, ?_, hreq⟩) id
    (List.mem_filterMap.mpr ⟨m, htorn, hm⟩) rfl
  exact List.mem_append_left _ (List.mem_map.mpr ⟨_, hexchanged, rfl⟩)

/-- What a call returns is the reply of the exchange of its own request. -/
theorem Linked.returned (h : Linked transport router service history c)
    (hinv : (transport.traffic c.client).Inv)
    (htickets : (transport.traffic c.client).tickets < 18446744073709551616) {call : Call}
    {expected : UInt64} {m : JsonRpcMessage}
    (hended : .ended call expected (.ok m) ∈ (transport.traffic c.client).log) :
    ∃ req, requestOf c.asked call = some req ∧ (req, m) ∈ history := by
  obtain ⟨hsent, hanswered, _⟩ := ended_answered hinv.orderly hended
  obtain ⟨req, hmem, hid⟩ := h.answers call m hanswered
  have hasked : req ∈ c.asked := by
    apply h.inOrder.subset
    exact List.mem_append_left _ (List.mem_map.mpr ⟨_, hmem, rfl⟩)
  exact ⟨req, h.requestOf_eq htickets (h.sent call hsent) (hinv.recorded _ hsent) hasked hid,
    hmem⟩

/-- The server performs exchanges, in the order the messages were asked for, and
none twice; what a call returns is the reply of the exchange of its own request. -/
theorem exchanged {actions : List (Action A)}
    (hruns : runs transport router (start transport service) actions = some c)
    (htickets : (transport.traffic c.client).tickets < 18446744073709551616) :
    ∃ history : List (JsonRpcMessage × JsonRpcMessage),
      perform (exchange rejects router) service (history.map Prod.fst) =
        (history.map fun h => .ok h.2, c.service) ∧
      (history.map Prod.fst).Sublist c.asked ∧
      ∀ call expected m, .ended call expected (.ok m) ∈ (transport.traffic c.client).log →
        ∃ req, requestOf c.asked call = some req ∧ (req, m) ∈ history := by
  obtain ⟨hinv, history, hlinked⟩ := runs_kept hruns
  have horder : (history.map Prod.fst).Sublist c.asked :=
    (List.sublist_append_left _ _).trans hlinked.inOrder
  exact ⟨history, hlinked.performed, horder,
    fun _ _ _ hended => hlinked.returned hinv htickets hended⟩

end IdxWorkspace.Mcp.Link
