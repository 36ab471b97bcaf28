import IdxWorkspace.Mcp.Transport

/-!
`SseTransport`: the actor posts messages to an endpoint it is told by the event
stream, and reads its answers from that stream. `start` gives the handle out even
if no endpoint was found in time. When the stream ends the calls under way are
ended with it, but the actor goes on taking messages, whose answers it can no
longer receive: such a call waits until it is given up.
-/

namespace IdxWorkspace.Mcp.Sse

open Library Library.History

structure State where
  traffic : Traffic
  /-- The loop that reads the stream is running. -/
  streaming : Bool
  postEndpoint : Option String

def start : State := { traffic := Traffic.start, streaming := true, postEndpoint := none }

inductive Action where
  | request (method : String) (params : Value)
  /-- A notification has got its place in the queue. -/
  | notify (method : String) (params : Value)
  | finish
  | giveUp
  /-- The actor takes the next message. How its POST ends changes nothing. -/
  | forward
  /-- An `endpoint` event, with the URL its data is joined to. -/
  | discover (postUrl : String)
  /-- A `message` event. -/
  | receive (data : Value)
  /-- The stream has ended, or could not be opened. -/
  | endOfStream
  /-- The data of the first `endpoint` event is no URL: the actor panics. -/
  | panic

/-- Without an endpoint a message is not sent, and only a request is told so. -/
def State.forward (s : State) (tm : TransportMessage) (rest : List TransportMessage) : State :=
  match s.postEndpoint, tm.responseTx with
  | some _, _ => { s with traffic := s.traffic.forward tm rest }
  | none, some c => { s with traffic := Traffic.refuse { s.traffic with queue := rest } c }
  | none, none => { s with traffic := { s.traffic with queue := rest } }

/-- Until the endpoint is known the other events are skipped. -/
def State.receive (s : State) (rejects : Value → String) (data : Value) : State :=
  match s.postEndpoint, JsonRpcMessage.decode rejects data with
  | some _, .ok m => { s with traffic := s.traffic.incoming m }
  | _, _ => s

/-- What can happen next. -/
def step (rejects : Value → String) (s : State) : Action → Option State
  | .request method params =>
      if s.traffic.holder.isNone then some { s with traffic := s.traffic.request method params }
      else none
  | .notify method params =>
      if s.traffic.holder.isNone ∧ s.traffic.queue.length < Traffic.places then
        some { s with traffic := s.traffic.notify method params }
      else none
  | .finish => s.traffic.received.map fun (c, r) => { s with traffic := s.traffic.finish c r }
  | .giveUp => s.traffic.holder.map fun c => { s with traffic := s.traffic.giveUp c }
  | .forward =>
      match s.traffic.queue with
      | tm :: rest => some (s.forward tm rest)
      | [] => none
  | .discover postUrl =>
      if s.streaming ∧ s.postEndpoint = none then some { s with postEndpoint := some postUrl }
      else none
  | .receive data => if s.streaming then some (s.receive rejects data) else none
  | .endOfStream =>
      if s.streaming then some { s with traffic := s.traffic.clear, streaming := false } else none
  | .panic =>
      if s.streaming ∧ s.postEndpoint = none then
        some { s with traffic := s.traffic.clear.close, streaming := false }
      else none

def run (rejects : Value → String) (s : State) (actions : List Action) : Option State :=
  actions.foldlM (step rejects) s

variable {rejects : Value → String} {s s' : State} {action : Action} {actions : List Action}

theorem forward_inv (h : s.traffic.Inv) {tm : TransportMessage} {rest : List TransportMessage}
    (hqueue : s.traffic.queue = tm :: rest) : (s.forward tm rest).traffic.Inv := by
  unfold State.forward
  split
  · exact h.forward hqueue
  · rename_i c _ hc
    exact h.refuse hqueue hc
  · exact h.take hqueue

theorem receive_inv (h : s.traffic.Inv) (data : Value) :
    (s.receive rejects data).traffic.Inv := by
  unfold State.receive
  split
  · rename_i m _ hdecode
    exact h.incoming (decode_faithful rejects hdecode)
  · exact h

theorem step_inv (h : s.traffic.Inv) (hstep : step rejects s action = some s') :
    s'.traffic.Inv := by
  cases action with
  | request method params =>
      obtain ⟨_, ⟨⟩⟩ := Option.ite_none_right_eq_some.mp hstep
      exact h.request method params
  | notify method params =>
      obtain ⟨_, ⟨⟩⟩ := Option.ite_none_right_eq_some.mp hstep
      exact h.notify method params
  | finish =>
      obtain ⟨⟨c, r⟩, hreceived, rfl⟩ := Option.map_eq_some_iff.mp hstep
      obtain ⟨hholder, htold⟩ := h.received hreceived
      exact h.finish hholder htold
  | giveUp =>
      obtain ⟨c, hholder, rfl⟩ := Option.map_eq_some_iff.mp hstep
      exact h.giveUp hholder
  | forward =>
      simp only [step] at hstep
      split at hstep
      · rename_i tm rest hqueue
        cases hstep
        exact forward_inv h hqueue
      · cases hstep
  | discover postUrl =>
      obtain ⟨_, ⟨⟩⟩ := Option.ite_none_right_eq_some.mp hstep
      exact h
  | receive data =>
      obtain ⟨_, ⟨⟩⟩ := Option.ite_none_right_eq_some.mp hstep
      exact receive_inv h data
  | endOfStream =>
      obtain ⟨_, ⟨⟩⟩ := Option.ite_none_right_eq_some.mp hstep
      exact h.clear
  | panic =>
      obtain ⟨_, ⟨⟩⟩ := Option.ite_none_right_eq_some.mp hstep
      exact h.clear.close

theorem run_inv (hrun : run rejects start actions = some s) : s.traffic.Inv :=
  foldlM_keeps (fun _ _ _ _ h hstep => step_inv h hstep) Traffic.inv_start hrun

/-- Whatever comes on the stream, whenever its endpoint is discovered and however the
tasks and the actor take turns, the calls go in order: each one is taken once at most,
answered once at most, after its request and under its own id, and over once at most,
and a call that returns a message returns its answer. -/
theorem sse_in_order (hrun : run rejects start actions = some s) : InOrder s.traffic.log :=
  inOrder_of_allowed (run_inv hrun).orderly

/-- A call on a discovered endpoint, answered by the stream. -/
def pinged : List Action :=
  [.discover "http://localhost/post", .request "ping" .null, .forward,
    .receive (.object
      [("id", .number (.posInt 1)), ("jsonrpc", .string "2.0"), ("result", .bool true)]),
    .finish]

theorem sse_in_order_ping :
    ∃ s, run (fun _ => "") start pinged = some s ∧
      (∃ m, s.traffic.log = [.sent ⟨0, 1⟩, .answered ⟨0, 1⟩ m, .ended ⟨0, 1⟩ 1 (.ok m)]) ∧
      InOrder s.traffic.log := by
  have hrun : run (fun _ => "") start pinged =
      some ((run (fun _ => "") start pinged).getD start) := rfl
  refine ⟨_, hrun, ?_, sse_in_order hrun⟩
  exact ⟨.response ⟨"2.0", some 1, some (.bool true), none⟩, rfl⟩

/-- The call waits on a channel the actor holds, and no answer can come. -/
structure Stranded (s : State) (c : Call) : Prop where
  streaming : s.streaming = false
  connected : s.postEndpoint ≠ none
  holder : s.traffic.holder = some c
  mailbox : s.traffic.mailbox = none
  sender : c ∈ s.traffic.senders
  unique : ∀ c' ∈ s.traffic.senders, c'.id = c.id → c' = c

theorem Stranded.no_finish {c : Call} (h : Stranded s c) : step rejects s .finish = none := by
  simp [step, Traffic.received, h.holder, h.mailbox, h.sender]

theorem Stranded.forward {c : Call} (h : Stranded s c) (hinv : s.traffic.Inv)
    {tm : TransportMessage} {rest : List TransportMessage} (hqueue : s.traffic.queue = tm :: rest) :
    Stranded (s.forward tm rest) c := by
  obtain ⟨hsubset, hkept⟩ := hinv.forward_senders hqueue
  obtain ⟨url, hurl⟩ := Option.ne_none_iff_exists'.mp h.connected
  have hforward : s.forward tm rest = { s with traffic := s.traffic.forward tm rest } := by
    simp only [State.forward, hurl]
  rw [hforward]
  constructor
  · exact h.streaming
  · exact h.connected
  · exact (s.traffic.forward_holder tm rest).trans h.holder
  · exact (s.traffic.forward_mailbox tm rest).trans h.mailbox
  · exact hkept c h.sender h.unique
  · exact fun c' hc' => h.unique c' (hsubset hc')

/-- Nothing but to give it up ends a stranded call. -/
theorem Stranded.step {c : Call} (h : Stranded s c) (hinv : s.traffic.Inv)
    (haction : action ≠ .giveUp) (hstep : step rejects s action = some s') : Stranded s' c := by
  have hholder := h.holder
  have hended := h.streaming
  cases action with
  | request method params => simp [Sse.step, hholder] at hstep
  | notify method params => simp [Sse.step, hholder] at hstep
  | finish =>
      rw [h.no_finish] at hstep
      cases hstep
  | giveUp => exact absurd rfl haction
  | forward =>
      simp only [Sse.step] at hstep
      split at hstep
      · rename_i tm rest hqueue
        cases hstep
        exact h.forward hinv hqueue
      · cases hstep
  | discover postUrl => simp [Sse.step, hended] at hstep
  | receive data => simp [Sse.step, hended] at hstep
  | endOfStream => simp [Sse.step, hended] at hstep
  | panic => simp [Sse.step, hended] at hstep

theorem Stranded.run {c : Call} (h : Stranded s c) (hinv : s.traffic.Inv)
    (hactions : .giveUp ∉ actions) (hrun : run rejects s actions = some s') : Stranded s' c := by
  have hkept : ∀ s s', ∀ a ∈ actions, (s.traffic.Inv ∧ Stranded s c) →
      Sse.step rejects s a = some s' → s'.traffic.Inv ∧ Stranded s' c := by
    rintro s s' a ha ⟨hinv, hstranded⟩ hstep
    have haction : a ≠ .giveUp := fun hgiveUp => hactions (hgiveUp ▸ ha)
    exact ⟨step_inv hinv hstep, hstranded.step hinv haction hstep⟩
  exact (foldlM_keeps hkept ⟨hinv, h⟩ hrun).2

/-- A request made after the stream has ended keeps the lock of the service until
it is given up, whatever else happens: no continuation answers it, and no other call
gets its turn. The endpoint is known and the task that sends is still there, or else
the request is refused at once, and fewer than 2^64 ids were drawn, so that no call
shares one with another. -/
theorem request_waits (hrun : run rejects start actions = some s) (hended : s.streaming = false)
    (hconnected : s.postEndpoint ≠ none) (haccepting : s.traffic.accepting = true)
    (htickets : s.traffic.tickets + 1 < 18446744073709551616) {method : String} {params : Value}
    {rest : List Action} (hrest : .giveUp ∉ rest)
    (hafter : run rejects s (.request method params :: rest) = some s') :
    s'.traffic.holder = some { ticket := s.traffic.tickets, id := s.traffic.nextId } ∧
      step rejects s' .finish = none := by
  obtain ⟨mid, hrequest, hlater⟩ := Option.bind_eq_some_iff.mp hafter
  have hinv := step_inv (run_inv hrun) hrequest
  obtain ⟨_, ⟨⟩⟩ := Option.ite_none_right_eq_some.mp hrequest
  let c : Call := { ticket := s.traffic.tickets, id := s.traffic.nextId }
  have hsender : c ∈ (s.traffic.request method params).senders := by
    simp [Traffic.request, Traffic.enqueue, haccepting, Traffic.senders, c]
  have hcounted : (s.traffic.request method params).tickets = s.traffic.tickets + 1 := by
    simp [Traffic.request, Traffic.enqueue, haccepting]
  have hstranded : Stranded { s with traffic := s.traffic.request method params } c := by
    constructor
    · exact hended
    · exact hconnected
    · simp [Traffic.request, Traffic.enqueue, haccepting, c]
    · simp [Traffic.request, Traffic.enqueue, haccepting]
    · exact hsender
    · exact fun c' hc' hid => hinv.eq_of_id (by rw [hcounted]; exact htickets) hsender hc' hid
  have hlast := hstranded.run hinv hrest hlater
  exact ⟨hlast.holder, hlast.no_finish⟩

theorem request_waits_forwarded :
    let s : State := { start with streaming := false, postEndpoint := some "http://localhost/post" }
    ∃ s', run (fun _ => "") s [.request "ping" .null, .forward] = some s' ∧
      step (fun _ => "") s' .finish = none := by
  intro s
  have hrun : run (fun _ => "") start [.discover "http://localhost/post", .endOfStream] =
      some s := rfl
  have hruns : (run (fun _ => "") s [.request "ping" .null, .forward]).isSome := rfl
  obtain ⟨s', hafter⟩ := Option.isSome_iff_exists.mp hruns
  exact ⟨s', hafter, (request_waits hrun rfl nofun rfl (by decide) (by simp) hafter).2⟩

end IdxWorkspace.Mcp.Sse
