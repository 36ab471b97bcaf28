import IdxWorkspace.Mcp.Counter
import IdxWorkspace.Mcp.Link
import IdxWorkspace.Mcp.Sse

/-!
A server behind a web server: the actor of `SseTransport` posts its messages to
the session it opened, and `Server::run` answers on the event stream. A POST
arrives whole or not at all, and the actor does not look how it ended. The server
reads what was posted from a pipe, and may tear a line of it as any other.
-/

namespace IdxWorkspace.Mcp.EventServer

open Library Library.Sequential Link

inductive Act where
  /-- Something other than reading. -/
  | act (a : Sse.Action)
  /-- The actor takes a message whose POST does not arrive. -/
  | lose

/-- What an action asks for. -/
def asks (s : Sse.State) : Sse.Action → List JsonRpcMessage
  | .request method params => [.request (newRequest s.traffic.nextId method params)]
  | .notify method params => [.notification ⟨"2.0", method, some params⟩]
  | _ => []

/-- What an action posts. -/
def posts (s : Sse.State) : Sse.Action → List JsonRpcMessage
  | .forward =>
      if s.postEndpoint = none then []
      else (s.traffic.queue.head?.map TransportMessage.message).toList
  | _ => []

def reads : Sse.Action → Bool
  | .receive _ => true
  | _ => false

variable {rejects : Value → String}

theorem forward_moved {s : Sse.State} (h : s.traffic.Inv) {tm : TransportMessage}
    {rest : List TransportMessage} (hqueue : s.traffic.queue = tm :: rest) :
    Moved s.traffic (s.forward tm rest).traffic [] (posts s .forward) := by
  have hrest : rest.Sublist s.traffic.queue := by
    rw [hqueue]
    exact List.sublist_cons_self tm rest
  unfold Sse.State.forward
  split
  · rename_i url _ hurl
    have hposts : posts s .forward = [tm.message] := by
      simp [posts, hurl, hqueue]
    rw [hposts]
    exact moved_forward h hqueue
  · rename_i call hurl _
    have hposts : posts s .forward = [] := if_pos hurl
    rw [hposts]
    exact Moved.of_event hrest rfl rfl nofun nofun
  · rename_i hurl _
    have hposts : posts s .forward = [] := if_pos hurl
    rw [hposts]
    exact Moved.of_log hrest rfl rfl

/-- What an action of the client does, other than reading. -/
theorem client_moved {s s' : Sse.State} (h : s.traffic.Inv) {a : Sse.Action}
    (ha : reads a = false) (hstep : Sse.step rejects s a = some s') :
    Moved s.traffic s'.traffic (asks s a) (posts s a) := by
  cases a with
  | request method params =>
      obtain ⟨_, ⟨⟩⟩ := Option.ite_none_right_eq_some.mp hstep
      exact moved_request h method params
  | notify method params =>
      obtain ⟨_, ⟨⟩⟩ := Option.ite_none_right_eq_some.mp hstep
      exact moved_notify s.traffic method params
  | finish =>
      obtain ⟨⟨call, r⟩, _, rfl⟩ := Option.map_eq_some_iff.mp hstep
      exact moved_finish s.traffic call r
  | giveUp =>
      obtain ⟨call, _, rfl⟩ := Option.map_eq_some_iff.mp hstep
      exact moved_giveUp s.traffic call
  | forward =>
      simp only [Sse.step] at hstep
      split at hstep
      · rename_i tm rest hqueue
        cases hstep
        exact forward_moved h hqueue
      · cases hstep
  | discover postUrl =>
      obtain ⟨_, ⟨⟩⟩ := Option.ite_none_right_eq_some.mp hstep
      exact Moved.of_log (List.Sublist.refl _) rfl rfl
  | receive data => cases ha
  | endOfStream =>
      obtain ⟨_, ⟨⟩⟩ := Option.ite_none_right_eq_some.mp hstep
      exact Moved.of_log (List.Sublist.refl _) rfl rfl
  | panic =>
      obtain ⟨_, ⟨⟩⟩ := Option.ite_none_right_eq_some.mp hstep
      exact Moved.of_log (List.nil_sublist _) rfl rfl

variable (rejects)

def acts (s : Sse.State) : Act → Option Sse.State
  | .act a => if reads a then none else Sse.step rejects s a
  | .lose => Sse.step rejects s .forward

/-- `SseTransport` and its session -/
def transport : Link.Transport rejects Sse.State Act where
  traffic := Sse.State.traffic
  start := Sse.start
  act := acts rejects
  receive s data := Sse.step rejects s (.receive data)
  asks s
    | .act a => asks s a
    | .lose => []
  writes s
    | .act a => posts s a
    | .lose => []
  started := rfl
  acts := by
    intro s s' a hinv hact
    cases a with
    | act a =>
        simp only [acts] at hact
        split at hact
        · cases hact
        · rename_i hreading
          exact ⟨Sse.step_inv hinv hact, [],
            client_moved hinv (Bool.eq_false_iff.mpr hreading) hact⟩
    | lose =>
        change Sse.step rejects s .forward = some s' at hact
        refine ⟨Sse.step_inv hinv hact, posts s .forward, ?_⟩
        rw [List.append_nil]
        exact client_moved hinv rfl hact
  receives := by
    intro s s' data hreceive
    obtain ⟨_, ⟨⟩⟩ := Option.ite_none_right_eq_some.mp hreceive
    unfold Sse.State.receive
    split
    · rename_i m _ hdecode
      exact Or.inr ⟨m, hdecode, rfl⟩
    · exact Or.inl rfl

variable {rejects} {σ : Type} {router : Router σ} {service : σ} {c : State Sse.State σ}

/-- The server performs exchanges with messages that were posted, in the order they
were asked for; what a call returns is the reply of the exchange of its own request.
A post or a reply may be lost at any time, and then its call returns no message. Fewer
than 2^64 ids were drawn, so that no two calls share one. -/
theorem posts_exchanged {actions : List (Action Act)}
    (hruns : runs (transport rejects) router (start (transport rejects) service) actions = some c)
    (htickets : c.client.traffic.tickets < 18446744073709551616) :
    ∃ history : List (JsonRpcMessage × JsonRpcMessage),
      perform (exchange rejects router) service (history.map Prod.fst) =
        (history.map fun h => .ok h.2, c.service) ∧
      (history.map Prod.fst).Sublist c.asked ∧
      ∀ call expected m, .ended call expected (.ok m) ∈ c.client.traffic.log →
        ∃ req, requestOf c.asked call = some req ∧ (req, m) ∈ history :=
  exchanged hruns htickets

theorem posts_exchanged_lost :
    let router := Counter.counterRouter "2025-01-01T00:00:00Z"
    let params : Value := .object [("arguments", .object []), ("name", .string "increment")]
    let actions : List (Action Act) :=
      [.client (.act (.discover "http://localhost/post")),
        .client (.act (.request "tools/call" params)), .client .lose, .client (.act .giveUp),
        .client (.act (.request "tools/call" params)), .client (.act .forward), .serve, .read,
        .client (.act .finish)]
    ∃ c, runs (transport fun _ => "") router (start (transport fun _ => "") 0) actions = some c ∧
      ∃ posted : List JsonRpcMessage, posted.Sublist c.asked ∧
        (perform (exchange (fun _ => "") router) 0 posted).2 = c.service := by
  intro router params actions
  have hcount : (runs (transport fun _ => "") router (start (transport fun _ => "") 0) actions).map
      (fun c => c.client.traffic.tickets) = some 2 := by
    decide +kernel
  obtain ⟨c, hruns, htickets⟩ := Option.map_eq_some_iff.mp hcount
  obtain ⟨history, hperformed, hasked, _⟩ := posts_exchanged hruns (by rw [htickets]; decide)
  exact ⟨c, hruns, history.map Prod.fst, hasked, by rw [hperformed]⟩

end IdxWorkspace.Mcp.EventServer
