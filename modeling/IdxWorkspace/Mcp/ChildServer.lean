import IdxWorkspace.Mcp.Counter
import IdxWorkspace.Mcp.Link
import IdxWorkspace.Mcp.Stdio

/-!
A server as the child process of a client: the actor of `StdioTransport` at one
end of two pipes and `Server::run` at the other. A message is lost if the actor
stops while it writes it, and the server may tear any line it reads. The client
reads on through an interruption, so it gets every line whole.
-/

namespace IdxWorkspace.Mcp.ChildServer

open Library Library.Sequential Link

inductive Act where
  /-- Something other than reading. -/
  | act (a : Stdio.Action)
  /-- The actor stops in the middle of writing a message, whose line does not arrive. -/
  | lose (failedWrite : Bool)

/-- What an action asks for. -/
def asks (s : Stdio.State) : Stdio.Action → List JsonRpcMessage
  | .request method params => [.request (newRequest s.traffic.nextId method params)]
  | .notify method params => [.notification ⟨"2.0", method, some params⟩]
  | _ => []

/-- What an action writes. -/
def writes (s : Stdio.State) : Stdio.Action → List JsonRpcMessage
  | .forward => (s.traffic.queue.head?.map TransportMessage.message).toList
  | _ => []

def reads : Stdio.Action → Bool
  | .receive _ => true
  | _ => false

variable {rejects : Value → String}

/-- What an action of the client does, other than reading. -/
theorem client_moved {s s' : Stdio.State} (h : s.traffic.Inv) {a : Stdio.Action}
    (ha : reads a = false) (hstep : Stdio.step rejects s a = some s') :
    Moved s.traffic s'.traffic (asks s a) (writes s a) := by
  cases a with
  | request method params =>
      obtain ⟨_, ⟨⟩⟩ := Option.ite_none_right_eq_some.mp hstep
      exact moved_request h method params
  | notify method params =>
      obtain ⟨_, ⟨⟩⟩ := Option.ite_none_right_eq_some.mp hstep
      exact moved_notify s.traffic method params
  | finish =>
      obtain ⟨⟨call, r⟩, _, rfl⟩ := Option.map_eq_some_iff.mp hstep
      exact moved_finish s.traffic call _
  | giveUp =>
      obtain ⟨call, _, rfl⟩ := Option.map_eq_some_iff.mp hstep
      exact moved_giveUp s.traffic call
  | forward =>
      simp only [Stdio.step] at hstep
      split at hstep
      · rename_i tm rest _ hqueue
        cases hstep
        have hwrites : writes s .forward = [tm.message] := by
          simp [writes, hqueue]
        rw [hwrites]
        exact moved_forward h hqueue
      · cases hstep
  | receive line => cases ha
  | stop failedWrite =>
      obtain ⟨_, ⟨⟩⟩ := Option.ite_none_right_eq_some.mp hstep
      cases failedWrite with
      | true => exact Moved.of_log (List.nil_sublist _) rfl rfl
      | false => exact Moved.of_log (List.Sublist.refl _) rfl rfl
  | report stderr =>
      obtain ⟨_, ⟨⟩⟩ := Option.ite_none_right_eq_some.mp hstep
      exact Moved.of_log (List.Sublist.refl _) rfl rfl
  | cleanUp =>
      obtain ⟨_, ⟨⟩⟩ := Option.ite_none_right_eq_some.mp hstep
      exact Moved.of_log (List.nil_sublist _) rfl rfl

variable (rejects)

def acts (s : Stdio.State) : Act → Option Stdio.State
  | .act a => if reads a then none else Stdio.step rejects s a
  | .lose failedWrite => do
      let taken ← Stdio.step rejects s .forward
      Stdio.step rejects taken (.stop failedWrite)

/-- `StdioTransport` at its end of the pipes -/
def transport : Link.Transport rejects Stdio.State Act where
  traffic := Stdio.State.traffic
  start := Stdio.start
  act := acts rejects
  receive s line := Stdio.step rejects s (.receive line)
  asks s
    | .act a => asks s a
    | .lose _ => []
  writes s
    | .act a => writes s a
    | .lose _ => []
  started := rfl
  acts := by
    intro s s' a hinv hact
    cases a with
    | act a =>
        simp only [acts] at hact
        split at hact
        · cases hact
        · rename_i hreading
          exact ⟨Stdio.step_inv hinv hact, [],
            client_moved hinv (Bool.eq_false_iff.mpr hreading) hact⟩
    | lose failedWrite =>
        obtain ⟨taken, htaken, hstop⟩ := Option.bind_eq_some_iff.mp hact
        have hinv' := Stdio.step_inv hinv htaken
        refine ⟨Stdio.step_inv hinv' hstop, writes s .forward, ?_⟩
        rw [List.append_nil]
        have hmoved : Moved s.traffic taken.traffic [] (writes s .forward) :=
          client_moved hinv rfl htaken
        obtain ⟨_, ⟨⟩⟩ := Option.ite_none_right_eq_some.mp hstop
        cases failedWrite with
        | true => exact hmoved.less (List.nil_sublist _) rfl rfl
        | false => exact hmoved.less (List.Sublist.refl _) rfl rfl
  receives := by
    intro s s' line hreceive
    obtain ⟨_, hreading⟩ := Option.ite_none_right_eq_some.mp hreceive
    split at hreading
    · rename_i m hdecode
      cases hreading
      exact Or.inr ⟨m, hdecode, rfl⟩
    · cases hreading
      exact Or.inl rfl

@[simp] theorem transport_act (s : Stdio.State) (a : Stdio.Action) :
    (transport rejects).act s (.act a) = if reads a then none else Stdio.step rejects s a := rfl

@[simp] theorem transport_receive (s : Stdio.State) (line : Value) :
    (transport rejects).receive s line = Stdio.step rejects s (.receive line) := rfl

@[simp] theorem transport_writes (s : Stdio.State) (a : Stdio.Action) :
    (transport rejects).writes s (.act a) = writes s a := rfl

variable {rejects} {σ : Type} {router : Router σ} {service : σ} {c : State Stdio.State σ}

/-- The server performs exchanges, in the order the messages were asked for, and
none twice; what a call returns is the reply of the exchange of its own request. Lines
may be torn on the way, calls may be given up and the actor may stop at any time, so
that some of the messages asked for have no exchange. Fewer than 2^64 ids were drawn,
so that no two calls share one. -/
theorem calls_exchanged {actions : List (Action Act)}
    (hruns : runs (transport rejects) router (start (transport rejects) service) actions = some c)
    (htickets : c.client.traffic.tickets < 18446744073709551616) :
    ∃ history : List (JsonRpcMessage × JsonRpcMessage),
      perform (exchange rejects router) service (history.map Prod.fst) =
        (history.map fun h => .ok h.2, c.service) ∧
      (history.map Prod.fst).Sublist c.asked ∧
      ∀ call expected m, .ended call expected (.ok m) ∈ c.client.traffic.log →
        ∃ req, requestOf c.asked call = some req ∧ (req, m) ∈ history :=
  exchanged hruns htickets

theorem calls_exchanged_abandoned :
    let router := Counter.counterRouter "2025-01-01T00:00:00Z"
    let params : Value := .object [("arguments", .object []), ("name", .string "increment")]
    let actions : List (Action Act) :=
      [.client (.act (.request "tools/call" params)), .client (.act .forward),
        .client (.act .giveUp), .client (.act (.request "tools/call" params)),
        .client (.act .forward), .serve, .serve, .read, .read, .client (.act .finish)]
    ∃ c, runs (transport fun _ => "") router (start (transport fun _ => "") 0) actions = some c ∧
      ∃ asked : List JsonRpcMessage, asked.Sublist c.asked ∧
        (perform (exchange (fun _ => "") router) 0 asked).2 = c.service := by
  intro router params actions
  have hcount : (runs (transport fun _ => "") router (start (transport fun _ => "") 0) actions).map
      (fun c => c.client.traffic.tickets) = some 2 := by
    decide +kernel
  obtain ⟨c, hruns, htickets⟩ := Option.map_eq_some_iff.mp hcount
  obtain ⟨history, hperformed, hasked, _⟩ := calls_exchanged hruns (by rw [htickets]; decide)
  exact ⟨c, hruns, history.map Prod.fst, hasked, by rw [hperformed]⟩

end IdxWorkspace.Mcp.ChildServer
