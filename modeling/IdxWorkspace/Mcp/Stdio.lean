import IdxWorkspace.Mcp.Transport

/-!
`StdioTransport`: the actor writes to a child process and reads its lines until
one side fails or the process ends. It then reports what the process left on
`stderr`, to whichever call looks first, and drops every channel it holds.
-/

namespace IdxWorkspace.Mcp.Stdio

open Library Library.History

/-- How far `StdioActor::run` has come. -/
inductive Phase where
  | running
  | stopped
  | reported
  | over
  deriving DecidableEq

structure State where
  traffic : Traffic
  phase : Phase
  /-- The error channel of the actor. -/
  failure : Option String

def start : State := { traffic := Traffic.start, phase := .running, failure := none }

inductive Action where
  | request (method : String) (params : Value)
  /-- A notification has got its place in the queue. -/
  | notify (method : String) (params : Value)
  /-- The holder's call returns. -/
  | finish
  | giveUp
  /-- The actor takes the next message and writes it. -/
  | forward
  /-- The process has written a line. -/
  | receive (line : Value)
  /-- A write has failed, or the other handler or the process has ended. -/
  | stop (failedWrite : Bool)
  /-- What could be read of `stderr` is reported. -/
  | report (stderr : Option String)
  | cleanUp

/-- The end of `send`, with `check_for_errors`: an error of the process comes first. -/
def State.finish (s : State) (c : Call) (r : Except ServiceError JsonRpcMessage) : State :=
  let outcome := match s.failure with
    | some e => .error (.stdioProcessError e)
    | none => r
  { s with traffic := s.traffic.finish c outcome, failure := none }

/-- Only the handler that writes drops its channels when it ends. -/
def State.stop (s : State) (failedWrite : Bool) : State :=
  { s with
    traffic := if failedWrite then s.traffic.clear.close else s.traffic
    phase := .stopped }

def State.report (s : State) (stderr : Option String) : State :=
  let describe (text : String) := if text = "" then "Process ended unexpectedly" else text
  { s with phase := .reported, failure := stderr.map describe }

def State.cleanUp (s : State) : State :=
  { s with traffic := s.traffic.clear.close, phase := .over }

/-- What can happen next. -/
def step (rejects : Value → String) (s : State) : Action → Option State
  | .request method params =>
      if s.traffic.holder.isNone then some { s with traffic := s.traffic.request method params }
      else none
  | .notify method params =>
      if s.traffic.holder.isNone ∧ s.traffic.queue.length < Traffic.places then
        some { s with traffic := s.traffic.notify method params, failure := none }
      else none
  | .finish => s.traffic.received.map fun (c, r) => s.finish c r
  | .giveUp => s.traffic.holder.map fun c => { s with traffic := s.traffic.giveUp c }
  | .forward =>
      match s.phase, s.traffic.queue with
      | .running, tm :: rest => some { s with traffic := s.traffic.forward tm rest }
      | _, _ => none
  | .receive line =>
      if s.phase = .running then
        match JsonRpcMessage.decode rejects line with
        | .ok m => some { s with traffic := s.traffic.incoming m }
        | .error _ => some s
      else none
  | .stop failedWrite => if s.phase = .running then some (s.stop failedWrite) else none
  | .report stderr => if s.phase = .stopped then some (s.report stderr) else none
  | .cleanUp => if s.phase = .reported then some s.cleanUp else none

def run (rejects : Value → String) (s : State) (actions : List Action) : Option State :=
  actions.foldlM (step rejects) s

variable {rejects : Value → String} {s s' : State} {action : Action} {actions : List Action}

theorem finish_inv (h : s.traffic.Inv) {c : Call} {r : Except ServiceError JsonRpcMessage}
    (hreceived : s.traffic.received = some (c, r)) : (s.finish c r).traffic.Inv := by
  obtain ⟨hholder, htold⟩ := h.received hreceived
  unfold State.finish
  cases s.failure with
  | some e => exact h.finish hholder trivial
  | none => exact h.finish hholder htold

theorem step_inv (h : s.traffic.Inv) (hstep : step rejects s action = some s') :
    s'.traffic.Inv := by
  cases action with
  | request method params =>
      obtain ⟨_, ⟨⟩⟩ := Option.ite_none_right_eq_some.mp hstep
      exact h.request method params
  | notify method params =>
      obtain ⟨_, ⟨⟩⟩ := Option.ite_none_right_eq_some.mp hstep
      exact h.notify method params
  | finish =>
      obtain ⟨⟨c, r⟩, hreceived, rfl⟩ := Option.map_eq_some_iff.mp hstep
      exact finish_inv h hreceived
  | giveUp =>
      obtain ⟨c, hholder, rfl⟩ := Option.map_eq_some_iff.mp hstep
      exact h.giveUp hholder
  | forward =>
      simp only [step] at hstep
      split at hstep
      · rename_i tm rest _ hqueue
        cases hstep
        exact h.forward hqueue
      · cases hstep
  | receive line =>
      obtain ⟨_, hreceive⟩ := Option.ite_none_right_eq_some.mp hstep
      split at hreceive
      · rename_i m hdecode
        cases hreceive
        exact h.incoming (decode_faithful rejects hdecode)
      · cases hreceive
        exact h
  | stop failedWrite =>
      obtain ⟨_, ⟨⟩⟩ := Option.ite_none_right_eq_some.mp hstep
      cases failedWrite with
      | true => exact h.clear.close
      | false => exact h
  | report stderr =>
      obtain ⟨_, ⟨⟩⟩ := Option.ite_none_right_eq_some.mp hstep
      exact h
  | cleanUp =>
      obtain ⟨_, ⟨⟩⟩ := Option.ite_none_right_eq_some.mp hstep
      exact h.clear.close

/-- Whatever the process writes, however the tasks and the actor take turns and whenever
the actor stops, the calls go in order: each one is taken once at most, answered once at
most, after its request and under its own id, and over once at most, and a call that
returns a message returns its answer. -/
theorem stdio_in_order (hrun : run rejects start actions = some s) : InOrder s.traffic.log := by
  have h : s.traffic.Inv :=
    foldlM_keeps (fun _ _ _ _ h hstep => step_inv h hstep) Traffic.inv_start hrun
  exact inOrder_of_allowed h.orderly

theorem stdio_in_order_ping :
    let reply : Value := .object
      [("id", .number (.posInt 1)), ("jsonrpc", .string "2.0"), ("result", .bool true)]
    ∃ s, run (fun _ => "") start
        [.request "ping" .null, .forward, .receive reply, .finish] = some s ∧
      InOrder s.traffic.log := by
  intro reply
  have hruns : (run (fun _ => "") start
      [.request "ping" .null, .forward, .receive reply, .finish]).isSome := rfl
  obtain ⟨s, hrun⟩ := Option.isSome_iff_exists.mp hruns
  exact ⟨s, hrun, stdio_in_order hrun⟩

/-- An actor that runs has run before. -/
theorem running_before (hstep : step rejects s action = some s') (hrunning : s'.phase = .running) :
    s.phase = .running := by
  cases action with
  | request method params | notify method params =>
      obtain ⟨_, ⟨⟩⟩ := Option.ite_none_right_eq_some.mp hstep
      exact hrunning
  | finish | giveUp =>
      obtain ⟨_, _, rfl⟩ := Option.map_eq_some_iff.mp hstep
      exact hrunning
  | forward =>
      simp only [step] at hstep
      split at hstep
      · assumption
      · cases hstep
  | receive line => exact (Option.ite_none_right_eq_some.mp hstep).1
  | stop failedWrite | report stderr | cleanUp =>
      obtain ⟨_, ⟨⟩⟩ := Option.ite_none_right_eq_some.mp hstep
      cases hrunning

/-- Once the actor is over it holds no channel, and takes no message. -/
def Closed (s : State) : Prop :=
  s.phase = .over → s.traffic.queue = [] ∧ s.traffic.pending = [] ∧ s.traffic.accepting = false

theorem Closed.enqueue (h : Closed s) {t : Traffic} (htraffic : t.queue = s.traffic.queue ∧
      t.pending = s.traffic.pending ∧ t.accepting = s.traffic.accepting)
    (tm : TransportMessage) (failure : Option String) :
    Closed { s with traffic := t.enqueue tm, failure := failure } := by
  obtain ⟨hqueue, hpending, haccepting⟩ := htraffic
  intro hover
  obtain ⟨hnone, hfiled, hclosed⟩ := h hover
  simp [Traffic.enqueue, hqueue, hpending, haccepting, hnone, hfiled, hclosed]

theorem step_closed (h : Closed s) (hstep : step rejects s action = some s') : Closed s' := by
  cases action with
  | request method params =>
      obtain ⟨_, ⟨⟩⟩ := Option.ite_none_right_eq_some.mp hstep
      apply h.enqueue
      exact ⟨rfl, rfl, rfl⟩
  | notify method params =>
      obtain ⟨_, ⟨⟩⟩ := Option.ite_none_right_eq_some.mp hstep
      apply h.enqueue
      exact ⟨rfl, rfl, rfl⟩
  | finish =>
      obtain ⟨_, _, rfl⟩ := Option.map_eq_some_iff.mp hstep
      exact h
  | giveUp =>
      obtain ⟨_, _, rfl⟩ := Option.map_eq_some_iff.mp hstep
      intro hover
      obtain ⟨hnone, hrest⟩ := h hover
      refine ⟨?_, hrest⟩
      simp [Traffic.giveUp, hnone]
  | forward =>
      simp only [step] at hstep
      split at hstep
      · rename_i hrunning _
        cases hstep
        intro hover
        cases hrunning.symm.trans hover
      · cases hstep
  | receive line =>
      obtain ⟨hrunning, hreceive⟩ := Option.ite_none_right_eq_some.mp hstep
      split at hreceive
      · cases hreceive
        intro hover
        cases hrunning.symm.trans hover
      · cases hreceive
        exact h
  | stop failedWrite =>
      obtain ⟨_, ⟨⟩⟩ := Option.ite_none_right_eq_some.mp hstep
      rintro ⟨⟩
  | report stderr =>
      obtain ⟨_, ⟨⟩⟩ := Option.ite_none_right_eq_some.mp hstep
      rintro ⟨⟩
  | cleanUp =>
      obtain ⟨_, ⟨⟩⟩ := Option.ite_none_right_eq_some.mp hstep
      exact fun _ => ⟨rfl, rfl, rfl⟩

/-- When the actor is over, no call is left waiting: its clean-up has let go of every
channel that was queued or filed, so that whoever holds the lock of the service
receives a message, an error or the end of its channel. This holds in every run,
whatever the process wrote and whenever it ended. -/
theorem finish_of_over (hrun : run rejects start actions = some s) (hover : s.phase = .over)
    {c : Call} (hholder : s.traffic.holder = some c) : (step rejects s .finish).isSome := by
  have hclosed : Closed s :=
    foldlM_keeps (fun _ _ _ _ h hstep => step_closed h hstep) (by rintro ⟨⟩) hrun
  obtain ⟨hqueue, hpending, _⟩ := hclosed hover
  have hsenders : s.traffic.senders = [] := by
    rw [Traffic.senders, hqueue, hpending]
    rfl
  cases hmailbox : s.traffic.mailbox with
  | some m => simp [step, Traffic.received, hholder, hmailbox]
  | none => simp [step, Traffic.received, hholder, hmailbox, hsenders]

theorem finish_of_over_unread :
    let actions : List Action :=
      [.request "ping" .null, .stop false, .report (some "killed"), .cleanUp]
    ∃ s, run (fun _ => "") start actions = some s ∧ (step (fun _ => "") s .finish).isSome := by
  intro actions
  have hrun : run (fun _ => "") start actions =
      some ((run (fun _ => "") start actions).getD start) := rfl
  have hholder : ((run (fun _ => "") start actions).getD start).traffic.holder =
      some { ticket := 0, id := 1 } := rfl
  exact ⟨_, hrun, finish_of_over hrun rfl hholder⟩

end IdxWorkspace.Mcp.Stdio
