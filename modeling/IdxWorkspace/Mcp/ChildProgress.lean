import IdxWorkspace.Mcp.ChildServer

/-!
The calls to a child server get somewhere: as long as the actor runs, a call is
in the queue, in one of the two pipes, or has its reply, unless the line of its
request was torn. Whatever the actor and the server do next brings it nearer, and
when they have nothing left to do the call returns, or waits for good if its
request was torn.
-/

namespace IdxWorkspace.Mcp.ChildServer

open Library Library.History Link

variable {σ : Type} {rejects : Value → String} {router : Router σ} {service : σ}
variable {c c' : State Stdio.State σ} {call : Call}

/-- The server was interrupted in the line of the call's request. -/
def Torn (c : State Stdio.State σ) (call : Call) : Prop :=
  ∃ m ∈ c.torn, Traffic.requestId m = some call.id

/-- Where the call is that holds the lock of the service. -/
inductive Located (rejects : Value → String) (c : State Stdio.State σ) (call : Call) : Prop where
  | returned (m : JsonRpcMessage) (hmailbox : c.client.traffic.mailbox = some (.ok m))
  | queued (hmailbox : c.client.traffic.mailbox = none)
      (hqueue : ∃ tm ∈ c.client.traffic.queue, tm.responseTx = some call)
  | asked (hmailbox : c.client.traffic.mailbox = none)
      (hpending : (call.id, call) ∈ c.client.traffic.pending)
      (hstdin : ∃ m ∈ c.outbound, Traffic.requestId m = some call.id)
  | answered (hmailbox : c.client.traffic.mailbox = none)
      (hpending : (call.id, call) ∈ c.client.traffic.pending)
      (hstdout : ∃ line ∈ c.inbound, ∃ reply,
        JsonRpcMessage.decode rejects line = .ok reply ∧ replyId reply = some call.id)
  | torn (hmailbox : c.client.traffic.mailbox = none)
      (hpending : (call.id, call) ∈ c.client.traffic.pending) (htorn : Torn c call)

/-- As long as the actor runs, it takes messages, has nothing to report and knows
where every call is. -/
structure Alive (rejects : Value → String) (c : State Stdio.State σ) : Prop where
  accepting : c.client.traffic.accepting = true
  failure : c.client.failure = none
  located : ∀ call, c.client.traffic.holder = some call → Located rejects c call

/-- As long as the ids have not come round, a call that is filed stays filed when
another one is taken. -/
theorem filed_forward (hinv : c.client.traffic.Inv)
    (htickets : c.client.traffic.tickets < 18446744073709551616) {tm : TransportMessage}
    {rest : List TransportMessage} (hqueue : c.client.traffic.queue = tm :: rest)
    (hpending : (call.id, call) ∈ c.client.traffic.pending) :
    (call.id, call) ∈ (c.client.traffic.forward tm rest).pending := by
  unfold Traffic.forward
  split
  · rename_i other id hother hid
    obtain ⟨hsender, _, huntaken⟩ := hinv.head hqueue hother
    have hkey : some id = some other.id :=
      hid.symm.trans (hinv.addressed tm (by rw [hqueue]; exact List.mem_cons_self) other hother)
    have hfiled : call ∈ c.client.traffic.senders :=
      Traffic.mem_senders.mpr (Or.inr ⟨_, hpending, rfl⟩)
    have hne : call.id ≠ id := by
      intro heq
      have hsame : other = call := hinv.eq_of_id htickets hfiled hsender (by
        rw [heq, Option.some.inj hkey])
      exact huntaken (Or.inl (hsame ▸ (hinv.filed _ hpending).2))
    simp only [Traffic.insert, List.mem_cons, List.mem_filter]
    exact Or.inr ⟨hpending, by simpa using hne⟩
  · exact hpending

/-- A request that is taken gets into the pipe. -/
theorem Located.forward (h : Located rejects c call) (hinv : c.client.traffic.Inv)
    (htickets : c.client.traffic.tickets < 18446744073709551616) {tm : TransportMessage}
    {rest : List TransportMessage} (hqueue : c.client.traffic.queue = tm :: rest)
    (asked : List JsonRpcMessage) :
    Located rejects { c with
      client := { c.client with traffic := c.client.traffic.forward tm rest }
      asked := asked
      outbound := c.outbound ++ [tm.message] } call := by
  have hmailbox := c.client.traffic.forward_mailbox tm rest
  cases h with
  | returned m hm => exact .returned m (hmailbox.trans hm)
  | queued hm htx =>
      obtain ⟨tm', htm', hcall⟩ := htx
      have haddressed := hinv.addressed tm' htm' call hcall
      rw [hqueue] at htm'
      rcases List.mem_cons.mp htm' with rfl | hrest
      · refine .asked (hmailbox.trans hm) ?_
          ⟨tm'.message, List.mem_append_right _ (List.mem_singleton_self _), haddressed⟩
        simp [Traffic.forward, hcall, haddressed, Traffic.insert]
      · refine .queued (hmailbox.trans hm) ⟨tm', ?_, hcall⟩
        change tm' ∈ (c.client.traffic.forward tm rest).queue
        rw [Traffic.forward_queue]
        exact hrest
  | asked hm hpending hstdin =>
      obtain ⟨m, hmem, hid⟩ := hstdin
      exact .asked (hmailbox.trans hm) (filed_forward hinv htickets hqueue hpending)
        ⟨m, List.mem_append_left _ hmem, hid⟩
  | answered hm hpending hstdout =>
      exact .answered (hmailbox.trans hm) (filed_forward hinv htickets hqueue hpending) hstdout
  | torn hm hpending htorn =>
      exact .torn (hmailbox.trans hm) (filed_forward hinv htickets hqueue hpending) htorn

/-- A reply that is read goes to the call it is for, or leaves it where it is. -/
theorem Located.respond (h : Located rejects c call) (hinv : c.client.traffic.Inv)
    (htickets : c.client.traffic.tickets < 18446744073709551616)
    (hholder : c.client.traffic.holder = some call) {line : Value} {rest : List Value}
    (hstdout : c.inbound = line :: rest) {reply : JsonRpcMessage} {id : UInt64}
    (hdecode : JsonRpcMessage.decode rejects line = .ok reply) (hid : replyId reply = some id) :
    Located rejects { c with
      client := { c.client with traffic := c.client.traffic.respond id reply }
      inbound := rest } call := by
  rcases c.client.traffic.respond_mailbox id reply with hsame | hreturned
  · cases h with
    | returned m hm => exact .returned m (hsame.trans hm)
    | queued hm htx =>
        refine .queued (hsame.trans hm) ?_
        change ∃ tm ∈ (c.client.traffic.respond id reply).queue, tm.responseTx = some call
        rw [Traffic.respond_queue]
        exact htx
    | asked hm hmem hstdin =>
        by_cases hcall : call.id = id
        · subst hcall
          exact .returned reply (hinv.respond_own htickets hholder hmem reply)
        · exact .asked (hsame.trans hm) (Traffic.filed_respond _ _ _ hmem hcall) hstdin
    | answered hm hmem hlines =>
        by_cases hcall : call.id = id
        · subst hcall
          exact .returned reply (hinv.respond_own htickets hholder hmem reply)
        · refine .answered (hsame.trans hm) (Traffic.filed_respond _ _ _ hmem hcall) ?_
          obtain ⟨line', hline', reply', hdecode', hid'⟩ := hlines
          rw [hstdout] at hline'
          rcases List.mem_cons.mp hline' with rfl | hrest
          · rw [hdecode] at hdecode'
            cases hdecode'
            rw [hid] at hid'
            exact absurd (Option.some.inj hid').symm hcall
          · exact ⟨line', hrest, reply', hdecode', hid'⟩
    | torn hm hmem htorn =>
        by_cases hcall : call.id = id
        · subst hcall
          exact .returned reply (hinv.respond_own htickets hholder hmem reply)
        · exact .torn (hsame.trans hm) (Traffic.filed_respond _ _ _ hmem hcall) htorn
  · exact .returned reply hreturned

/-- A line for no call leaves every call where it is. -/
theorem Located.skip (h : Located rejects c call) {line : Value} {rest : List Value}
    (hstdout : c.inbound = line :: rest) {m : JsonRpcMessage}
    (hdecode : JsonRpcMessage.decode rejects line = .ok m) (hm : replyId m = none) :
    Located rejects { c with inbound := rest } call := by
  cases h with
  | returned m hmailbox => exact .returned m hmailbox
  | queued hmailbox hqueue => exact .queued hmailbox hqueue
  | asked hmailbox hpending hstdin => exact .asked hmailbox hpending hstdin
  | answered hmailbox hpending hlines =>
      obtain ⟨line', hline', reply, hdecode', hreply⟩ := hlines
      refine .answered hmailbox hpending ⟨line', ?_, reply, hdecode', hreply⟩
      rw [hstdout] at hline'
      rcases List.mem_cons.mp hline' with rfl | hrest
      · rw [hdecode] at hdecode'
        cases hdecode'
        rw [hm] at hreply
        cases hreply
      · exact hrest
  | torn hmailbox hpending htorn => exact .torn hmailbox hpending htorn

/-- What the server takes in comes out answered. -/
theorem Located.serve (h : Located rejects c call) {m : JsonRpcMessage} (hm : Sendable m)
    {rest : List JsonRpcMessage} (hstdin : c.outbound = m :: rest) {s : ServerState σ}
    (hround : Link.round rejects router m c.service = .ok () s) :
    Located rejects { c with
      outbound := rest, service := s.service,
      inbound := c.inbound ++ s.written.map JsonRpcMessage.encode } call := by
  obtain ⟨s', hround', _, hanswer⟩ := hm.round rejects router c.service
  rw [hround] at hround'
  cases hround'
  cases h with
  | returned m' hmailbox => exact .returned m' hmailbox
  | queued hmailbox hqueue => exact .queued hmailbox hqueue
  | asked hmailbox hpending hasked =>
      obtain ⟨m', hmem, hid⟩ := hasked
      rw [hstdin] at hmem
      rcases List.mem_cons.mp hmem with rfl | hrest
      · obtain ⟨line, hline, hreply⟩ := hanswer call.id hid
        exact .answered hmailbox hpending ⟨line, List.mem_append_right _ hline, hreply⟩
      · exact .asked hmailbox hpending ⟨m', hrest, hid⟩
  | answered hmailbox hpending hlines =>
      obtain ⟨line, hline, hreply⟩ := hlines
      exact .answered hmailbox hpending ⟨line, List.mem_append_left _ hline, hreply⟩
  | torn hmailbox hpending htorn => exact .torn hmailbox hpending htorn

/-- In whose line it is interrupted, that call stays behind. -/
theorem Located.tear (h : Located rejects c call) {m : JsonRpcMessage}
    {rest : List JsonRpcMessage} (hstdin : c.outbound = m :: rest) (service : σ)
    (written : List Value) :
    Located rejects { c with
      outbound := rest, service := service, inbound := c.inbound ++ written,
      torn := c.torn ++ [m] } call := by
  cases h with
  | returned m' hmailbox => exact .returned m' hmailbox
  | queued hmailbox hqueue => exact .queued hmailbox hqueue
  | asked hmailbox hpending hasked =>
      obtain ⟨m', hmem, hid⟩ := hasked
      rw [hstdin] at hmem
      rcases List.mem_cons.mp hmem with rfl | hrest
      · exact .torn hmailbox hpending
          ⟨m', List.mem_append_right _ (List.mem_singleton_self _), hid⟩
      · exact .asked hmailbox hpending ⟨m', hrest, hid⟩
  | answered hmailbox hpending hlines =>
      obtain ⟨line, hline, hreply⟩ := hlines
      exact .answered hmailbox hpending ⟨line, List.mem_append_left _ hline, hreply⟩
  | torn hmailbox hpending htorn =>
      obtain ⟨m', hmem, hid⟩ := htorn
      exact .torn hmailbox hpending ⟨m', List.mem_append_left _ hmem, hid⟩

/-- Nobody is waiting. -/
theorem Alive.free (haccepting : c.client.traffic.accepting = true)
    (hfailure : c.client.failure = none) (hholder : c.client.traffic.holder = none) :
    Alive rejects c :=
  ⟨haccepting, hfailure, fun call hcall => by rw [hholder] at hcall; cases hcall⟩

theorem client_alive {a : Stdio.Action} (ha : reads a = false) (hinv : c.client.traffic.Inv)
    (htickets : c.client.traffic.tickets < 18446744073709551616)
    (h : Alive rejects c) {client : Stdio.State}
    (hstep : Stdio.step rejects c.client a = some client) (hrunning : client.phase = .running) :
    Alive rejects { c with
      client := client, asked := c.asked ++ asks c.client a,
      outbound := c.outbound ++ writes c.client a } := by
  cases a with
  | request method params =>
      obtain ⟨_, ⟨⟩⟩ := Option.ite_none_right_eq_some.mp hstep
      constructor
      · simp [Traffic.request, Traffic.enqueue, h.accepting]
      · exact h.failure
      · intro call hcall
        apply Located.queued
        · simp [Traffic.request, Traffic.enqueue, h.accepting]
        · simp only [Traffic.request, Traffic.enqueue, h.accepting, if_true,
            Option.some.injEq] at hcall ⊢
          exact ⟨_, List.mem_append_right _ (List.mem_singleton_self _), congrArg some hcall⟩
  | notify method params =>
      obtain ⟨⟨hfree, _⟩, ⟨⟩⟩ := Option.ite_none_right_eq_some.mp hstep
      apply Alive.free
      · simp [Traffic.notify, Traffic.enqueue, h.accepting]
      · rfl
      · simpa [Traffic.notify, Traffic.enqueue, h.accepting] using hfree
  | finish =>
      obtain ⟨_, _, rfl⟩ := Option.map_eq_some_iff.mp hstep
      exact Alive.free h.accepting rfl rfl
  | giveUp =>
      obtain ⟨_, _, rfl⟩ := Option.map_eq_some_iff.mp hstep
      exact Alive.free h.accepting h.failure rfl
  | forward =>
      simp only [Stdio.step] at hstep
      split at hstep
      · rename_i tm rest _ hqueue
        cases hstep
        have hwrites : writes c.client .forward = [tm.message] := by
          simp [writes, hqueue]
        constructor
        · exact (c.client.traffic.forward_accepting tm rest).trans h.accepting
        · exact h.failure
        · intro call hcall
          rw [hwrites]
          have hholder : c.client.traffic.holder = some call :=
            (c.client.traffic.forward_holder tm rest).symm.trans hcall
          exact (h.located call hholder).forward hinv htickets hqueue _
      · cases hstep
  | receive line => cases ha
  | stop failedWrite =>
      obtain ⟨_, ⟨⟩⟩ := Option.ite_none_right_eq_some.mp hstep
      cases hrunning
  | report stderr =>
      obtain ⟨_, ⟨⟩⟩ := Option.ite_none_right_eq_some.mp hstep
      cases hrunning
  | cleanUp =>
      obtain ⟨_, ⟨⟩⟩ := Option.ite_none_right_eq_some.mp hstep
      cases hrunning

/-- What an action of the client comes down to. -/
theorem acted {s s' : Stdio.State} {a : Act} (hact : acts rejects s a = some s') :
    (∃ b, a = .act b ∧ reads b = false ∧ Stdio.step rejects s b = some s') ∨
      ∃ failedWrite, a = .lose failedWrite ∧ s'.phase = .stopped := by
  cases a with
  | act b =>
      simp only [acts] at hact
      split at hact
      · cases hact
      · rename_i hreading
        exact Or.inl ⟨b, rfl, Bool.eq_false_iff.mpr hreading, hact⟩
  | lose failedWrite =>
      obtain ⟨taken, _, hstop⟩ := Option.bind_eq_some_iff.mp hact
      obtain ⟨_, ⟨⟩⟩ := Option.ite_none_right_eq_some.mp hstop
      exact Or.inr ⟨failedWrite, rfl, rfl⟩

theorem step_alive {action : Action Act} (hkept : Kept (transport rejects) router service c)
    (htickets : c.client.traffic.tickets < 18446744073709551616)
    (halive : c.client.phase = .running → Alive rejects c)
    (hstep : step (transport rejects) router c action = some c')
    (hrunning : c'.client.phase = .running) :
    Alive rejects c' := by
  obtain ⟨hinv, history, hlinked⟩ := hkept
  cases stepped hstep with
  | client hact =>
      rcases acted hact with ⟨a, rfl, ha, hmoves⟩ | ⟨failedWrite, rfl, hstopped⟩
      · have hbefore := halive (Stdio.running_before hmoves hrunning)
        exact client_alive ha hinv htickets hbefore hmoves hrunning
      · cases hstopped.symm.trans hrunning
  | serve hstdin hround =>
      have hbefore := halive hrunning
      have hsendable := hlinked.outbound_sendable (by rw [hstdin]; exact List.mem_cons_self)
      exact ⟨hbefore.accepting, hbefore.failure, fun call hcall =>
        (hbefore.located call hcall).serve hsendable hstdin hround⟩
  | tear hstdin htakes =>
      have hbefore := halive hrunning
      exact ⟨hbefore.accepting, hbefore.failure, fun call hcall =>
        (hbefore.located call hcall).tear hstdin _ _⟩
  | @read line rest client hstdout hreceive =>
      obtain ⟨hphase, hreading⟩ := Option.ite_none_right_eq_some.mp hreceive
      have hbefore := halive hphase
      cases hlinked.lines line (by simp [hstdout]) with
      | @reply _ reply _ _ _ hdecode hreply =>
          rw [hdecode] at hreading
          cases hreading
          rw [Traffic.incoming_eq _ hreply]
          obtain ⟨_, haccepting, hsame, _⟩ := Traffic.incoming_same c.client.traffic reply
          rw [Traffic.incoming_eq _ hreply] at haccepting hsame
          constructor
          · exact haccepting.trans hbefore.accepting
          · exact hbefore.failure
          · intro call hcall
            have hholder := hsame.symm.trans hcall
            exact (hbefore.located call hholder).respond hinv htickets hholder hstdout hdecode
              hreply
      | stray hdecode hreply =>
          rw [hdecode] at hreading
          cases hreading
          rw [Traffic.incoming_of_stray _ hreply]
          exact ⟨hbefore.accepting, hbefore.failure, fun call hcall =>
            (hbefore.located call hcall).skip hstdout hdecode hreply⟩

/-- No step takes an id back. -/
theorem step_tickets {action : Action Act} (hkept : Kept (transport rejects) router service c)
    (hstep : step (transport rejects) router c action = some c') :
    c.client.traffic.tickets ≤ c'.client.traffic.tickets := by
  obtain ⟨hinv, history, hlinked⟩ := hkept
  cases stepped hstep with
  | client hact =>
      obtain ⟨_, _, hmoved⟩ := (transport rejects).acts hinv hact
      exact hmoved.tickets
  | serve hstdin hround => exact Nat.le_refl _
  | tear hstdin htakes => exact Nat.le_refl _
  | read hstdout hreceive =>
      rcases (transport rejects).receives hreceive with hsame | ⟨m, _, hincoming⟩
      · exact Nat.le_of_eq (congrArg Traffic.tickets hsame.symm)
      · change c.client.traffic.tickets ≤ ((transport rejects).traffic _).tickets
        rw [hincoming, (Traffic.incoming_same _ m).2.2.2]
        exact Nat.le_refl _

/-- As long as the ids have not come round and the actor runs, the calls are alive. -/
def Healthy (rejects : Value → String) (router : Router σ) (service : σ)
    (c : State Stdio.State σ) : Prop :=
  Kept (transport rejects) router service c ∧
    (c.client.traffic.tickets < 18446744073709551616 → c.client.phase = .running →
      Alive rejects c)

theorem runs_alive {actions : List (Action Act)}
    (hruns : runs (transport rejects) router (start (transport rejects) service) actions = some c)
    (htickets : c.client.traffic.tickets < 18446744073709551616)
    (hrunning : c.client.phase = .running) : Alive rejects c := by
  have hhealthy : ∀ s s', ∀ a ∈ actions, Healthy rejects router service s →
      step (transport rejects) router s a = some s' → Healthy rejects router service s' := by
    rintro s s' a _ ⟨hkept, halive⟩ hstep
    refine ⟨step_kept hkept hstep, fun hlater hrunning => ?_⟩
    have hbefore : s.client.traffic.tickets < 18446744073709551616 :=
      Nat.lt_of_le_of_lt (step_tickets hkept hstep) hlater
    exact step_alive hkept hbefore (halive hbefore) hstep hrunning
  have hstart : Alive rejects (start (transport rejects) service) := Alive.free rfl rfl rfl
  exact (foldlM_keeps hhealthy ⟨kept_start service, fun _ _ => hstart⟩ hruns).2 htickets hrunning

/-- What the actor and the server do of themselves. -/
inductive Work : Action Act → Prop where
  | forward : Work (.client (.act .forward))
  | serve : Work .serve
  | tear (e : TransportError) : Work (.tear e)
  | read : Work .read

/-- How much of it there is at most. -/
def load (c : State Stdio.State σ) : Nat :=
  3 * c.client.traffic.queue.length + 2 * c.outbound.length + c.inbound.length

/-- Work makes less of it, and keeps the actor and the call. -/
theorem work_step {action : Action Act} (hwork : Work action)
    (hkept : Kept (transport rejects) router service c)
    (hstep : step (transport rejects) router c action = some c')
    (hrunning : c.client.phase = .running) :
    load c' < load c ∧ c'.client.phase = .running ∧
      c'.client.traffic.holder = c.client.traffic.holder ∧
      c'.client.traffic.tickets = c.client.traffic.tickets := by
  obtain ⟨hinv, history, hlinked⟩ := hkept
  cases stepped hstep with
  | @client a client hact =>
      cases hwork
      change Stdio.step rejects c.client .forward = some client at hact
      have hmoves := hact
      simp only [Stdio.step] at hmoves
      split at hmoves
      · rename_i tm rest hphase hqueue
        cases hmoves
        have hwrites : writes c.client .forward = [tm.message] := by
          simp [writes, hqueue]
        refine ⟨?_, hphase, Traffic.forward_holder _ tm rest, Traffic.forward_tickets _ tm rest⟩
        simp only [load, Traffic.forward_queue, transport_writes, hwrites, hqueue,
          List.length_append, List.length_cons, List.length_nil]
        omega
      · cases hmoves
  | @serve m rest s hstdin hround =>
      have hsendable := hlinked.outbound_sendable (by rw [hstdin]; exact List.mem_cons_self)
      obtain ⟨s', hround', hone, _⟩ := hsendable.round rejects router c.service
      rw [hround] at hround'
      cases hround'
      refine ⟨?_, hrunning, rfl, rfl⟩
      simp only [load, hstdin, List.length_append, List.length_cons, List.length_map]
      omega
  | @tear e m rest s hstdin htakes =>
      rw [takes_error] at htakes
      cases htakes
      refine ⟨?_, hrunning, rfl, rfl⟩
      simp only [load, hstdin, List.length_append, List.length_cons, List.length_map,
        List.length_nil]
      omega
  | @read line rest client hstdout hreceive =>
      obtain ⟨m, hdecode⟩ := (hlinked.lines line (by simp [hstdout])).decoded
      obtain ⟨hphase, hreading⟩ := Option.ite_none_right_eq_some.mp hreceive
      rw [hdecode] at hreading
      cases hreading
      obtain ⟨hqueue, _, hsame⟩ := Traffic.incoming_same c.client.traffic m
      refine ⟨?_, hphase, hsame⟩
      simp only [load, hstdout, hqueue, List.length_cons]
      omega

/-- Where there is no work left, a call has its reply or waits in vain. -/
theorem Located.of_idle (h : Located rejects c call)
    (hkept : Kept (transport rejects) router service c)
    (hrunning : c.client.phase = .running)
    (hidle : ∀ a, Work a → step (transport rejects) router c a = none) :
    (∃ m, c.client.traffic.mailbox = some (.ok m)) ∨
      (c.client.traffic.mailbox = none ∧ (call.id, call) ∈ c.client.traffic.pending ∧
        Torn c call) := by
  obtain ⟨hinv, history, hlinked⟩ := hkept
  cases h with
  | returned m hm => exact Or.inl ⟨m, hm⟩
  | queued hm htx =>
      obtain ⟨tm, htm, _⟩ := htx
      obtain ⟨first, rest, hqueue⟩ := List.exists_cons_of_ne_nil (List.ne_nil_of_mem htm)
      have hworks : (step (transport rejects) router c (.client (.act .forward))).isSome := by
        simp [step, reads, Stdio.step, hrunning, hqueue]
      rw [hidle _ .forward] at hworks
      cases hworks
  | asked hm hpending hstdin =>
      obtain ⟨m, hmem, _⟩ := hstdin
      obtain ⟨first, rest, hsplit⟩ := List.exists_cons_of_ne_nil (List.ne_nil_of_mem hmem)
      have hsendable := hlinked.outbound_sendable (by rw [hsplit]; exact List.mem_cons_self)
      obtain ⟨s, hround, _⟩ := hsendable.round rejects router c.service
      have hworks : (step (transport rejects) router c .serve).isSome := by
        simp only [step, hsplit, hround, Option.isSome_some]
      rw [hidle _ .serve] at hworks
      cases hworks
  | answered hm hpending hstdout =>
      obtain ⟨line, hmem, _⟩ := hstdout
      obtain ⟨first, rest, hsplit⟩ := List.exists_cons_of_ne_nil (List.ne_nil_of_mem hmem)
      obtain ⟨m, hdecode⟩ := (hlinked.lines first (by simp [hsplit])).decoded
      have hworks : (step (transport rejects) router c .read).isSome := by
        simp [step, hsplit, Stdio.step, hrunning, hdecode]
      rw [hidle _ .read] at hworks
      cases hworks
  | torn hm hpending htorn => exact Or.inr ⟨hm, hpending, htorn⟩

/-- A run of work is no longer than there was work, and at its end the actor and
the call are as they were. -/
theorem work_run {work : List (Action Act)} (hwork : ∀ a ∈ work, Work a)
    (hkept : Kept (transport rejects) router service c) (hrunning : c.client.phase = .running)
    (hruns : runs (transport rejects) router c work = some c') :
    work.length + load c' ≤ load c ∧ c'.client.phase = .running ∧
      c'.client.traffic.holder = c.client.traffic.holder ∧
      c'.client.traffic.tickets = c.client.traffic.tickets := by
  induction work generalizing c with
  | nil =>
      cases hruns
      exact ⟨Nat.le_of_eq (Nat.zero_add _), hrunning, rfl, rfl⟩
  | cons a work ih =>
      obtain ⟨mid, hstep, hrest⟩ := Option.bind_eq_some_iff.mp hruns
      obtain ⟨hless, hmid, hholder, htickets⟩ :=
        work_step (hwork a List.mem_cons_self) hkept hstep hrunning
      obtain ⟨hlength, hlast, hsame, hcount⟩ :=
        ih (fun b hb => hwork b (List.mem_cons_of_mem a hb)) (step_kept hkept hstep) hmid hrest
      rw [List.length_cons]
      exact ⟨by omega, hlast, hsame.trans hholder, hcount.trans htickets⟩

/-- The call that holds the lock returns the reply that is in its channel. -/
theorem finish_returns (hinv : c.client.traffic.Inv) (halive : Alive rejects c)
    (hholder : c.client.traffic.holder = some call) {m : JsonRpcMessage}
    (hmailbox : c.client.traffic.mailbox = some (.ok m)) :
    ∃ c', step (transport rejects) router c (.client (.act .finish)) = some c' ∧
      .ended call call.id (.ok m) ∈ c'.client.traffic.log := by
  have hexpected : c.client.traffic.nextId - 1 = call.id := by
    rw [← (hinv.waiting call hholder).1]
    exact UInt64.add_sub_cancel _ _
  have hreceived : c.client.traffic.received = some (call, .ok m) := by
    simp only [Traffic.received, hholder, hmailbox]
  have hfinish : Stdio.step rejects c.client .finish = some (c.client.finish call (.ok m)) := by
    rw [Stdio.step, hreceived]
    rfl
  refine ⟨_, by simp [step, reads, hfinish]; rfl, ?_⟩
  simp [Stdio.State.finish, halive.failure, Traffic.finish, hexpected]

/-- A call that is filed and has no answer goes on waiting. -/
theorem finish_waits (hholder : c.client.traffic.holder = some call)
    (hmailbox : c.client.traffic.mailbox = none)
    (hpending : (call.id, call) ∈ c.client.traffic.pending) :
    step (transport rejects) router c (.client (.act .finish)) = none := by
  have hsender : call ∈ c.client.traffic.senders :=
    Traffic.mem_senders.mpr (Or.inr ⟨_, hpending, rfl⟩)
  have hreceived : c.client.traffic.received = none := by
    simp [Traffic.received, hholder, hmailbox, hsender]
  have hfinish : Stdio.step rejects c.client .finish = none := by
    rw [Stdio.step, hreceived]
    rfl
  simp [step, reads, hfinish]

/-- A call whose answer is in its channel made a request that was not torn. -/
theorem not_torn (hkept : Kept (transport rejects) router service c)
    (htickets : c.client.traffic.tickets < 18446744073709551616)
    (hholder : c.client.traffic.holder = some call) {m : JsonRpcMessage}
    (hmailbox : c.client.traffic.mailbox = some (.ok m)) : ¬ Torn c call := by
  obtain ⟨hinv, history, hlinked⟩ := hkept
  obtain ⟨call', hcall', hanswered⟩ := hinv.delivered _ hmailbox
  obtain rfl : call' = call := Option.some.inj (hcall'.symm.trans hholder)
  obtain ⟨req, hmem, hid⟩ := hlinked.answers call' m hanswered
  rintro ⟨torn, htorn, htornId⟩
  exact hlinked.torn_apart htickets hmem hid htorn htornId

/-- However the actor and the server do their work, and wherever the server is
interrupted in a line, they come to an end of it: there is no more than `load` of it.
Then the call that waits returns with a message if its request was not torn, and can
only go on waiting if it was. This holds as long as the actor runs, whatever has
happened before, and as long as fewer than 2^64 ids were drawn, so that no two calls
share one; a line that was torn is taken not to be a message in the part that is read. -/
theorem call_returns {before work : List (Action Act)}
    (hbefore : runs (transport rejects) router (start (transport rejects) service) before = some c)
    (hrunning : c.client.phase = .running) (hholder : c.client.traffic.holder = some call)
    (htickets : c.client.traffic.tickets < 18446744073709551616)
    (hwork : ∀ a ∈ work, Work a) (hlater : runs (transport rejects) router c work = some c') :
    work.length ≤ load c ∧
      ((∃ a c'', Work a ∧ step (transport rejects) router c' a = some c'') ∨
        (¬ Torn c' call ∧
          ∃ m c'', step (transport rejects) router c' (.client (.act .finish)) = some c'' ∧
            .ended call call.id (.ok m) ∈ c''.client.traffic.log) ∨
        (Torn c' call ∧ step (transport rejects) router c' (.client (.act .finish)) = none)) := by
  obtain ⟨hlength, hstill, hsame, hcount⟩ :=
    work_run hwork (runs_kept hbefore) hrunning hlater
  refine ⟨by omega, ?_⟩
  have hruns : runs (transport rejects) router (start (transport rejects) service)
      (before ++ work) = some c' := by
    rw [runs, List.foldlM_append]
    exact Option.bind_eq_some_iff.mpr ⟨c, hbefore, hlater⟩
  have hkept := runs_kept hruns
  have hlater : c'.client.traffic.tickets < 18446744073709551616 := by
    rw [hcount]
    exact htickets
  have halive := runs_alive hruns hlater hstill
  have hcall : c'.client.traffic.holder = some call := hsame.trans hholder
  by_cases hidle : ∀ a, Work a → step (transport rejects) router c' a = none
  · right
    rcases (halive.located call hcall).of_idle hkept hstill hidle with
      ⟨m, hmailbox⟩ | ⟨hmailbox, hpending, htorn⟩
    · have hwhole := not_torn hkept hlater hcall hmailbox
      exact Or.inl ⟨hwhole, m, finish_returns hkept.1 halive hcall hmailbox⟩
    · exact Or.inr ⟨htorn, finish_waits hcall hmailbox hpending⟩
  · left
    simp only [not_forall] at hidle
    obtain ⟨a, ha, hstep⟩ := hidle
    obtain ⟨c'', hc''⟩ := Option.ne_none_iff_exists'.mp hstep
    exact ⟨a, c'', ha, hc''⟩

/-- Of two requests the first is given up and its line is torn; the second returns. -/
theorem call_returns_served :
    let router := Counter.counterRouter "2025-01-01T00:00:00Z"
    let params : Value := .object [("arguments", .object []), ("name", .string "increment")]
    let before : List (Action Act) :=
      [.client (.act (.request "tools/call" params)), .client (.act .forward),
        .client (.act .giveUp), .client (.act (.request "tools/call" params))]
    let work : List (Action Act) :=
      [.tear (.json "expected value at line 1 column 1"), .client (.act .forward), .serve, .read,
        .read]
    ∃ c c' c'' m,
      runs (transport fun _ => "") router (start (transport fun _ => "") 0) before = some c ∧
      runs (transport fun _ => "") router c work = some c' ∧
      Torn c' { ticket := 0, id := 1 } ∧
      step (transport fun _ => "") router c' (.client (.act .finish)) = some c'' ∧
      .ended { ticket := 1, id := 2 } 2 (.ok m) ∈ c''.client.traffic.log := by
  intro router params before work
  have hstart : (runs (transport fun _ => "") router (start (transport fun _ => "") 0) before).map
      (fun c => (c.client.phase, c.client.traffic.holder, c.client.traffic.tickets)) =
      some (.running, some { ticket := 1, id := 2 }, 2) := by
    decide +kernel
  have hend : ((runs (transport fun _ => "") router (start (transport fun _ => "") 0) before).bind
      fun c => runs (transport fun _ => "") router c work).map
        (fun c' => (c'.torn.filterMap Traffic.requestId, load c')) = some ([1], 0) := by
    decide +kernel
  obtain ⟨c, hbefore, hfacts⟩ := Option.map_eq_some_iff.mp hstart
  simp only [Prod.mk.injEq] at hfacts
  obtain ⟨hrunning, hholder, htickets⟩ := hfacts
  rw [hbefore, Option.bind_some] at hend
  obtain ⟨c', hlater, hfacts⟩ := Option.map_eq_some_iff.mp hend
  simp only [Prod.mk.injEq] at hfacts
  obtain ⟨htorn, hload⟩ := hfacts
  have hwork : ∀ a ∈ work, Work a := by
    simp [work, Work.forward, Work.serve, Work.tear, Work.read]
  have hruns : runs (transport fun _ => "") router (start (transport fun _ => "") 0)
      (before ++ work) = some c' := by
    rw [runs, List.foldlM_append]
    exact Option.bind_eq_some_iff.mpr ⟨c, hbefore, hlater⟩
  have hstill := (work_run hwork (runs_kept hbefore) hrunning hlater).2.1
  have hfirst : Torn c' { ticket := 0, id := 1 } := by
    obtain ⟨m, hm, hid⟩ := List.mem_filterMap.mp (htorn ▸ List.mem_singleton_self 1)
    exact ⟨m, hm, hid⟩
  obtain ⟨_, ⟨a, c'', ha, hstep⟩ | ⟨_, m, c'', hfinish, hended⟩ | ⟨⟨m, hm, hid⟩, _⟩⟩ :=
    call_returns hbefore hrunning hholder (by rw [htickets]; decide) hwork hlater
  · -- nothing is left to do
    have hless := (work_step ha (runs_kept hruns) hstep hstill).1
    omega
  · exact ⟨c, c', c'', m, hbefore, hlater, hfirst, hfinish, hended⟩
  · -- the second request was not torn
    have hsecond : 2 ∈ c'.torn.filterMap Traffic.requestId := List.mem_filterMap.mpr ⟨m, hm, hid⟩
    rw [htorn] at hsecond
    cases List.mem_singleton.mp hsecond

end IdxWorkspace.Mcp.ChildServer
