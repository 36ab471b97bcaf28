import IdxWorkspace.Mcp.ChildProgress

/-!
The counter as a child server, called by many tasks some of which give up. Nobody
is told whether a call that was given up has counted; but no message counts twice,
and as long as the actor runs what was asked for has been counted, is under way, was
torn, or was given up while it waited for its place in the queue.
-/

namespace IdxWorkspace.Mcp.ChildServer

open Library Library.Effect Library.History Library.Sequential Link Counter

variable {rejects : Value → String} {σ : Type} {router : Router σ} {service : σ}
variable {c c' : State Stdio.State σ} {history : List (JsonRpcMessage × JsonRpcMessage)}

/-- The messages that are on their way to the server. -/
def underWay (c : State Stdio.State σ) : List JsonRpcMessage :=
  c.outbound ++ c.client.traffic.queue.map TransportMessage.message

/-- The actor takes messages, and only the holder's waits for its place. -/
structure Roomy (s : Stdio.State) : Prop where
  accepting : s.traffic.accepting = true
  told : ∀ r, s.traffic.mailbox = some r → ∃ m, r = .ok m
  waiting : ∀ tm ∈ s.traffic.queue.drop Traffic.places,
    ∃ call, s.traffic.holder = some call ∧ tm.responseTx = some call

/-- What an action withdraws: a message that waits, with its call. -/
def withdraws (s : Stdio.State) : Stdio.Action → List JsonRpcMessage
  | .giveUp => (s.traffic.queue.drop Traffic.places).map TransportMessage.message
  | _ => []

/-- Behind the places there is nobody once the holder has got an answer. -/
theorem Roomy.finished {s : Stdio.State} (h : Roomy s) (hinv : s.traffic.Inv) {call : Call}
    {r : Except ServiceError JsonRpcMessage} (hreceived : s.traffic.received = some (call, r)) :
    s.traffic.queue.drop Traffic.places = [] := by
  rw [List.eq_nil_iff_forall_not_mem]
  intro tm htm
  obtain ⟨call', hholder, hcall⟩ := h.waiting tm htm
  have hsender : call' ∈ s.traffic.senders :=
    Traffic.mem_senders.mpr (Or.inl ⟨tm, List.mem_of_mem_drop htm, hcall⟩)
  unfold Traffic.received at hreceived
  rw [hholder] at hreceived
  cases hmailbox : s.traffic.mailbox with
  | none =>
      rw [hmailbox] at hreceived
      simp [hsender] at hreceived
  | some r' =>
      obtain ⟨m, rfl⟩ := h.told r' hmailbox
      obtain ⟨call'', hholder', htold⟩ := hinv.delivered _ hmailbox
      rw [hholder] at hholder'
      cases hholder'
      exact hinv.unanswered call' hsender m htold

theorem Roomy.free {s : Stdio.State} (h : Roomy s) (hholder : s.traffic.holder = none) :
    s.traffic.queue.drop Traffic.places = [] := by
  rw [List.eq_nil_iff_forall_not_mem]
  intro tm htm
  obtain ⟨call, hcall, _⟩ := h.waiting tm htm
  rw [hholder] at hcall
  cases hcall

/-- An action after which the actor still runs keeps its room. It writes what it takes
off the queue, puts what it asks for at its end, and loses only what it withdraws. -/
theorem client_roomy {s s' : Stdio.State} {a : Stdio.Action} (ha : reads a = false)
    (hinv : s.traffic.Inv) (hstep : Stdio.step rejects s a = some s')
    (hrunning : s'.phase = .running) (h : Roomy s) :
    Roomy s' ∧
      writes s a ++ s'.traffic.queue.map TransportMessage.message ++ withdraws s a =
        s.traffic.queue.map TransportMessage.message ++ asks s a := by
  cases a with
  | request method params =>
      obtain ⟨hfree, ⟨⟩⟩ := Option.ite_none_right_eq_some.mp hstep
      have hplaces := h.free (by simpa using hfree)
      refine ⟨⟨?_, ?_, ?_⟩, ?_⟩
      · simp [Traffic.request, Traffic.enqueue, h.accepting]
      · simp [Traffic.request, Traffic.enqueue, h.accepting]
      · intro tm htm
        simp only [Traffic.request, Traffic.enqueue, h.accepting, if_true,
          List.drop_append, hplaces, List.nil_append] at htm ⊢
        obtain rfl := List.mem_singleton.mp (List.mem_of_mem_drop htm)
        exact ⟨_, rfl, rfl⟩
      · simp [Traffic.request, Traffic.enqueue, h.accepting, writes, asks, withdraws]
  | notify method params =>
      obtain ⟨⟨hfree, hplace⟩, ⟨⟩⟩ := Option.ite_none_right_eq_some.mp hstep
      refine ⟨⟨?_, ?_, ?_⟩, ?_⟩
      · simp [Traffic.notify, Traffic.enqueue, h.accepting]
      · simpa [Traffic.notify, Traffic.enqueue, h.accepting] using h.told
      · intro tm htm
        have hnone : (s.traffic.notify method params).queue.drop Traffic.places = [] := by
          apply List.drop_eq_nil_of_le
          simpa [Traffic.notify, Traffic.enqueue, h.accepting, Nat.succ_le_iff] using hplace
        rw [hnone] at htm
        cases htm
      · simp [Traffic.notify, Traffic.enqueue, h.accepting, writes, asks, withdraws]
  | finish =>
      obtain ⟨⟨call, r⟩, hreceived, rfl⟩ := Option.map_eq_some_iff.mp hstep
      refine ⟨⟨h.accepting, ?_, ?_⟩, ?_⟩
      · rintro r ⟨⟩
      · intro tm htm
        have hnone : s.traffic.queue.drop Traffic.places = [] := h.finished hinv hreceived
        change tm ∈ s.traffic.queue.drop Traffic.places at htm
        rw [hnone] at htm
        cases htm
      · simp [Stdio.State.finish, Traffic.finish, writes, asks, withdraws]
  | giveUp =>
      obtain ⟨call, hholder, rfl⟩ := Option.map_eq_some_iff.mp hstep
      refine ⟨⟨h.accepting, ?_, ?_⟩, ?_⟩
      · rintro r ⟨⟩
      · intro tm htm
        simp [Traffic.giveUp] at htm
      · simp only [Traffic.giveUp, writes, asks, withdraws, List.nil_append, List.append_nil]
        rw [← List.map_append, List.take_append_drop]
  | forward =>
      simp only [Stdio.step] at hstep
      split at hstep
      · rename_i tm rest _ hqueue
        cases hstep
        refine ⟨⟨?_, ?_, ?_⟩, ?_⟩
        · exact (s.traffic.forward_accepting tm rest).trans h.accepting
        · simpa using h.told
        · intro tm' htm'
          rw [Traffic.forward_queue] at htm'
          rw [Traffic.forward_holder]
          apply h.waiting tm'
          rw [hqueue]
          exact List.drop_subset_drop_left rest (Nat.le_succ 31) htm'
        · simp [writes, asks, withdraws, hqueue]
      · cases hstep
  | receive line => cases ha
  | stop failedWrite =>
      obtain ⟨_, ⟨⟩⟩ := Option.ite_none_right_eq_some.mp hstep
      cases hrunning
  | report stderr =>
      obtain ⟨_, ⟨⟩⟩ := Option.ite_none_right_eq_some.mp hstep
      cases hrunning
  | cleanUp =>
      obtain ⟨_, ⟨⟩⟩ := Option.ite_none_right_eq_some.mp hstep
      cases hrunning

/-- What an action withdraws is the message of a call that is given up. -/
theorem withdrawn_dropped {s s' : Stdio.State} {a : Stdio.Action} (hroomy : Roomy s)
    (hstep : Stdio.step rejects s a = some s') {m : JsonRpcMessage} (hm : m ∈ withdraws s a) :
    ∃ tm ∈ s.traffic.queue, ∃ call, tm.message = m ∧ tm.responseTx = some call ∧
      .dropped call ∈ s'.traffic.log := by
  cases a with
  | giveUp =>
      obtain ⟨call, hholder, rfl⟩ := Option.map_eq_some_iff.mp hstep
      obtain ⟨tm, htm, rfl⟩ := List.mem_map.mp hm
      obtain ⟨call', hholder', hcall⟩ := hroomy.waiting tm htm
      rw [hholder] at hholder'
      cases hholder'
      exact ⟨tm, List.mem_of_mem_drop htm, call, rfl, hcall,
        List.mem_append_right _ (List.mem_singleton_self _)⟩
  | request method params | notify method params | finish | forward | receive line
  | stop failedWrite | report stderr | cleanUp => cases hm

/-- While the actor runs, what was asked for has been exchanged, is under way, was torn
or was withdrawn by a call that was given up. -/
structure Whole (history : List (JsonRpcMessage × JsonRpcMessage))
    (withdrawn : List JsonRpcMessage) (c : State Stdio.State σ) : Prop where
  roomy : Roomy c.client
  all : (history.map Prod.fst ++ underWay c ++ (c.torn ++ withdrawn)).Perm c.asked
  dropped : ∀ m ∈ withdrawn, ∃ call, .dropped call ∈ c.client.traffic.log ∧
    requestOf c.asked call = some m

/-- What every step keeps. -/
def Counted (rejects : Value → String) (router : Router σ) (service : σ)
    (c : State Stdio.State σ) : Prop :=
  c.client.traffic.Inv ∧ ∃ history, Linked (transport rejects) router service history c ∧
    (c.client.traffic.tickets < 18446744073709551616 → c.client.phase = .running →
      ∃ withdrawn, Whole history withdrawn c)

theorem requestOf_append {asked : List JsonRpcMessage} {call : Call} {m : JsonRpcMessage}
    (h : requestOf asked call = some m) (more : List JsonRpcMessage) :
    requestOf (asked ++ more) call = some m := by
  unfold requestOf at h ⊢
  obtain ⟨hlt, _⟩ := List.getElem?_eq_some_iff.mp h
  rw [List.filter_append, List.getElem?_append_left hlt]
  exact h

/-- The same messages in another order, with those just asked for. -/
theorem perm_moved {exchanged outbound queue withdrawn asked : List JsonRpcMessage}
    {written queue' withdraws asks : List JsonRpcMessage}
    (hqueue : written ++ queue' ++ withdraws = queue ++ asks)
    (hall : (exchanged ++ (outbound ++ queue) ++ withdrawn).Perm asked) :
    (exchanged ++ ((outbound ++ written) ++ queue') ++ (withdrawn ++ withdraws)).Perm
      (asked ++ asks) := by
  calc
    List.Perm (exchanged ++ ((outbound ++ written) ++ queue') ++ (withdrawn ++ withdraws))
        (exchanged ++ ((outbound ++ written) ++ queue') ++ (withdraws ++ withdrawn)) :=
      List.perm_append_comm.append_left _
    _ = exchanged ++ (outbound ++ (written ++ queue' ++ withdraws)) ++ withdrawn := by simp
    _ = exchanged ++ (outbound ++ queue) ++ (asks ++ withdrawn) := by simp [hqueue]
    List.Perm _ (exchanged ++ (outbound ++ queue) ++ (withdrawn ++ asks)) :=
      List.perm_append_comm.append_left _
    _ = exchanged ++ (outbound ++ queue) ++ withdrawn ++ asks := by simp
    List.Perm _ (asked ++ asks) := hall.append_right asks

/-- What is in the log stays there. -/
theorem client_log {s s' : Stdio.State} {a : Stdio.Action} (ha : reads a = false)
    (hstep : Stdio.step rejects s a = some s') : s.traffic.log <+: s'.traffic.log := by
  have henqueue (t : Traffic) (tm : TransportMessage) : (t.enqueue tm).log = t.log := by
    unfold Traffic.enqueue
    split <;> rfl
  cases a with
  | request method params =>
      obtain ⟨_, ⟨⟩⟩ := Option.ite_none_right_eq_some.mp hstep
      exact (henqueue _ _).symm ▸ List.prefix_refl _
  | notify method params =>
      obtain ⟨_, ⟨⟩⟩ := Option.ite_none_right_eq_some.mp hstep
      exact (henqueue _ _).symm ▸ List.prefix_refl _
  | finish =>
      obtain ⟨_, _, rfl⟩ := Option.map_eq_some_iff.mp hstep
      exact List.prefix_append _ _
  | giveUp =>
      obtain ⟨_, _, rfl⟩ := Option.map_eq_some_iff.mp hstep
      exact List.prefix_append _ _
  | forward =>
      simp only [Stdio.step] at hstep
      split at hstep
      · cases hstep
        exact Traffic.forward_log _ _ _
      · cases hstep
  | receive line => cases ha
  | stop failedWrite =>
      obtain ⟨_, ⟨⟩⟩ := Option.ite_none_right_eq_some.mp hstep
      cases failedWrite <;> exact List.prefix_refl _
  | report stderr =>
      obtain ⟨_, ⟨⟩⟩ := Option.ite_none_right_eq_some.mp hstep
      exact List.prefix_refl _
  | cleanUp =>
      obtain ⟨_, ⟨⟩⟩ := Option.ite_none_right_eq_some.mp hstep
      exact List.prefix_refl _

theorem Whole.client {withdrawn : List JsonRpcMessage} (h : Whole history withdrawn c)
    (hlinked : Linked (transport rejects) router service history c)
    (hinv : c.client.traffic.Inv) (htickets : c.client.traffic.tickets < 18446744073709551616)
    {a : Stdio.Action} (ha : reads a = false) {client : Stdio.State}
    (hstep : Stdio.step rejects c.client a = some client) (hrunning : client.phase = .running) :
    Whole history (withdrawn ++ withdraws c.client a)
      { c with
        client := client, asked := c.asked ++ asks c.client a,
        outbound := c.outbound ++ writes c.client a } := by
  obtain ⟨hroomy, hqueue⟩ := client_roomy ha hinv hstep hrunning h.roomy
  have hall : (history.map Prod.fst ++ ((c.outbound ++ writes c.client a) ++
      client.traffic.queue.map TransportMessage.message) ++
        (c.torn ++ withdrawn ++ withdraws c.client a)).Perm (c.asked ++ asks c.client a) :=
    perm_moved hqueue h.all
  rw [List.append_assoc c.torn] at hall
  refine ⟨hroomy, hall, ?_⟩
  intro m hm
  rcases List.mem_append.mp hm with hold | hnew
  · obtain ⟨call, hdropped, hreq⟩ := h.dropped m hold
    exact ⟨call, (client_log ha hstep).subset hdropped, requestOf_append hreq _⟩
  · obtain ⟨tm, htm, call, rfl, hcall, hdropped⟩ := withdrawn_dropped h.roomy hstep hnew
    have hsender : call ∈ c.client.traffic.senders :=
      Traffic.mem_senders.mpr (Or.inl ⟨tm, htm, hcall⟩)
    have hasked : tm.message ∈ c.asked := by
      apply hlinked.inOrder.subset
      exact List.mem_append_right _ (List.mem_append_right _ (List.mem_map_of_mem htm))
    have hreq := hlinked.requestOf_eq htickets (hinv.numbered call hsender)
      (hinv.issued call hsender) hasked (hinv.addressed tm htm call hcall)
    exact ⟨call, hdropped, requestOf_append hreq _⟩

theorem Whole.serve {withdrawn : List JsonRpcMessage} (h : Whole history withdrawn c)
    {m : JsonRpcMessage} {rest : List JsonRpcMessage} (houtbound : c.outbound = m :: rest)
    (reply : JsonRpcMessage) (service : σ) (inbound : List Value) :
    Whole (history ++ [(m, reply)]) withdrawn
      { c with outbound := rest, service := service, inbound := inbound } := by
  refine ⟨h.roomy, ?_, h.dropped⟩
  have hall := h.all
  simpa [underWay, houtbound] using hall

theorem Whole.tear {withdrawn : List JsonRpcMessage} (h : Whole history withdrawn c)
    {m : JsonRpcMessage} {rest : List JsonRpcMessage} (houtbound : c.outbound = m :: rest)
    (service : σ) (inbound : List Value) :
    Whole history withdrawn
      { c with outbound := rest, service := service, inbound := inbound,
               torn := c.torn ++ [m] } := by
  refine ⟨h.roomy, ?_, h.dropped⟩
  have hall := h.all
  rw [underWay, houtbound, List.cons_append] at hall
  refine List.Perm.trans ?_ hall
  have hlast : List.Perm ((underWay { c with outbound := rest } ++ c.torn) ++ [m])
      ([m] ++ (underWay { c with outbound := rest } ++ c.torn)) := List.perm_append_comm
  simpa [underWay] using (hlast.append_left (history.map Prod.fst)).append_right withdrawn

theorem Whole.read {withdrawn : List JsonRpcMessage} (h : Whole history withdrawn c)
    (reply : JsonRpcMessage) (inbound : List Value) :
    Whole history withdrawn
      { c with
        client := { c.client with traffic := c.client.traffic.incoming reply },
        inbound := inbound } := by
  obtain ⟨hqueue, haccepting, hholder, _⟩ := Traffic.incoming_same c.client.traffic reply
  refine ⟨⟨haccepting.trans h.roomy.accepting, ?_, ?_⟩, ?_, ?_⟩
  · intro r hr
    rcases c.client.traffic.incoming_mailbox reply with hsame | hnew
    · exact h.roomy.told r (hsame.symm.trans hr)
    · exact ⟨reply, Option.some.inj (hr.symm.trans hnew)⟩
  · intro tm htm
    rw [hqueue] at htm
    rw [hholder]
    exact h.roomy.waiting tm htm
  · have hall := h.all
    simpa [underWay, hqueue] using hall
  · intro m hm
    obtain ⟨call, hdropped, hreq⟩ := h.dropped m hm
    exact ⟨call, (Traffic.incoming_log _ _).subset hdropped, hreq⟩

theorem step_counted {action : Action Act} (h : Counted rejects router service c)
    (hstep : step (transport rejects) router c action = some c') :
    Counted rejects router service c' := by
  obtain ⟨hinv, history, hlinked, hwhole⟩ := h
  cases stepped hstep with
  | @client a client hact =>
      obtain ⟨hkept, lost, hmoved⟩ := (transport rejects).acts hinv hact
      refine ⟨hkept, history, hlinked.moved hinv lost hmoved, fun htickets hrunning => ?_⟩
      have hbefore : c.client.traffic.tickets < 18446744073709551616 :=
        Nat.lt_of_le_of_lt hmoved.tickets htickets
      rcases acted hact with ⟨b, rfl, hb, hmoves⟩ | ⟨failedWrite, rfl, hstopped⟩
      · obtain ⟨withdrawn, h⟩ := hwhole hbefore (Stdio.running_before hmoves hrunning)
        exact ⟨_, h.client hlinked hinv hbefore hb hmoves hrunning⟩
      · cases hstopped.symm.trans hrunning
  | @serve m rest s houtbound hround =>
      obtain ⟨reply, hserved⟩ := hlinked.serve houtbound hround
      refine ⟨hinv, _, hserved, fun htickets hrunning => ?_⟩
      obtain ⟨withdrawn, h⟩ := hwhole htickets hrunning
      exact ⟨withdrawn, h.serve houtbound reply _ _⟩
  | @tear e m rest s houtbound htakes =>
      refine ⟨hinv, history, hlinked.tear houtbound htakes, fun htickets hrunning => ?_⟩
      obtain ⟨withdrawn, h⟩ := hwhole htickets hrunning
      exact ⟨withdrawn, h.tear houtbound _ _⟩
  | @read line rest client hinbound hreceive =>
      refine ⟨(transport rejects).receive_inv hinv hreceive, history,
        hlinked.read hinv hinbound hreceive, fun htickets _ => ?_⟩
      obtain ⟨reply, hdecode⟩ := (hlinked.lines line (by simp [hinbound])).decoded
      obtain ⟨hphase, hreading⟩ := Option.ite_none_right_eq_some.mp hreceive
      rw [hdecode] at hreading
      cases hreading
      have hbefore : c.client.traffic.tickets < 18446744073709551616 := by
        rw [← (Traffic.incoming_same c.client.traffic reply).2.2.2]
        exact htickets
      obtain ⟨withdrawn, h⟩ := hwhole hbefore hphase
      exact ⟨withdrawn, h.read reply rest⟩

theorem runs_counted {actions : List (Action Act)}
    (hruns : runs (transport rejects) router (start (transport rejects) service) actions =
      some c) : Counted rejects router service c := by
  have hstart : Counted rejects router service (start (transport rejects) service) :=
    ⟨Traffic.inv_start, [], linked_start service, fun _ _ =>
      ⟨[], ⟨rfl, nofun, nofun⟩, List.Perm.refl _, nofun⟩⟩
  exact foldlM_keeps (fun _ _ _ _ h hstep => step_counted h hstep) hstart hruns

section Tally

variable {now : String}

/-- Parameters that are null are lost on the way, and call no tool. -/
theorem calledTool_nonNull (req : JsonRpcRequest) :
    calledTool { req with params := nonNull req.params } = calledTool req := by
  unfold calledTool
  cases hparams : req.params with
  | none => rfl
  | some params => cases params <;> rfl

/-- An exchange changes the counter as its message is to. -/
theorem exchange_state {m : JsonRpcMessage} (hm : Sendable m) (n : Int32) :
    after ((exchange rejects (counterRouter now) m).run n) = n + Int32.ofInt (tally (.ok m)) := by
  obtain ⟨s, hround, _⟩ := hm.round rejects (counterRouter now) n
  have hafter : after ((exchange rejects (counterRouter now) m).run n) = s.service := by
    change after (exchange rejects (counterRouter now) m n) = s.service
    unfold Link.round takes at hround
    simp only [exchange, hround]
    split
    · rfl
    · split <;> rfl
  have htally : total [(JsonRpcMessage.decode rejects m.encode).mapError .json] =
      tally (.ok m) := by
    cases hm with
    | request id method params =>
        have hdecode : (JsonRpcMessage.decode rejects
            (JsonRpcMessage.request (newRequest id method params)).encode).mapError
              TransportError.json =
            .ok (.request
              { newRequest id method params with params := nonNull (some params) }) := by
          rw [JsonRpcMessage.encode, decode_request]
          rfl
        have hcalled := calledTool_nonNull (newRequest id method params)
        rw [hdecode, total, total, Int.add_zero, tally, tally, ← hcalled]
        rfl
    | notification method params =>
        rw [JsonRpcMessage.encode, decode_notification]
        rfl
  rw [hafter, run_counts hround, htally]

theorem perform_exchange_state {ms : List JsonRpcMessage} (h : ∀ m ∈ ms, Sendable m)
    (n : Int32) :
    (perform (exchange rejects (counterRouter now)) n ms).2 =
      n + Int32.ofInt (total (ms.map .ok)) := by
  induction ms generalizing n with
  | nil => exact (Int32.add_zero n).symm
  | cons m ms ih =>
      rw [perform, ih fun m' hm' => h m' (List.mem_cons_of_mem _ hm'),
        exchange_state (h m List.mem_cons_self), List.map_cons, total, Int32.ofInt_add,
        Int32.add_assoc]

/-- Whatever the interleaving, whoever gives up and wherever the server is interrupted
in a line, the counter shows what has been counted: messages in the order they were
asked for and none twice, with the request of every call that returned among them. As
long as the actor runs, these are all but the messages under way, those whose lines
were torn and those that calls which were given up withdrew. This is under the
assumption that fewer than 2^64 ids were drawn, so that a call can be told by its id;
the counter itself may come round. -/
theorem calls_counted {n : Int32} {c : State Stdio.State Int32} {actions : List (Action Act)}
    (hruns : runs (transport rejects) (counterRouter now) (start (transport rejects) n) actions =
      some c) (htickets : c.client.traffic.tickets < 18446744073709551616) :
    ∃ counted : List JsonRpcMessage, counted.Sublist c.asked ∧
      c.service = n + Int32.ofInt (total (counted.map .ok)) ∧
      (∀ call expected m, .ended call expected (.ok m) ∈ c.client.traffic.log →
        ∃ req ∈ counted, requestOf c.asked call = some req) ∧
      (c.client.phase = .running → ∃ withdrawn : List JsonRpcMessage,
        (counted ++ underWay c ++ c.torn ++ withdrawn).Perm c.asked ∧
        ∀ m ∈ withdrawn, ∃ call, .dropped call ∈ c.client.traffic.log ∧
          requestOf c.asked call = some m) := by
  obtain ⟨hinv, history, hlinked, hwhole⟩ := runs_counted hruns
  have horder : (history.map Prod.fst).Sublist c.asked :=
    (List.sublist_append_left _ _).trans hlinked.inOrder
  have hservice : c.service =
      (perform (exchange rejects (counterRouter now)) n (history.map Prod.fst)).2 := by
    rw [hlinked.performed]
  refine ⟨history.map Prod.fst, horder, ?_, ?_, fun hrunning => ?_⟩
  · rw [hservice, perform_exchange_state fun m hm => hlinked.sendable m (horder.subset hm)]
  · intro call expected m hended
    obtain ⟨req, hreq, hmem⟩ := hlinked.returned hinv htickets hended
    exact ⟨req, List.mem_map.mpr ⟨_, hmem, rfl⟩, hreq⟩
  · obtain ⟨withdrawn, h⟩ := hwhole htickets hrunning
    refine ⟨withdrawn, ?_, h.dropped⟩
    rw [List.append_assoc _ c.torn]
    exact h.all

/-- One call is given up and counts all the same, the line of the next one is torn, and
a third is on its way. -/
theorem calls_counted_abandoned :
    let router := counterRouter "2025-01-01T00:00:00Z"
    let params : Value := .object [("arguments", .object []), ("name", .string "increment")]
    let actions : List (Action Act) :=
      [.client (.act (.request "tools/call" params)), .client (.act .forward),
        .client (.act .giveUp), .client (.act (.request "tools/call" params)),
        .client (.act .forward), .serve, .tear (.json "expected value at line 1 column 1"),
        .client (.act .giveUp), .client (.act (.request "tools/call" params))]
    ∃ c, runs (transport fun _ => "") router (start (transport fun _ => "") 0) actions = some c ∧
      c.service = 1 ∧ c.torn.length = 1 ∧ ∃ counted withdrawn : List JsonRpcMessage,
        c.service = 0 + Int32.ofInt (total (counted.map .ok)) ∧
        (counted ++ underWay c ++ c.torn ++ withdrawn).Perm c.asked := by
  intro router params actions
  have hend : (runs (transport fun _ => "") router (start (transport fun _ => "") 0) actions).map
      (fun c => (c.client.traffic.tickets, c.client.phase, c.service, c.torn.length)) =
        some (3, .running, 1, 1) := by
    decide +kernel
  obtain ⟨c, hruns, hc⟩ := Option.map_eq_some_iff.mp hend
  simp only [Prod.mk.injEq] at hc
  obtain ⟨htickets, hphase, hservice, htorn⟩ := hc
  obtain ⟨counted, _, htotal, _, hall⟩ := calls_counted hruns (by rw [htickets]; decide)
  obtain ⟨withdrawn, hperm, _⟩ := hall hphase
  exact ⟨c, hruns, hservice, htorn, counted, withdrawn, htotal, hperm⟩

end Tally

end IdxWorkspace.Mcp.ChildServer
