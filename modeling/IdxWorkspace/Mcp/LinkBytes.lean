import IdxWorkspace.Mcp.App
import IdxWorkspace.Mcp.ChildServer

/-!
The server's end of a link, down to the bytes: what `ByteTransport` and the loop
of the server make of the lines in their pipe, the link does by serving and
tearing them, one by one.
-/

namespace IdxWorkspace.Mcp.Link

open Library Library.Framing

variable {T A σ : Type} {rejects : Value → String}

/-- What the server's transport gives for the line of a message: what is read back
from all of it, or an error. -/
def Taken (rejects : Value → String) (m : JsonRpcMessage) (item : Incoming) : Prop :=
  item = (JsonRpcMessage.decode rejects m.encode).mapError .json ∨
    ∃ e : TransportError, item = .error e

/-- What the server does in its own end of the pipe. -/
inductive Served : Action A → Prop where
  | serve : Served .serve
  | tear (e : TransportError) : Served (.tear e)

/-- A round of the loop adds its replies to those written before. -/
theorem answer_takes (router : Router σ) (item : Incoming) (t : σ) :
    ∃ s, takes router item t = .ok () s ∧ ∀ written,
      (answer (call router) (fun _ => none) item).run { service := t, written := written } =
        .ok () { service := s.service, written := written ++ s.written } := by
  cases item with
  | error e => exact ⟨_, rfl, fun written => rfl⟩
  | ok m =>
      cases m with
      | request req =>
          obtain ⟨response, s, hrespond⟩ : ∃ response s, ∀ written,
              (respondTo (call router) req).run { service := t, written := written } =
                .ok response { service := s, written := written } := by
            change ∃ response s, ∀ written,
              respondTo (call router) req { service := t, written := written } =
                .ok response { service := s, written := written }
            unfold respondTo
            cases hcall : (call router req).run t with
            | ok response s => exact ⟨response, s, fun _ => by simp only [hcall]⟩
            | error message s =>
                refine ⟨{ jsonrpc := "2.0", id := req.id, result := none, error := some ?_ }, s,
                  fun _ => ?_⟩
                · exact { code := INTERNAL_ERROR, message := message, data := none }
                · simp only [hcall]
          refine ⟨{ service := s, written := [.response response] }, ?_, fun written => ?_⟩
          · rw [takes, run_request, hrespond]
            rfl
          · rw [answer, EStateM.run_bind, hrespond]
            rfl
      | response r | notification n | error e | nil =>
          refine ⟨{ service := t, written := [] }, rfl, fun written => ?_⟩
          rw [List.append_nil]
          rfl

section Steps

variable (transport : Transport rejects T A) (router : Router σ)

/-- The step of the link for what the server's transport gives. -/
theorem step_taken {c : State T σ} {m : JsonRpcMessage} {rest : List JsonRpcMessage}
    (houtbound : c.outbound = m :: rest) {item : Incoming} (hitem : Taken rejects m item)
    {s : ServerState σ} (htakes : takes router item c.service = .ok () s) :
    ∃ action c', Served action ∧ step transport router c action = some c' ∧
      c'.client = c.client ∧ c'.outbound = rest ∧ c'.service = s.service ∧
      c'.inbound = c.inbound ++ s.written.map JsonRpcMessage.encode := by
  rcases hitem with rfl | ⟨e, rfl⟩
  · have hround : round rejects router m c.service = .ok () s := htakes
    have hstep : step transport router c .serve = some { c with
        outbound := rest, service := s.service,
        inbound := c.inbound ++ s.written.map JsonRpcMessage.encode } := by
      simp only [step, houtbound, hround]
    exact ⟨.serve, _, .serve, hstep, rfl, rfl, rfl, rfl⟩
  · have hstep : step transport router c (.tear e) = some { c with
        outbound := rest, service := s.service,
        inbound := c.inbound ++ s.written.map JsonRpcMessage.encode, torn := c.torn ++ [m] } := by
      simp only [step, houtbound, htakes]
    exact ⟨.tear e, _, .tear e, hstep, rfl, rfl, rfl, rfl⟩

/-- What the loop of the server makes of what its transport gives, the link does
step by step. -/
theorem runs_taken {items : List Incoming} {c : State T σ}
    (hitems : List.Forall₂ (Taken rejects) c.outbound items) :
    ∃ actions c' replies, (∀ a ∈ actions, Served a) ∧
      runs transport router c actions = some c' ∧ c'.client = c.client ∧ c'.outbound = [] ∧
      c'.inbound = c.inbound ++ replies.map JsonRpcMessage.encode ∧ ∀ written,
        (run (call router) (fun _ => none) items).run { service := c.service, written := written } =
          .ok () { service := c'.service, written := written ++ replies } := by
  induction items generalizing c with
  | nil =>
      have hnone : c.outbound = [] := List.forall₂_nil_right_iff.mp hitems
      refine ⟨[], c, [], nofun, rfl, rfl, hnone, (List.append_nil _).symm, fun written => ?_⟩
      rw [List.append_nil]
      rfl
  | cons item items ih =>
      obtain ⟨m, rest, hitem, hrest, houtbound⟩ := List.forall₂_cons_right_iff.mp hitems
      obtain ⟨s, htakes, hanswer⟩ := answer_takes router item c.service
      obtain ⟨action, mid, hserved, hstep, hclient, hmid, hservice, hinbound⟩ :=
        step_taken transport router houtbound hitem htakes
      obtain ⟨actions, c', replies, hall, hruns, hclient', hnone, hinbound', hrun⟩ :=
        ih (by rw [hmid]; exact hrest)
      refine ⟨action :: actions, c', s.written ++ replies, ?_, ?_, hclient'.trans hclient, hnone,
        ?_, fun written => ?_⟩
      · intro a ha
        rcases List.mem_cons.mp ha with rfl | hlater
        · exact hserved
        · exact hall a hlater
      · exact Option.bind_eq_some_iff.mpr ⟨mid, hstep, hruns⟩
      · rw [hinbound', hinbound, List.append_assoc, List.map_append]
      · have hmore := hrun (written ++ s.written)
        rw [hservice, List.append_assoc] at hmore
        rw [← hmore]
        change (answer (call router) (fun _ => none) item >>= fun _ =>
          run (call router) (fun _ => none) items).run _ = _
        rw [EStateM.run_bind, hanswer]

end Steps

/-- What the server's transport gives for the lines of the client's messages,
wherever the pipe makes it pause. -/
theorem messages_taken {serde : Serde} {ms : List JsonRpcMessage} {reader : Reader}
    (hsendable : ∀ m ∈ ms, Sendable m) (hcarried : ∀ m ∈ ms, serde.Carries m)
    (hcloses : ∀ m ∈ ms, serde.Closes m) (hsent : items reader = ms.flatMap (lineOf serde))
    (hsound : ∀ e, .failed e ∉ reader) :
    List.Forall₂ (Taken serde.rejects) ms (messages serde reader) := by
  have hall := messages_torn hcarried hcloses hsent hsound
  have hms : ∀ m ∈ ms, Sendable m ∧ serde.Carries m := fun m hm =>
    ⟨hsendable m hm, hcarried m hm⟩
  refine ((List.forall₂_and_left _ _).mpr ⟨hms, hall⟩).imp ?_
  rintro m item ⟨⟨hm, hline⟩, hwhole | htorn⟩
  · left
    rw [hwhole, parseLine_lineOf hline, get_jsonrpc, hm.version, hm.isObject]
    simp
  · exact Or.inr htorn

/-- In every state a client and a server can be in, wherever the reader of the server
pauses in the bytes of the lines on their way, its loop does with what it reads exactly
what the link does in some run of serving and tearing these lines, one by one and in
their order. This is under the assumptions that `serde_json` reads back a line it has
written and reads no message from the last part of one, and that the replies of the
server can be written. -/
theorem serve_linked {serde : Serde} {transport : Transport serde.rejects T A}
    {router : Router σ} {service : σ} {before : List (Action A)} {c : State T σ}
    {reader : Reader} (hbefore : runs transport router (start transport service) before = some c)
    (hcarried : ∀ m ∈ c.outbound, serde.Carries m) (hcloses : ∀ m ∈ c.outbound, serde.Closes m)
    (hsent : items reader = c.outbound.flatMap (lineOf serde))
    (hsound : ∀ e, .failed e ∉ reader) :
    ∃ actions c' replies, (∀ a ∈ actions, Served a) ∧
      runs transport router c actions = some c' ∧ c'.client = c.client ∧ c'.outbound = [] ∧
      c'.inbound = c.inbound ++ replies.map JsonRpcMessage.encode ∧ ∀ written,
        (serve serde router (fun _ => none) reader).run
            { service := c.service, written := written } =
          .ok () { service := c'.service, written := written ++ replies } := by
  obtain ⟨_, history, hlinked⟩ := runs_kept hbefore
  have hsendable : ∀ m ∈ c.outbound, Sendable m := fun m hm => hlinked.outbound_sendable hm
  exact runs_taken transport router (messages_taken hsendable hcarried hcloses hsent hsound)

theorem pingSerde_closes : App.pingSerde.Closes (.request App.ping) := by
  intro tail _ _ hpart
  unfold parseLine
  cases htext : fromUtf8 tail with
  | none => exact ⟨_, rfl⟩
  | some text =>
      have hother : text ≠ App.pingText ++ "\n" := by
        rintro rfl
        exact hpart ((bytesOf_fromUtf8 htext).symm.trans (bytesOf_newline App.pingText))
      have hfails : App.pingSerde.fromStr text = .error "expected value at line 1 column 1" :=
        if_neg hother
      simp only [hfails]
      exact ⟨_, rfl⟩

/-- A request whose line has a pause in it: the server answers with one error. -/
theorem serve_linked_paused :
    let transport := ChildServer.transport App.pingSerde.rejects
    let router := Counter.counterRouter "2025-01-01T00:00:00Z"
    let before : List (Action ChildServer.Act) :=
      [.client (.act (.request "tools/list" (.object []))), .client (.act .forward)]
    let reader : Reader := (bytesOf App.pingText).map .item ++ [.pending, .item newline]
    ∃ c actions c' replies, runs transport router (start transport 0) before = some c ∧
      runs transport router c actions = some c' ∧ c'.outbound = [] ∧
      (serve App.pingSerde router (fun _ => none) reader).run { service := 0, written := [] } =
        .ok () { service := c'.service, written := replies } := by
  intro transport router before reader
  obtain ⟨client, hbefore⟩ : ∃ client, runs transport router (start transport 0) before = some
      { client := client, asked := [.request App.ping], outbound := [.request App.ping],
        service := 0, inbound := [], torn := [] } := ⟨_, rfl⟩
  have hsent : items reader = [.request App.ping].flatMap (lineOf App.pingSerde) := rfl
  have hsound : ∀ e, .failed e ∉ reader := by
    simp [reader]
  obtain ⟨actions, c', replies, _, hruns, _, hdrained, _, hserve⟩ :=
    serve_linked hbefore (by simpa using App.pingSerde_carries) (by simpa using pingSerde_closes)
      hsent hsound
  exact ⟨_, actions, c', replies, hbefore, hruns, hdrained, hserve []⟩

end IdxWorkspace.Mcp.Link
