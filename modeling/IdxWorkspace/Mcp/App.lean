import IdxWorkspace.Mcp.Counter
import IdxWorkspace.Mcp.FrameCodec

/-!
The web server of the counter example: a session for every client that opens the
event stream, with a pipe into which the bodies of its POSTs go, each followed by
a newline. A body is written while it comes in, so a POST that is not accepted may
have left a part of itself in the pipe, in front of the next body.
-/

namespace IdxWorkspace.Mcp.App

open Library Library.Effect Library.Framing

inductive StatusCode where
  | accepted
  | badRequest
  | notFound
  | payloadTooLarge
  | internalServerError
  deriving DecidableEq

/-- How a write to the pipe ends: it is taken, or the pipe is closed, or the client
is gone before, and the handler with it. -/
inductive Write where
  | taken
  | refused
  | gone

/-- What comes of a body. A write that was only begun is a shorter chunk. -/
inductive Chunk where
  | data (bytes : List UInt8) (write : Write)
  | failed
  | gone

structure Post where
  sessionId : String
  sizeHint : Option Nat
  chunks : List Chunk
  /-- How the write of the newline ends. -/
  ending : Write

def BODY_BYTES_LIMIT : Nat := 4194304

/-- A handler works on what is in its session's pipe. It ends with a status, as an
error or not, or with none at all. -/
abbrev Handler := EStateM (Option StatusCode) (List UInt8)

def writeAll (bytes : List UInt8) : Write → Handler Unit
  | .taken => modify (· ++ bytes)
  | .refused => throw (some .internalServerError)
  | .gone => throw none

def checkSize (size : Nat) : Handler Unit :=
  if size > BODY_BYTES_LIMIT then throw (some .payloadTooLarge) else pure ()

/-- The loop over the chunks of a body, of which `size` bytes have come. -/
def writeChunks : Nat → List Chunk → Handler Unit
  | _, [] => pure ()
  | size, .data bytes write :: chunks => do
      let size := size + bytes.length
      checkSize size
      writeAll bytes write
      writeChunks size chunks
  | _, .failed :: _ => throw (some .badRequest)
  | _, .gone :: _ => throw none

/-- `post_event_handler`, once it has the pipe of its session -/
def writeBody (p : Post) : Handler StatusCode := do
  p.sizeHint.forM checkSize
  writeChunks 0 p.chunks
  writeAll [newline] p.ending
  return .accepted

/-- The bytes a body brings. -/
def body : List Chunk → List UInt8
  | [] => []
  | .data bytes _ :: chunks => bytes ++ body chunks
  | .failed :: _ => []
  | .gone :: _ => []

/-- What a POST leaves in the pipe of its session. -/
def written (p : Post) : List UInt8 := after ((writeBody p).run [])

structure Session where
  id : String
  /-- All that was written to its server. -/
  pipe : List UInt8

structure State where
  /-- The session, by its number, that a name stands for. -/
  txs : List (String × Nat)
  sessions : List Session
  /-- The POSTs that were handled, each with its status. -/
  log : List (Post × Option StatusCode)

def start : State := { txs := [], sessions := [], log := [] }

inductive Action where
  /-- A client opens the event stream. -/
  | connect (id : String)
  /-- A POST is handled. No other one writes to the pipe meanwhile. -/
  | post (p : Post)
  /-- A session's server has ended. -/
  | remove (n : Nat)

/-- A handler has ended and left the pipe so. -/
def State.handled (s : State) (n : Nat) (p : Post) (status : Option StatusCode)
    (pipe : List UInt8) : State :=
  { s with
    sessions := s.sessions.modify n fun session => { session with pipe := pipe }
    log := s.log ++ [(p, status)] }

def step (s : State) : Action → State
  | .connect id =>
      { s with
        txs := (id, s.sessions.length) :: s.txs.filter (·.1 ≠ id)
        sessions := s.sessions ++ [{ id := id, pipe := [] }] }
  | .post p =>
      match s.txs.find? (·.1 = p.sessionId) with
      | none => { s with log := s.log ++ [(p, some .notFound)] }
      | some (_, n) =>
          match s.sessions[n]? with
          | none => s
          | some session =>
              match (writeBody p).run session.pipe with
              | .ok status pipe => s.handled n p (some status) pipe
              | .error status pipe => s.handled n p status pipe
  | .remove n =>
      match s.sessions[n]? with
      | none => s
      | some session => { s with txs := s.txs.filter (·.1 ≠ session.id) }

def run (s : State) (actions : List Action) : State := actions.foldl step s

/-- A handler ends well and has written all of `bytes`, or ends early and has
written the first of them; what was in the pipe before does not matter. -/
inductive Ends {α : Type} (m : Handler α) (a : α) (bytes : List UInt8) : Prop where
  | ok (h : ∀ pipe, m.run pipe = .ok a (pipe ++ bytes))
  | error (status : Option StatusCode) (partly : List UInt8)
      (hstatus : status ≠ some .accepted ∧ status ≠ some .notFound) (hpartly : partly <+: bytes)
      (h : ∀ pipe, m.run pipe = .error status (pipe ++ partly))

theorem ends_pure {α : Type} (a : α) : Ends (pure a) a [] :=
  .ok fun pipe => by
    rw [List.append_nil]
    rfl

theorem ends_throw {α : Type} {status : Option StatusCode}
    (hstatus : status ≠ some .accepted ∧ status ≠ some .notFound) (a : α) (bytes : List UInt8) :
    Ends (throw status) a bytes :=
  .error status [] hstatus List.nil_prefix fun pipe => by
    rw [List.append_nil]
    rfl

theorem ends_bind {α β : Type} {m : Handler α} {f : α → Handler β} {a : α} {b : β}
    {bytes more : List UInt8} (hm : Ends m a bytes) (hf : Ends (f a) b more) :
    Ends (m >>= f) b (bytes ++ more) := by
  cases hm with
  | error status partly hstatus hpartly h =>
      refine .error status partly hstatus (hpartly.trans (List.prefix_append _ _)) fun pipe => ?_
      have hrun := h pipe
      change EStateM.bind m f pipe = _
      change m pipe = _ at hrun
      rw [EStateM.bind, hrun]
  | ok h =>
      have hrun (pipe : List UInt8) : (m >>= f).run pipe = (f a).run (pipe ++ bytes) := by
        have hfirst := h pipe
        change EStateM.bind m f pipe = _
        change m pipe = _ at hfirst
        rw [EStateM.bind, hfirst]
        rfl
      cases hf with
      | ok hrest =>
          refine .ok fun pipe => ?_
          rw [hrun, hrest, List.append_assoc]
      | error status partly hstatus hpartly hrest =>
          refine .error status (bytes ++ partly) hstatus
            ((List.prefix_append_right_inj bytes).mpr hpartly) fun pipe => ?_
          rw [hrun, hrest, List.append_assoc]

theorem checkSize_ends (size : Nat) : Ends (checkSize size) () [] := by
  unfold checkSize
  split
  · exact ends_throw (by decide) () []
  · exact ends_pure ()

theorem writeAll_ends (bytes : List UInt8) (write : Write) :
    Ends (writeAll bytes write) () bytes := by
  cases write with
  | taken => exact .ok fun pipe => rfl
  | refused => exact ends_throw (by decide) () bytes
  | gone => exact ends_throw (by decide) () bytes

theorem writeChunks_ends (size : Nat) (chunks : List Chunk) :
    Ends (writeChunks size chunks) () (body chunks) := by
  induction chunks generalizing size with
  | nil => exact ends_pure ()
  | cons chunk chunks ih =>
      cases chunk with
      | data bytes write =>
          rw [writeChunks, body, ← List.nil_append (bytes ++ body chunks)]
          exact ends_bind (checkSize_ends _) (ends_bind (writeAll_ends bytes write) (ih _))
      | failed => exact ends_throw (by decide) () _
      | gone => exact ends_throw (by decide) () _

theorem writeBody_ends (p : Post) : Ends (writeBody p) .accepted (body p.chunks ++ [newline]) := by
  have hhint : Ends (p.sizeHint.forM checkSize) () [] := by
    cases p.sizeHint with
    | none => exact ends_pure ()
    | some size => exact checkSize_ends size
  have hnewline : Ends (do writeAll [newline] p.ending; return StatusCode.accepted) .accepted
      ([newline] ++ []) := ends_bind (writeAll_ends _ _) (ends_pure _)
  have hrest : Ends (do writeChunks 0 p.chunks; writeAll [newline] p.ending; return .accepted)
      StatusCode.accepted (body p.chunks ++ ([newline] ++ [])) :=
    ends_bind (writeChunks_ends 0 p.chunks) hnewline
  have hwhole : Ends (writeBody p) .accepted
      ([] ++ (body p.chunks ++ ([newline] ++ []))) := by
    unfold writeBody
    exact ends_bind hhint hrest
  simpa using hwhole

/-- Some session was found for the POST, and its handler answered. -/
def Reached (id : String) (e : Post × Option StatusCode) : Bool :=
  e.1.sessionId = id ∧ e.2 ≠ some .notFound

def Accepted (e : Post × Option StatusCode) : Bool := e.2 = some .accepted

/-- What a handler does to the pipe of a session, and how that is recorded. -/
theorem writeBody_handled (p : Post) (pipe : List UInt8) :
    ∃ status, (status = some .accepted → written p = body p.chunks ++ [newline]) ∧
      status ≠ some .notFound ∧
      ((∃ code, (writeBody p).run pipe = .ok code (pipe ++ written p) ∧ some code = status) ∨
        (writeBody p).run pipe = .error status (pipe ++ written p)) := by
  cases writeBody_ends p with
  | ok h =>
      have hwritten : written p = body p.chunks ++ [newline] := by
        rw [written, h, after_ok, List.nil_append]
      refine ⟨some .accepted, fun _ => hwritten, by decide, Or.inl ⟨.accepted, ?_, rfl⟩⟩
      rw [h, hwritten]
  | error status partly hstatus hpartly h =>
      have hwritten : written p = partly := by
        rw [written, h, after_error, List.nil_append]
      refine ⟨status, fun hgood => absurd hgood hstatus.1, hstatus.2, Or.inr ?_⟩
      rw [h, hwritten]

/-- What every step keeps: a name stands for its own session, a POST that was
answered had one, and a pipe has in it what the POSTs to its session left there. -/
structure Inv (s : State) : Prop where
  named : ∀ id n, (id, n) ∈ s.txs → (s.sessions.map Session.id)[n]? = some id
  known : ∀ e ∈ s.log, e.2 ≠ some .notFound → e.1.sessionId ∈ s.sessions.map Session.id
  accepted : ∀ e ∈ s.log, e.2 = some .accepted → written e.1 = body e.1.chunks ++ [newline]
  piped : (s.sessions.map Session.id).Nodup → ∀ session ∈ s.sessions,
    session.pipe = (s.log.filter (Reached session.id)).flatMap fun e => written e.1

theorem inv_start : Inv start := by
  constructor <;> simp [start]

theorem Inv.connect {s : State} (h : Inv s) (id : String) : Inv (step s (.connect id)) := by
  constructor
  · intro id' n hmem
    simp only [step, List.map_append, List.map_singleton]
    rcases List.mem_cons.mp hmem with hnew | hold
    · cases hnew
      rw [List.getElem?_append_right (by simp)]
      simp
    · have hbefore := h.named id' n (List.mem_of_mem_filter hold)
      rw [List.getElem?_append_left (List.getElem?_eq_some_iff.mp hbefore).1]
      exact hbefore
  · intro e he hstatus
    simp only [step, List.map_append, List.mem_append]
    exact Or.inl (h.known e he hstatus)
  · exact h.accepted
  · intro hnodup session hmem
    simp only [step, List.map_append, List.map_singleton] at hnodup
    obtain ⟨hids, _, hfresh⟩ := List.nodup_append.mp hnodup
    rcases List.mem_append.mp hmem with hold | hnew
    · exact h.piped hids session hold
    · obtain rfl := List.mem_singleton.mp hnew
      have hnone : s.log.filter (Reached id) = [] := by
        rw [List.filter_eq_nil_iff]
        intro e he hreached
        obtain ⟨hid, hstatus⟩ := of_decide_eq_true hreached
        exact hfresh _ (h.known e he hstatus) id (List.mem_singleton_self id) hid
      change [] = (s.log.filter (Reached id)).flatMap fun e => written e.1
      rw [hnone]
      rfl

/-- A POST for which there is no session. -/
theorem Inv.missed {s : State} (h : Inv s) (p : Post) :
    Inv { s with log := s.log ++ [(p, some .notFound)] } := by
  constructor
  · exact h.named
  · intro e he hstatus
    rcases List.mem_append.mp he with hold | hlast
    · exact h.known e hold hstatus
    · cases List.mem_singleton.mp hlast
      exact absurd rfl hstatus
  · intro e he hstatus
    rcases List.mem_append.mp he with hold | hlast
    · exact h.accepted e hold hstatus
    · cases List.mem_singleton.mp hlast
      cases hstatus
  · intro hnodup session hmem
    have hlast : Reached session.id (p, some .notFound) = false := by
      simp [Reached]
    simpa [List.filter_append, hlast] using h.piped hnodup session hmem

@[simp]
theorem handled_ids (s : State) (n : Nat) (p : Post) (status : Option StatusCode)
    (pipe : List UInt8) :
    (s.handled n p status pipe).sessions.map Session.id = s.sessions.map Session.id := by
  apply List.ext_getElem?
  intro i
  simp only [State.handled, List.getElem?_map, List.getElem?_modify]
  cases s.sessions[i]? with
  | none => rfl
  | some other => by_cases hi : n = i <;> simp [hi]

/-- Sessions with different ids have different numbers. -/
theorem number_of_id {sessions : List Session} (hnodup : (sessions.map Session.id).Nodup)
    {n i : Nat} {session other : Session} (hsession : sessions[n]? = some session)
    (hother : sessions[i]? = some other) (hid : other.id = session.id) : n = i := by
  have hnames : (sessions.map Session.id)[n]? = (sessions.map Session.id)[i]? := by
    rw [List.getElem?_map, List.getElem?_map, hsession, hother, Option.map_some,
      Option.map_some, hid]
  have hlength : n < (sessions.map Session.id).length := by
    rw [List.length_map]
    exact (List.getElem?_eq_some_iff.mp hsession).1
  exact (List.getElem?_inj hlength hnodup).mp hnames

/-- A POST that is handled on the pipe of its session. -/
theorem Inv.handled {s : State} (h : Inv s) {p : Post} {n : Nat} {session : Session}
    (hsession : s.sessions[n]? = some session) (hid : session.id = p.sessionId)
    {status : Option StatusCode} (hstatus : status ≠ some .notFound)
    (haccepted : status = some .accepted → written p = body p.chunks ++ [newline]) :
    Inv (s.handled n p status (session.pipe ++ written p)) := by
  constructor
  · rw [handled_ids]
    exact h.named
  · intro e he hanswered
    rw [handled_ids]
    rcases List.mem_append.mp he with hold | hlast
    · exact h.known e hold hanswered
    · cases List.mem_singleton.mp hlast
      exact List.mem_map.mpr ⟨session, List.mem_of_getElem? hsession, hid⟩
  · intro e he hgood
    rcases List.mem_append.mp he with hold | hlast
    · exact h.accepted e hold hgood
    · cases List.mem_singleton.mp hlast
      exact haccepted hgood
  · intro hnodup session' hmem
    rw [handled_ids] at hnodup
    obtain ⟨i, hi⟩ := List.mem_iff_getElem?.mp hmem
    simp only [State.handled, List.getElem?_modify] at hi
    obtain ⟨other, hother, rfl⟩ := Option.map_eq_some_iff.mp hi
    have hbefore := h.piped hnodup other (List.mem_of_getElem? hother)
    split
    · rename_i hn
      have hsame : other = session := by
        rw [← hn, hsession] at hother
        exact (Option.some.inj hother).symm
      have hlast : Reached other.id (p, status) = true := by
        simp [Reached, hsame, hid, hstatus]
      rw [hsame] at hbefore hlast ⊢
      simp only [State.handled, List.filter_append, List.flatMap_append, ← hbefore]
      simp [hlast]
    · rename_i hn
      have hother' : other.id ≠ p.sessionId := fun heq =>
        hn (number_of_id hnodup hsession hother (heq.trans hid.symm))
      have hlast : Reached other.id (p, status) = false := by
        simp [Reached, Ne.symm hother']
      simpa [State.handled, List.filter_append, hlast] using hbefore

theorem step_inv {s : State} (h : Inv s) (a : Action) : Inv (step s a) := by
  cases a with
  | connect id => exact h.connect id
  | post p =>
      simp only [step]
      split
      · exact h.missed p
      · rename_i name n hfound
        split
        · exact h
        · rename_i session hsession
          have hname : name = p.sessionId := by
            simpa using List.find?_some hfound
          have hnamed := h.named name n (List.mem_of_find?_eq_some hfound)
          have hid : session.id = p.sessionId := by
            rw [List.getElem?_map, hsession, Option.map_some] at hnamed
            exact (Option.some.inj hnamed).trans hname
          obtain ⟨status, haccepted, hstatus, hrun⟩ := writeBody_handled p session.pipe
          rcases hrun with ⟨code, hrun, rfl⟩ | hrun
          · rw [hrun]
            exact h.handled hsession hid hstatus haccepted
          · rw [hrun]
            exact h.handled hsession hid hstatus haccepted
  | remove n =>
      simp only [step]
      split
      · exact h
      · exact ⟨fun id m hmem => h.named id m (List.mem_of_mem_filter hmem), h.known, h.accepted,
          h.piped⟩

theorem run_inv (actions : List Action) {s : State} (h : Inv s) : Inv (run s actions) := by
  induction actions generalizing s with
  | nil => exact h
  | cons a actions ih => exact ih (step_inv h a)

/-- The bodies that were accepted for a session, in their order. -/
def acceptedBodies (s : State) (id : String) : List (List UInt8) :=
  ((s.log.filter (Reached id)).filter Accepted).map fun e => body e.1.chunks

/-- What is in the pipe of a session are the accepted bodies, each ended by a
newline, if and only if nothing is left there of the POSTs that were not accepted. -/
theorem pipe_eq_iff {s : State} (h : Inv s) (hids : (s.sessions.map Session.id).Nodup)
    {session : Session} (hsession : session ∈ s.sessions) :
    session.pipe = ((acceptedBodies s session.id).map (· ++ [newline])).flatten ↔
      ∀ e ∈ s.log, Reached session.id e → Accepted e = false → written e.1 = [] := by
  have hbodies : ((acceptedBodies s session.id).map (· ++ [newline])).flatten =
      ((s.log.filter (Reached session.id)).filter Accepted).flatMap fun e => written e.1 := by
    rw [acceptedBodies, List.map_map, ← List.flatMap_def]
    apply List.flatMap_congr
    intro e he
    have hlogged : e ∈ s.log := List.mem_of_mem_filter (List.mem_of_mem_filter he)
    have hgood : e.2 = some .accepted := by
      simpa [Accepted] using List.of_mem_filter he
    exact (h.accepted e hlogged hgood).symm
  rw [hbodies, h.piped hids session hsession, flatMap_filter_iff]
  constructor
  · exact fun hall e he hreached => hall e (List.mem_filter.mpr ⟨he, hreached⟩)
  · intro hall e he
    obtain ⟨hlogged, hreached⟩ := List.mem_filter.mp he
    exact hall e hlogged hreached

/-- The lines in a session's pipe are those of the bodies accepted for it, one body
after the other, whatever was posted to other sessions, if and only if the POSTs to
it that were not accepted left nothing in the pipe. A body may have any number of
lines, and the newline behind it ends the last one. The ids of the sessions, which
the server draws at random, are taken to be distinct. -/
theorem session_lines_iff (actions : List Action)
    (hids : ((run start actions).sessions.map Session.id).Nodup) {session : Session}
    (hsession : session ∈ (run start actions).sessions) :
    frames newline [] session.pipe =
        (acceptedBodies (run start actions) session.id).flatMap
          (fun text => frames newline [] (text ++ [newline])) ↔
      ∀ e ∈ (run start actions).log, Reached session.id e → Accepted e = false →
        written e.1 = [] := by
  rw [← pipe_eq_iff (run_inv actions inv_start) hids hsession, ← frames_texts]
  constructor
  · intro hlines
    have hflat := congrArg List.flatten hlines
    rwa [frames_flatten, frames_flatten, List.nil_append, List.nil_append] at hflat
  · intro hpipe
    rw [hpipe]

def brokenOff : Post :=
  { sessionId := "0a", sizeHint := none, chunks := [.data [123] .taken, .failed], ending := .taken }

def unbroken : Post :=
  { sessionId := "0a", sizeHint := none, chunks := [.data [48] .taken], ending := .taken }

/-- After a POST that broke off the next one is not received as it was accepted. -/
theorem session_lines_torn :
    frames newline [] [123, 48, 10] ≠
      (acceptedBodies (run start [.connect "0a", .post brokenOff, .post unbroken]) "0a").flatMap
        fun text => frames newline [] (text ++ [newline]) := by
  let actions : List Action := [.connect "0a", .post brokenOff, .post unbroken]
  have hsession : { id := "0a", pipe := [123, 48, 10] } ∈ (run start actions).sessions :=
    List.mem_singleton_self _
  intro hlines
  have hclean := (session_lines_iff actions (by decide) hsession).mp hlines
  have hwritten := hclean (brokenOff, some .badRequest) List.mem_cons_self (by decide) (by decide)
  cases hwritten

/-- When the POSTs that were not accepted left nothing behind, a session's client gets
the answers to the requests that were accepted from it, in their order, each as one
event. The requests are faithful and of version 2.0, the sessions' ids are distinct,
the pipe is read without a failure and with pauses only between two lines, and
`serde_json` reads back the lines it has written. -/
theorem session_answered (actions : List Action)
    (hids : ((run start actions).sessions.map Session.id).Nodup) {session : Session}
    (hsession : session ∈ (run start actions).sessions)
    (hclean : ∀ e ∈ (run start actions).log, Reached session.id e → Accepted e = false →
      written e.1 = [])
    {serde : Serde} {reqs : List JsonRpcRequest}
    (hposted : acceptedBodies (run start actions) session.id =
      reqs.map fun req => bytesOf (serde.toString (.request req)))
    (hcarried : ∀ req ∈ reqs, serde.Carries (.request req))
    (hfaithful : ∀ req ∈ reqs, (JsonRpcMessage.request req).Faithful)
    (hversion : ∀ req ∈ reqs, req.jsonrpc = "2.0")
    {reader : Reader} (hreader : items reader = session.pipe)
    (haligned : Aligned newline [] reader) (hsound : ∀ e, .failed e ∉ reader)
    {σ : Type} (router : Router σ) (service : σ) :
    ∃ replies s, (serve serde router (fun _ => none) reader).run
        { service := service, written := [] } = .ok () s ∧ s.written = replies ∧
      List.Forall₂ (fun req m => ∃ response, m = .response response ∧ Says req response)
        reqs replies ∧
      ((∀ m ∈ replies, serde.Carries m) → ∀ chunks : List (List UInt8),
        chunks.flatten = replies.flatMap (lineOf serde) →
          eventStream serde session.id chunks =
            .ok { event := "endpoint", data := "?sessionId=" ++ session.id } ::
              replies.map fun m => .ok { event := "message", data := serde.toString m }) := by
  have hpipe := (pipe_eq_iff (run_inv actions inv_start) hids hsession).mpr hclean
  have hsent : items reader = (reqs.map .request).flatMap (lineOf serde) := by
    rw [hreader, hpipe, hposted, List.map_map, ← List.flatMap_def, List.flatMap_map]
    rfl
  have hserve : ∃ replies s, (serve serde router (fun _ => none) reader).run
      { service := service, written := [] } = .ok () s ∧ s.written = [] ++ replies ∧
      List.Forall₂ (fun req m => ∃ response, m = .response response ∧ Says req response)
        reqs replies :=
    serve_requests hcarried hfaithful hversion hsent haligned hsound (fun _ => rfl) _
  obtain ⟨replies, s, hrun, hwritten, hsays⟩ := hserve
  exact ⟨replies, s, hrun, hwritten, hsays,
    fun hreplies chunks hchunks => eventStream_written hreplies session.id hchunks⟩

def ping : JsonRpcRequest := newRequest 1 "tools/list" (.object [])

def pingText : String :=
  "\x7b\"jsonrpc\":\"2.0\",\"id\":1,\"method\":\"tools/list\",\"params\":\x7b\x7d\x7d"

def pingSerde : Serde :=
  { fromStr := fun text =>
      if text = pingText ++ "\n" then .ok (JsonRpcMessage.request ping).encode
      else .error "expected value at line 1 column 1"
    toString := fun _ => pingText
    rejects := fun _ => "data did not match any variant of untagged enum JsonRpcMessage"
    utf8Error := fun _ => "invalid utf-8 sequence" }

theorem pingSerde_carries : pingSerde.Carries (.request ping) := by
  constructor
  · change (if pingText ++ "\n" = pingText ++ "\n" then
      Except.ok (JsonRpcMessage.request ping).encode
      else .error "expected value at line 1 column 1") = _
    exact if_pos rfl
  · decide

theorem session_answered_ping :
    ∃ replies s, (serve pingSerde (Counter.counterRouter "2025-01-01T00:00:00Z") (fun _ => none)
      ((bytesOf pingText ++ [newline]).map .item)).run { service := 0, written := [] } = .ok () s ∧
      s.written = replies ∧ replies.length = 1 := by
  let actions : List Action :=
    [.connect "0a", .post { sessionId := "0a", sizeHint := none,
                            chunks := [.data (bytesOf pingText) .taken], ending := .taken }]
  have hsession : { id := "0a", pipe := bytesOf pingText ++ [newline] } ∈
      (run start actions).sessions := List.mem_singleton_self _
  have hposted : acceptedBodies (run start actions) "0a" =
      [ping].map fun req => bytesOf (pingSerde.toString (.request req)) := rfl
  let reader : Reader := (bytesOf pingText ++ [newline]).map .item
  have hreader : items reader = bytesOf pingText ++ [newline] := rfl
  have hcarried : ∀ req ∈ [ping], pingSerde.Carries (.request req) := by
    simpa using pingSerde_carries
  have hfaithful : ∀ req ∈ [ping], (JsonRpcMessage.request req).Faithful := by
    simp [JsonRpcMessage.Faithful, ping, newRequest]
  have hversion : ∀ req ∈ [ping], req.jsonrpc = "2.0" := by
    simp [ping, newRequest]
  have hsound : ∀ e, .failed e ∉ reader := by
    simp [reader]
  obtain ⟨replies, s, hrun, hwritten, hsays, _⟩ := session_answered actions (by decide) hsession
    (by decide) hposted hcarried hfaithful hversion hreader (aligned_items _ _) hsound
    (Counter.counterRouter "2025-01-01T00:00:00Z") 0
  exact ⟨replies, s, hrun, hwritten, hsays.length_eq.symm⟩

end IdxWorkspace.Mcp.App
