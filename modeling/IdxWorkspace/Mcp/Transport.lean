import IdxWorkspace.Library.History
import IdxWorkspace.Mcp.Client

/-!
What the client's transports share: many tasks, one client, an actor and its
table of pending requests. A task holds the lock of the service from its
`next_id.fetch_add` to the end of its call, but a call may be given up while its
request is still under way, and the other side may send anything at any time. The
actor passes a message on by its id alone, to whatever response channel is filed
under it.

The log records what happened to each call. The invariant is that it goes in
order: a call is taken up at most once, answered at most once, by a message under
its own id that came after its request was sent, and is over at most once.
-/

namespace IdxWorkspace.Mcp

open Library Library.History

/-- A call of `send_request`. Its ticket tells its response channel from all others. -/
structure Call where
  ticket : Nat
  id : UInt64
  deriving DecidableEq

/-- A message on its way to the actor, and the call whose channel it brings along. -/
structure TransportMessage where
  message : JsonRpcMessage
  responseTx : Option Call

inductive Event where
  /-- The actor has taken the request to write it. -/
  | sent (c : Call)
  /-- The actor has taken the request, and only told the call that it cannot write it. -/
  | refused (c : Call)
  | answered (c : Call) (m : JsonRpcMessage)
  | ended (c : Call) (expected : UInt64) (outcome : Except ServiceError JsonRpcMessage)
  | dropped (c : Call)

structure Traffic where
  nextId : UInt64
  tickets : Nat
  /-- The call that holds the lock of the service. -/
  holder : Option Call
  /-- What is in the response channel of that call. -/
  mailbox : Option (Except ServiceError JsonRpcMessage)
  queue : List TransportMessage
  /-- The actor still holds its end of the queue. -/
  accepting : Bool
  pending : List (UInt64 × Call)
  log : List Event

namespace Traffic

/-- `McpClient::new` on a transport that has just started. -/
def start : Traffic :=
  { nextId := 1, tickets := 0, holder := none, mailbox := none, queue := [], accepting := true,
    pending := [], log := [] }

/-- The calls whose channels can still be sent to. -/
def senders (t : Traffic) : List Call :=
  t.queue.filterMap TransportMessage.responseTx ++ t.pending.map Prod.snd

/-- The places of the queue. A message behind them waits for its place. -/
def places : Nat := 32

/-- The message of a task. -/
def enqueue (t : Traffic) (tm : TransportMessage) : Traffic :=
  if t.accepting then { t with queue := t.queue ++ [tm] } else t

def request (t : Traffic) (method : String) (params : Value) : Traffic :=
  let c : Call := { ticket := t.tickets, id := t.nextId }
  enqueue
    { t with nextId := t.nextId + 1, tickets := t.tickets + 1, holder := some c, mailbox := none }
    { message := .request (newRequest c.id method params), responseTx := some c }

def notify (t : Traffic) (method : String) (params : Value) : Traffic :=
  enqueue t { message := .notification ⟨"2.0", method, some params⟩, responseTx := none }

/-- What the response channel of the holder gives, once it has a message or was closed. -/
def received (t : Traffic) : Option (Call × Except ServiceError JsonRpcMessage) :=
  match t.holder, t.mailbox with
  | some c, some r => some (c, r)
  | some c, none => if c ∈ t.senders then none else some (c, .error .channelClosed)
  | none, _ => none

/-- The end of the holder's call. -/
def finish (t : Traffic) (c : Call) (outcome : Except ServiceError JsonRpcMessage) : Traffic :=
  { t with
    holder := none, mailbox := none, log := t.log ++ [.ended c (t.nextId - 1) outcome] }

/-- The holder's call is given up, for its timeout or by its caller, and with it the
message if it still waits for its place. -/
def giveUp (t : Traffic) (c : Call) : Traffic :=
  { t with
    queue := t.queue.take places
    holder := none, mailbox := none, log := t.log ++ [.dropped c] }

/-- What is sent to a call that was given up is lost. -/
def tell (t : Traffic) (c : Call) (r : Except ServiceError JsonRpcMessage) :
    Option (Except ServiceError JsonRpcMessage) :=
  if t.holder = some c then some r else t.mailbox

/-- `PendingRequests::insert` -/
def insert (t : Traffic) (id : UInt64) (c : Call) : Traffic :=
  { t with pending := (id, c) :: t.pending.filter (·.1 ≠ id), log := t.log ++ [.sent c] }

/-- `PendingRequests::respond` -/
def respond (t : Traffic) (id : UInt64) (m : JsonRpcMessage) : Traffic :=
  match t.pending.find? (·.1 = id) with
  | none => t
  | some (_, c) =>
      { t with
        pending := t.pending.filter (·.1 ≠ id)
        mailbox := t.tell c (.ok m)
        log := t.log ++ [.answered c m] }

/-- `PendingRequests::clear` -/
def clear (t : Traffic) : Traffic := { t with pending := [] }

/-- The actor drops its end of the queue. -/
def close (t : Traffic) : Traffic := { t with queue := [], accepting := false }

/-- A response that the actor sends at once. -/
def refuse (t : Traffic) (c : Call) : Traffic :=
  { t with mailbox := t.tell c (.error .notConnected), log := t.log ++ [.refused c] }

def requestId : JsonRpcMessage → Option UInt64
  | .request r => r.id
  | _ => none

/-- The actor takes a message to write it; only a request is filed. -/
def forward (t : Traffic) (tm : TransportMessage) (rest : List TransportMessage) : Traffic :=
  let t := { t with queue := rest }
  match tm.responseTx, requestId tm.message with
  | some c, some id => t.insert id c
  | _, _ => t

/-- A message from the other side. -/
def incoming (t : Traffic) (m : JsonRpcMessage) : Traffic :=
  match m with
  | .response r =>
      match r.id with
      | some id => t.respond id m
      | none => t
  | .error e =>
      match e.id with
      | some id => t.respond id m
      | none => t
  | _ => t

section Fields

variable (t : Traffic) (tm : TransportMessage) (rest : List TransportMessage)
variable (id : UInt64) (m : JsonRpcMessage)

@[simp]
theorem forward_queue : (t.forward tm rest).queue = rest := by
  unfold forward
  split <;> rfl

@[simp]
theorem forward_accepting : (t.forward tm rest).accepting = t.accepting := by
  unfold forward
  split <;> rfl

@[simp]
theorem forward_tickets : (t.forward tm rest).tickets = t.tickets := by
  unfold forward
  split <;> rfl

@[simp]
theorem forward_holder : (t.forward tm rest).holder = t.holder := by
  unfold forward
  split <;> rfl

@[simp]
theorem forward_mailbox : (t.forward tm rest).mailbox = t.mailbox := by
  unfold forward
  split <;> rfl

@[simp]
theorem respond_queue : (t.respond id m).queue = t.queue := by
  unfold respond
  split <;> rfl

@[simp]
theorem respond_accepting : (t.respond id m).accepting = t.accepting := by
  unfold respond
  split <;> rfl

@[simp]
theorem respond_tickets : (t.respond id m).tickets = t.tickets := by
  unfold respond
  split <;> rfl

@[simp]
theorem respond_holder : (t.respond id m).holder = t.holder := by
  unfold respond
  split <;> rfl

/-- A message that is handed to nobody leaves the channel of the holder alone. -/
theorem respond_mailbox :
    (t.respond id m).mailbox = t.mailbox ∨ (t.respond id m).mailbox = some (.ok m) := by
  unfold respond
  split
  · exact Or.inl rfl
  · rename_i key c _
    change t.tell c (.ok m) = t.mailbox ∨ t.tell c (.ok m) = some (.ok m)
    unfold tell
    split
    · exact Or.inr rfl
    · exact Or.inl rfl

theorem incoming_mailbox :
    (t.incoming m).mailbox = t.mailbox ∨ (t.incoming m).mailbox = some (.ok m) := by
  unfold incoming
  split
  · split
    · exact t.respond_mailbox _ _
    · exact Or.inl rfl
  · split
    · exact t.respond_mailbox _ _
    · exact Or.inl rfl
  · exact Or.inl rfl

theorem forward_log : t.log <+: (t.forward tm rest).log := by
  unfold forward
  split
  · exact List.prefix_append _ _
  · exact List.prefix_refl _

theorem respond_log : t.log <+: (t.respond id m).log := by
  unfold respond
  split
  · exact List.prefix_refl _
  · exact List.prefix_append _ _

theorem incoming_log : t.log <+: (t.incoming m).log := by
  unfold incoming
  split
  · split
    · exact t.respond_log _ _
    · exact List.prefix_refl _
  · split
    · exact t.respond_log _ _
    · exact List.prefix_refl _
  · exact List.prefix_refl _

/-- A call stays filed when another id is answered. -/
theorem filed_respond {c : Call} (hfiled : (c.id, c) ∈ t.pending) (hid : c.id ≠ id) :
    (c.id, c) ∈ (t.respond id m).pending := by
  unfold respond
  split
  · exact hfiled
  · exact List.mem_filter.mpr ⟨hfiled, by simpa using hid⟩

end Fields

end Traffic

def Event.call : Event → Call
  | .sent c => c
  | .refused c => c
  | .answered c _ => c
  | .ended c _ _ => c
  | .dropped c => c

/-- The actor takes the call's request with this event. -/
def Event.Takes : Event → Prop
  | .sent _ => True
  | .refused _ => True
  | _ => False

def Event.Answers : Event → Prop
  | .answered _ _ => True
  | _ => False

/-- The call is over with this event. -/
def Event.Final : Event → Prop
  | .ended _ _ _ => True
  | .dropped _ => True
  | _ => False

/-- The id of a message that may answer a call. -/
def replyId : JsonRpcMessage → Option UInt64
  | .response r => r.id
  | .error e => e.id
  | _ => none

/-- A message that may answer a call is handed to the call filed under its id. -/
theorem Traffic.incoming_eq (t : Traffic) {m : JsonRpcMessage} {id : UInt64}
    (h : replyId m = some id) : t.incoming m = t.respond id m := by
  cases m with
  | response r =>
      have hid : r.id = some id := h
      simp only [Traffic.incoming, hid]
  | error e =>
      have hid : e.id = some id := h
      simp only [Traffic.incoming, hid]
  | request r | notification n | nil => cases h

/-- A message without an id is for no call. -/
theorem Traffic.incoming_of_stray (t : Traffic) {m : JsonRpcMessage} (h : replyId m = none) :
    t.incoming m = t := by
  cases m with
  | response r =>
      have hid : r.id = none := h
      simp only [Traffic.incoming, hid]
  | error e =>
      have hid : e.id = none := h
      simp only [Traffic.incoming, hid]
  | request r | notification n | nil => rfl

/-- What comes from the other side leaves alone what goes there. -/
theorem Traffic.incoming_same (t : Traffic) (m : JsonRpcMessage) :
    (t.incoming m).queue = t.queue ∧ (t.incoming m).accepting = t.accepting ∧
      (t.incoming m).holder = t.holder ∧ (t.incoming m).tickets = t.tickets := by
  unfold Traffic.incoming
  split
  · split <;> simp
  · split <;> simp
  · exact ⟨rfl, rfl, rfl, rfl⟩

def Taken (before : List Event) (c : Call) : Prop := .sent c ∈ before ∨ .refused c ∈ before

def Open (before : List Event) (c : Call) : Prop := ∀ e ∈ before, e.call = c → ¬ e.Final

/-- What a call is told has happened to it. -/
def Told (before : List Event) (c : Call) : Except ServiceError JsonRpcMessage → Prop
  | .ok m => .answered c m ∈ before
  | .error .notConnected => .refused c ∈ before
  | .error _ => True

/-- What may follow a log. -/
def Allowed (before : List Event) : Event → Prop
  | .sent c => ¬ Taken before c
  | .refused c => ¬ Taken before c
  | .answered c m => .sent c ∈ before ∧ (∀ m', .answered c m' ∉ before) ∧
      replyId m = some c.id ∧ m.Faithful
  | .ended c expected outcome => Open before c ∧ expected = c.id ∧ Told before c outcome
  | .dropped c => Open before c

namespace Traffic

/-- What every step of a transport keeps. -/
structure Inv (t : Traffic) : Prop where
  addressed : ∀ tm ∈ t.queue, ∀ c, tm.responseTx = some c → requestId tm.message = some c.id
  filed : ∀ p ∈ t.pending, p.1 = p.2.id ∧ .sent p.2 ∈ t.log
  untaken : ∀ tm ∈ t.queue, ∀ c, tm.responseTx = some c → ¬ Taken t.log c
  next : t.nextId = UInt64.ofNat (t.tickets + 1)
  numbered : ∀ c ∈ t.senders, c.id = UInt64.ofNat (c.ticket + 1)
  once : t.senders.Nodup
  unanswered : ∀ c ∈ t.senders, ∀ m, .answered c m ∉ t.log
  issued : ∀ c ∈ t.senders, c.ticket < t.tickets
  recorded : ∀ e ∈ t.log, e.call.ticket < t.tickets
  waiting : ∀ c, t.holder = some c →
    c.id + 1 = t.nextId ∧ c.ticket < t.tickets ∧ Open t.log c
  delivered : ∀ r, t.mailbox = some r → ∃ c, t.holder = some c ∧ Told t.log c r
  orderly : AtEvery Allowed t.log

theorem inv_start : Inv start := by
  constructor <;> simp [start, senders]

theorem mem_senders {t : Traffic} {c : Call} :
    c ∈ t.senders ↔
      (∃ tm ∈ t.queue, tm.responseTx = some c) ∨ ∃ p ∈ t.pending, p.2 = c := by
  simp [senders, List.mem_filterMap]

end Traffic

theorem Told.append {before : List Event} {c : Call} {r : Except ServiceError JsonRpcMessage}
    (h : Told before c r) (e : Event) : Told (before ++ [e]) c r := by
  rcases r with e' | m
  · cases e' with
    | notConnected => exact List.mem_append_left _ h
    | channelClosed | unsupportedMessage | stdioProcessError _ | timeout => trivial
  · exact List.mem_append_left _ h

theorem taken_append {before : List Event} {c : Call} {e : Event} :
    Taken (before ++ [e]) c ↔ Taken before c ∨ e = .sent c ∨ e = .refused c := by
  simp only [Taken, List.mem_append, List.mem_singleton]
  grind

theorem Open.append {before : List Event} {c : Call} (h : Open before c) {e : Event}
    (he : e.call = c → ¬ e.Final) : Open (before ++ [e]) c := by
  intro e' he' hcall
  rcases List.mem_append.mp he' with hold | hlast
  · exact h e' hold hcall
  · rw [List.mem_singleton.mp hlast] at hcall ⊢
    exact he hcall

namespace Traffic.Inv

variable {t t' : Traffic}

/-- A new call is known to nobody. -/
theorem fresh (h : t.Inv) {c : Call} (hc : c.ticket = t.tickets) :
    c ∉ t.senders ∧ ∀ e ∈ t.log, e.call ≠ c := by
  constructor
  · intro hmem
    have hlt := h.issued c hmem
    omega
  · rintro e he rfl
    have hlt := h.recorded e he
    omega

/-- As long as the ids have not come round, no two channels are filed under one id. -/
theorem eq_of_id (h : t.Inv) (htickets : t.tickets < 18446744073709551616) {c c' : Call}
    (hc : c ∈ t.senders) (hc' : c' ∈ t.senders) (hid : c'.id = c.id) : c' = c := by
  have hlt := h.issued c hc
  have hlt' := h.issued c' hc'
  have hnumber : (c'.ticket + 1) % 18446744073709551616 =
      (c.ticket + 1) % 18446744073709551616 := by
    rw [h.numbered c hc, h.numbered c' hc'] at hid
    simpa using congrArg UInt64.toNat hid
  have hticket : c'.ticket = c.ticket := by omega
  cases c
  cases c'
  simp_all

/-- With fewer channels the rest is kept. -/
theorem mono (h : t.Inv) (hqueue : t'.queue.Sublist t.queue)
    (hpending : t'.pending.Sublist t.pending) (hid : t'.nextId = t.nextId)
    (htickets : t'.tickets = t.tickets) (hholder : t'.holder = t.holder)
    (hmailbox : t'.mailbox = t.mailbox) (hlog : t'.log = t.log) : t'.Inv := by
  have hsenders : t'.senders.Sublist t.senders :=
    (hqueue.filterMap _).append (hpending.map _)
  constructor
  · exact fun tm htm => h.addressed tm (hqueue.subset htm)
  · rw [hlog]
    exact fun p hp => h.filed p (hpending.subset hp)
  · rw [hlog]
    exact fun tm htm => h.untaken tm (hqueue.subset htm)
  · rw [hid, htickets]
    exact h.next
  · exact fun c hc => h.numbered c (hsenders.subset hc)
  · exact h.once.sublist hsenders
  · rw [hlog]
    exact fun c hc => h.unanswered c (hsenders.subset hc)
  · rw [htickets]
    exact fun c hc => h.issued c (hsenders.subset hc)
  · rw [hlog, htickets]
    exact h.recorded
  · rw [hholder, hid, htickets, hlog]
    exact h.waiting
  · rw [hmailbox, hholder, hlog]
    exact h.delivered
  · rw [hlog]
    exact h.orderly

/-- One event is recorded, of which the channels and the holder that are left know
nothing new. -/
theorem record (h : t.Inv) {e : Event} (hallowed : Allowed t.log e)
    (hissued : e.call.ticket < t.tickets) (hlog : t'.log = t.log ++ [e])
    (hid : t'.nextId = t.nextId) (htickets : t'.tickets = t.tickets)
    (hqueue : t'.queue.Sublist t.queue)
    (htaken : ∀ tm ∈ t'.queue, ∀ c, tm.responseTx = some c → e ≠ .sent c ∧ e ≠ .refused c)
    (hpending : ∀ p ∈ t'.pending, p ∈ t.pending ∨ p.1 = p.2.id ∧ e = .sent p.2)
    (honce : t'.senders.Nodup)
    (hsenders : ∀ c ∈ t'.senders, c ∈ t.senders ∧ ∀ m, e ≠ .answered c m)
    (hholder : ∀ c, t'.holder = some c → t.holder = some c ∧ (e.call = c → ¬ e.Final))
    (hmailbox : ∀ r, t'.mailbox = some r → ∃ c, t'.holder = some c ∧ Told t'.log c r) :
    t'.Inv := by
  constructor
  · exact fun tm htm => h.addressed tm (hqueue.subset htm)
  · intro p hp
    rw [hlog]
    rcases hpending p hp with hold | ⟨hkey, rfl⟩
    · exact ⟨(h.filed p hold).1, List.mem_append_left _ (h.filed p hold).2⟩
    · exact ⟨hkey, by simp⟩
  · intro tm htm c hc
    rw [hlog, taken_append, not_or, not_or]
    exact ⟨h.untaken tm (hqueue.subset htm) c hc, htaken tm htm c hc⟩
  · rw [hid, htickets]
    exact h.next
  · exact fun c hc => h.numbered c (hsenders c hc).1
  · exact honce
  · intro c hc m
    obtain ⟨hold, hne⟩ := hsenders c hc
    rw [hlog, List.mem_append, List.mem_singleton, not_or]
    exact ⟨h.unanswered c hold m, Ne.symm (hne m)⟩
  · intro c hc
    rw [htickets]
    exact h.issued c (hsenders c hc).1
  · intro e' he'
    rw [htickets]
    rw [hlog] at he'
    rcases List.mem_append.mp he' with hold | hlast
    · exact h.recorded e' hold
    · rw [List.mem_singleton.mp hlast]
      exact hissued
  · intro c hc
    obtain ⟨hold, hfinal⟩ := hholder c hc
    obtain ⟨hnext, hticket, hopen⟩ := h.waiting c hold
    rw [hid, htickets, hlog]
    exact ⟨hnext, hticket, hopen.append hfinal⟩
  · exact hmailbox
  · rw [hlog]
    exact (atEvery_snoc _ _).mpr ⟨h.orderly, hallowed⟩

/-- A call that is about to be sent: its channel can be filed once it is on its way. -/
theorem enqueue (h : t.Inv) {tm : TransportMessage}
    (haddressed : ∀ c, tm.responseTx = some c → requestId tm.message = some c.id)
    (hnew : ∀ c, tm.responseTx = some c →
      c ∉ t.senders ∧ (∀ e ∈ t.log, e.call ≠ c) ∧ c.ticket < t.tickets ∧
        c.id = UInt64.ofNat (c.ticket + 1)) :
    (t.enqueue tm).Inv := by
  unfold Traffic.enqueue
  split
  · have hmem {c : Call} : c ∈ senders { t with queue := t.queue ++ [tm] } ↔
        c ∈ t.senders ∨ tm.responseTx = some c := by
      simp only [mem_senders]
      grind
    constructor
    · intro tm' htm' c hc
      rcases List.mem_append.mp htm' with hold | hlast
      · exact h.addressed tm' hold c hc
      · rw [List.mem_singleton.mp hlast] at hc ⊢
        exact haddressed c hc
    · exact h.filed
    · intro tm' htm' c hc htaken
      rcases List.mem_append.mp htm' with hold | hlast
      · exact h.untaken tm' hold c hc htaken
      · rw [List.mem_singleton.mp hlast] at hc
        rcases htaken with hsent | hrefused
        · exact (hnew c hc).2.1 _ hsent rfl
        · exact (hnew c hc).2.1 _ hrefused rfl
    · exact h.next
    · intro c hc
      rcases hmem.mp hc with hold | hlast
      · exact h.numbered c hold
      · exact (hnew c hlast).2.2.2
    · have honce := h.once
      cases hc : tm.responseTx with
      | none => simpa [senders, List.filterMap_append, hc] using honce
      | some c =>
          have hperm : (senders { t with queue := t.queue ++ [tm] }).Perm (c :: t.senders) := by
            simp [senders, List.filterMap_append, hc]
          exact hperm.nodup_iff.mpr (List.nodup_cons.mpr ⟨(hnew c hc).1, honce⟩)
    · intro c hc m hanswered
      rcases hmem.mp hc with hold | hlast
      · exact h.unanswered c hold m hanswered
      · exact (hnew c hlast).2.1 _ hanswered rfl
    · intro c hc
      rcases hmem.mp hc with hold | hlast
      · exact h.issued c hold
      · exact (hnew c hlast).2.2.1
    · exact h.recorded
    · exact h.waiting
    · exact h.delivered
    · exact h.orderly
  · exact h

theorem request (h : t.Inv) (method : String) (params : Value) : (t.request method params).Inv := by
  obtain ⟨hsenders, hlog⟩ :=
    h.fresh (rfl : Call.ticket { ticket := t.tickets, id := t.nextId } = t.tickets)
  apply enqueue
  · constructor
    · exact h.addressed
    · exact h.filed
    · exact h.untaken
    · change t.nextId + 1 = UInt64.ofNat (t.tickets + 1 + 1)
      rw [h.next, UInt64.ofNat_add (t.tickets + 1) 1]
      rfl
    · exact h.numbered
    · exact h.once
    · exact h.unanswered
    · exact fun c hc => Nat.lt_succ_of_lt (h.issued c hc)
    · exact fun e he => Nat.lt_succ_of_lt (h.recorded e he)
    · rintro c ⟨⟩
      exact ⟨rfl, Nat.lt_succ_self _, fun e he hcall => absurd hcall (hlog e he)⟩
    · rintro r ⟨⟩
    · exact h.orderly
  · rintro c ⟨⟩
    rfl
  · rintro c ⟨⟩
    exact ⟨hsenders, hlog, Nat.lt_succ_self _, h.next⟩

theorem notify (h : t.Inv) (method : String) (params : Value) : (t.notify method params).Inv :=
  h.enqueue nofun nofun

/-- The end of the holder's call, however it ends. -/
theorem release (h : t.Inv) {c : Call} (hc : t.holder = some c) {e : Event} (hcall : e.call = c)
    (hallowed : Allowed t.log e) (hfinal : e.Final) :
    Inv { t with holder := none, mailbox := none, log := t.log ++ [e] } := by
  have hneither (c' : Call) : e ≠ .sent c' ∧ e ≠ .refused c' := by
    constructor <;> rintro rfl <;> exact hfinal
  have hanswered (c' : Call) (m : JsonRpcMessage) : e ≠ .answered c' m := by
    rintro rfl
    exact hfinal
  have hissued : e.call.ticket < t.tickets := by
    rw [hcall]
    exact (h.waiting c hc).2.1
  refine h.record hallowed hissued rfl rfl rfl (List.Sublist.refl _) ?_ ?_ h.once ?_ ?_ ?_
  · exact fun tm _ c' _ => hneither c'
  · exact fun p hp => Or.inl hp
  · exact fun c' hc' => ⟨hc', hanswered c'⟩
  · rintro c' ⟨⟩
  · rintro r ⟨⟩

theorem received (h : t.Inv) {c : Call} {r : Except ServiceError JsonRpcMessage}
    (hreceived : t.received = some (c, r)) : t.holder = some c ∧ Told t.log c r := by
  unfold Traffic.received at hreceived
  split at hreceived
  · rename_i c' r' hholder hmailbox
    cases hreceived
    obtain ⟨c', hc', htold⟩ := h.delivered r hmailbox
    rw [hholder] at hc'
    cases hc'
    exact ⟨hholder, htold⟩
  · rename_i c' hholder _
    split at hreceived
    · cases hreceived
    · cases hreceived
      exact ⟨hholder, trivial⟩
  · cases hreceived

theorem finish (h : t.Inv) {c : Call} (hc : t.holder = some c)
    {outcome : Except ServiceError JsonRpcMessage} (htold : Told t.log c outcome) :
    (t.finish c outcome).Inv := by
  obtain ⟨hid, _, hopen⟩ := h.waiting c hc
  have hexpected : t.nextId - 1 = c.id := by
    rw [← hid]
    exact UInt64.add_sub_cancel _ _
  have hallowed : Allowed t.log (.ended c (t.nextId - 1) outcome) := ⟨hopen, hexpected, htold⟩
  exact h.release hc rfl hallowed trivial

theorem giveUp (h : t.Inv) {c : Call} (hc : t.holder = some c) : (t.giveUp c).Inv := by
  have hallowed : Allowed t.log (.dropped c) := (h.waiting c hc).2.2
  have hless : Inv { t with queue := t.queue.take places } :=
    h.mono (List.take_sublist _ _) (List.Sublist.refl _) rfl rfl rfl rfl rfl
  exact hless.release hc rfl hallowed trivial

/-- Whoever is told something by an event, has it in its channel. -/
theorem told (h : t.Inv) {c : Call} {r : Except ServiceError JsonRpcMessage} {e : Event}
    (he : Told (t.log ++ [e]) c r) :
    ∀ r', t.tell c r = some r' → ∃ c', t.holder = some c' ∧ Told (t.log ++ [e]) c' r' := by
  intro r' hr'
  unfold Traffic.tell at hr'
  split at hr'
  · rename_i hholder
    cases hr'
    exact ⟨c, hholder, he⟩
  · obtain ⟨c', hc', htold⟩ := h.delivered r' hr'
    exact ⟨c', hc', htold.append e⟩

/-- The channel at the head of the queue is nowhere else. -/
theorem head (h : t.Inv) {tm : TransportMessage} {rest : List TransportMessage}
    (hqueue : t.queue = tm :: rest) {c : Call} (hc : tm.responseTx = some c) :
    c ∈ t.senders ∧ c ∉ senders { t with queue := rest } ∧ ¬ Taken t.log c := by
  have hhead : tm ∈ t.queue := by
    rw [hqueue]
    exact List.mem_cons_self
  have honce := h.once
  simp only [senders, hqueue, List.filterMap_cons, hc, List.cons_append, List.nodup_cons] at honce
  exact ⟨mem_senders.mpr (Or.inl ⟨tm, hhead, hc⟩), honce.1, h.untaken tm hhead c hc⟩

theorem take (h : t.Inv) {tm : TransportMessage} {rest : List TransportMessage}
    (hqueue : t.queue = tm :: rest) : Inv { t with queue := rest } := by
  have hsub : rest.Sublist t.queue := by
    rw [hqueue]
    exact List.sublist_cons_self tm rest
  exact h.mono hsub (List.Sublist.refl _) rfl rfl rfl rfl rfl

theorem refuse (h : t.Inv) {tm : TransportMessage} {rest : List TransportMessage}
    (hqueue : t.queue = tm :: rest) {c : Call} (hc : tm.responseTx = some c) :
    (Traffic.refuse { t with queue := rest } c).Inv := by
  obtain ⟨hsender, hgone, huntaken⟩ := h.head hqueue hc
  have hrest := h.take hqueue
  have hallowed : Allowed t.log (.refused c) := huntaken
  refine hrest.record hallowed (h.issued c hsender) rfl rfl rfl (List.Sublist.refl _) ?_ ?_
    hrest.once ?_ ?_ ?_
  · intro tm' htm' c' hc'
    refine ⟨nofun, ?_⟩
    rintro ⟨⟩
    exact hgone (mem_senders.mpr (Or.inl ⟨tm', htm', hc'⟩))
  · exact fun p hp => Or.inl hp
  · exact fun c' hc' => ⟨hc', nofun⟩
  · exact fun c' hc' => ⟨hc', fun _ => not_false⟩
  · exact hrest.told (List.mem_append_right _ (List.mem_singleton_self _))

theorem forward (h : t.Inv) {tm : TransportMessage} {rest : List TransportMessage}
    (hqueue : t.queue = tm :: rest) : (t.forward tm rest).Inv := by
  have hrest := h.take hqueue
  unfold Traffic.forward
  split
  · rename_i c id hc hid
    obtain ⟨hsender, hgone, huntaken⟩ := h.head hqueue hc
    rw [h.addressed tm (hqueue ▸ List.mem_cons_self) c hc] at hid
    cases hid
    have hallowed : Allowed t.log (.sent c) := huntaken
    have hsub : (rest.filterMap TransportMessage.responseTx ++
        (t.pending.filter (·.1 ≠ c.id)).map Prod.snd).Sublist (senders { t with queue := rest }) :=
      (List.Sublist.refl _).append (List.filter_sublist.map _)
    have hperm : (senders (Traffic.insert { t with queue := rest } c.id c)).Perm
        (c :: (rest.filterMap TransportMessage.responseTx ++
          (t.pending.filter (·.1 ≠ c.id)).map Prod.snd)) := by
      simp [senders, Traffic.insert]
    have hsubset : senders { t with queue := rest } ⊆ t.senders := by
      intro c' hc'
      simp only [senders, hqueue, List.filterMap_cons, hc, List.cons_append] at hc' ⊢
      exact List.mem_cons_of_mem c hc'
    have hshorter : rest.Sublist t.queue := by
      rw [hqueue]
      exact List.sublist_cons_self tm rest
    change (Traffic.insert { t with queue := rest } c.id c).Inv
    refine h.record hallowed (h.issued c hsender) rfl rfl rfl hshorter ?_ ?_ ?_ ?_ ?_ ?_
    · intro tm' htm' c' hc'
      refine ⟨?_, nofun⟩
      rintro ⟨⟩
      exact hgone (mem_senders.mpr (Or.inl ⟨tm', htm', hc'⟩))
    · intro p hp
      rcases List.mem_cons.mp hp with rfl | hold
      · exact Or.inr ⟨rfl, rfl⟩
      · exact Or.inl (List.mem_of_mem_filter hold)
    · exact hperm.nodup_iff.mpr
        (List.nodup_cons.mpr ⟨fun hmem => hgone (hsub.subset hmem), hrest.once.sublist hsub⟩)
    · intro c' hc'
      refine ⟨?_, nofun⟩
      rcases List.mem_cons.mp (hperm.subset hc') with rfl | hold
      · exact hsender
      · exact hsubset (hsub.subset hold)
    · exact fun c' hc' => ⟨hc', fun _ => not_false⟩
    · intro r hr
      obtain ⟨c', hc', htold⟩ := h.delivered r hr
      exact ⟨c', hc', htold.append _⟩
  · exact hrest

/-- A message that is taken opens no channel, and closes none whose id is its own. -/
theorem forward_senders (h : t.Inv) {tm : TransportMessage} {rest : List TransportMessage}
    (hqueue : t.queue = tm :: rest) :
    (t.forward tm rest).senders ⊆ t.senders ∧
      ∀ c ∈ t.senders, (∀ c' ∈ t.senders, c'.id = c.id → c' = c) →
        c ∈ (t.forward tm rest).senders := by
  have hhead : tm ∈ t.queue := by
    rw [hqueue]
    exact List.mem_cons_self
  cases hc : tm.responseTx with
  | none =>
      have hforward : t.forward tm rest = { t with queue := rest } := by
        simp only [Traffic.forward, hc]
      have hsame : senders { t with queue := rest } = t.senders := by
        simp [senders, hqueue, hc]
      rw [hforward, hsame]
      exact ⟨List.Subset.refl _, fun c hmem _ => hmem⟩
  | some c =>
      have hforward : t.forward tm rest = Traffic.insert { t with queue := rest } c.id c := by
        simp only [Traffic.forward, hc, h.addressed tm hhead c hc]
      have hsender : c ∈ t.senders := mem_senders.mpr (Or.inl ⟨tm, hhead, hc⟩)
      rw [hforward]
      constructor
      · intro c' hc'
        rcases mem_senders.mp hc' with ⟨tm', htm', hc'⟩ | ⟨p, hp, rfl⟩
        · refine mem_senders.mpr (Or.inl ⟨tm', ?_, hc'⟩)
          rw [hqueue]
          exact List.mem_cons_of_mem tm htm'
        · rcases List.mem_cons.mp hp with rfl | hold
          · exact hsender
          · exact mem_senders.mpr (Or.inr ⟨p, List.mem_of_mem_filter hold, rfl⟩)
      · intro c' hc' hunique
        by_cases hid : c.id = c'.id
        · rw [← hunique c hsender hid]
          exact mem_senders.mpr (Or.inr ⟨_, List.mem_cons_self, rfl⟩)
        · rcases mem_senders.mp hc' with ⟨tm', htm', htx⟩ | ⟨p, hp, rfl⟩
          · rw [hqueue] at htm'
            rcases List.mem_cons.mp htm' with rfl | hrest
            · rw [hc] at htx
              cases htx
              exact absurd rfl hid
            · exact mem_senders.mpr (Or.inl ⟨tm', hrest, htx⟩)
          · have hkept : p ∈ t.pending.filter (·.1 ≠ c.id) := by
              rw [List.mem_filter, (h.filed p hp).1]
              exact ⟨hp, decide_eq_true (Ne.symm hid)⟩
            exact mem_senders.mpr (Or.inr ⟨p, List.mem_cons_of_mem _ hkept, rfl⟩)

/-- A message is handed to the call filed under its id, which then has no channel left. -/
theorem respond (h : t.Inv) {m : JsonRpcMessage} (hm : m.Faithful) {id : UInt64}
    (hid : replyId m = some id) : (t.respond id m).Inv := by
  unfold Traffic.respond
  split
  · exact h
  · rename_i key c hfound
    have hpending := List.mem_of_find?_eq_some hfound
    have hkey : key = id := by
      simpa using List.find?_some hfound
    obtain ⟨hown, hsent⟩ := h.filed _ hpending
    have hcall : c.id = id := hown.symm.trans hkey
    have hsender : c ∈ t.senders := mem_senders.mpr (Or.inr ⟨_, hpending, rfl⟩)
    have hsub : (t.queue.filterMap TransportMessage.responseTx ++
        (t.pending.filter (·.1 ≠ id)).map Prod.snd).Sublist t.senders :=
      (List.Sublist.refl _).append (List.filter_sublist.map _)
    have hgone : c ∉ t.queue.filterMap TransportMessage.responseTx ++
        (t.pending.filter (·.1 ≠ id)).map Prod.snd := by
      intro hc
      rcases List.mem_append.mp hc with hqueue | hfiled
      · exact (List.nodup_append.mp h.once).2.2 c hqueue c
          (List.mem_map.mpr ⟨_, hpending, rfl⟩) rfl
      · obtain ⟨p, hp, rfl⟩ := List.mem_map.mp hfiled
        obtain ⟨hp, hne⟩ := List.mem_filter.mp hp
        simp only [ne_eq, decide_not, Bool.not_eq_eq_eq_not, Bool.not_true,
          decide_eq_false_iff_not] at hne
        exact hne ((h.filed p hp).1.trans hcall)
    have hallowed : Allowed t.log (.answered c m) :=
      ⟨hsent, h.unanswered c hsender, by rw [hid, hcall], hm⟩
    refine h.record hallowed (h.issued c hsender) rfl rfl rfl (List.Sublist.refl _) ?_ ?_
      (h.once.sublist hsub) ?_ ?_ ?_
    · exact fun _ _ _ _ => ⟨nofun, nofun⟩
    · exact fun p hp => Or.inl (List.mem_of_mem_filter hp)
    · intro c' hc'
      refine ⟨hsub.subset hc', ?_⟩
      rintro m' ⟨⟩
      exact hgone hc'
    · exact fun c' hc' => ⟨hc', fun _ => not_false⟩
    · exact h.told (List.mem_append_right _ (List.mem_singleton_self _))

/-- As long as the ids have not come round, the holder gets what is sent under its id
once it is filed. -/
theorem respond_own (h : t.Inv) (htickets : t.tickets < 18446744073709551616) {c : Call}
    (hholder : t.holder = some c) (hfiled : (c.id, c) ∈ t.pending) (m : JsonRpcMessage) :
    (t.respond c.id m).mailbox = some (.ok m) := by
  unfold Traffic.respond
  split
  · rename_i hnone
    have hfound := List.find?_eq_none.mp hnone _ hfiled
    exact absurd (decide_eq_true rfl) hfound
  · rename_i key other hfound
    have hmem := List.mem_of_find?_eq_some hfound
    have hkey : key = c.id := by
      simpa using List.find?_some hfound
    have hsame : other = c := h.eq_of_id htickets
      (mem_senders.mpr (Or.inr ⟨_, hfiled, rfl⟩)) (mem_senders.mpr (Or.inr ⟨_, hmem, rfl⟩))
      ((h.filed _ hmem).1.symm.trans hkey)
    rw [hsame]
    exact if_pos hholder

/-- At most one call has been answered by it, one that waits under its id. -/
theorem respond_log (h : t.Inv) (id : UInt64) (m : JsonRpcMessage) :
    (t.respond id m).log = t.log ∨
      ∃ c, c.id = id ∧ (t.respond id m).log = t.log ++ [.answered c m] := by
  unfold Traffic.respond
  split
  · exact Or.inl rfl
  · rename_i key c hfound
    have hkey : key = id := by
      simpa using List.find?_some hfound
    have hown := (h.filed _ (List.mem_of_find?_eq_some hfound)).1
    exact Or.inr ⟨c, hown.symm.trans hkey, rfl⟩

/-- Only a response or an error with an id is handed to anyone. -/
theorem incoming (h : t.Inv) {m : JsonRpcMessage} (hm : m = .nil ∨ m.Faithful) :
    (t.incoming m).Inv := by
  rcases hm with rfl | hm
  · exact h
  · unfold Traffic.incoming
    split
    · split
      · rename_i id hid
        exact h.respond hm hid
      · exact h
    · split
      · rename_i id hid
        exact h.respond hm hid
      · exact h
    · exact h

theorem clear (h : t.Inv) : t.clear.Inv :=
  h.mono (List.Sublist.refl _) (List.nil_sublist _) rfl rfl rfl rfl rfl

theorem close (h : t.Inv) : t.close.Inv :=
  h.mono (List.nil_sublist _) (List.Sublist.refl _) rfl rfl rfl rfl rfl

end Traffic.Inv

/-- A message under the expected id is read or is the other side's error, and is
never found unexpected. -/
theorem conclude_of_reply {R : Type} (parse : Value → Except String R) {m : JsonRpcMessage}
    {id : UInt64} (hm : m.Faithful) (hid : replyId m = some id) :
    (∃ result, conclude parse id m = (parse result).mapError .serialization) ∨
      ∃ code message, conclude parse id m = .error (.rpcError code message) := by
  cases m with
  | response r =>
      obtain ⟨jsonrpc, id', result, error⟩ := r
      obtain ⟨rfl, hresult, _⟩ := hm
      cases hid
      obtain ⟨v, hv⟩ := Option.ne_none_iff_exists'.mp hresult
      left
      exact ⟨v, by simp_all [conclude]⟩
  | error e =>
      right
      exact ⟨e.error.code, e.error.message, by simp_all [conclude, replyId]⟩
  | request r => cases hid
  | notification n => cases hid
  | nil => cases hid

section Ordered

variable {log : List Event} (hlog : AtEvery Allowed log)
include hlog

/-- No two places of the log have a request of one call taken. -/
theorem taken_once :
    log.Pairwise fun e e' => e.Takes → e'.Takes → e.call ≠ e'.call := by
  apply hlog.pairwise
  intro before e' hallowed e he htakes htakes' hcall
  have htaken : Taken before e.call := by
    cases e with
    | sent c => exact Or.inl he
    | refused c => exact Or.inr he
    | answered c m | ended c expected outcome | dropped c => exact htakes.elim
  rw [hcall] at htaken
  cases e' with
  | sent c | refused c => exact hallowed htaken
  | answered c m | ended c expected outcome | dropped c => exact htakes'.elim

theorem answered_once :
    log.Pairwise fun e e' => e.Answers → e'.Answers → e.call ≠ e'.call := by
  apply hlog.pairwise
  intro before e' hallowed e he hanswers hanswers' hcall
  cases e' with
  | answered c' m' =>
      cases e with
      | answered c m =>
          have hsame : c = c' := hcall
          exact hallowed.2.1 m (hsame ▸ he)
      | sent c | refused c | ended c expected outcome | dropped c => exact hanswers.elim
  | sent c | refused c | ended c expected outcome | dropped c => exact hanswers'.elim

theorem over_once :
    log.Pairwise fun e e' => e.Final → e'.Final → e.call ≠ e'.call := by
  apply hlog.pairwise
  intro before e' hallowed e he hfinal hfinal' hcall
  have hopen : Open before e'.call := by
    cases e' with
    | ended c expected outcome => exact hallowed.1
    | dropped c => exact hallowed
    | sent c | refused c | answered c m => exact hfinal'.elim
  exact hopen e he hcall hfinal

/-- A call that returns a message returns the answer to its own request. -/
theorem ended_answered {c : Call} {expected : UInt64} {m : JsonRpcMessage}
    (h : .ended c expected (.ok m) ∈ log) :
    .sent c ∈ log ∧ .answered c m ∈ log ∧ (replyId m = some c.id ∧ expected = c.id) ∧
      m.Faithful := by
  obtain ⟨before, after, hsplit, _, rfl, hanswer⟩ := hlog.of_mem h
  have hanswered : .answered c m ∈ log := by
    rw [hsplit]
    exact List.mem_append_left _ hanswer
  obtain ⟨before', after', hsplit', hsent, _, hid, hfaithful⟩ := hlog.of_mem hanswered
  have hsent : .sent c ∈ log := by
    rw [hsplit']
    exact List.mem_append_left _ hsent
  exact ⟨hsent, hanswered, ⟨hid, rfl⟩, hfaithful⟩

/-- A message under the expected id is never found unexpected. -/
theorem ended_accepted {R : Type} {c : Call} {expected : UInt64} {m : JsonRpcMessage}
    (h : .ended c expected (.ok m) ∈ log) (parse : Value → Except String R) (text : String) :
    conclude parse expected m ≠ .error (.unexpectedResponse text) := by
  obtain ⟨_, _, ⟨hid, rfl⟩, hfaithful⟩ := ended_answered hlog h
  rcases conclude_of_reply parse hfaithful hid with ⟨result, hread⟩ | ⟨code, message, hcode⟩
  · rw [hread]
    cases parse result <;> nofun
  · rw [hcode]
    nofun

end Ordered

/-- What the log tells of every call. What happens once happens at one place of it. -/
structure InOrder (log : List Event) : Prop where
  /-- A message it returns was its answer. -/
  returned : ∀ c expected m, .ended c expected (.ok m) ∈ log →
    .sent c ∈ log ∧ .answered c m ∈ log ∧ replyId m = some c.id ∧ expected = c.id
  /-- `send_request` accepts that message. -/
  accepted : ∀ c expected m, .ended c expected (.ok m) ∈ log →
    ∀ {R : Type} (parse : Value → Except String R) (text : String),
      conclude parse expected m ≠ .error (.unexpectedResponse text)
  /-- The answer comes after the request, and the return after the answer. -/
  inTurn : AtEvery (fun before e => (∀ c m, e = .answered c m → .sent c ∈ before) ∧
    ∀ c expected m, e = .ended c expected (.ok m) → .answered c m ∈ before) log
  takenOnce : log.Pairwise fun e e' => e.Takes → e'.Takes → e.call ≠ e'.call
  answeredOnce : log.Pairwise fun e e' => e.Answers → e'.Answers → e.call ≠ e'.call
  overOnce : log.Pairwise fun e e' => e.Final → e'.Final → e.call ≠ e'.call

theorem inOrder_of_allowed {log : List Event} (h : AtEvery Allowed log) : InOrder log where
  returned c expected m hended := by
    obtain ⟨hsent, hanswered, hid, _⟩ := ended_answered h hended
    exact ⟨hsent, hanswered, hid⟩
  accepted c expected m hended _ parse text := ended_accepted h hended parse text
  inTurn := by
    refine h.mono ?_
    intro before e hallowed
    constructor
    · rintro c m rfl
      exact hallowed.1
    · rintro c expected m rfl
      exact hallowed.2.2
  takenOnce := taken_once h
  answeredOnce := answered_once h
  overOnce := over_once h

end IdxWorkspace.Mcp
