import IdxWorkspace.Library.Framing
import IdxWorkspace.Mcp.Protocol

/-!
The stream side of `ByteTransport`. Each poll reads a line into a buffer of its
own. When the underlying reader has nothing more to give, the poll ends without
a message and the buffer goes with it, so a line that arrives in two parts is
read as its second part only.
-/

namespace IdxWorkspace.Mcp

open Library Library.Framing

/-- `TransportError`, each variant with the text of what it wraps. -/
inductive TransportError where
  | io (e : String)
  | json (e : String)
  | utf8 (e : String)
  | protocol (message : String)
  | invalidMessage (message : String)
  deriving DecidableEq

def TransportError.display : TransportError → String
  | .io e => "IO error: " ++ e
  | .json e => "JSON serialization error: " ++ e
  | .utf8 e => "Invalid UTF-8 sequence: " ++ e
  | .protocol message => "Protocol error: " ++ message
  | .invalidMessage message => "Invalid message format: " ++ message

/-- The text side of `serde_json`, and how a UTF-8 error reads. -/
structure Serde where
  fromStr : String → Except String Value
  toString : JsonRpcMessage → String
  rejects : Value → String
  utf8Error : List UInt8 → String

abbrev Reader := List (Arrival UInt8 String)

inductive Poll (α : Type) where
  | ready (a : α)
  | pending

def newline : UInt8 := 10

def bytesOf (s : String) : List UInt8 := s.toByteArray.data.toList

def fromUtf8 (bytes : List UInt8) : Option String := String.fromUTF8? ⟨bytes.toArray⟩

/-- `read_until(b'\n', &mut buf)`, polled once. -/
def readUntil : List UInt8 → Reader → Poll (Except String (List UInt8)) × Reader
  | buf, [] => (.ready (.ok buf), [])
  | buf, .item b :: rest =>
      if b = newline then (.ready (.ok (buf ++ [b])), rest) else readUntil (buf ++ [b]) rest
  | _, .pending :: rest => (.pending, rest)
  | _, .failed e :: rest => (.ready (.error e), rest)

variable (serde : Serde)

/-- What `poll_next` makes of a line. -/
def parseLine (line : List UInt8) : Except TransportError JsonRpcMessage :=
  match fromUtf8 line with
  | none => .error (.utf8 (serde.utf8Error line))
  | some s =>
      match serde.fromStr s with
      | .error e => .error (.json e)
      | .ok value =>
          if value.asObject.isNone then
            .error (.invalidMessage "Message must be a JSON object")
          else if (value.get "jsonrpc").bind Value.asStr ≠ some "2.0" then
            .error (.invalidMessage "Missing or invalid jsonrpc version")
          else (JsonRpcMessage.decode serde.rejects value).mapError .json

def pollNext (reader : Reader) :
    Poll (Option (Except TransportError JsonRpcMessage)) × Reader :=
  match readUntil [] reader with
  | (.ready (.ok buf), reader') =>
      (.ready (if buf.isEmpty then none else some (parseLine serde buf)), reader')
  | (.ready (.error e), reader') => (.ready (some (.error (.io e))), reader')
  | (.pending, reader') => (.pending, reader')

theorem readUntil_length_le (buf : List UInt8) (reader : Reader) :
    (readUntil buf reader).2.length ≤ reader.length := by
  induction reader generalizing buf with
  | nil => exact Nat.le_refl _
  | cons a reader ih =>
      cases a with
      | item b =>
          rw [readUntil]
          split
          · exact Nat.le_succ _
          · exact Nat.le_succ_of_le (ih _)
      | pending => exact Nat.le_succ _
      | failed e => exact Nat.le_succ _

/-- A poll uses up some of the stream, unless it finds its end. -/
theorem length_lt_of_pollNext {a : Arrival UInt8 String} {reader reader' : Reader}
    {poll : Poll (Option (Except TransportError JsonRpcMessage))}
    (h : pollNext serde (a :: reader) = (poll, reader')) :
    reader'.length < (a :: reader).length := by
  have hrest : reader' = (readUntil [] (a :: reader)).2 := by
    have hsnd : (pollNext serde (a :: reader)).2 = reader' := by rw [h]
    rw [← hsnd, pollNext]
    split <;> rename_i hread <;> rw [hread]
  rw [hrest]
  cases a with
  | item b =>
      rw [readUntil]
      split
      · exact Nat.lt_succ_self _
      · exact Nat.lt_succ_of_le (readUntil_length_le _ _)
  | pending => exact Nat.lt_succ_self _
  | failed e => exact Nat.lt_succ_self _

/-- `transport.next()` until it returns nothing. -/
def messages : Reader → List (Except TransportError JsonRpcMessage)
  | [] => []
  | a :: reader =>
      match h : pollNext serde (a :: reader) with
      | (.ready none, _) => []
      | (.ready (some item), reader') =>
          have := length_lt_of_pollNext serde h
          item :: messages reader'
      | (.pending, reader') =>
          have := length_lt_of_pollNext serde h
          messages reader'
termination_by reader => reader.length
decreasing_by
  · exact this
  · exact this

/-- What a read gives, the server takes as a message. -/
def receive : Except String (List UInt8) → Except TransportError JsonRpcMessage
  | .ok line => parseLine serde line
  | .error e => .error (.io e)

/-- The lines come off the stream as a reader gets them that forgets a line it is
interrupted in. -/
theorem deliver_eq (buf : List UInt8) (reader : Reader) :
    deliver newline buf reader =
      match readUntil buf reader with
      | (.ready (.ok line), reader') =>
          if line.isEmpty then [] else .ok line :: deliver newline [] reader'
      | (.ready (.error e), reader') => .error e :: deliver newline [] reader'
      | (.pending, reader') => deliver newline [] reader' := by
  induction reader generalizing buf with
  | nil => rfl
  | cons a reader ih =>
      cases a with
      | item b =>
          rw [deliver, readUntil]
          split
          · simp
          · exact ih _
      | pending => rfl
      | failed e => rfl

/-- What the polls of a stream yield, from what the first one and the others do. -/
def Poll.followedBy {α : Type} : Poll (Option α) → List α → List α
  | .ready none, _ => []
  | .ready (some item), items => item :: items
  | .pending, items => items

theorem deliver_of_pollNext {reader reader' : Reader}
    {poll : Poll (Option (Except TransportError JsonRpcMessage))}
    (h : pollNext serde reader = (poll, reader')) :
    (deliver newline [] reader).map (receive serde) =
      poll.followedBy ((deliver newline [] reader').map (receive serde)) := by
  rw [deliver_eq]
  unfold pollNext at h
  split at h
  · rename_i buf rest hread
    cases h
    by_cases hbuf : buf.isEmpty <;> simp [hbuf, receive, Poll.followedBy]
  · cases h
    simp [receive, Poll.followedBy]
  · cases h
    simp [Poll.followedBy]

theorem messages_eq (reader : Reader) :
    messages serde reader = (deliver newline [] reader).map (receive serde) := by
  fun_induction messages serde reader with
  | case1 => rfl
  | case2 a reader reader' h => rw [deliver_of_pollNext serde h, Poll.followedBy]
  | case3 a reader item reader' h _ ih => rw [deliver_of_pollNext serde h, Poll.followedBy, ih]
  | case4 a reader reader' h _ ih => rw [deliver_of_pollNext serde h, Poll.followedBy, ih]

/-- Without failures of the reader, what is received are the lines it gets. -/
theorem messages_of_sound {reader : Reader} (hsound : ∀ e, .failed e ∉ reader) :
    messages serde reader = (whole (deliver newline [] reader)).map (parseLine serde) := by
  have hlines : deliver newline [] reader = (whole (deliver newline [] reader)).map .ok :=
    deliver_of_sound hsound
  rw [messages_eq, congrArg (List.map (receive serde)) hlines, List.map_map]
  rfl

/-- What the transport relies on `serde_json` for, to carry a message on a line. -/
structure Serde.Carries (m : JsonRpcMessage) : Prop where
  reads : serde.fromStr (serde.toString m ++ "\n") = .ok m.encode
  oneLine : newline ∉ bytesOf (serde.toString m)

/-- What `write_message` writes. -/
def lineOf (m : JsonRpcMessage) : List UInt8 := bytesOf (serde.toString m) ++ [newline]

theorem bytesOf_newline (s : String) : bytesOf (s ++ "\n") = bytesOf s ++ [newline] := by
  have hlast : bytesOf "\n" = [newline] := rfl
  rw [← hlast]
  simp [bytesOf]

theorem fromUtf8_bytesOf (s : String) : fromUtf8 (bytesOf s) = some s := by
  have hbytes : (⟨(bytesOf s).toArray⟩ : ByteArray) = s.toByteArray := by
    simp [bytesOf]
  rw [fromUtf8, hbytes, String.fromUTF8?, dif_pos s.isValidUTF8]
  rfl

theorem bytesOf_fromUtf8 {bytes : List UInt8} {s : String} (h : fromUtf8 bytes = some s) :
    bytesOf s = bytes := by
  unfold fromUtf8 String.fromUTF8? at h
  split at h
  · cases h
    rfl
  · cases h

variable {serde}

theorem parseLine_lineOf {m : JsonRpcMessage} (h : serde.Carries m) :
    parseLine serde (lineOf serde m) =
      if m.encode.asObject.isNone then
        .error (.invalidMessage "Message must be a JSON object")
      else if (m.encode.get "jsonrpc").bind Value.asStr ≠ some "2.0" then
        .error (.invalidMessage "Missing or invalid jsonrpc version")
      else (JsonRpcMessage.decode serde.rejects m.encode).mapError .json := by
  rw [lineOf, ← bytesOf_newline, parseLine, fromUtf8_bytesOf]
  simp only [h.reads]

/-- The version a message is written with. -/
def JsonRpcMessage.jsonrpc : JsonRpcMessage → Option String
  | .request r => some r.jsonrpc
  | .response r => some r.jsonrpc
  | .notification n => some n.jsonrpc
  | .error e => some e.jsonrpc
  | .nil => none

theorem JsonRpcRaw.get_jsonrpc (raw : JsonRpcRaw) :
    raw.encode.get "jsonrpc" = some (.string raw.jsonrpc) := by
  simp [JsonRpcRaw.encode, Value.get, writeId, lookup_field, List.lookup_append]

theorem get_jsonrpc (m : JsonRpcMessage) :
    (m.encode.get "jsonrpc").bind Value.asStr = m.jsonrpc := by
  cases m with
  | request r => rw [JsonRpcMessage.encode, r.encode_raw, JsonRpcRaw.get_jsonrpc]; rfl
  | response r => rw [JsonRpcMessage.encode, r.encode_raw, JsonRpcRaw.get_jsonrpc]; rfl
  | notification n => rw [JsonRpcMessage.encode, n.encode_raw, JsonRpcRaw.get_jsonrpc]; rfl
  | error e => rw [JsonRpcMessage.encode, e.encode_raw, JsonRpcRaw.get_jsonrpc]; rfl
  | nil => rfl

/-- A faithful message of the right version is read back from its line. -/
theorem parseLine_of_faithful {m : JsonRpcMessage} (h : serde.Carries m) (hfaithful : m.Faithful)
    (hversion : m.jsonrpc = some "2.0") : parseLine serde (lineOf serde m) = .ok m := by
  have hobject : m.encode.asObject.isNone = false := by
    cases m with
    | nil => exact hfaithful.elim
    | request r | response r | notification n | error e => rfl
  rw [parseLine_lineOf h, get_jsonrpc, hversion, decode_of_faithful serde.rejects hfaithful]
  simp [hobject, Except.mapError]

/-- The last part of a message's line is no message: its brackets do not match. -/
def Serde.Closes (serde : Serde) (m : JsonRpcMessage) : Prop :=
  ∀ tail, tail ≠ [] → tail <:+ lineOf serde m → tail ≠ lineOf serde m →
    ∃ e, parseLine serde tail = .error e

theorem frames_lines {ms : List JsonRpcMessage} (hcarried : ∀ m ∈ ms, serde.Carries m) :
    frames newline [] (ms.flatMap (lineOf serde)) = ms.map (lineOf serde) := by
  have hbodies : ms.flatMap (lineOf serde) =
      ((ms.map fun m => bytesOf (serde.toString m)).map (· ++ [newline])).flatten := by
    rw [List.map_map]
    rfl
  rw [hbodies, frames_bodies, List.map_map]
  · rfl
  · intro body hbody
    obtain ⟨m, hm, rfl⟩ := List.mem_map.mp hbody
    exact (hcarried m hm).oneLine

/-- Wherever the stream has its pauses, of messages sent line by line each is received
whole or leaves one error behind, in the order they were sent. -/
theorem messages_torn {ms : List JsonRpcMessage} {reader : Reader}
    (hcarried : ∀ m ∈ ms, serde.Carries m) (hcloses : ∀ m ∈ ms, serde.Closes m)
    (hsent : items reader = ms.flatMap (lineOf serde)) (hsound : ∀ e, .failed e ∉ reader) :
    List.Forall₂ (fun m item => item = parseLine serde (lineOf serde m) ∨
      ∃ e : TransportError, item = .error e) ms (messages serde reader) := by
  have hlines : frames newline [] (items reader) = ms.map (lineOf serde) := by
    rw [hsent, frames_lines hcarried]
  have hparts : (∀ f ∈ frames newline [] (items reader), newline ∈ f) →
      List.Forall₂ (fun frame got => got ≠ [] ∧ got <:+ frame)
        (frames newline [] (items reader)) (whole (deliver newline [] reader)) :=
    deliver_suffixes [] [] hsound (by simp)
  rw [hlines] at hparts
  have hended : ∀ f ∈ ms.map (lineOf serde), newline ∈ f := by
    intro f hf
    obtain ⟨m, _, rfl⟩ := List.mem_map.mp hf
    exact List.mem_append_right _ (List.mem_singleton_self _)
  rw [messages_of_sound _ hsound, List.forall₂_map_right_iff]
  have hall := List.forall₂_map_left_iff.mp (hparts hended)
  refine ((List.forall₂_and_left _ _).mpr ⟨hcloses, hall⟩).imp ?_
  rintro m got ⟨hclosed, hne, hsuffix⟩
  by_cases hwhole : got = lineOf serde m
  · exact Or.inl (by rw [hwhole])
  · exact Or.inr (hclosed got hne hsuffix hwhole)

/-- Messages sent line by line are received one by one, if the stream has a pause
only between two lines. -/
theorem messages_of_lines {ms : List JsonRpcMessage} {reader : Reader}
    (hcarried : ∀ m ∈ ms, serde.Carries m) (hfaithful : ∀ m ∈ ms, m.Faithful)
    (hversion : ∀ m ∈ ms, m.jsonrpc = some "2.0")
    (hsent : items reader = ms.flatMap (lineOf serde)) (haligned : Aligned newline [] reader)
    (hsound : ∀ e, .failed e ∉ reader) : messages serde reader = ms.map .ok := by
  have hlines : frames newline [] (items reader) = ms.map (lineOf serde) := by
    rw [hsent, frames_lines hcarried]
  rw [messages_of_sound _ hsound, (whole_deliver_iff reader).mpr haligned, hlines, List.map_map]
  exact List.map_congr_left fun m hm =>
    parseLine_of_faithful (hcarried m hm) (hfaithful m hm) (hversion m hm)

def charOf (b : UInt8) : Char :=
  ⟨b.toUInt32, Or.inl (by
    have hlt := b.toNat_lt
    simp only [UInt8.toNat_toUInt32]
    omega)⟩

/-- A reading of lines that tells them all apart. -/
def verbatim : Serde :=
  { fromStr := .error
    toString := fun _ => ""
    rejects := fun _ => ""
    utf8Error := fun line => String.ofList (line.map charOf) }

theorem parseLine_verbatim {line line' : List UInt8}
    (h : parseLine verbatim line = parseLine verbatim line') : line = line' := by
  have hchars : Function.Injective (List.map charOf) := by
    apply List.map_injective_iff.mpr
    intro b b' hb
    exact UInt8.toUInt32_inj.mp (congrArg Char.val hb)
  unfold parseLine at h
  cases hline : fromUtf8 line with
  | none =>
      cases hline' : fromUtf8 line' with
      | none =>
          have htext : String.ofList (line.map charOf) = String.ofList (line'.map charOf) := by
            simpa [hline, hline', verbatim] using h
          exact hchars (String.ofList_injective htext)
      | some s' => simp [hline, hline', verbatim] at h
  | some s =>
      cases hline' : fromUtf8 line' with
      | none => simp [hline, hline', verbatim] at h
      | some s' =>
          have hs : s = s' := by simpa [hline, hline', verbatim] using h
          rw [← bytesOf_fromUtf8 hline, ← bytesOf_fromUtf8 hline', hs]

/-- The transport receives the lines that were sent, whatever they are read as, if
and only if it is interrupted only between lines. The stream is cut into reads and
pauses in any way, and only a failure of the reader itself is excluded. One pause
inside a line is enough for that line to be lost. -/
theorem messages_whole_iff {reader : Reader} (hsound : ∀ e, .failed e ∉ reader) :
    (∀ serde, messages serde reader =
        (frames newline [] (items reader)).map (parseLine serde)) ↔
      Aligned newline [] reader := by
  constructor
  · intro h
    have hlines := h verbatim
    rw [messages_of_sound _ hsound] at hlines
    have hinjective : Function.Injective (List.map (parseLine verbatim)) :=
      List.map_injective_iff.mpr fun _ _ => parseLine_verbatim
    exact (whole_deliver_iff reader).mp (hinjective hlines)
  · intro haligned serde
    rw [messages_of_sound _ hsound, (whole_deliver_iff reader).mpr haligned]

theorem messages_whole_iff_split :
    ¬ ∀ serde, messages serde [.item 123, .pending, .item 125, .item newline] =
      (frames newline [] [123, 125, newline]).map (parseLine serde) := by
  intro h
  obtain ⟨hpartly, _⟩ := (messages_whole_iff (by simp)).mp h
  cases hpartly

/-- Of a line with a pause in it the transport reads what comes after the pause. -/
theorem messages_of_split_line (serde : Serde) {first second : List UInt8}
    (hfirst : newline ∉ first) (hsecond : newline ∉ second) :
    messages serde (first.map .item ++ .pending :: (second ++ [newline]).map .item) =
      [parseLine serde (second ++ [newline])] := by
  rw [messages_eq, deliver_append hfirst, deliver, List.map_append, deliver_append hsecond,
    List.map_singleton, deliver, if_pos rfl]
  rfl

end IdxWorkspace.Mcp
