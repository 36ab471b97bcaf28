import IdxWorkspace.Library.Incremental
import IdxWorkspace.Library.Separated
import IdxWorkspace.Mcp.ByteTransport

/-!
`JsonRpcFrameCodec`, and the event stream that a session reads its server's lines
through. The codec cuts at newlines, however the bytes come in; the stream has one
event to tell the endpoint, and one for every line.
-/

namespace IdxWorkspace.Mcp

open Library Library.Separated Library.Incremental

namespace JsonRpcFrameCodec

def decode (src : List UInt8) : Option (List UInt8 × List UInt8) :=
  match src.findIdx? (· = newline) with
  | some stop =>
      let line := src.take stop
      let src := src.drop stop
      some (line, src.drop 1)
  | none => none

theorem findIdx?_open {src : List UInt8} (h : newline ∉ src) :
    src.findIdx? (· = newline) = none := by
  rw [List.findIdx?_eq_none_iff]
  exact fun b hb => decide_eq_false fun heq => h (heq ▸ hb)

theorem decode_line {line : List UInt8} (h : newline ∉ line) (rest : List UInt8) :
    decode (line ++ newline :: rest) = some (line, rest) := by
  have hstop : (line ++ newline :: rest).findIdx? (· = newline) = some line.length := by
    rw [List.findIdx?_append, findIdx?_open h]
    simp [List.findIdx?_cons]
  simp [decode, hstop]

theorem decode_open {src : List UInt8} (h : newline ∉ src) : decode src = none := by
  rw [decode, findIdx?_open h]

/-- What is decoded is the first line. -/
theorem decode_some {src line rest : List UInt8} (h : decode src = some (line, rest)) :
    newline ∉ line ∧ src = line ++ newline :: rest := by
  by_cases hmem : newline ∈ src
  · obtain ⟨first, after, rfl, hfirst⟩ := List.eq_append_cons_of_mem hmem
    rw [decode_line hfirst] at h
    cases h
    exact ⟨hfirst, rfl⟩
  · rw [decode_open hmem] at h
    cases h

end JsonRpcFrameCodec

def jsonRpcFrameCodec : Decoder UInt8 (List UInt8) where
  decode := JsonRpcFrameCodec.decode
  shorter h := by
    obtain ⟨_, rfl⟩ := JsonRpcFrameCodec.decode_some h
    rw [List.length_append, List.length_cons]
    omega
  stable more h := by
    obtain ⟨hline, rfl⟩ := JsonRpcFrameCodec.decode_some h
    rw [List.append_assoc, List.cons_append]
    exact JsonRpcFrameCodec.decode_line hline _

/-- The codec cuts the stream at every newline; what is left is the last part. -/
theorem drain_eq_parts (src : List UInt8) :
    (jsonRpcFrameCodec.drain src).1 ++ [(jsonRpcFrameCodec.drain src).2] = parts newline src := by
  induction hlength : src.length using Nat.strongRecOn generalizing src with
  | ind length ih =>
      by_cases hmem : newline ∈ src
      · obtain ⟨line, rest, rfl, hline⟩ := List.eq_append_cons_of_mem hmem
        have hshorter : rest.length < length := by
          rw [← hlength, List.length_append, List.length_cons]
          omega
        rw [Decoder.drain_some (JsonRpcFrameCodec.decode_line hline rest), parts_append,
          parts_of_not_mem hline, ← ih rest.length hshorter rest rfl]
        rfl
      · rw [Decoder.drain_none (JsonRpcFrameCodec.decode_open hmem), parts_of_not_mem hmem]
        rfl

/-- An event of the stream: its name and its data. -/
structure SseEvent where
  event : String
  data : String
  deriving DecidableEq

/-- A line as a `message` event. -/
def messageEvent (serde : Serde) (bytes : List UInt8) : Except String SseEvent :=
  match fromUtf8 bytes with
  | some message => .ok { event := "message", data := message }
  | none => .error (serde.utf8Error bytes)

/-- The stream of `sse_handler`, over the chunks its server's bytes arrive in. At
the end of the bytes `FramedRead` finds fault with a line that was not ended. -/
def eventStream (serde : Serde) (session : String) (chunks : List (List UInt8)) :
    List (Except String SseEvent) :=
  let (lines, left) := jsonRpcFrameCodec.read [] chunks
  .ok { event := "endpoint", data := "?sessionId=" ++ session } ::
    (lines.map (messageEvent serde) ++
      if left.isEmpty then [] else [.error "bytes remaining on stream"])

/-- However the written lines are cut into chunks, the stream has the endpoint and
then one event for every message. -/
theorem eventStream_written {serde : Serde} {written : List JsonRpcMessage}
    (hcarried : ∀ m ∈ written, serde.Carries m) (session : String) {chunks : List (List UInt8)}
    (hchunks : chunks.flatten = written.flatMap (lineOf serde)) :
    eventStream serde session chunks =
      .ok { event := "endpoint", data := "?sessionId=" ++ session } ::
        written.map fun m => .ok { event := "message", data := serde.toString m } := by
  have hparts : ∀ ms : List JsonRpcMessage, (∀ m ∈ ms, serde.Carries m) →
      parts newline (ms.flatMap (lineOf serde)) =
        ms.map (fun m => bytesOf (serde.toString m)) ++ [[]] := by
    intro ms hms
    induction ms with
    | nil => rfl
    | cons m ms ih =>
        have hline : newline ∉ bytesOf (serde.toString m) :=
          (hms m List.mem_cons_self).oneLine
        rw [List.flatMap_cons, lineOf, List.append_assoc, List.singleton_append, parts_append,
          parts_of_not_mem hline, ih fun m' hm' => hms m' (List.mem_cons_of_mem m hm')]
        rfl
  have hread := drain_eq_parts (written.flatMap (lineOf serde))
  rw [hparts written hcarried] at hread
  obtain ⟨hlines, hleft⟩ := List.append_inj' hread rfl
  have hempty : (jsonRpcFrameCodec.drain (written.flatMap (lineOf serde))).2 = [] := by
    simpa using hleft
  rw [eventStream, Decoder.read_eq, List.nil_append, hchunks]
  simp only [hlines, hempty, List.isEmpty_nil, if_true, List.append_nil, List.map_map]
  congr 1
  apply List.map_congr_left
  intro m _
  simp only [Function.comp_apply, messageEvent, fromUtf8_bytesOf]

end IdxWorkspace.Mcp
