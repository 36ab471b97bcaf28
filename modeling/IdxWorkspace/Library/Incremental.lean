/-!
Decoders that are fed piece by piece. A decoder takes one frame from the front of
what is buffered, or waits for more; what it takes does not depend on what comes
later. However a stream is cut into pieces, the same frames come out of it, and
the same rest is left.
-/

namespace IdxWorkspace.Library.Incremental

structure Decoder (β α : Type) where
  decode : List β → Option (α × List β)
  /-- A frame uses up some of the buffer. -/
  shorter : ∀ {buffer frame rest}, decode buffer = some (frame, rest) →
    rest.length < buffer.length
  /-- A frame that is there stays the same when more arrives. -/
  stable : ∀ {buffer frame rest} (more : List β), decode buffer = some (frame, rest) →
    decode (buffer ++ more) = some (frame, rest ++ more)

namespace Decoder

variable {β α : Type} (d : Decoder β α)

/-- Every frame that is in the buffer, and what is left of it. -/
def drain (buffer : List β) : List α × List β :=
  match h : d.decode buffer with
  | none => ([], buffer)
  | some (frame, rest) =>
      have := d.shorter h
      let (frames, left) := drain rest
      (frame :: frames, left)
termination_by buffer.length
decreasing_by exact this

/-- The frames of a stream that arrives in pieces, and what is left at its end. -/
def read : List β → List (List β) → List α × List β
  | buffer, [] => d.drain buffer
  | buffer, chunk :: chunks =>
      let (frames, left) := d.drain (buffer ++ chunk)
      let (later, last) := read left chunks
      (frames ++ later, last)

variable {d}

theorem drain_none {buffer : List β} (h : d.decode buffer = none) :
    d.drain buffer = ([], buffer) := by
  unfold drain
  split
  · rfl
  · rename_i frame rest hsome
    rw [h] at hsome
    cases hsome

theorem drain_some {buffer rest : List β} {frame : α} (h : d.decode buffer = some (frame, rest)) :
    d.drain buffer = (frame :: (d.drain rest).1, (d.drain rest).2) := by
  rw [drain]
  split
  · rename_i hnone
    rw [h] at hnone
    cases hnone
  · rename_i frame' rest' hsome
    rw [h] at hsome
    cases hsome
    rfl

/-- What arrives later is decoded with what was left before it. -/
theorem drain_append (buffer more : List β) :
    d.drain (buffer ++ more) =
      ((d.drain buffer).1 ++ (d.drain ((d.drain buffer).2 ++ more)).1,
        (d.drain ((d.drain buffer).2 ++ more)).2) := by
  induction hlength : buffer.length using Nat.strongRecOn generalizing buffer with
  | ind length ih =>
      cases hdecode : d.decode buffer with
      | none =>
          rw [drain_none hdecode]
          rfl
      | some taken =>
          obtain ⟨frame, rest⟩ := taken
          have hrest := ih rest.length (hlength ▸ d.shorter hdecode) rest rfl
          rw [drain_some (d.stable more hdecode), drain_some hdecode, hrest]
          rfl

/-- However a stream is cut, it is read as in one piece. -/
theorem read_eq (buffer : List β) (chunks : List (List β)) :
    d.read buffer chunks = d.drain (buffer ++ chunks.flatten) := by
  induction chunks generalizing buffer with
  | nil => rw [read, List.flatten_nil, List.append_nil]
  | cons chunk chunks ih =>
      rw [read, List.flatten_cons, ← List.append_assoc, drain_append (buffer ++ chunk)]
      simp only [ih]

end Decoder

end IdxWorkspace.Library.Incremental
