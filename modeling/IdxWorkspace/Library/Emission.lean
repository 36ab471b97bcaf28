import Mathlib.Computability.Language
import IdxWorkspace.Library.Effect

/-!
Programs seen through a log that grows while they run. What a program adds to
the log is a word of its language, and the language of a sequence is the
product of the languages of its parts. A program that raises has begun a word:
the step that raised is in the log too.
-/

namespace IdxWorkspace.Library.Emission

open Effect

variable {ε σ α β ι : Type}

/-- The first parts of the words, without the empty one. -/
def begun (words : Language ι) : Language ι :=
  {part | part ≠ [] ∧ ∃ rest, part ++ rest ∈ words}

/-- A run that returns adds a word to the log, and one that raises begins a word.
There is a word at all, so that what was begun earlier can be completed. -/
structure Emits (log : σ → List ι) (x : EStateM ε σ α) (words : Language ι) : Prop where
  inhabited : ∃ word, word ∈ words
  of_ok : ∀ {s s' : σ} {a : α}, x.run s = .ok a s' → ∃ word ∈ words, log s' = log s ++ word
  of_error : ∀ {s s' : σ} {e : ε}, x.run s = .error e s' →
    ∃ part ∈ begun words, log s' = log s ++ part

variable {log : σ → List ι} {words later : Language ι} {part word : List ι}

theorem singleton_mul_singleton (v w : List ι) : ({v} * {w} : Language ι) = {v ++ w} :=
  Set.image2_singleton

theorem begun_mul_left (h : part ∈ begun words) (hlater : ∃ word, word ∈ later) :
    part ∈ begun (words * later) := by
  obtain ⟨hne, rest, hrest⟩ := h
  obtain ⟨word, hword⟩ := hlater
  refine ⟨hne, rest ++ word, ?_⟩
  rw [← List.append_assoc]
  exact Language.append_mem_mul hrest hword

theorem begun_mul_right (hword : word ∈ words) (h : part ∈ begun later) :
    word ++ part ∈ begun (words * later) := by
  obtain ⟨hne, rest, hrest⟩ := h
  refine ⟨by simp [hne], rest, ?_⟩
  rw [List.append_assoc]
  exact Language.append_mem_mul hword hrest

/-- A program that returns and leaves the log alone. -/
theorem Emits.quiet {x : EStateM ε σ α}
    (h : ∀ s, ∃ a s', x.run s = .ok a s' ∧ log s' = log s) : Emits log x 1 where
  inhabited := ⟨[], Language.nil_mem_one⟩
  of_ok := by
    intro s s' a hrun
    obtain ⟨b, t, hquiet, hlog⟩ := h s
    rw [hrun] at hquiet
    cases hquiet
    exact ⟨[], Language.nil_mem_one, by rw [hlog, List.append_nil]⟩
  of_error := by
    intro s s' e hrun
    obtain ⟨b, t, hquiet, -⟩ := h s
    rw [hrun] at hquiet
    cases hquiet

/-- A step with one entry of the log for itself, whether it raises or not. -/
theorem Emits.step {x : EStateM ε σ α} {entry : ι}
    (h : ∀ s, log (after (x.run s)) = log s ++ [entry]) : Emits log x {[entry]} where
  inhabited := ⟨[entry], rfl⟩
  of_ok := by
    intro s s' a hrun
    refine ⟨[entry], rfl, ?_⟩
    rw [← h s, hrun, after_ok]
  of_error := by
    intro s s' e hrun
    refine ⟨[entry], ⟨List.cons_ne_nil _ _, [], rfl⟩, ?_⟩
    rw [← h s, hrun, after_error]

theorem Emits.bind [Nonempty α] {x : EStateM ε σ α} {f : α → EStateM ε σ β}
    (hx : Emits log x words) (hf : ∀ a, Emits log (f a) later) :
    Emits log (x >>= f) (words * later) := by
  have hlater : ∃ word, word ∈ later := (hf (Classical.arbitrary α)).inhabited
  constructor
  case inhabited =>
    obtain ⟨word, hword⟩ := hx.inhabited
    obtain ⟨word', hword'⟩ := hlater
    exact ⟨word ++ word', Language.append_mem_mul hword hword'⟩
  case of_ok =>
    intro s s' b hrun
    obtain ⟨a, mid, hfirst, hrest⟩ := bind_ok hrun
    obtain ⟨word, hword, hlog⟩ := hx.of_ok hfirst
    obtain ⟨word', hword', hlog'⟩ := (hf a).of_ok hrest
    refine ⟨word ++ word', Language.append_mem_mul hword hword', ?_⟩
    rw [hlog', hlog, List.append_assoc]
  case of_error =>
    intro s s' e hrun
    rcases bind_error hrun with hfirst | ⟨a, mid, hfirst, hrest⟩
    · obtain ⟨part, hpart, hlog⟩ := hx.of_error hfirst
      exact ⟨part, begun_mul_left hpart hlater, hlog⟩
    · obtain ⟨word, hword, hlog⟩ := hx.of_ok hfirst
      obtain ⟨part, hpart, hlog'⟩ := (hf a).of_error hrest
      refine ⟨word ++ part, begun_mul_right hword hpart, ?_⟩
      rw [hlog', hlog, List.append_assoc]

/-- What is done before in silence does not count. -/
theorem Emits.quiet_bind [Nonempty α] {x : EStateM ε σ α} {f : α → EStateM ε σ β}
    (hx : Emits log x 1) (hf : ∀ a, Emits log (f a) words) : Emits log (x >>= f) words := by
  have h := hx.bind hf
  rwa [one_mul] at h

theorem Emits.mono {x : EStateM ε σ α} (h : Emits log x words)
    (hle : ∀ word ∈ words, word ∈ later) : Emits log x later where
  inhabited := h.inhabited.imp hle
  of_ok := by
    intro s s' a hrun
    obtain ⟨word, hword, hlog⟩ := h.of_ok hrun
    exact ⟨word, hle word hword, hlog⟩
  of_error := by
    intro s s' e hrun
    obtain ⟨part, ⟨hne, rest, hrest⟩, hlog⟩ := h.of_error hrun
    exact ⟨part, ⟨hne, rest, hle _ hrest⟩, hlog⟩

/-- A program with a branch has the words of both. -/
theorem Emits.ite {c : Prop} [Decidable c] {x y : EStateM ε σ α}
    (hx : Emits log x words) (hy : Emits log y later) :
    Emits log (if c then x else y) (words + later) := by
  split
  · exact hx.mono fun _ h => Or.inl h
  · exact hy.mono fun _ h => Or.inr h

end IdxWorkspace.Library.Emission
