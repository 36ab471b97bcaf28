import Mathlib.Data.List.Infix

/-!
Wildcard patterns as token lists. A token either takes exactly one letter that
passes a test, or takes any number of letters. Matching is on the whole text,
so a search for a word inside a text is the pattern "many, word, many".
-/

namespace IdxWorkspace.Library.Wildcard

variable {α β : Type}

inductive Token (α : Type) where
  | many : Token α
  | single : (α → Bool) → Token α

def accepts : List (Token α) → List α → Bool
  | [], s => s.isEmpty
  | .many :: ts, s => s.tails.any (accepts ts)
  | .single _ :: _, [] => false
  | .single p :: ts, a :: s => p a && accepts ts s

/-- The tokens of a plain word, where letters with the same image under `fold`
count as the same letter. -/
def word [DecidableEq β] (fold : α → β) (w : List α) : List (Token α) :=
  w.map fun a => .single fun b => fold a == fold b

@[simp]
theorem accepts_nil (s : List α) : accepts [] s = true ↔ s = [] := by
  simp [accepts]

theorem accepts_many (ts : List (Token α)) (s : List α) :
    accepts (.many :: ts) s = true ↔ ∃ t, t <:+ s ∧ accepts ts t = true := by
  simp [accepts, List.any_eq_true]

/-- A final "many" takes whatever is left. -/
theorem accepts_many_end (s : List α) : accepts [.many] s = true :=
  (accepts_many [] s).mpr ⟨[], List.nil_suffix, by simp⟩

/-- A plain word in front of a pattern consumes a prefix of the same image. -/
theorem accepts_word_append [DecidableEq β] (fold : α → β) (w : List α)
    (ts : List (Token α)) (s : List α) :
    accepts (word fold w ++ ts) s = true ↔
      ∃ u v, s = u ++ v ∧ u.map fold = w.map fold ∧ accepts ts v = true := by
  induction w generalizing s with
  | nil => simp [word]
  | cons a w ih =>
      cases s with
      | nil => simp [word, accepts]
      | cons b s =>
          have hstep : accepts (word fold (a :: w) ++ ts) (b :: s) = true ↔
              fold a = fold b ∧ accepts (word fold w ++ ts) s = true := by
            simp [word, accepts]
          rw [hstep, ih]
          constructor
          · rintro ⟨hab, u, v, rfl, hu, hv⟩
            exact ⟨b :: u, v, rfl, by simp [hab, hu], hv⟩
          · rintro ⟨u, v, hs, hu, hv⟩
            cases u with
            | nil => simp at hu
            | cons c u =>
                simp only [List.cons_append, List.cons.injEq] at hs
                obtain ⟨rfl, rfl⟩ := hs
                simp only [List.map_cons, List.cons.injEq] at hu
                exact ⟨hu.1.symm, u, v, rfl, hu.2, hv⟩

/-- "Many, word, many" finds the word anywhere: matching is the infix relation
on the images. -/
theorem accepts_around_iff [DecidableEq β] (fold : α → β) (w s : List α) :
    accepts (.many :: word fold w ++ [.many]) s = true ↔
      w.map fold <:+: s.map fold := by
  rw [List.cons_append, accepts_many]
  constructor
  · rintro ⟨t, ⟨before, rfl⟩, ht⟩
    obtain ⟨u, after, rfl, hu, _⟩ := (accepts_word_append fold w _ t).mp ht
    refine ⟨before.map fold, after.map fold, ?_⟩
    rw [← hu, List.map_append, List.map_append, List.append_assoc]
  · rintro ⟨before, after, h⟩
    rw [List.append_assoc, eq_comm, List.map_eq_append_iff] at h
    obtain ⟨b, t, rfl, _, ht⟩ := h
    rw [List.map_eq_append_iff] at ht
    obtain ⟨u, a, rfl, hu, _⟩ := ht
    refine ⟨u ++ a, List.suffix_append b _, ?_⟩
    exact (accepts_word_append fold w _ _).mpr ⟨u, a, rfl, hu, accepts_many_end a⟩

end IdxWorkspace.Library.Wildcard
