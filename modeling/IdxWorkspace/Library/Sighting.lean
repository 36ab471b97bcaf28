import Mathlib.Logic.Function.Basic
import Mathlib.Data.List.Induction

/-!
A table that remembers, for each key, the value it was last seen with. A
sighting is news when it does not repeat what the table has. Whether a batch of
sightings brings any news is decided by the table before the batch alone.
-/

namespace IdxWorkspace.Library.Sighting

variable {κ τ : Type} [DecidableEq κ] [DecidableEq τ]

abbrev Table (κ τ : Type) := κ → Option τ

/-- The value a key was last seen with. -/
def lastSeen (sightings : List (κ × τ)) (k : κ) : Option τ :=
  (sightings.reverse.find? fun s => s.1 = k).map Prod.snd

/-- The table after a sighting, and whether there was news up to it. -/
def note (state : Table κ τ × Bool) (s : κ × τ) : Table κ τ × Bool :=
  if state.1 s.1 = some s.2 then state
  else (Function.update state.1 s.1 (some s.2), true)

def noteAll (state : Table κ τ × Bool) (batch : List (κ × τ)) : Table κ τ × Bool :=
  batch.foldl note state

omit [DecidableEq τ] in
@[simp]
theorem lastSeen_nil (k : κ) : lastSeen ([] : List (κ × τ)) k = none := rfl

omit [DecidableEq τ] in
theorem lastSeen_snoc (sightings : List (κ × τ)) (s : κ × τ) :
    lastSeen (sightings ++ [s]) = Function.update (lastSeen sightings) s.1 (some s.2) := by
  funext k
  by_cases h : s.1 = k
  · simp [lastSeen, h]
  · rw [Function.update_of_ne (Ne.symm h)]
    simp [lastSeen, h]

omit [DecidableEq τ] in
/-- A key that occurs in the last batch was last seen in that batch. -/
theorem lastSeen_append_of_mem {batch : List (κ × τ)} {s : κ × τ} (hs : s ∈ batch)
    (sightings : List (κ × τ)) :
    ∃ t, (s.1, t) ∈ batch ∧ lastSeen (sightings ++ batch) s.1 = some t := by
  induction batch using List.reverseRecOn with
  | nil => simp at hs
  | append_singleton batch last ih =>
      rw [← List.append_assoc, lastSeen_snoc]
      by_cases hkey : last.1 = s.1
      · refine ⟨last.2, ?_, ?_⟩
        · rw [← hkey]
          simp
        · rw [← hkey, Function.update_self]
      · have hold : s ∈ batch := by
          rw [List.mem_append, List.mem_singleton] at hs
          rcases hs with hs | rfl
          · exact hs
          · exact absurd rfl hkey
        obtain ⟨t, ht, hseen⟩ := ih hold
        exact ⟨t, by simp [ht], by rw [Function.update_of_ne (Ne.symm hkey), hseen]⟩

omit [DecidableEq τ] in
theorem mem_of_lastSeen {sightings : List (κ × τ)} {k : κ} {t : τ}
    (h : lastSeen sightings k = some t) : (k, t) ∈ sightings := by
  obtain ⟨s, hs, rfl⟩ := Option.map_eq_some_iff.mp h
  have hkey := List.find?_some hs
  simp only [decide_eq_true_eq] at hkey
  rw [← hkey]
  exact List.mem_reverse.mp (List.mem_of_find?_eq_some hs)

@[simp]
theorem noteAll_nil (state : Table κ τ × Bool) : noteAll state [] = state := rfl

@[simp]
theorem noteAll_snoc (state : Table κ τ × Bool) (batch : List (κ × τ)) (s : κ × τ) :
    noteAll state (batch ++ [s]) = note (noteAll state batch) s := by
  simp [noteAll]

/-- Writing only on news keeps the table equal to the last sightings. -/
theorem noteAll_table (sightings batch : List (κ × τ)) (news : Bool) :
    (noteAll (lastSeen sightings, news) batch).1 = lastSeen (sightings ++ batch) := by
  induction batch using List.reverseRecOn with
  | nil => simp
  | append_singleton batch s ih =>
      rw [noteAll_snoc, ← List.append_assoc, lastSeen_snoc, ← ih]
      unfold note
      by_cases h : (noteAll (lastSeen sightings, news) batch).1 s.1 = some s.2
      · rw [if_pos h, ← h, Function.update_eq_self]
      · rw [if_neg h]

theorem noteAll_stays_news (table : Table κ τ) (batch : List (κ × τ)) :
    (noteAll (table, true) batch).2 = true := by
  induction batch using List.reverseRecOn with
  | nil => rfl
  | append_singleton batch s ih =>
      rw [noteAll_snoc]
      unfold note
      by_cases h : (noteAll (table, true) batch).1 s.1 = some s.2
      · rw [if_pos h]
        exact ih
      · rw [if_neg h]

/-- A batch is news exactly when it has a sighting that was news before the
batch: until the first news the table has not changed. -/
theorem noteAll_news (table : Table κ τ) (batch : List (κ × τ)) :
    (noteAll (table, false) batch).2 = true ↔ ∃ s ∈ batch, table s.1 ≠ some s.2 := by
  induction batch with
  | nil => simp
  | cons s batch ih =>
      have hstep :
          noteAll (table, false) (s :: batch) = noteAll (note (table, false) s) batch := rfl
      rw [hstep]
      by_cases h : table s.1 = some s.2
      · have hsame : note (table, false) s = (table, false) := if_pos h
        rw [hsame, ih]
        simp [h]
      · have hnews : note (table, false) s = (Function.update table s.1 (some s.2), true) :=
          if_neg h
        rw [hnews]
        constructor
        · exact fun _ => ⟨s, by simp, h⟩
        · exact fun _ => noteAll_stays_news _ _

end IdxWorkspace.Library.Sighting
