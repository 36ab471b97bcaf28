import Mathlib.Logic.Function.Basic
import Mathlib.Data.List.Infix
import IdxWorkspace.Library.Effect

/-!
A store of named values changed by a list of writes, where each write may
raise and a raise stops the list. Whatever happens, the store at the end is
the old one with an initial part of the writes replayed on it.
-/

namespace IdxWorkspace.Library.Journal

variable {κ ω ν ε σ : Type} [DecidableEq κ]

/-- The store after the writes; `keep` is what a store makes of a written value. -/
def replay (keep : ω → ν) (ws : List (κ × ω)) (env : κ → ν) : κ → ν :=
  ws.foldl (fun env w => Function.update env w.1 (keep w.2)) env

@[simp]
theorem replay_nil (keep : ω → ν) (env : κ → ν) : replay keep [] env = env := rfl

@[simp]
theorem replay_cons (keep : ω → ν) (w : κ × ω) (ws : List (κ × ω)) (env : κ → ν) :
    replay keep (w :: ws) env = replay keep ws (Function.update env w.1 (keep w.2)) := rfl

/-- A name that no write mentions keeps its value. -/
theorem replay_of_not_mem {keep : ω → ν} {ws : List (κ × ω)} {k : κ}
    (h : k ∉ ws.map Prod.fst) (env : κ → ν) : replay keep ws env k = env k := by
  induction ws generalizing env with
  | nil => rfl
  | cons w ws ih =>
      simp only [List.map_cons, List.mem_cons, not_or] at h
      rw [replay_cons, ih h.2, Function.update_of_ne h.1]

/-- A name that is only written first keeps its value or has the one written. -/
theorem replay_prefix {keep : ω → ν} {done ws : List (κ × ω)} {k : κ} {v : ω}
    (hdone : done <+: (k, v) :: ws) (h : k ∉ ws.map Prod.fst) (env : κ → ν) :
    replay keep done env k = env k ∨ replay keep done env k = keep v := by
  cases done with
  | nil => exact Or.inl rfl
  | cons w done =>
      obtain ⟨rfl, hrest⟩ := List.cons_prefix_cons.mp hdone
      have hother : k ∉ done.map Prod.fst := fun hk => h ((hrest.map Prod.fst).subset hk)
      rw [replay_cons, replay_of_not_mem hother, Function.update_self]
      exact Or.inr rfl

/-- What a single fallible write has to promise: it returns with the value in
place, or raises with the store untouched. -/
def Writes (view : σ → κ → ν) (keep : ω → ν) (put : κ → ω → EStateM ε σ PUnit) : Prop :=
  ∀ k v s, match (put k v).run s with
    | .ok _ s' => view s' = Function.update (view s) k (keep v)
    | .error _ s' => view s' = view s

def writeAll (put : κ → ω → EStateM ε σ PUnit) (ws : List (κ × ω)) : EStateM ε σ PUnit :=
  ws.forM fun w => put w.1 w.2

variable {view : σ → κ → ν} {keep : ω → ν} {put : κ → ω → EStateM ε σ PUnit}

theorem Writes.ok (h : Writes view keep put) {k : κ} {v : ω} {s s' : σ}
    (hrun : (put k v).run s = .ok ⟨⟩ s') : view s' = Function.update (view s) k (keep v) := by
  have hstep := h k v s
  rwa [hrun] at hstep

theorem Writes.error (h : Writes view keep put) {k : κ} {v : ω} {s s' : σ} {e : ε}
    (hrun : (put k v).run s = .error e s') : view s' = view s := by
  have hstep := h k v s
  rwa [hrun] at hstep

omit [DecidableEq κ] in
theorem writeAll_cons (put : κ → ω → EStateM ε σ PUnit) (w : κ × ω) (ws : List (κ × ω)) :
    writeAll put (w :: ws) = put w.1 w.2 >>= fun _ => writeAll put ws := rfl

theorem writeAll_ok (h : Writes view keep put) {ws : List (κ × ω)} {s s' : σ}
    (hrun : (writeAll put ws).run s = .ok ⟨⟩ s') : view s' = replay keep ws (view s) := by
  induction ws generalizing s with
  | nil =>
      cases hrun
      rfl
  | cons w ws ih =>
      rw [writeAll_cons] at hrun
      obtain ⟨_, mid, hput, hrest⟩ := Effect.bind_ok hrun
      rw [ih hrest, replay_cons, h.ok hput]

/-- A list that raised has done a proper initial part of its writes, and the
store shows exactly those. -/
theorem writeAll_error (h : Writes view keep put) {ws : List (κ × ω)} {s s' : σ} {e : ε}
    (hrun : (writeAll put ws).run s = .error e s') :
    ∃ done, done <+: ws ∧ done ≠ ws ∧ view s' = replay keep done (view s) := by
  induction ws generalizing s with
  | nil => cases hrun
  | cons w ws ih =>
      rw [writeAll_cons] at hrun
      rcases Effect.bind_error hrun with hput | ⟨_, mid, hput, hrest⟩
      · exact ⟨[], List.nil_prefix, by simp, by rw [replay_nil, h.error hput]⟩
      · obtain ⟨done, hprefix, hproper, hview⟩ := ih hrest
        refine ⟨w :: done, List.cons_prefix_cons.mpr ⟨rfl, hprefix⟩, ?_, ?_⟩
        · simpa using hproper
        · rw [hview, replay_cons, h.ok hput]

end IdxWorkspace.Library.Journal
