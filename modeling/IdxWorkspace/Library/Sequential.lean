import IdxWorkspace.Library.Effect

/-!
Operations performed one after another on a state, whether they return or raise.
Two families of operations that answer alike in related states answer alike over
any list of operations: this is how one is shown to refine the other. Operations
that leave the state alone can be left out of a list without the others noticing.
-/

namespace IdxWorkspace.Library.Sequential

open Effect

variable {ε σ τ α β : Type}

/-- What a run shows: what it returned or raised. -/
def shown : EStateM.Result ε σ β → Except ε β
  | .ok b _ => .ok b
  | .error e _ => .error e

@[simp]
theorem shown_ok (b : β) (s : σ) : shown (.ok b s : EStateM.Result ε σ β) = .ok b := rfl

@[simp]
theorem shown_error (e : ε) (s : σ) : shown (.error e s : EStateM.Result ε σ β) = .error e := rfl

/-- What the operations show, and the state they leave. -/
def perform (op : α → EStateM ε σ β) : σ → List α → List (Except ε β) × σ
  | s, [] => ([], s)
  | s, a :: as =>
      let rest := perform op (after ((op a).run s)) as
      (shown ((op a).run s) :: rest.1, rest.2)

theorem perform_append (op : α → EStateM ε σ β) (s : σ) (as bs : List α) :
    perform op s (as ++ bs) =
      ((perform op s as).1 ++ (perform op (perform op s as).2 bs).1,
        (perform op (perform op s as).2 bs).2) := by
  induction as generalizing s with
  | nil => rfl
  | cons a as ih => simp only [List.cons_append, perform, ih]

theorem perform_snoc (op : α → EStateM ε σ β) (s : σ) (as : List α) (a : α) :
    perform op s (as ++ [a]) =
      ((perform op s as).1 ++ [shown ((op a).run (perform op s as).2)],
        after ((op a).run (perform op s as).2)) :=
  perform_append op s as [a]

/-- From related states both programs show the same, and they leave related states. -/
def Mirrors (Related : σ → τ → Prop) (x : EStateM ε σ β) (y : EStateM ε τ β) : Prop :=
  ∀ s t, Related s t →
    shown (x.run s) = shown (y.run t) ∧ Related (after (x.run s)) (after (y.run t))

variable {Related : σ → τ → Prop}

theorem Mirrors.ofExcept (v : Except ε β) :
    Mirrors Related (ofExcept v : EStateM ε σ β) (ofExcept v : EStateM ε τ β) := by
  intro s t hrelated
  cases v with
  | ok b => exact ⟨rfl, hrelated⟩
  | error e => exact ⟨rfl, hrelated⟩

theorem Mirrors.map {γ : Type} {x : EStateM ε σ β} {y : EStateM ε τ β}
    (h : Mirrors Related x y) (f : β → γ) : Mirrors Related (f <$> x) (f <$> y) := by
  intro s t hrelated
  obtain ⟨hshown, hafter⟩ := h s t hrelated
  rw [run_map, run_map]
  cases hx : x.run s with
  | ok b s' =>
      cases hy : y.run t with
      | ok b' t' =>
          rw [hx, hy] at hshown hafter
          cases hshown
          exact ⟨rfl, hafter⟩
      | error e t' =>
          rw [hx, hy] at hshown
          cases hshown
  | error e s' =>
      cases hy : y.run t with
      | ok b t' =>
          rw [hx, hy] at hshown
          cases hshown
      | error e' t' =>
          rw [hx, hy] at hshown hafter
          cases hshown
          exact ⟨rfl, hafter⟩

/-- What holds of each operation holds of every list of them. -/
theorem Mirrors.perform {op : α → EStateM ε σ β} {op' : α → EStateM ε τ β}
    (h : ∀ a, Mirrors Related (op a) (op' a)) {s : σ} {t : τ} (hrelated : Related s t)
    (as : List α) :
    (perform op s as).1 = (perform op' t as).1 ∧
      Related (perform op s as).2 (perform op' t as).2 := by
  induction as generalizing s t with
  | nil => exact ⟨rfl, hrelated⟩
  | cons a as ih =>
      obtain ⟨hshown, hafter⟩ := h a s t hrelated
      obtain ⟨hrest, hlast⟩ := ih hafter
      constructor
      · change _ :: _ = _ :: _
        rw [hshown, hrest]
      · exact hlast

end IdxWorkspace.Library.Sequential
