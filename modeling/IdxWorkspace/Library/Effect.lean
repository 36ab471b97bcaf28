import Mathlib.Logic.Function.Basic

/-!
A small logic for programs that change a state and may raise, where a raise
keeps the changes already made. `Preserves` is the frame rule: a view of the
state is the same after the program, however it ends. The inversion rules take
a finished run of a compound program apart into the runs of its pieces.
`Finishes` is total correctness: from its precondition the program returns.
`Returns` is about the value alone, where the program returns at all.
-/

namespace IdxWorkspace.Library.Effect

variable {ε σ α β τ : Type}

/-- The state a run ends in, returned or raised. -/
def after : EStateM.Result ε σ α → σ
  | .ok _ s => s
  | .error _ s => s

@[simp]
theorem after_ok (a : α) (s : σ) : after (.ok a s : EStateM.Result ε σ α) = s := rfl

@[simp]
theorem after_error (e : ε) (s : σ) : after (.error e s : EStateM.Result ε σ α) = s := rfl

def Preserves (view : σ → τ) (x : EStateM ε σ α) : Prop :=
  ∀ s, view (after (x.run s)) = view s

theorem Preserves.of_ok {view : σ → τ} {x : EStateM ε σ α} (h : Preserves view x)
    {s s' : σ} {a : α} (hrun : x.run s = .ok a s') : view s' = view s := by
  simpa [hrun] using h s

theorem Preserves.of_error {view : σ → τ} {x : EStateM ε σ α} (h : Preserves view x)
    {s s' : σ} {e : ε} (hrun : x.run s = .error e s') : view s' = view s := by
  simpa [hrun] using h s

/-- What is kept of a view is kept of anything read off it. -/
theorem Preserves.read {υ : Type} {view : σ → τ} {x : EStateM ε σ α} (h : Preserves view x)
    (f : τ → υ) : Preserves (fun s => f (view s)) x := fun s => congrArg f (h s)

theorem Preserves.pure (view : σ → τ) (a : α) :
    Preserves view (pure a : EStateM ε σ α) := fun _ => rfl

theorem Preserves.throw (view : σ → τ) (e : ε) :
    Preserves view (throw e : EStateM ε σ α) := fun _ => rfl

theorem Preserves.get (view : σ → τ) : Preserves view (get : EStateM ε σ σ) := fun _ => rfl

theorem Preserves.modify {view : σ → τ} {f : σ → σ} (h : ∀ s, view (f s) = view s) :
    Preserves view (modify f : EStateM ε σ PUnit) := fun s => by
  simpa using h s

theorem Preserves.bind {view : σ → τ} {x : EStateM ε σ α} {f : α → EStateM ε σ β}
    (hx : Preserves view x) (hf : ∀ a, Preserves view (f a)) :
    Preserves view (x >>= f) := by
  intro s
  rw [EStateM.run_bind]
  cases hrun : x.run s with
  | ok a s' => exact (hf a s').trans (hx.of_ok hrun)
  | error e s' => exact hx.of_error hrun

theorem Preserves.ite {view : σ → τ} {c : Prop} [Decidable c] {x y : EStateM ε σ α}
    (hx : Preserves view x) (hy : Preserves view y) :
    Preserves view (if c then x else y) := by
  split
  · exact hx
  · exact hy

theorem run_tryCatch (x : EStateM ε σ α) (handle : ε → EStateM ε σ α) (s : σ) :
    (tryCatch x handle).run s =
      match x.run s with
      | .ok a s' => .ok a s'
      | .error e s' => (handle e).run s' := by
  change EStateM.tryCatch x handle s = _
  unfold EStateM.tryCatch
  simp only [EStateM.run]
  cases x s <;> rfl

theorem run_tryFinally (x : EStateM ε σ α) (final : EStateM ε σ β) (s : σ) :
    (tryFinally x final).run s =
      match x.run s with
      | .ok a s' =>
          match final.run s' with
          | .ok _ s'' => .ok a s''
          | .error e s'' => .error e s''
      | .error e s' =>
          match final.run s' with
          | .ok _ s'' => .error e s''
          | .error e' s'' => .error e' s'' := by
  simp only [EStateM.run, tryFinally, tryFinally', Functor.map, EStateM.map]
  cases x s with
  | ok a s' => cases h : final s' <;> simp [h]
  | error e s' => cases h : final s' <;> simp [h]

theorem run_map (f : α → β) (x : EStateM ε σ α) (s : σ) :
    (f <$> x).run s =
      match x.run s with
      | .ok a s' => .ok (f a) s'
      | .error e s' => .error e s' := by
  change EStateM.map f x s = _
  unfold EStateM.map
  simp only [EStateM.run]
  cases x s <;> rfl

theorem after_map (f : α → β) (x : EStateM ε σ α) (s : σ) :
    after ((f <$> x).run s) = after (x.run s) := by
  rw [run_map]
  cases x.run s <;> rfl

/-- A handler starts in the state the raise left behind, so it frames like any
later step. -/
theorem Preserves.tryCatch {view : σ → τ} {x : EStateM ε σ α} {handle : ε → EStateM ε σ α}
    (hx : Preserves view x) (hh : ∀ e, Preserves view (handle e)) :
    Preserves view (tryCatch x handle) := by
  intro s
  rw [run_tryCatch]
  cases hrun : x.run s with
  | ok a s' => exact hx.of_ok hrun
  | error e s' => exact (hh e s').trans (hx.of_error hrun)

theorem Preserves.tryFinally {view : σ → τ} {x : EStateM ε σ α} {final : EStateM ε σ β}
    (hx : Preserves view x) (hf : Preserves view final) :
    Preserves view (tryFinally x final) := by
  intro s
  rw [run_tryFinally]
  cases hrun : x.run s with
  | ok a s' =>
      have hstep := (hf s').trans (hx.of_ok hrun)
      cases hfinal : final.run s' <;> simpa [hfinal] using hstep
  | error e s' =>
      have hstep := (hf s').trans (hx.of_error hrun)
      cases hfinal : final.run s' <;> simpa [hfinal] using hstep

theorem Preserves.forM {view : σ → τ} {xs : List α} {f : α → EStateM ε σ PUnit}
    (hf : ∀ a ∈ xs, Preserves view (f a)) : Preserves view (xs.forM f) := by
  induction xs with
  | nil => exact Preserves.pure view PUnit.unit
  | cons a xs ih =>
      exact Preserves.bind (hf a (by simp)) fun _ => ih fun b hb => hf b (by simp [hb])

/-- A sequence that returned has run both of its pieces. -/
theorem bind_ok {x : EStateM ε σ α} {f : α → EStateM ε σ β} {s s' : σ} {b : β}
    (h : (x >>= f).run s = .ok b s') :
    ∃ a mid, x.run s = .ok a mid ∧ (f a).run mid = .ok b s' := by
  rw [EStateM.run_bind] at h
  cases hx : x.run s with
  | ok a mid => exact ⟨a, mid, rfl, by simpa [hx] using h⟩
  | error e mid => simp [hx] at h

/-- A sequence that raised did so in its first piece, or in its second after the
first returned. -/
theorem bind_error {x : EStateM ε σ α} {f : α → EStateM ε σ β} {s s' : σ} {e : ε}
    (h : (x >>= f).run s = .error e s') :
    x.run s = .error e s' ∨ ∃ a mid, x.run s = .ok a mid ∧ (f a).run mid = .error e s' := by
  rw [EStateM.run_bind] at h
  cases hx : x.run s with
  | ok a mid => exact Or.inr ⟨a, mid, rfl, by simpa [hx] using h⟩
  | error e' mid => exact Or.inl (by simpa [hx] using h)

/-- From `pre` the program returns, with `post` of its value and state. -/
def Finishes (pre : σ → Prop) (x : EStateM ε σ α) (post : α → σ → Prop) : Prop :=
  ∀ s, pre s → ∃ a s', x.run s = .ok a s' ∧ post a s'

variable {pre : σ → Prop} {mid : α → σ → Prop} {post : β → σ → Prop}

theorem Finishes.pure {a : α} (h : ∀ s, pre s → mid a s) :
    Finishes pre (pure a : EStateM ε σ α) mid := fun s hs => ⟨a, s, rfl, h s hs⟩

theorem Finishes.bind {x : EStateM ε σ α} {f : α → EStateM ε σ β}
    (hx : Finishes pre x mid) (hf : ∀ a, Finishes (mid a) (f a) post) :
    Finishes pre (x >>= f) post := by
  intro s hs
  obtain ⟨a, s', hrun, hmid⟩ := hx s hs
  obtain ⟨b, s'', hrest, hpost⟩ := hf a s' hmid
  exact ⟨b, s'', by rw [EStateM.run_bind, hrun]; exact hrest, hpost⟩

/-- A loop keeps its invariant and returns if each round does. -/
theorem Finishes.forM {xs : List α} {f : α → EStateM ε σ PUnit}
    (hf : ∀ a ∈ xs, Finishes pre (f a) fun _ => pre) :
    Finishes pre (xs.forM f) fun _ => pre := by
  induction xs with
  | nil => exact Finishes.pure fun _ hs => hs
  | cons a xs ih =>
      exact Finishes.bind (hf a (by simp)) fun _ => ih fun b hb => hf b (by simp [hb])

/-- A handler is not needed by a program that returns. -/
theorem Finishes.tryCatch {x : EStateM ε σ α} {handle : ε → EStateM ε σ α}
    (hx : Finishes pre x mid) : Finishes pre (tryCatch x handle) mid := by
  intro s hs
  obtain ⟨a, s', hrun, hmid⟩ := hx s hs
  exact ⟨a, s', by rw [run_tryCatch, hrun], hmid⟩

/-- Whatever the program returns satisfies `post`. -/
def Returns (x : EStateM ε σ α) (post : α → Prop) : Prop :=
  ∀ s a s', x.run s = .ok a s' → post a

theorem Returns.pure {post : α → Prop} {a : α} (h : post a) :
    Returns (pure a : EStateM ε σ α) post := by
  intro s b s' hrun
  cases hrun
  exact h

theorem Returns.throw (e : ε) (post : α → Prop) : Returns (throw e : EStateM ε σ α) post := by
  intro s a s' hrun
  cases hrun

theorem Returns.bind {x : EStateM ε σ α} {f : α → EStateM ε σ β} {mid : α → Prop}
    {post : β → Prop} (hx : Returns x mid) (hf : ∀ a, mid a → Returns (f a) post) :
    Returns (x >>= f) post := by
  intro s b s' hrun
  obtain ⟨a, s'', hfirst, hrest⟩ := bind_ok hrun
  exact hf a (hx s a s'' hfirst) s'' b s' hrest

theorem Returns.trivial (x : EStateM ε σ α) : Returns x fun _ => True :=
  fun _ _ _ _ => True.intro

/-- A program that does not raise, but returns what it would have raised. -/
def attempt {ε' : Type} (x : EStateM ε σ α) : EStateM ε' σ (Except ε α) := fun s =>
  match x.run s with
  | .ok a s' => .ok (.ok a) s'
  | .error e s' => .ok (.error e) s'

theorem run_attempt {ε' : Type} (x : EStateM ε σ α) (s : σ) :
    (attempt x : EStateM ε' σ (Except ε α)).run s =
      match x.run s with
      | .ok a s' => .ok (.ok a) s'
      | .error e s' => .ok (.error e) s' := rfl

theorem Preserves.attempt {ε' : Type} {view : σ → τ} {x : EStateM ε σ α} (h : Preserves view x) :
    Preserves view (attempt x : EStateM ε' σ (Except ε α)) := by
  intro s
  rw [run_attempt]
  cases hrun : x.run s with
  | ok a s' => exact h.of_ok hrun
  | error e s' => exact h.of_error hrun

theorem Preserves.ofExcept (view : σ → τ) (v : Except ε α) :
    Preserves view (ofExcept v : EStateM ε σ α) := by
  cases v with
  | ok a => exact Preserves.pure view a
  | error e => exact Preserves.throw view e

theorem bind_ok_iff {x : EStateM ε σ α} {f : α → EStateM ε σ β} {s s' : σ} {b : β} :
    (x >>= f).run s = .ok b s' ↔
      ∃ a mid, x.run s = .ok a mid ∧ (f a).run mid = .ok b s' := by
  constructor
  · exact bind_ok
  · rintro ⟨a, mid, hfirst, hrest⟩
    rw [EStateM.run_bind, hfirst]
    exact hrest

theorem pure_ok_iff {a b : α} {s s' : σ} :
    (pure a : EStateM ε σ α).run s = .ok b s' ↔ a = b ∧ s = s' := by
  rw [EStateM.run_pure, EStateM.Result.ok.injEq]

theorem throw_ok_iff {e : ε} {a : α} {s s' : σ} :
    (throw e : EStateM ε σ α).run s = .ok a s' ↔ False := by
  constructor
  · intro h
    cases h
  · exact False.elim

theorem ofExcept_ok_iff {v : Except ε α} {a : α} {s s' : σ} :
    (ofExcept v : EStateM ε σ α).run s = .ok a s' ↔ v = .ok a ∧ s = s' := by
  cases v with
  | ok b => simp [ofExcept]
  | error e => simp [ofExcept, throw_ok_iff]

theorem run_adaptExcept {ε' : Type} (x : EStateM ε σ α) (f : ε → ε') (s : σ) :
    (x.adaptExcept f).run s =
      match x.run s with
      | .ok a s' => .ok a s'
      | .error e s' => .error (f e) s' := by
  change EStateM.adaptExcept f x s = _
  unfold EStateM.adaptExcept
  simp only [EStateM.run]
  cases x s <;> rfl

theorem adaptExcept_map {ε' : Type} (x : EStateM ε σ α) (f : α → β) (g : ε → ε') :
    (f <$> x).adaptExcept g = f <$> x.adaptExcept g := by
  funext s
  change ((f <$> x).adaptExcept g).run s = (f <$> x.adaptExcept g).run s
  rw [run_map, run_adaptExcept, run_adaptExcept, run_map]
  cases x.run s <;> rfl

theorem after_adaptExcept {ε' : Type} (x : EStateM ε σ α) (f : ε → ε') (s : σ) :
    after ((x.adaptExcept f).run s) = after (x.run s) := by
  rw [run_adaptExcept]
  cases x.run s <;> rfl

theorem Preserves.adaptExcept {ε' : Type} {view : σ → τ} {x : EStateM ε σ α}
    (h : Preserves view x) (f : ε → ε') : Preserves view (x.adaptExcept f) := by
  intro s
  rw [after_adaptExcept]
  exact h s

theorem adaptExcept_ok_iff {ε' : Type} {x : EStateM ε σ α} {f : ε → ε'} {a : α} {s s' : σ} :
    (x.adaptExcept f).run s = .ok a s' ↔ x.run s = .ok a s' := by
  rw [run_adaptExcept]
  cases x.run s <;> simp

theorem adaptExcept_error_iff {ε' : Type} {x : EStateM ε σ α} {f : ε → ε'} {e : ε'} {s s' : σ} :
    (x.adaptExcept f).run s = .error e s' ↔ ∃ e', x.run s = .error e' s' ∧ f e' = e := by
  rw [run_adaptExcept]
  cases x.run s with
  | ok a s'' => simp
  | error e' s'' => simp only [EStateM.Result.error.injEq]; grind

theorem Returns.adaptExcept {ε' : Type} {x : EStateM ε σ α} {post : α → Prop}
    (h : Returns x post) (f : ε → ε') : Returns (x.adaptExcept f) post :=
  fun s a s' hrun => h s a s' (adaptExcept_ok_iff.mp hrun)

/-- A list of checks passes if and only if each of them does. -/
theorem forM_checks_iff (check : α → Except ε Unit) (xs : List α) :
    xs.forM check = .ok () ↔ ∀ a ∈ xs, check a = .ok () := by
  induction xs with
  | nil => simp [pure, Except.pure]
  | cons a xs ih =>
      have hstep : (a :: xs).forM check = check a >>= fun _ => xs.forM check := rfl
      rw [hstep, List.forall_mem_cons, ← ih]
      cases check a <;> simp [bind, Except.bind]

end IdxWorkspace.Library.Effect
