import Mathlib.Data.List.Induction

/-!
Properties of a finite sequence that speak of each element and of everything
before it. Appending one element adds one obligation, so they are proved from
the left to the right end; two of them can be compared element by element while
the first one has held so far.
-/

namespace IdxWorkspace.Library.History

variable {α β : Type} {P Q : List α → α → Prop}

def AtEvery (P : List α → α → Prop) (xs : List α) : Prop :=
  ∀ before x after, xs = before ++ x :: after → P before x

@[simp]
theorem atEvery_nil : AtEvery P [] := by
  intro before x after h
  simp at h

/-- How a split of `xs ++ [y]` looks: it is one of `xs`, or it is at `y`. -/
theorem split_snoc {xs before after : List α} {x y : α}
    (h : xs ++ [y] = before ++ x :: after) :
    (before = xs ∧ x = y ∧ after = []) ∨
      ∃ rest, xs = before ++ x :: rest ∧ after = rest ++ [y] := by
  rcases List.eq_nil_or_concat after with rfl | ⟨rest, last, rfl⟩
  · obtain ⟨hbefore, hx⟩ := List.append_inj' h rfl
    rw [List.singleton_inj] at hx
    exact Or.inl ⟨hbefore.symm, hx.symm, rfl⟩
  · right
    have hsplit : xs ++ [y] = (before ++ x :: rest) ++ [last] := by
      simpa using h
    obtain ⟨hxs, hlast⟩ := List.append_inj' hsplit rfl
    rw [List.singleton_inj] at hlast
    exact ⟨rest, hxs, by rw [hlast, List.concat_eq_append]⟩

@[simp]
theorem atEvery_snoc (xs : List α) (y : α) :
    AtEvery P (xs ++ [y]) ↔ AtEvery P xs ∧ P xs y := by
  constructor
  · intro h
    constructor
    · rintro before x after rfl
      exact h before x (after ++ [y]) (by simp)
    · exact h xs y [] rfl
  · rintro ⟨hxs, hy⟩ before x after hsplit
    rcases split_snoc hsplit with ⟨rfl, rfl, _⟩ | ⟨rest, hrest, _⟩
    · exact hy
    · exact hxs before x rest hrest

theorem AtEvery.of_append {xs ys : List α} (h : AtEvery P (xs ++ ys)) : AtEvery P xs := by
  rintro before x after rfl
  exact h before x (after ++ ys) (by simp)

theorem AtEvery.of_mem {xs : List α} (h : AtEvery P xs) {x : α} (hx : x ∈ xs) :
    ∃ before after, xs = before ++ x :: after ∧ P before x := by
  obtain ⟨before, after, hsplit⟩ := List.append_of_mem hx
  exact ⟨before, after, hsplit, h before x after hsplit⟩

/-- What an element says of each one before it holds of every two places in order. -/
theorem AtEvery.pairwise {R : α → α → Prop} {xs : List α} (h : AtEvery P xs)
    (hR : ∀ before x, P before x → ∀ y ∈ before, R y x) : xs.Pairwise R := by
  induction xs using List.reverseRecOn with
  | nil => exact List.Pairwise.nil
  | append_singleton xs x ih =>
      obtain ⟨hbefore, hx⟩ := (atEvery_snoc xs x).mp h
      rw [List.pairwise_append]
      refine ⟨ih hbefore, List.pairwise_singleton R x, ?_⟩
      intro y hy z hz
      rw [List.mem_singleton.mp hz]
      exact hR xs x hx y hy

theorem AtEvery.mono {xs : List α} (h : AtEvery P xs) (hPQ : ∀ before x, P before x → Q before x) :
    AtEvery Q xs :=
  fun before x after hsplit => hPQ before x (h before x after hsplit)

/-- Two properties hold together of a sequence if, at each element, they agree
provided the first has held of everything before. -/
theorem atEvery_congr {xs : List α}
    (h : AtEvery (fun before x => AtEvery P before → (P before x ↔ Q before x)) xs) :
    AtEvery P xs ↔ AtEvery Q xs := by
  induction xs using List.reverseRecOn with
  | nil => simp
  | append_singleton xs y ih =>
      rw [atEvery_snoc] at h
      have hxs := ih h.1
      rw [atEvery_snoc, atEvery_snoc, ← hxs]
      constructor
      · rintro ⟨hbefore, hy⟩
        exact ⟨hbefore, (h.2 hbefore).mp hy⟩
      · rintro ⟨hbefore, hy⟩
        exact ⟨hbefore, (h.2 hbefore).mpr hy⟩

theorem atEvery_map (f : β → α) (xs : List β) :
    AtEvery P (xs.map f) ↔ AtEvery (fun before x => P (before.map f) (f x)) xs := by
  induction xs using List.reverseRecOn with
  | nil => simp
  | append_singleton xs y ih => rw [List.map_append, List.map_singleton, atEvery_snoc,
      atEvery_snoc, ih]

/-- The same obligations from left to right, after `before`. -/
def holdsFrom (P : List α → α → Prop) (before : List α) : List α → Prop
  | [] => True
  | x :: xs => P before x ∧ holdsFrom P (before ++ [x]) xs

instance decidableHoldsFrom [∀ before x, Decidable (P before x)] :
    ∀ before xs, Decidable (holdsFrom P before xs)
  | _, [] => inferInstanceAs (Decidable True)
  | before, x :: xs =>
      have := decidableHoldsFrom (before ++ [x]) xs
      inferInstanceAs (Decidable (P before x ∧ holdsFrom P (before ++ [x]) xs))

theorem holdsFrom_snoc (before xs : List α) (y : α) :
    holdsFrom P before (xs ++ [y]) ↔ holdsFrom P before xs ∧ P (before ++ xs) y := by
  induction xs generalizing before with
  | nil => simp [holdsFrom]
  | cons x xs ih =>
      simp only [List.cons_append, holdsFrom, ih, and_assoc, List.append_assoc, List.nil_append]

theorem holdsFrom_iff (xs : List α) : holdsFrom P [] xs ↔ AtEvery P xs := by
  induction xs using List.reverseRecOn with
  | nil => simp [holdsFrom]
  | append_singleton xs y ih => rw [holdsFrom_snoc, atEvery_snoc, ih, List.nil_append]

instance [∀ before x, Decidable (P before x)] (xs : List α) : Decidable (AtEvery P xs) :=
  decidable_of_iff _ (holdsFrom_iff xs)

/-- What every step of a run keeps, the run keeps. -/
theorem foldlM_keeps {step : β → α → Option β} {Kept : β → Prop} {actions : List α}
    (hstep : ∀ s s', ∀ a ∈ actions, Kept s → step s a = some s' → Kept s') {s s' : β} (h : Kept s)
    (hrun : actions.foldlM step s = some s') : Kept s' := by
  induction actions generalizing s with
  | nil =>
      cases hrun
      exact h
  | cons a actions ih =>
      obtain ⟨mid, hmid, hrest⟩ := Option.bind_eq_some_iff.mp hrun
      have hkept := hstep s mid a List.mem_cons_self h hmid
      exact ih (fun s s' b hb => hstep s s' b (List.mem_cons_of_mem a hb)) hkept hrest

/-- Where each step may replace what is seen of a state, the last replacement stands. -/
theorem foldlM_last {ε γ : Type} {step : β → α → Except ε β} {view : β → Option γ}
    {given : α → Option γ} {xs : List α} {s s' : β} (hrun : xs.foldlM step s = .ok s')
    (hstep : ∀ s a s', step s a = .ok s' → view s' = (given a).or (view s)) :
    view s' = ((xs.filterMap given).getLast?).or (view s) := by
  induction xs generalizing s with
  | nil =>
      cases hrun
      simp
  | cons a xs ih =>
      rw [List.foldlM_cons] at hrun
      cases hmid : step s a with
      | error e =>
          rw [hmid] at hrun
          cases hrun
      | ok mid =>
          rw [hmid] at hrun
          rw [ih hrun, hstep s a mid hmid, List.filterMap_cons]
          cases given a <;> simp [List.getLast?_cons, Option.or_some]

end IdxWorkspace.Library.History
