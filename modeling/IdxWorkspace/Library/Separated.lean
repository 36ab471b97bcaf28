import Mathlib.Data.List.Infix

/-!
Separator-joined lists over an arbitrary alphabet: a text is cut at every
separator into its parts, and parts are joined again with one separator
between neighbours. The laws below say how cutting meets appending, joining,
filtering and the search for a separator-free word.
-/

namespace IdxWorkspace.Library.Separated

variable {α β : Type} [DecidableEq α]

/-- The parts of a text. There is always at least one, possibly empty. -/
def parts (sep : α) (s : List α) : List (List α) :=
  s.splitOn sep

/-- Parts joined by one separator. Joining no parts gives the empty text, which
then has one empty part. -/
def join (sep : α) (ps : List (List α)) : List α :=
  [sep].intercalate ps

@[simp]
theorem parts_nil (sep : α) : parts sep [] = [[]] := rfl

@[simp]
theorem parts_ne_nil (sep : α) (s : List α) : parts sep s ≠ [] :=
  List.splitOn_ne_nil sep s

omit [DecidableEq α] in
@[simp]
theorem join_nil (sep : α) : join sep [] = [] := rfl

@[simp]
theorem join_parts (sep : α) (s : List α) : join sep (parts sep s) = s :=
  List.intercalate_splitOn sep

theorem parts_injective (sep : α) : Function.Injective (parts sep) :=
  Function.LeftInverse.injective (join_parts sep)

@[simp]
theorem parts_append (sep : α) (s t : List α) :
    parts sep (s ++ sep :: t) = parts sep s ++ parts sep t :=
  List.splitOn_append_cons_self s t

theorem parts_of_not_mem {sep : α} {s : List α} (h : sep ∉ s) :
    parts sep s = [s] :=
  List.splitOn_eq_singleton h

theorem parts_join {sep : α} {ps : List (List α)} (hne : ps ≠ [])
    (hsep : ∀ p ∈ ps, sep ∉ p) : parts sep (join sep ps) = ps :=
  List.splitOn_intercalate sep hsep hne

/-- No part contains the separator. The induction follows the cut: a separator
opens a new part, any other letter goes in front of the first one. -/
theorem sep_not_mem_part {sep : α} {s p : List α} (h : p ∈ parts sep s) :
    sep ∉ p := by
  induction s generalizing p with
  | nil =>
      simp only [parts_nil, List.mem_singleton] at h
      simp [h]
  | cons a s ih =>
      rw [parts, List.splitOn_cons_eq_if_modifyHead] at h
      obtain ⟨first, rest, hs⟩ := List.exists_cons_of_ne_nil (parts_ne_nil sep s)
      have hfirst : sep ∉ first := ih (by simp [hs])
      have hrest : ∀ q ∈ rest, sep ∉ q := fun q hq => ih (by simp [hs, hq])
      rw [parts] at hs
      by_cases ha : a = sep
      · simp only [ha, BEq.rfl, if_true, hs, List.mem_cons] at h
        rcases h with rfl | rfl | h
        · simp
        · exact hfirst
        · exact hrest p h
      · simp only [beq_eq_false_iff_ne.mpr ha, Bool.false_eq_true, if_false, hs,
          List.modifyHead_cons, List.mem_cons] at h
        rcases h with rfl | h
        · simpa [Ne.symm ha] using hfirst
        · exact hrest p h

/-- Dropping parts and joining the rest loses no other part, unless nothing is
left: the empty text has one empty part, not none. -/
theorem parts_join_filter {sep : α} {s : List α} {keep : List α → Bool}
    (h : (parts sep s).filter keep ≠ []) :
    parts sep (join sep ((parts sep s).filter keep)) = (parts sep s).filter keep :=
  parts_join h fun _ hp => sep_not_mem_part (List.mem_of_mem_filter hp)

/-- Seen through a filter that discards the empty part, the exception above
disappears. -/
theorem filter_parts_join_filter {sep : α} {s : List α} {keep see : List α → Bool}
    (hempty : see [] = false) :
    (parts sep (join sep ((parts sep s).filter keep))).filter see =
      ((parts sep s).filter keep).filter see := by
  by_cases h : (parts sep s).filter keep = []
  · simp [h, hempty]
  · rw [parts_join_filter h]

omit [DecidableEq α] in
/-- A word free of separators occurs in `s ++ sep :: t` on one side of the
separator. The images under `f` are compared, so that the same law serves a
search that identifies letters. -/
theorem map_infix_append_sep_iff {f : α → β} {sep : α} {w s t : List α}
    (hw : f sep ∉ w.map f) :
    w.map f <:+: (s ++ sep :: t).map f ↔
      w.map f <:+: s.map f ∨ w.map f <:+: t.map f := by
  constructor
  · rintro ⟨before, after, h⟩
    simp only [List.map_append, List.map_cons, List.append_assoc] at h
    rcases List.append_eq_append_iff.mp h with ⟨c, hs, htail⟩ | ⟨c, hbefore, htail⟩
    · -- the word starts in `s`
      rcases List.append_eq_append_iff.mp htail with ⟨d, hc, _⟩ | ⟨d, hword, hrest⟩
      · exact Or.inl ⟨before, d, by rw [hs, hc, List.append_assoc]⟩
      · cases d with
        | nil => exact Or.inl ⟨before, [], by simp [hs, hword]⟩
        | cons b d =>
            simp only [List.cons_append, List.cons.injEq] at hrest
            exact absurd (by simp [hword, hrest.1]) hw
    · -- the word starts at or after the separator
      cases c with
      | nil =>
          cases hmap : w.map f with
          | nil => exact Or.inr (List.nil_infix)
          | cons b rest =>
              simp only [hmap, List.nil_append, List.cons_append, List.cons.injEq] at htail
              exact absurd (by simp [hmap, htail.1]) hw
      | cons b c =>
          simp only [List.cons_append, List.cons.injEq] at htail
          exact Or.inr ⟨c, after, by rw [htail.2, List.append_assoc]⟩
  · rintro (h | h)
    · rw [List.map_append]
      exact h.trans (List.prefix_append _ _).isInfix
    · rw [List.map_append, List.map_cons]
      exact h.trans ((List.suffix_cons _ _).trans (List.suffix_append _ _)).isInfix

omit [DecidableEq α] in
private theorem join_cons_cons (sep : α) (p q : List α) (ps : List (List α)) :
    join sep (p :: q :: ps) = p ++ sep :: join sep (q :: ps) := by
  simp [join]

omit [DecidableEq α] in
private theorem map_infix_join_iff {f : α → β} {sep : α} {w : List α}
    (hw : f sep ∉ w.map f) {ps : List (List α)} (hne : ps ≠ []) :
    w.map f <:+: (join sep ps).map f ↔ ∃ p ∈ ps, w.map f <:+: p.map f := by
  induction ps with
  | nil => exact absurd rfl hne
  | cons p ps ih =>
      cases ps with
      | nil => simp [join]
      | cons q ps =>
          rw [join_cons_cons, map_infix_append_sep_iff hw, ih (by simp)]
          simp

/-- A separator-free word occurs in a text exactly when it occurs in a part. -/
theorem map_infix_iff_exists_part {f : α → β} {sep : α} {w s : List α}
    (hw : f sep ∉ w.map f) :
    w.map f <:+: s.map f ↔ ∃ p ∈ parts sep s, w.map f <:+: p.map f := by
  conv_lhs => rw [← join_parts sep s]
  exact map_infix_join_iff hw (parts_ne_nil sep s)

end IdxWorkspace.Library.Separated
