import Mathlib.Data.List.Flatten
import Mathlib.Data.List.Forall2

/-!
Frames cut out of a stream at a separator, by a reader that may find nothing to
read, or a failure, in the middle of one. The reader below forgets what it has
of a frame when that happens; it gets every frame whole if and only if it is
interrupted only between frames.
-/

namespace IdxWorkspace.Library.Framing

variable {β ε : Type} [DecidableEq β]

/-- What a reader meets next in its stream. -/
inductive Arrival (β ε : Type) where
  | item (b : β)
  | pending
  | failed (e : ε)

/-- Everything that was sent. -/
def items : List (Arrival β ε) → List β
  | [] => []
  | .item b :: as => b :: items as
  | .pending :: as => items as
  | .failed _ :: as => items as

/-- What the reader gets, frame by frame; the first argument is what it has of
the next frame. The last frame may end with the stream. -/
def deliver (sep : β) : List β → List (Arrival β ε) → List (Except ε (List β))
  | partly, [] => if partly.isEmpty then [] else [.ok partly]
  | partly, .item b :: as =>
      if b = sep then .ok (partly ++ [b]) :: deliver sep [] as
      else deliver sep (partly ++ [b]) as
  | _, .pending :: as => deliver sep [] as
  | _, .failed e :: as => .error e :: deliver sep [] as

/-- The frames of a stream. -/
def frames (sep : β) : List β → List β → List (List β)
  | partly, [] => if partly.isEmpty then [] else [partly]
  | partly, b :: bs =>
      if b = sep then (partly ++ [b]) :: frames sep [] bs else frames sep (partly ++ [b]) bs

/-- Interruptions come only when the reader has nothing of the next frame. -/
def Aligned (sep : β) : List β → List (Arrival β ε) → Prop
  | _, [] => True
  | partly, .item b :: as => Aligned sep (if b = sep then [] else partly ++ [b]) as
  | partly, .pending :: as => partly = [] ∧ Aligned sep [] as
  | partly, .failed _ :: as => partly = [] ∧ Aligned sep [] as

def whole (received : List (Except ε (List β))) : List (List β) :=
  received.filterMap Except.toOption

omit [DecidableEq β] in
@[simp]
theorem whole_nil : whole ([] : List (Except ε (List β))) = [] := rfl

omit [DecidableEq β] in
@[simp]
theorem whole_ok (f : List β) (received : List (Except ε (List β))) :
    whole (.ok f :: received) = f :: whole received := rfl

omit [DecidableEq β] in
@[simp]
theorem whole_error (e : ε) (received : List (Except ε (List β))) :
    whole (.error e :: received) = whole received := rfl

variable {sep : β}

theorem frames_flatten (partly bs : List β) : (frames sep partly bs).flatten = partly ++ bs := by
  induction bs generalizing partly with
  | nil => cases partly <;> simp [frames]
  | cons b bs ih =>
      rw [frames]
      split
      · simp [ih]
      · rw [ih, List.append_assoc, List.singleton_append]

/-- A body without separator and a separator make the next frame. -/
theorem frames_append {body : List β} (h : sep ∉ body) (partly bs : List β) :
    frames sep partly (body ++ sep :: bs) = (partly ++ body ++ [sep]) :: frames sep [] bs := by
  induction body generalizing partly with
  | nil => simp [frames]
  | cons b body ih =>
      have hb : b ≠ sep := fun heq => h (by simp [heq])
      have hbody : sep ∉ body := fun hmem => h (by simp [hmem])
      rw [List.cons_append, frames, if_neg hb, ih hbody]
      simp

/-- Two streams have their frames one after the other if the first one is ended. -/
theorem frames_ended (partly bs rest : List β) :
    frames sep partly (bs ++ sep :: rest) =
      frames sep partly (bs ++ [sep]) ++ frames sep [] rest := by
  induction bs generalizing partly with
  | nil => simp [frames]
  | cons b bs ih =>
      simp only [List.cons_append, frames]
      split
      · rw [ih, List.cons_append]
      · exact ih _

/-- The frames of texts that are ended one by one. -/
theorem frames_texts (texts : List (List β)) :
    frames sep [] (texts.map (· ++ [sep])).flatten =
      texts.flatMap fun text => frames sep [] (text ++ [sep]) := by
  induction texts with
  | nil => rfl
  | cons text texts ih =>
      rw [List.map_cons, List.flatten_cons, List.append_assoc, List.singleton_append,
        frames_ended, ih, List.flatMap_cons]

theorem frames_bodies {bodies : List (List β)} (h : ∀ body ∈ bodies, sep ∉ body) :
    frames sep [] (bodies.map (· ++ [sep])).flatten = bodies.map (· ++ [sep]) := by
  induction bodies with
  | nil => rfl
  | cons body bodies ih =>
      rw [List.map_cons, List.flatten_cons, List.append_assoc, List.singleton_append,
        frames_append (h body (by simp)), ih fun b hb => h b (by simp [hb])]
      rfl

omit [DecidableEq β] in
/-- Some pieces of a text make up all of it only if the others are empty. -/
theorem flatMap_filter_iff {γ : Type} {keep : γ → Bool} {f : γ → List β} {pieces : List γ} :
    pieces.flatMap f = (pieces.filter keep).flatMap f ↔
      ∀ p ∈ pieces, keep p = false → f p = [] := by
  induction pieces with
  | nil => simp
  | cons p pieces ih =>
      cases hkeep : keep p with
      | true => simp [hkeep, ih]
      | false =>
          have hsub : ((pieces.filter keep).flatMap f).length ≤ (pieces.flatMap f).length :=
            (List.filter_sublist.flatMap f).length_le
          simp only [List.flatMap_cons, List.filter_cons, hkeep, Bool.false_eq_true, if_false,
            List.forall_mem_cons, forall_const]
          constructor
          · intro h
            have hlength := congrArg List.length h
            rw [List.length_append] at hlength
            have hnone : f p = [] := List.length_eq_zero_iff.mp (by omega)
            rw [hnone, List.nil_append] at h
            exact ⟨hnone, ih.mp h⟩
          · rintro ⟨hnone, hrest⟩
            rw [hnone, List.nil_append]
            exact ih.mpr hrest

theorem deliver_aligned {partly : List β} {as : List (Arrival β ε)} (h : Aligned sep partly as) :
    whole (deliver sep partly as) = frames sep partly (items as) := by
  induction as generalizing partly with
  | nil => cases partly <;> rfl
  | cons a as ih =>
      cases a with
      | item b =>
          rw [Aligned] at h
          rw [deliver, items, frames]
          split
          · rename_i hb
            rw [if_pos hb] at h
            rw [whole_ok, ih h]
          · rename_i hb
            rw [if_neg hb] at h
            exact ih h
      | pending =>
          obtain ⟨rfl, hrest⟩ := h
          exact ih hrest
      | failed e =>
          obtain ⟨rfl, hrest⟩ := h
          exact ih hrest

/-- A reader that is never interrupted. -/
theorem aligned_items (partly bs : List β) :
    Aligned sep partly (bs.map (.item : β → Arrival β ε)) := by
  induction bs generalizing partly with
  | nil => trivial
  | cons b bs ih => exact ih _

/-- What is received is part of what was sent, in order. -/
theorem deliver_sublist (partly : List β) (as : List (Arrival β ε)) :
    ((whole (deliver sep partly as)).flatten).Sublist (partly ++ items as) := by
  induction as generalizing partly with
  | nil => cases partly <;> simp [deliver, items]
  | cons a as ih =>
      cases a with
      | item b =>
          have hsplit : partly ++ items (.item b :: as) = partly ++ [b] ++ items as := by
            simp [items]
          rw [deliver, hsplit]
          split
          · rw [whole_ok, List.flatten_cons]
            exact (ih []).append_left _
          · exact ih _
      | pending => exact (ih []).trans (List.sublist_append_right _ _)
      | failed e => exact (ih []).trans (List.sublist_append_right _ _)

/-- A reader that starts again does not get what it had. -/
theorem nothing_forgotten {partly : List β} {as : List (Arrival β ε)}
    (h : (whole (deliver sep [] as)).flatten = partly ++ items as) : partly = [] := by
  have hsub : (whole (deliver sep [] as)).flatten.Sublist ([] ++ items as) := deliver_sublist [] as
  have hlength := hsub.length_le
  rw [h, List.nil_append, List.length_append] at hlength
  exact List.length_eq_zero_iff.mp (by omega)

/-- Nothing is lost only if the interruptions were between frames. -/
theorem aligned_of_flatten {partly : List β} {as : List (Arrival β ε)}
    (h : (whole (deliver sep partly as)).flatten = partly ++ items as) :
    Aligned sep partly as := by
  induction as generalizing partly with
  | nil => trivial
  | cons a as ih =>
      cases a with
      | item b =>
          have hsplit : partly ++ items (.item b :: as) = partly ++ [b] ++ items as := by
            simp [items]
          rw [deliver, hsplit] at h
          rw [Aligned]
          split
          · rename_i hb
            rw [if_pos hb, whole_ok, List.flatten_cons] at h
            exact ih (List.append_cancel_left h)
          · rename_i hb
            rw [if_neg hb] at h
            exact ih h
      | pending =>
          obtain rfl := nothing_forgotten h
          exact ⟨rfl, ih h⟩
      | failed e =>
          obtain rfl := nothing_forgotten h
          exact ⟨rfl, ih h⟩

/-- The reader gets the frames that were sent if and only if it is interrupted
only between frames. -/
theorem whole_deliver_iff (as : List (Arrival β ε)) :
    whole (deliver sep [] as) = frames sep [] (items as) ↔ Aligned sep [] as := by
  constructor
  · intro h
    apply aligned_of_flatten
    rw [h, frames_flatten]
  · exact deliver_aligned

/-- Without failures only frames are delivered. -/
theorem deliver_of_sound {partly : List β} {as : List (Arrival β ε)}
    (h : ∀ e, .failed e ∉ as) :
    deliver sep partly as = (whole (deliver sep partly as)).map .ok := by
  induction as generalizing partly with
  | nil => by_cases hpartly : partly.isEmpty <;> simp [deliver, hpartly]
  | cons a as ih =>
      have hrest : ∀ e, .failed e ∉ as := fun e he => h e (by simp [he])
      cases a with
      | item b =>
          rw [deliver]
          split
          · rw [whole_ok, List.map_cons, ← ih hrest]
          · exact ih hrest
      | pending => exact ih hrest
      | failed e => exact absurd (List.mem_cons_self ..) (h e)

/-- A stretch without separator only adds to what the reader has. -/
theorem deliver_append {body : List β} (h : sep ∉ body) (partly : List β)
    (as : List (Arrival β ε)) :
    deliver sep partly (body.map .item ++ as) = deliver sep (partly ++ body) as := by
  induction body generalizing partly with
  | nil => simp
  | cons b body ih =>
      have hb : b ≠ sep := fun heq => h (by simp [heq])
      have hbody : sep ∉ body := fun hmem => h (by simp [hmem])
      rw [List.map_cons, List.cons_append, deliver, if_neg hb, ih hbody]
      simp

/-- Of frames that all end, a reader that forgets gets one by one a last part each,
never nothing: it loses no frame without trace, and joins no two. The first argument
is what it has forgotten of the frame it is in. -/
theorem deliver_suffixes (lost partly : List β) {as : List (Arrival β ε)}
    (hsound : ∀ e, .failed e ∉ as) (hopen : sep ∉ lost ++ partly)
    (hends : ∀ f ∈ frames sep (lost ++ partly) (items as), sep ∈ f) :
    List.Forall₂ (fun frame got => got ≠ [] ∧ got <:+ frame)
      (frames sep (lost ++ partly) (items as)) (whole (deliver sep partly as)) := by
  induction as generalizing lost partly with
  | nil =>
      by_cases hnone : lost ++ partly = []
      · obtain ⟨rfl, rfl⟩ := List.append_eq_nil_iff.mp hnone
        exact .nil
      · have hframe : frames sep (lost ++ partly) (items ([] : List (Arrival β ε))) =
            [lost ++ partly] := by
          simp [items, frames, hnone]
        rw [hframe] at hends
        exact absurd (hends _ (List.mem_singleton_self _)) hopen
  | cons a as ih =>
      have hrest : ∀ e, .failed e ∉ as := fun e he => hsound e (by simp [he])
      cases a with
      | item b =>
          rw [items, frames] at hends ⊢
          rw [deliver]
          by_cases hb : b = sep
          · rw [if_pos hb] at hends ⊢
            rw [if_pos hb, whole_ok]
            refine .cons ⟨by simp, ⟨lost, by simp⟩⟩ (ih [] [] hrest (by simp) ?_)
            exact fun f hf => hends f (List.mem_cons_of_mem _ hf)
          · rw [if_neg hb, List.append_assoc] at hends ⊢
            rw [if_neg hb]
            refine ih _ _ hrest ?_ hends
            simpa [and_assoc, Ne.symm hb] using hopen
      | pending =>
          have hforgotten := ih (lost ++ partly) [] hrest
          rw [List.append_nil] at hforgotten
          exact hforgotten hopen hends
      | failed e => exact absurd (List.mem_cons_self ..) (hsound e)

end IdxWorkspace.Library.Framing
