import Mathlib.Data.List.Infix

/-!
Templates whose holes are filled one after the other by searching the text for
each hole as it is written. As long as no text that is put in has an opening
mark of its own, that fills every hole with its own text, in whatever order the
holes are filled.
-/

namespace IdxWorkspace.Library.Template

variable {α : Type} [DecidableEq α]

/-- `replaceFrom word new skip text` drops `skip` letters and puts `new` in the
place of each occurrence of `word`, from the left and without overlap. -/
def replaceFrom (word new : List α) : Nat → List α → List α
  | _, [] => []
  | n + 1, _ :: text => replaceFrom word new n text
  | 0, a :: text =>
      if word <+: a :: text then new ++ replaceFrom word new (word.length - 1) text
      else a :: replaceFrom word new 0 text

def replace (word new text : List α) : List α := replaceFrom word new 0 text

inductive Piece (α : Type) where
  | text (letters : List α)
  | hole (key : List α)

def mark (opening closing : α) (key : List α) : List α := opening :: (key ++ [closing])

def Piece.render (opening closing : α) : Piece α → List α
  | .text letters => letters
  | .hole key => mark opening closing key

def render (opening closing : α) (pieces : List (Piece α)) : List α :=
  pieces.flatMap (Piece.render opening closing)

/-- A key that can be told from what is around it. -/
def Unmarked (opening closing : α) (key : List α) : Prop := opening ∉ key ∧ closing ∉ key

/-- Text without opening marks, or a hole with an unmarked key. -/
def Piece.Plain (opening closing : α) : Piece α → Prop
  | .text letters => opening ∉ letters
  | .hole key => Unmarked opening closing key

def Piece.fill (key new : List α) : Piece α → Piece α
  | .text letters => .text letters
  | .hole key' => if key' = key then .text new else .hole key'

/-- All the holes at once. -/
def Piece.substitute (args : List (List α × List α)) : Piece α → Piece α
  | .text letters => .text letters
  | .hole key => ((args.find? (·.1 = key)).map fun a => Piece.text a.2).getD (.hole key)

/-- The holes one after the other, each searched for in what the others left. -/
def fill (opening closing : α) (args : List (List α × List α)) (text : List α) : List α :=
  args.foldl (fun text a => replace (mark opening closing a.1) a.2 text) text

variable {word new text : List α} {opening closing : α}

theorem replaceFrom_drop (n : Nat) (text : List α) :
    replaceFrom word new n text = replace word new (text.drop n) := by
  induction n generalizing text with
  | zero => rfl
  | succ n ih =>
      cases text with
      | nil => rfl
      | cons a text => exact ih text

theorem replace_cons (a : α) (text : List α) :
    replace word new (a :: text) =
      if word <+: a :: text then new ++ replace word new (text.drop (word.length - 1))
      else a :: replace word new text := by
  rw [replace, replaceFrom, replaceFrom_drop]
  rfl

/-- Letters in which the word cannot begin stay. -/
theorem replace_append_of_not_mem {rest letters text : List α} (h : opening ∉ letters) :
    replace (opening :: rest) new (letters ++ text) =
      letters ++ replace (opening :: rest) new text := by
  induction letters with
  | nil => rfl
  | cons a letters ih =>
      have ha : opening ≠ a := fun heq => h (by simp [heq])
      have hletters : opening ∉ letters := fun hmem => h (by simp [hmem])
      rw [List.cons_append, replace_cons, if_neg (by simp [List.cons_prefix_cons, ha]),
        ih hletters, List.cons_append]

theorem replace_word_append (hword : word ≠ []) (text : List α) :
    replace word new (word ++ text) = new ++ replace word new text := by
  cases word with
  | nil => exact absurd rfl hword
  | cons a word =>
      rw [List.cons_append, replace_cons, ← List.cons_append, if_pos (List.prefix_append _ _)]
      simp

omit [DecidableEq α] in
/-- A key and its closing mark are found at the start of another only if it is the same. -/
theorem key_eq_of_closed {key key' : List α} (hkey : closing ∉ key) (hkey' : closing ∉ key')
    {text : List α} (h : key ++ [closing] <+: key' ++ closing :: text) : key = key' := by
  induction key generalizing key' with
  | nil =>
      cases key' with
      | nil => rfl
      | cons b key' =>
          have hb : closing = b := (List.cons_prefix_cons.mp h).1
          exact absurd (by simp [hb]) hkey'
  | cons a key ih =>
      cases key' with
      | nil =>
          have ha : a = closing := (List.cons_prefix_cons.mp h).1
          exact absurd (by simp [ha]) hkey
      | cons b key' =>
          obtain ⟨rfl, hrest⟩ := List.cons_prefix_cons.mp h
          rw [ih (fun hmem => hkey (by simp [hmem])) (fun hmem => hkey' (by simp [hmem])) hrest]

/-- Another hole stays as it is. -/
theorem replace_mark_append {key key' : List α} (hmarks : opening ≠ closing)
    (hkey : Unmarked opening closing key) (hkey' : Unmarked opening closing key')
    (hne : key ≠ key') (text : List α) :
    replace (mark opening closing key) new (mark opening closing key' ++ text) =
      mark opening closing key' ++ replace (mark opening closing key) new text := by
  have hinside : opening ∉ key' ++ [closing] := by
    simp [hkey'.1, hmarks]
  have hstart : ¬ opening :: (key ++ [closing]) <+: opening :: (key' ++ [closing] ++ text) := by
    intro h
    have hclosed := (List.cons_prefix_cons.mp h).2
    rw [List.append_assoc] at hclosed
    exact hne (key_eq_of_closed hkey.2 hkey'.2 hclosed)
  rw [mark, mark, List.cons_append, replace_cons, if_neg hstart,
    replace_append_of_not_mem hinside, List.cons_append]

/-- One round of filling fills the holes of its key. -/
theorem replace_render {pieces : List (Piece α)} {key : List α} (hmarks : opening ≠ closing)
    (hkey : Unmarked opening closing key) (hplain : ∀ p ∈ pieces, p.Plain opening closing) :
    replace (mark opening closing key) new (render opening closing pieces) =
      render opening closing (pieces.map (Piece.fill key new)) := by
  induction pieces with
  | nil => rfl
  | cons piece pieces ih =>
      have hrest := ih fun p hp => hplain p (by simp [hp])
      have hpiece := hplain piece (by simp)
      simp only [render, List.map_cons, List.flatMap_cons] at hrest ⊢
      cases piece with
      | text letters =>
          rw [Piece.render, mark, replace_append_of_not_mem hpiece, ← mark, hrest]
          rfl
      | hole key' =>
          rw [Piece.render, Piece.fill]
          split
          · rename_i heq
            rw [heq, replace_word_append (by simp [mark]), hrest]
            rfl
          · rename_i hne
            rw [replace_mark_append hmarks hkey hpiece (Ne.symm hne), hrest]
            rfl

omit [DecidableEq α] in
theorem Piece.Plain.fill [DecidableEq α] {piece : Piece α} {key : List α}
    (h : piece.Plain opening closing) (hnew : opening ∉ new) :
    (piece.fill key new).Plain opening closing := by
  cases piece with
  | text letters => exact h
  | hole key' =>
      rw [Piece.fill]
      split
      · exact hnew
      · exact h

/-- Once filled, a hole is text to the later arguments. -/
theorem Piece.substitute_cons (a : List α × List α) (args : List (List α × List α))
    (piece : Piece α) : piece.substitute (a :: args) = (piece.fill a.1 a.2).substitute args := by
  cases piece with
  | text letters => rfl
  | hole key =>
      by_cases h : a.1 = key
      · simp [Piece.substitute, Piece.fill, h]
      · have hne : ¬ key = a.1 := Ne.symm h
        simp [Piece.substitute, Piece.fill, h, hne]

/-- Filled one after the other, the holes get what they would get at once. -/
theorem fill_render {pieces : List (Piece α)} {args : List (List α × List α)}
    (hmarks : opening ≠ closing) (hplain : ∀ p ∈ pieces, p.Plain opening closing)
    (hargs : ∀ a ∈ args, Unmarked opening closing a.1 ∧ opening ∉ a.2) :
    fill opening closing args (render opening closing pieces) =
      render opening closing (pieces.map (Piece.substitute args)) := by
  induction args generalizing pieces with
  | nil =>
      have hsame : Piece.substitute ([] : List (List α × List α)) = id := by
        funext piece
        cases piece <;> rfl
      rw [hsame, List.map_id]
      rfl
  | cons a args ih =>
      obtain ⟨hkey, hnew⟩ := hargs a (by simp)
      have hfilled : ∀ p ∈ pieces.map (Piece.fill a.1 a.2), p.Plain opening closing := by
        intro p hp
        obtain ⟨q, hq, rfl⟩ := List.mem_map.mp hp
        exact (hplain q hq).fill hnew
      have hround : fill opening closing (a :: args) (render opening closing pieces) =
          fill opening closing args (render opening closing (pieces.map (Piece.fill a.1 a.2))) := by
        rw [← replace_render hmarks hkey hplain]
        rfl
      rw [hround, ih hfilled fun b hb => hargs b (by simp [hb]), List.map_map]
      congr 1
      apply List.map_congr_left
      intro piece _
      exact (Piece.substitute_cons a args piece).symm

end IdxWorkspace.Library.Template
