import IdxWorkspace.Library.Separated
import IdxWorkspace.Library.Wildcard

/-!
The string operators the scripts apply to environment values: `-eq`, `-like`,
`.Split(';')` and `-join ';'`. Comparison is case-insensitive letter by letter.
Which letters outside ASCII fold together is left to the host: every result
below holds for any folding that is the usual one on ASCII.
-/

namespace IdxWorkspace.PowerShell

open Library

/-- The characters of an environment value. -/
abbrev Text := List Char

structure Casing where
  fold : Char → Char
  fold_ascii : ∀ c : Char, c.toNat < 128 → fold c = c.toLower

/-- The folding that touches ASCII letters only. -/
def Casing.ascii : Casing := ⟨Char.toLower, fun _ _ => rfl⟩

variable (casing : Casing)

def Casing.key (t : Text) : Text := t.map casing.fold

/-- The `-eq` of two strings. -/
def Casing.eq (a b : Text) : Bool := casing.key a == casing.key b

/-- One `[...]` set of a wildcard pattern: letters and `a-z` ranges. -/
def bracket : Text → Char → Bool
  | lo :: '-' :: hi :: set, c =>
      (casing.fold lo ≤ casing.fold c && casing.fold c ≤ casing.fold hi) || bracket set c
  | a :: set, c => casing.fold a == casing.fold c || bracket set c
  | [], _ => false

/-- The tokens of a wildcard pattern; the first argument holds the letters of an
open bracket, last one first. A pattern with a bracket left open is invalid. -/
def wildcardTokens : Option Text → Text → Option (List (Wildcard.Token Char))
  | none, [] => some []
  | some _, [] => none
  | some set, ']' :: p => do
      return .single (bracket casing set.reverse) :: (← wildcardTokens none p)
  | some set, c :: p => wildcardTokens (some (c :: set)) p
  | none, '*' :: p => do return .many :: (← wildcardTokens none p)
  | none, '?' :: p => do return .single (fun _ => true) :: (← wildcardTokens none p)
  | none, '[' :: p => wildcardTokens (some []) p
  | none, '\x60' :: c :: p => do
      return Wildcard.word casing.fold [c] ++ (← wildcardTokens none p)
  | none, c :: p => do return Wildcard.word casing.fold [c] ++ (← wildcardTokens none p)

/-- `value -like pattern`, where an invalid pattern raises. -/
def like (value pattern : Text) : Option Bool := do
  return Wildcard.accepts (← wildcardTokens casing none pattern) value

def split (t : Text) : List Text := Separated.parts ';' t

def join (parts : List Text) : Text := Separated.join ';' parts

/-- A null string put into another string reads as the empty one. -/
def interpolate (t : Option Text) : Text := t.getD []

variable {casing}

theorem Casing.eq_iff {a b : Text} : casing.eq a b = true ↔ casing.key a = casing.key b := by
  simp [Casing.eq]

def Ascii (t : Text) : Prop := ∀ c ∈ t, c.toNat < 128

-- the instance on lists, since there is one on all letters too
instance (t : Text) : Decidable (Ascii t) := List.decidableBAll _ t

/-- On ASCII text the folding is known. -/
theorem Casing.key_of_ascii {t : Text} (h : Ascii t) :
    casing.key t = t.map Char.toLower :=
  List.map_congr_left fun c hc => casing.fold_ascii c (h c hc)

/-- The letters with a meaning of their own in a pattern. -/
def Plain (t : Text) : Prop := ∀ c ∈ t, c ∉ ['*', '?', '[', '\x60']

instance (t : Text) : Decidable (Plain t) := List.decidableBAll _ t

theorem wildcardTokens_cons_plain {c : Char} (h : c ∉ ['*', '?', '[', '\x60']) (p : Text) :
    wildcardTokens casing none (c :: p) =
      (wildcardTokens casing none p).map (Wildcard.word casing.fold [c] ++ ·) := by
  simp only [List.mem_cons, List.not_mem_nil, or_false, not_or] at h
  obtain ⟨hmany, hone, hset, hescape⟩ := h
  rw [wildcardTokens]
  · cases wildcardTokens casing none p <;> rfl
  all_goals simp_all

/-- A plain word stands for itself. -/
theorem wildcardTokens_plain {t : Text} (h : Plain t) (p : Text) :
    wildcardTokens casing none (t ++ p) =
      (wildcardTokens casing none p).map (Wildcard.word casing.fold t ++ ·) := by
  induction t with
  | nil => simp [Wildcard.word]
  | cons c t ih =>
      have ht : Plain t := fun d hd => h d (by simp [hd])
      rw [List.cons_append, wildcardTokens_cons_plain (h c (by simp)), ih ht, Option.map_map]
      rfl

/-- `-like "*word*"` with a plain word is a case-insensitive substring search. -/
theorem like_around {w : Text} (h : Plain w) (value : Text) :
    like casing value ('*' :: w ++ ['*']) =
      some (decide (casing.key w <:+: casing.key value)) := by
  have htokens : wildcardTokens casing none ('*' :: w ++ ['*']) =
      some (.many :: Wildcard.word casing.fold w ++ [.many]) := by
    rw [List.cons_append, wildcardTokens, wildcardTokens_plain h]
    rfl
  rw [like, htokens]
  change some _ = some _
  congr 1
  rw [Bool.eq_iff_iff, decide_eq_true_iff]
  exact Wildcard.accepts_around_iff casing.fold w value

end IdxWorkspace.PowerShell
