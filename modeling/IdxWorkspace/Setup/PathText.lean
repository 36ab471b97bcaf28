import IdxWorkspace.PowerShell.Text

/-!
`PATH` texts as the scripts see them: a `;`-separated list of entries that is
searched as one string but edited entry by entry. An unset `PATH` and an empty
one are the same text, with one empty entry.
-/

namespace IdxWorkspace.Setup

open Library PowerShell

def entries (t : Text) : List Text := split t

/-- Some entry is `d`, up to case. -/
def Has (casing : Casing) (t d : Text) : Prop :=
  ∃ e ∈ entries t, casing.key e = casing.key d

instance (casing : Casing) (t d : Text) : Decidable (Has casing t d) :=
  inferInstanceAs (Decidable (∃ e ∈ entries t, casing.key e = casing.key d))

/-- `d` occurs in the text, up to case, as a whole entry or not. -/
def Contains (casing : Casing) (t d : Text) : Prop :=
  casing.key d <:+: casing.key t

instance (casing : Casing) (t d : Text) : Decidable (Contains casing t d) :=
  inferInstanceAs (Decidable (casing.key d <:+: casing.key t))

/-- `"$t;$d"` -/
def append (t d : Text) : Text := t ++ ';' :: d

/-- What the guarded append leaves. -/
def addEntry (casing : Casing) (d t : Text) : Text :=
  if Contains casing t d then t else append t d

/-- `($t.Split(';') | Where-Object { $_ -ne $d }) -join ';'` -/
def removeEntry (casing : Casing) (d t : Text) : Text :=
  join ((entries t).filter fun e => !casing.eq e d)

/-- A directory the scripts put on a `PATH`: plain ASCII, not empty, and without
the separator in either case. -/
structure Directory where
  text : Text
  ascii : Ascii text
  plain : Plain text
  ne_nil : text ≠ []
  sep_not_mem : ';' ∉ text.map Char.toLower

variable {casing : Casing}

@[simp]
theorem entries_append (t d : Text) : entries (append t d) = entries t ++ entries d :=
  Separated.parts_append ';' t d

theorem entries_injective : Function.Injective entries := Separated.parts_injective ';'

@[simp]
theorem has_append (t u d : Text) :
    Has casing (append t u) d ↔ Has casing t d ∨ Has casing u d := by
  simp only [Has, entries_append, List.mem_append]
  constructor
  · rintro ⟨e, he | he, hkey⟩
    · exact Or.inl ⟨e, he, hkey⟩
    · exact Or.inr ⟨e, he, hkey⟩
  · rintro (⟨e, he, hkey⟩ | ⟨e, he, hkey⟩)
    · exact ⟨e, Or.inl he, hkey⟩
    · exact ⟨e, Or.inr he, hkey⟩

theorem has_of_mem {t e : Text} (h : e ∈ entries t) : Has casing t e := ⟨e, h, rfl⟩

theorem Has.congr {t d e : Text} (h : Has casing t d) (hkey : casing.key d = casing.key e) :
    Has casing t e := by
  obtain ⟨f, hf, hfd⟩ := h
  exact ⟨f, hf, hfd.trans hkey⟩

namespace Directory

variable (d : Directory)

theorem key_eq : casing.key d.text = d.text.map Char.toLower :=
  Casing.key_of_ascii d.ascii

theorem sep_not_mem_text : ';' ∉ d.text := fun h =>
  d.sep_not_mem (List.mem_map.mpr ⟨';', h, rfl⟩)

theorem entries_eq : entries d.text = [d.text] :=
  Separated.parts_of_not_mem d.sep_not_mem_text

theorem fold_sep_not_mem : casing.fold ';' ∉ d.text.map casing.fold := by
  have hkey : d.text.map casing.fold = d.text.map Char.toLower := d.key_eq
  rw [hkey, casing.fold_ascii ';' (by decide)]
  exact d.sep_not_mem

theorem has_text_iff (e : Text) :
    Has casing d.text e ↔ casing.key d.text = casing.key e := by
  simp [Has, d.entries_eq]

theorem key_ne_nil : casing.key d.text ≠ [] := by
  simpa [Casing.key] using d.ne_nil

/-- The search on the joined string looks inside the entries one by one. -/
theorem contains_iff (t : Text) :
    Contains casing t d.text ↔ ∃ e ∈ entries t, casing.key d.text <:+: casing.key e :=
  Separated.map_infix_iff_exists_part d.fold_sep_not_mem

/-- A whole entry is found by the search; the converse fails for an entry that
only contains the directory. -/
theorem contains_of_has {t : Text} (h : Has casing t d.text) :
    Contains casing t d.text := by
  obtain ⟨e, he, hkey⟩ := h
  exact (d.contains_iff t).mpr ⟨e, he, hkey ▸ List.infix_rfl⟩

theorem contains_append_iff (t u : Text) :
    Contains casing (append t u) d.text ↔
      Contains casing t d.text ∨ Contains casing u d.text :=
  Separated.map_infix_append_sep_iff d.fold_sep_not_mem

end Directory

/-- The guarded append puts the directory on the text unless the search found it. -/
theorem has_addEntry_iff (d : Directory) (t e : Text) :
    Has casing (addEntry casing d.text t) e ↔
      Has casing t e ∨ (¬ Contains casing t d.text ∧ casing.key d.text = casing.key e) := by
  unfold addEntry
  split
  · next h => simp [h]
  · next h => simp [h, d.has_text_iff]

theorem addEntry_eq_append_iff (d t : Text) :
    addEntry casing d t = append t d ↔ ¬ Contains casing t d := by
  unfold addEntry
  split
  · next h => simp [h, append]
  · next h => simp [h]

end IdxWorkspace.Setup
