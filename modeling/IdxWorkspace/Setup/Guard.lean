import Mathlib.Logic.Relation
import IdxWorkspace.Setup.Progress

/-!
The `PATH` guard of the appending scripts. Its purpose is to add the directory
if it is not already present; `ensureEntry` says that in terms of entries. The
guard searches the joined string instead, and the two agree exactly when no
entry contains the directory without any entry being it.
-/

namespace IdxWorkspace.Setup

open PowerShell

/-- What the guarded append is for. -/
def ensureEntry (casing : Casing) (d t : Text) : Text :=
  if Has casing t d then t else append t d

/-- The text on which the search and the list of entries answer alike. -/
def SearchAgrees (casing : Casing) (d t : Text) : Prop :=
  Has casing t d ∨ ¬ Contains casing t d

instance (casing : Casing) (d t : Text) : Decidable (SearchAgrees casing d t) :=
  inferInstanceAs (Decidable (_ ∨ _))

variable {casing : Casing}

theorem has_ensureEntry (d : Directory) (t : Text) :
    Has casing (ensureEntry casing d.text t) d.text := by
  unfold ensureEntry
  by_cases h : Has casing t d.text
  · rw [if_pos h]
    exact h
  · rw [if_neg h, has_append]
    right
    exact (d.has_text_iff d.text).mpr rfl

/-- The search sees every whole entry, so only a proper part can mislead it. -/
theorem searchAgrees_iff (d : Directory) (t : Text) :
    SearchAgrees casing d.text t ↔ (Contains casing t d.text → Has casing t d.text) := by
  unfold SearchAgrees
  constructor
  · rintro (hhas | hnot) hcontains
    · exact hhas
    · exact absurd hcontains hnot
  · intro h
    by_cases hcontains : Contains casing t d.text
    · exact Or.inl (h hcontains)
    · exact Or.inr hcontains

/-- The guarded append does its job on exactly the texts where the search agrees. -/
theorem addEntry_eq_ensureEntry_iff (d : Directory) (t : Text) :
    addEntry casing d.text t = ensureEntry casing d.text t ↔ SearchAgrees casing d.text t := by
  rw [searchAgrees_iff]
  constructor
  · intro heq hcontains
    have hhas : Has casing (ensureEntry casing d.text t) d.text := has_ensureEntry d t
    rw [← heq, has_addEntry_iff] at hhas
    rcases hhas with hhas | ⟨hnot, _⟩
    · exact hhas
    · exact absurd hcontains hnot
  · intro h
    unfold addEntry ensureEntry
    by_cases hcontains : Contains casing t d.text
    · rw [if_pos hcontains, if_pos (h hcontains)]
    · have hhas : ¬ Has casing t d.text := fun hhas => hcontains (d.contains_of_has hhas)
      rw [if_neg hcontains, if_neg hhas]

/-- After one guarded append the search finds the directory, whatever the text was. -/
theorem contains_addEntry (d : Directory) (t : Text) :
    Contains casing (addEntry casing d.text t) d.text := by
  unfold addEntry
  by_cases hcontains : Contains casing t d.text
  · rw [if_pos hcontains]
    exact hcontains
  · rw [if_neg hcontains, d.contains_append_iff]
    exact Or.inr List.infix_rfl

theorem addEntry_addEntry (d : Directory) (t : Text) :
    addEntry casing d.text (addEntry casing d.text t) = addEntry casing d.text t :=
  if_pos (contains_addEntry d t)

variable {rt : Runtime}

theorem InstallingRun.machinePath_eq (hwin : rt.platform = .windows) {t : AppendingTool}
    {s s' : Session} (h : InstallingRun rt (.appending t) s s') :
    machinePath s' = addEntry rt.casing t.directory.text (machinePath s) := by
  obtain ⟨version, rfl⟩ := h.effect hwin
  exact effect_appending_machinePath t s

/-- Further runs of the same script find the directory and leave `PATH` alone. -/
theorem installingRuns_machinePath_eq (hwin : rt.platform = .windows) {t : AppendingTool}
    {s s' s'' : Session} (h : InstallingRun rt (.appending t) s s')
    (hlater : Relation.ReflTransGen (InstallingRun rt (.appending t)) s' s'') :
    machinePath s'' = machinePath s' := by
  induction hlater with
  | refl => rfl
  | tail _ hrun ih => rw [hrun.machinePath_eq hwin, ih, h.machinePath_eq hwin, addEntry_addEntry]

/-- The directory was put at the end of the machine `PATH`. -/
def Appended (d : Text) (s s' : Session) : Prop :=
  machinePath s' = append (machinePath s) d

/-- An installing run from `s` to `s'` treats its directory as an entry: it is
one afterwards, it was appended exactly when it was none, and later runs of the
script do not append it again. -/
structure DecidesMembership (rt : Runtime) (t : AppendingTool) (s s' : Session) : Prop where
  present : Has rt.casing (machinePath s') t.directory.text
  appended_iff : Appended t.directory.text s s' ↔ ¬ Has rt.casing (machinePath s) t.directory.text
  once : ∀ s'', Relation.ReflTransGen (InstallingRun rt (.appending t)) s' s'' →
    machinePath s'' = machinePath s'

/-- A directory that only occurs inside other entries stays off the `PATH`; from
every other `PATH` the guard decides membership. Both directions hold for each of the
appending scripts, from every machine `PATH`, unset ones included, and with any
folding of case that is the usual one on ASCII. -/
theorem decidesMembership_iff (hwin : rt.platform = .windows) {t : AppendingTool}
    {s s' : Session} (h : InstallingRun rt (.appending t) s s') :
    DecidesMembership rt t s s' ↔
      SearchAgrees rt.casing t.directory.text (machinePath s) := by
  have hpath : machinePath s' = addEntry rt.casing t.directory.text (machinePath s) :=
    h.machinePath_eq hwin
  have happended : Appended t.directory.text s s' ↔
      ¬ Contains rt.casing (machinePath s) t.directory.text := by
    rw [Appended, hpath]
    exact addEntry_eq_append_iff _ _
  constructor
  · intro hdecides
    have hpresent := hdecides.present
    rw [hpath, has_addEntry_iff] at hpresent
    rcases hpresent with hhas | ⟨hnot, _⟩
    · exact Or.inl hhas
    · exact Or.inr hnot
  · intro hagrees
    constructor
    · rw [hpath, (addEntry_eq_ensureEntry_iff _ _).mpr hagrees]
      exact has_ensureEntry _ _
    · rw [happended]
      have hsearch := (searchAgrees_iff _ _).mp hagrees
      constructor
      · intro hnot hhas
        exact hnot (t.directory.contains_of_has hhas)
      · intro hnot hcontains
        exact hnot (hsearch hcontains)
    · intro s'' hlater
      exact installingRuns_machinePath_eq hwin h hlater

/-- A 64-bit Windows session that only folds ASCII. -/
def windows : Runtime := ⟨.windows, Casing.ascii, "C:\\Windows\\Temp", true⟩

/-- A session with a given machine `PATH` and nothing else. -/
def sessionWithPath (t : Text) : Session :=
  ⟨Function.update (fun _ => none) .path (some t), []⟩

theorem decidesMembership_clean_machine :
    let s := sessionWithPath "C:\\Windows".toList
    DecidesMembership windows .llvm s (Tool.effect windows "17.0.6" (.appending .llvm) s) := by
  intro s
  have hrun : InstallingRun windows (.appending .llvm) s _ :=
    installingRun_exists rfl (by decide) "17.0.6" s
  exact (decidesMembership_iff rfl hrun).mpr (by decide)

/-- With a directory next to it that extends its name, LLVM is installed and its
directory is no entry of the `PATH`. -/
theorem guard_misses_sibling_directory :
    let s := sessionWithPath "C:\\Program Files\\LLVM\\bin64".toList
    ∃ s', InstallingRun windows (.appending .llvm) s s' ∧
      ¬ Has windows.casing (machinePath s') "C:\\Program Files\\LLVM\\bin".toList ∧
      ¬ DecidesMembership windows .llvm s s' := by
  intro s
  have hrun : InstallingRun windows (.appending .llvm) s _ :=
    installingRun_exists rfl (by decide) "17.0.6" s
  have hpath := hrun.machinePath_eq rfl
  have habsent : ¬ Has windows.casing (addEntry windows.casing
      (AppendingTool.directory .llvm).text (machinePath s))
      (AppendingTool.directory .llvm).text := by
    decide
  rw [← hpath] at habsent
  exact ⟨_, hrun, habsent, fun hdecides => habsent hdecides.present⟩

end IdxWorkspace.Setup
