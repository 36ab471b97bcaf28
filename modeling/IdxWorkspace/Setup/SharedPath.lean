import IdxWorkspace.Library.History
import IdxWorkspace.Setup.Guard

/-!
All five installers on one machine `PATH`, in one session. Three of them edit
the machine `PATH` in place, two replace it by the session's. Entries get lost
or leak in at the replacements only, and which ones do is decided by the order
of the runs, the machine `PATH` at the start and the user's.
-/

namespace IdxWorkspace.Setup

open PowerShell Library Library.History

/-- The installing runs of a session: each tool, and the session after its run. -/
abbrev Runlog := List (Tool × Session)

def sessionAfter (s₀ : Session) (log : Runlog) : Session :=
  (log.getLast?.map Prod.snd).getD s₀

def toolsOf (log : Runlog) : List Tool := log.map Prod.fst

/-- Every run starts where the one before it ended. -/
inductive Installations (rt : Runtime) (s₀ : Session) : Runlog → Prop where
  | nil : Installations rt s₀ []
  | snoc {log : Runlog} {t : Tool} {s' : Session} : Installations rt s₀ log →
      InstallingRun rt t (sessionAfter s₀ log) s' → Installations rt s₀ (log ++ [(t, s')])

/-- A machine `PATH` with the user's behind it, if the user has one. -/
def followedBy (machine : Text) : Option Text → Text
  | none => machine
  | some user => append machine user

def userEntries : Option Text → List Text
  | none => []
  | some user => entries user

/-- Some run of the log put the directory of `t` on the machine `PATH`. -/
def PutOn (casing : Casing) (s₀ : Session) (log : Runlog) (t : Tool) : Prop :=
  ∃ before s' after, log = before ++ (t, s') :: after ∧
    ¬ Has casing (machinePath (sessionAfter s₀ before)) t.directory.text ∧
    Has casing (machinePath s') t.directory.text

/-- The machine `PATH` after a log of runs is accounted for: nothing it had to
keep is lost, and nothing else is on it. -/
structure Accounted (casing : Casing) (s₀ : Session) (log : Runlog) : Prop where
  kept : ∀ e ∈ entries (machinePath s₀), Has casing (machinePath (sessionAfter s₀ log)) e
  put : ∀ t, PutOn casing s₀ log t →
    Has casing (machinePath (sessionAfter s₀ log)) t.directory.text
  owned : ∀ e ∈ entries (machinePath (sessionAfter s₀ log)),
    Has casing (machinePath s₀) e ∨ ∃ t ∈ toolsOf log, casing.key t.directory.text = casing.key e

def NoneLostNoneLeaked (casing : Casing) (s₀ : Session) (log : Runlog) : Prop :=
  AtEvery (fun before run => Accounted casing s₀ (before ++ [run])) log

/-- What makes the replacement of the machine `PATH` by the session's harmless,
given the tools installed before it. -/
def ReplacesSafely (casing : Casing) (machine : Text) (user : Option Text) (before : List Tool) :
    Tool → Prop
  | .appending _ => True
  | .overwriting o =>
      (∀ e ∈ userEntries user, Has casing machine e ∨
        ∃ t ∈ before ++ [.overwriting o], casing.key t.directory.text = casing.key e) ∧
      ∀ a ∈ [AppendingTool.llvm, .wasmedge, .ggml], .appending a ∈ before →
        Contains casing machine a.directory.text ∨
        ∃ e ∈ userEntries user, casing.key e = casing.key a.directory.text

instance (casing : Casing) (machine : Text) (user : Option Text) (before : List Tool) :
    ∀ t, Decidable (ReplacesSafely casing machine user before t)
  | .appending _ => inferInstanceAs (Decidable True)
  | .overwriting _ => inferInstanceAs (Decidable (_ ∧ _))

def EveryReplacementSafe (casing : Casing) (machine : Text) (user : Option Text)
    (tools : List Tool) : Prop :=
  AtEvery (ReplacesSafely casing machine user) tools

instance (casing : Casing) (machine : Text) (user : Option Text) (tools : List Tool) :
    Decidable (EveryReplacementSafe casing machine user tools) :=
  inferInstanceAs (Decidable (AtEvery _ _))

variable {casing : Casing} {rt : Runtime} {s₀ : Session} {log : Runlog}

@[simp]
theorem sessionAfter_nil : sessionAfter s₀ [] = s₀ := rfl

@[simp]
theorem sessionAfter_snoc (run : Tool × Session) : sessionAfter s₀ (log ++ [run]) = run.2 := by
  simp [sessionAfter]

@[simp]
theorem toolsOf_nil : toolsOf [] = [] := rfl

@[simp]
theorem toolsOf_snoc (run : Tool × Session) : toolsOf (log ++ [run]) = toolsOf log ++ [run.1] := by
  simp [toolsOf]

theorem Installations.of_append {more : Runlog} (h : Installations rt s₀ (log ++ more)) :
    Installations rt s₀ log := by
  induction more using List.reverseRecOn with
  | nil => simpa using h
  | append_singleton more run ih =>
      rw [← List.append_assoc] at h
      generalize hall : log ++ more ++ [run] = all at h
      cases h with
      | nil => simp at hall
      | snoc hlog _ =>
          obtain ⟨heq, _⟩ := List.append_inj' hall rfl
          exact ih (heq ▸ hlog)

theorem Installations.last {t : Tool} {s' : Session}
    (h : Installations rt s₀ (log ++ [(t, s')])) : InstallingRun rt t (sessionAfter s₀ log) s' := by
  generalize hall : log ++ [(t, s')] = all at h
  cases h with
  | nil => simp at hall
  | snoc _ hrun =>
      obtain ⟨rfl, hlast⟩ := List.append_inj' hall rfl
      cases hlast
      exact hrun

theorem putOn_snoc (run : Tool × Session) (t : Tool) :
    PutOn casing s₀ (log ++ [run]) t ↔ PutOn casing s₀ log t ∨
      (run.1 = t ∧ ¬ Has casing (machinePath (sessionAfter s₀ log)) t.directory.text ∧
        Has casing (machinePath run.2) t.directory.text) := by
  constructor
  · rintro ⟨before, s', after, hsplit, hnot, hhas⟩
    rcases split_snoc hsplit with ⟨rfl, hrun, _⟩ | ⟨rest, hlog, _⟩
    · right
      rw [← hrun]
      exact ⟨rfl, hnot, hhas⟩
    · exact Or.inl ⟨before, s', rest, hlog, hnot, hhas⟩
  · rintro (⟨before, s', after, rfl, hnot, hhas⟩ | ⟨rfl, hnot, hhas⟩)
    · exact ⟨before, s', after ++ [run], by simp, hnot, hhas⟩
    · exact ⟨log, run.2, [], rfl, hnot, hhas⟩

theorem mem_toolsOf_of_putOn {t : Tool} (h : PutOn casing s₀ log t) : t ∈ toolsOf log := by
  obtain ⟨before, s', after, rfl, _⟩ := h
  simp [toolsOf]

/-- Before the first run there is nothing to account for. -/
theorem accounted_nil : Accounted casing s₀ [] where
  kept _ he := has_of_mem he
  put t h := by
    obtain ⟨before, s', after, hsplit, _⟩ := h
    simp at hsplit
  owned _ he := Or.inl (has_of_mem he)

theorem NoneLostNoneLeaked.accounted (h : NoneLostNoneLeaked casing s₀ log) :
    Accounted casing s₀ log := by
  rcases List.eq_nil_or_concat log with rfl | ⟨before, run, rfl⟩
  · exact accounted_nil
  · rw [List.concat_eq_append] at h ⊢
    exact ((atEvery_snoc _ _).mp h).2

section Session

variable {user : Option Text}

theorem has_followedBy (machine e : Text) :
    Has casing (followedBy machine user) e ↔
      Has casing machine e ∨ ∃ f ∈ userEntries user, casing.key f = casing.key e := by
  cases user with
  | none => simp [followedBy, userEntries]
  | some u => exact has_append machine u e

/-- The session's own `PATH`: the directories of the overwriting tools so far,
and behind them what it started as. -/
theorem has_processPath (hwin : rt.platform = .windows)
    (hstart : s₀.processPath = followedBy (machinePath s₀) user) (h : Installations rt s₀ log)
    (e : Text) :
    Has rt.casing (sessionAfter s₀ log).processPath e ↔
      (∃ o, .overwriting o ∈ toolsOf log ∧ rt.casing.key o.directory.text = rt.casing.key e) ∨
      Has rt.casing (machinePath s₀) e ∨
      ∃ f ∈ userEntries user, rt.casing.key f = rt.casing.key e := by
  induction h with
  | nil => rw [sessionAfter_nil, hstart, has_followedBy]; simp
  | @snoc log t s' hlog hrun ih =>
      obtain ⟨version, rfl⟩ := hrun.effect hwin
      rw [sessionAfter_snoc, toolsOf_snoc]
      cases t with
      | appending a =>
          rw [effect_appending_processPath, ih]
          simp
      | overwriting o =>
          rw [effect_overwriting_processPath, has_append, o.directory.has_text_iff, ih]
          constructor
          · rintro (hnew | ⟨o', ho', hkey⟩ | hrest)
            · exact Or.inl ⟨o, by simp, hnew⟩
            · exact Or.inl ⟨o', by simp [ho'], hkey⟩
            · exact Or.inr hrest
          · rintro (⟨o', ho', hkey⟩ | hrest)
            · rw [List.mem_append, List.mem_singleton] at ho'
              rcases ho' with hold | hnew
              · exact Or.inr (Or.inl ⟨o', hold, hkey⟩)
              · cases hnew
                exact Or.inl hkey
            · exact Or.inr (Or.inr hrest)

/-- The machine `PATH` never loses an entry it started with: the session's `PATH`
has them too. -/
theorem kept_always (hwin : rt.platform = .windows)
    (hstart : s₀.processPath = followedBy (machinePath s₀) user) (h : Installations rt s₀ log)
    {e : Text} (he : Has rt.casing (machinePath s₀) e) :
    Has rt.casing (machinePath (sessionAfter s₀ log)) e := by
  induction h with
  | nil => exact he
  | @snoc log t s' hlog hrun ih =>
      obtain ⟨version, rfl⟩ := hrun.effect hwin
      rw [sessionAfter_snoc]
      cases t with
      | appending a =>
          rw [effect_appending_machinePath, has_addEntry_iff]
          exact Or.inl ih
      | overwriting o =>
          rw [effect_overwriting_machinePath, has_append]
          right
          exact (has_processPath hwin hstart hlog e).mpr (Or.inr (Or.inl he))

end Session

/-- A word found in one text is found in every text that has the entries of the first. -/
theorem Directory.contains_of_entries (d : Directory) {t u : Text}
    (hsub : ∀ e ∈ entries t, Has casing u e) (h : Contains casing t d.text) :
    Contains casing u d.text := by
  obtain ⟨e, he, hinfix⟩ := (d.contains_iff t).mp h
  obtain ⟨f, hf, hkey⟩ := hsub e he
  exact (d.contains_iff u).mpr ⟨f, hf, hkey ▸ hinfix⟩

/-- An appending tool whose directory was put on the `PATH` passed the guard, so
the machine `PATH` at the start did not mention the directory. -/
theorem not_contains_of_putOn {user : Option Text} (hwin : rt.platform = .windows)
    (hstart : s₀.processPath = followedBy (machinePath s₀) user) (h : Installations rt s₀ log)
    {a : AppendingTool} (hput : PutOn rt.casing s₀ log (.appending a)) :
    ¬ Contains rt.casing (machinePath s₀) a.directory.text := by
  obtain ⟨before, s', after, rfl, hnot, hhas⟩ := hput
  have hsplit : before ++ (Tool.appending a, s') :: after =
      (before ++ [(Tool.appending a, s')]) ++ after := by simp
  rw [hsplit] at h
  have hbefore := h.of_append
  have hpath : machinePath s' = addEntry rt.casing a.directory.text
      (machinePath (sessionAfter s₀ before)) := hbefore.last.machinePath_eq hwin
  rw [hpath, has_addEntry_iff] at hhas
  rcases hhas with hhas | ⟨hguard, _⟩
  · exact absurd hhas hnot
  · intro hcontains
    apply hguard
    apply a.directory.contains_of_entries ?_ hcontains
    intro e he
    exact kept_always hwin hstart hbefore.of_append (has_of_mem he)

/-- As long as the `PATH` is accounted for, an appending tool that ran has put
its directory on it, unless the `PATH` mentioned the directory from the start. -/
theorem putOn_or_contains (hwin : rt.platform = .windows) (h : Installations rt s₀ log)
    (hsound : NoneLostNoneLeaked rt.casing s₀ log) {a : AppendingTool}
    (ha : .appending a ∈ toolsOf log) :
    PutOn rt.casing s₀ log (.appending a) ∨
      Contains rt.casing (machinePath s₀) a.directory.text := by
  induction h with
  | nil => simp at ha
  | @snoc log t s' hlog hrun ih =>
      obtain ⟨hbefore, _⟩ := (atEvery_snoc _ _).mp hsound
      rw [toolsOf_snoc, List.mem_append, List.mem_singleton] at ha
      have hextend (hold : .appending a ∈ toolsOf log) :
          PutOn rt.casing s₀ (log ++ [(t, s')]) (.appending a) ∨
            Contains rt.casing (machinePath s₀) a.directory.text := by
        rcases ih hbefore hold with hput | hcontains
        · exact Or.inl ((putOn_snoc _ _).mpr (Or.inl hput))
        · exact Or.inr hcontains
      rcases ha with hold | rfl
      · exact hextend hold
      have hpath := hrun.machinePath_eq hwin
      by_cases hguard : Contains rt.casing (machinePath (sessionAfter s₀ log)) a.directory.text
      · -- the search found the directory in an old entry, or in its own
        obtain ⟨e, he, hinfix⟩ := (a.directory.contains_iff _).mp hguard
        have hlast : Accounted rt.casing s₀ log := NoneLostNoneLeaked.accounted hbefore
        rcases hlast.owned e he with ⟨f, hf, hkey⟩ | ⟨u, hu, hkey⟩
        · right
          exact (a.directory.contains_iff _).mpr ⟨f, hf, hkey ▸ hinfix⟩
        · rw [← hkey] at hinfix
          have hsame := (Tool.directory_infix_iff (.appending a) u).mp hinfix
          exact hextend (hsame ▸ hu)
      · left
        apply (putOn_snoc _ _).mpr
        right
        refine ⟨rfl, fun hhas => hguard (a.directory.contains_of_has hhas), ?_⟩
        change Has rt.casing (machinePath s') a.directory.text
        rw [hpath, has_addEntry_iff]
        exact Or.inr ⟨hguard, rfl⟩

/-- An in-place edit accounts for what it adds. -/
theorem Accounted.append (hwin : rt.platform = .windows) (h : Accounted rt.casing s₀ log)
    {a : AppendingTool} {s' : Session}
    (hrun : InstallingRun rt (.appending a) (sessionAfter s₀ log) s') :
    Accounted rt.casing s₀ (log ++ [(.appending a, s')]) := by
  have hpath := hrun.machinePath_eq hwin
  have hgrow (e : Text) (he : Has rt.casing (machinePath (sessionAfter s₀ log)) e) :
      Has rt.casing (machinePath s') e := by
    rw [hpath, has_addEntry_iff]
    exact Or.inl he
  constructor
  · intro e he
    rw [sessionAfter_snoc]
    exact hgrow e (h.kept e he)
  · intro t hput
    rw [sessionAfter_snoc]
    rcases (putOn_snoc _ t).mp hput with hold | ⟨_, _, hhas⟩
    · exact hgrow _ (h.put t hold)
    · exact hhas
  · intro e he
    rw [sessionAfter_snoc] at he
    have hhas : Has rt.casing (machinePath s') e := has_of_mem he
    rw [hpath, has_addEntry_iff] at hhas
    rcases hhas with ⟨f, hf, hkey⟩ | ⟨_, hkey⟩
    · rcases h.owned f hf with hold | ⟨t, ht, htkey⟩
      · exact Or.inl (hold.congr hkey)
      · exact Or.inr ⟨t, by simp [ht], htkey.trans hkey⟩
    · exact Or.inr ⟨.appending a, by simp, hkey⟩

section Replacement

variable {user : Option Text} {o : OverwritingTool} {s' : Session}

theorem has_replaced (hwin : rt.platform = .windows)
    (hstart : s₀.processPath = followedBy (machinePath s₀) user) (h : Installations rt s₀ log)
    (hrun : InstallingRun rt (.overwriting o) (sessionAfter s₀ log) s') (e : Text) :
    Has rt.casing (machinePath s') e ↔
      (∃ o', .overwriting o' ∈ toolsOf log ++ [.overwriting o] ∧
        rt.casing.key o'.directory.text = rt.casing.key e) ∨
      Has rt.casing (machinePath s₀) e ∨
      ∃ f ∈ userEntries user, rt.casing.key f = rt.casing.key e := by
  have hafter := has_processPath hwin hstart (h.snoc hrun) e
  rw [sessionAfter_snoc, toolsOf_snoc] at hafter
  obtain ⟨version, rfl⟩ := hrun.effect hwin
  rw [← hafter, effect_overwriting_machinePath, effect_overwriting_processPath]

/-- A replacement accounts for its result exactly when it is safe. -/
theorem accounted_replace_iff (hwin : rt.platform = .windows)
    (hstart : s₀.processPath = followedBy (machinePath s₀) user) (h : Installations rt s₀ log)
    (hsound : NoneLostNoneLeaked rt.casing s₀ log)
    (hrun : InstallingRun rt (.overwriting o) (sessionAfter s₀ log) s') :
    Accounted rt.casing s₀ (log ++ [(.overwriting o, s')]) ↔
      ReplacesSafely rt.casing (machinePath s₀) user (toolsOf log) (.overwriting o) := by
  have hhas := has_replaced hwin hstart h hrun
  have hforeign (a : AppendingTool) (ha : PutOn rt.casing s₀ log (.appending a)) :
      Has rt.casing (machinePath s') a.directory.text ↔
        ∃ f ∈ userEntries user, rt.casing.key f = rt.casing.key a.directory.text := by
    have hold : ¬ Has rt.casing (machinePath s₀) a.directory.text := fun hold =>
      not_contains_of_putOn hwin hstart h ha (a.directory.contains_of_has hold)
    have hother : ¬ ∃ o', .overwriting o' ∈ toolsOf log ++ [.overwriting o] ∧
        rt.casing.key o'.directory.text = rt.casing.key a.directory.text := by
      rintro ⟨o', _, hkey⟩
      exact absurd ((Tool.directory_key_eq_iff (.overwriting o') (.appending a)).mp hkey) (by simp)
    rw [hhas]
    simp only [hold, hother, false_or]
  constructor
  · intro haccounted
    have hlast :
        machinePath (sessionAfter s₀ (log ++ [(.overwriting o, s')])) = machinePath s' := by
      rw [sessionAfter_snoc]
    constructor
    · intro e he
      obtain ⟨f, hf, hkey⟩ := (hhas e).mpr (Or.inr (Or.inr ⟨e, he, rfl⟩))
      rw [← hlast] at hf
      rcases haccounted.owned f hf with hold | ⟨t, ht, htkey⟩
      · exact Or.inl (hold.congr hkey)
      · rw [toolsOf_snoc] at ht
        exact Or.inr ⟨t, ht, htkey.trans hkey⟩
    · intro a _ ha
      rcases putOn_or_contains hwin h hsound ha with hput | hcontains
      · right
        have hstill := haccounted.put (.appending a) ((putOn_snoc _ _).mpr (Or.inl hput))
        rw [hlast] at hstill
        exact (hforeign a hput).mp hstill
      · exact Or.inl hcontains
  · rintro ⟨hleak, hlose⟩
    constructor
    · intro e he
      rw [sessionAfter_snoc]
      exact (hhas e).mpr (Or.inr (Or.inl (has_of_mem he)))
    · intro t hput
      rw [sessionAfter_snoc]
      rcases (putOn_snoc _ t).mp hput with hold | ⟨_, _, hnew⟩
      · cases t with
        | appending a =>
            have hall : a ∈ [AppendingTool.llvm, .wasmedge, .ggml] := by cases a <;> simp
            rcases hlose a hall (mem_toolsOf_of_putOn hold) with hcontains | huser
            · exact absurd hcontains (not_contains_of_putOn hwin hstart h hold)
            · exact (hforeign a hold).mpr huser
        | overwriting o' =>
            have ho' := mem_toolsOf_of_putOn hold
            exact (hhas _).mpr (Or.inl ⟨o', by simp [ho'], rfl⟩)
      · exact hnew
    · intro e he
      rw [sessionAfter_snoc] at he
      rw [toolsOf_snoc]
      rcases (hhas e).mp (has_of_mem he) with ⟨o', ho', hkey⟩ | hold | ⟨f, hf, hkey⟩
      · exact Or.inr ⟨.overwriting o', ho', hkey⟩
      · exact Or.inl hold
      · rcases hleak f hf with hold | ⟨t, ht, htkey⟩
        · exact Or.inl (hold.congr hkey)
        · exact Or.inr ⟨t, ht, htkey.trans hkey⟩

end Replacement

/-- No entry is lost and none leaks in, after any of the runs, exactly when each
replacement is safe: each of the user's entries is on the machine `PATH` or a
tool's directory, and each tool that was installed in place has its directory in
the user's `PATH` or mentioned by the machine's. The chain of runs may have any
length and any of the five tools in any order, each run in a new session of its
own, and the condition reads the machine and the user `PATH` at the start and
nothing that the scripts compute. -/
theorem noneLostNoneLeaked_iff (hwin : rt.platform = .windows) {user : Option Text}
    (hstart : s₀.processPath = followedBy (machinePath s₀) user) (h : Installations rt s₀ log) :
    NoneLostNoneLeaked rt.casing s₀ log ↔
      EveryReplacementSafe rt.casing (machinePath s₀) user (toolsOf log) := by
  rw [EveryReplacementSafe, toolsOf, atEvery_map]
  apply atEvery_congr
  rintro before ⟨t, s'⟩ after rfl hsound
  have hsplit : before ++ (t, s') :: after = (before ++ [(t, s')]) ++ after := by simp
  rw [hsplit] at h
  have hbefore := h.of_append
  cases t with
  | appending a =>
      have hlast : Accounted rt.casing s₀ before := NoneLostNoneLeaked.accounted hsound
      have haccounted := hlast.append hwin hbefore.last
      exact ⟨fun _ => trivial, fun _ => haccounted⟩
  | overwriting o => exact accounted_replace_iff hwin hstart hbefore.of_append hsound hbefore.last

/-- A session that starts with a machine `PATH` and a user's behind it. -/
def logon (machine : Text) (user : Option Text) : Session :=
  ⟨Function.update (fun _ => none) .path (some machine), followedBy machine user⟩

theorem noneLostNoneLeaked_pytorch_first :
    let s₀ := logon "C:\\Windows".toList (some "c:\\windows".toList)
    ∃ s₁ s₂, Installations windows s₀ [(.overwriting .pytorch, s₁), (.appending .llvm, s₂)] ∧
      NoneLostNoneLeaked windows.casing s₀
        [(.overwriting .pytorch, s₁), (.appending .llvm, s₂)] := by
  intro s₀
  let s₁ := Tool.effect windows "2.2.1" (.overwriting .pytorch) s₀
  have h₁ : InstallingRun windows (.overwriting .pytorch) s₀ s₁ :=
    installingRun_exists rfl (by decide) _ s₀
  have h₂ : InstallingRun windows (.appending .llvm) s₁ _ :=
    installingRun_exists rfl (by decide) "17.0.6" s₁
  have hlog := (Installations.nil.snoc h₁).snoc h₂
  refine ⟨_, _, hlog, ?_⟩
  have hstart : s₀.processPath = followedBy (machinePath s₀) (some "c:\\windows".toList) := rfl
  exact (noneLostNoneLeaked_iff rfl hstart hlog).mpr (by decide)

/-- LLVM and then LibTorch, for a user with a `PATH` of their own: LLVM's directory
is lost again, and the user's entry is on the machine `PATH`. -/
theorem llvm_lost_user_leaked :
    let s₀ := logon "C:\\Windows".toList (some "C:\\Tools".toList)
    ∃ s₁ s₂, Installations windows s₀ [(.appending .llvm, s₁), (.overwriting .pytorch, s₂)] ∧
      Has windows.casing (machinePath s₁) "C:\\Program Files\\LLVM\\bin".toList ∧
      ¬ Has windows.casing (machinePath s₂) "C:\\Program Files\\LLVM\\bin".toList ∧
      Has windows.casing (machinePath s₂) "C:\\Tools".toList ∧
      ¬ NoneLostNoneLeaked windows.casing s₀
        [(.appending .llvm, s₁), (.overwriting .pytorch, s₂)] := by
  intro s₀
  let s₁ := Tool.effect windows "17.0.6" (.appending .llvm) s₀
  let s₂ := Tool.effect windows "2.2.1" (.overwriting .pytorch) s₁
  have h₁ : InstallingRun windows (.appending .llvm) s₀ s₁ :=
    installingRun_exists rfl (by decide) _ s₀
  have h₂ : InstallingRun windows (.overwriting .pytorch) s₁ s₂ :=
    installingRun_exists rfl (by decide) _ s₁
  have hpath₁ : machinePath s₁ = addEntry windows.casing "C:\\Program Files\\LLVM\\bin".toList
      (machinePath s₀) := effect_appending_machinePath _ _
  have hpath₂ : machinePath s₂ = append "C:\\Program Files\\libtorch\\lib".toList
      s₀.processPath := effect_overwriting_machinePath _ _
  refine ⟨s₁, s₂, (Installations.nil.snoc h₁).snoc h₂, ?_, ?_, ?_, ?_⟩
  · rw [hpath₁]
    decide
  · rw [hpath₂]
    decide
  · rw [hpath₂]
    decide
  · intro hsound
    have hmem : "C:\\Tools".toList ∈ entries (machinePath s₂) := by
      rw [hpath₂]
      decide
    rcases (NoneLostNoneLeaked.accounted hsound).owned _ hmem with hold | hdirectory
    · exact absurd hold (by decide)
    · exact absurd hdirectory (by decide)

end IdxWorkspace.Setup
