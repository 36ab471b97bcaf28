import IdxWorkspace.Setup.Undo

/-!
The variables the appending tools keep beside `PATH`. A setup writes them and a
cleanup deletes them, but a cleanup that finds no machine `PATH` raises before it
does. That never happens to a tool that is set up: its directory is mentioned by
the `PATH` then. So setups and cleanups leave nothing behind at all.
-/

namespace IdxWorkspace.Setup

open PowerShell Library Library.Effect Library.Journal

namespace AppendingTool

/-- The variables of a tool. -/
def ownVariables (t : AppendingTool) : List MachineVar := t.clearedVariables.map Prod.fst

variable {rt : Runtime} {version : String} {t u : AppendingTool}

theorem toolVariables_names (t : AppendingTool) :
    (t.toolVariables rt version).map Prod.fst = t.ownVariables := by
  cases t <;> rfl

/-- No variable belongs to two tools. -/
theorem eq_of_mem_ownVariables {v : MachineVar} (ht : v ∈ t.ownVariables)
    (hu : v ∈ u.ownVariables) : t = u := by
  cases t <;> cases u <;> first | rfl | simp_all [ownVariables, clearedVariables]

/-- Each variable of a tool is written once, with a value that is kept. -/
theorem replay_toolVariables {p : MachineVar × Option Text} (hp : p ∈ t.toolVariables rt version)
    (hwin : rt.platform = .windows) (env : MachineEnv) :
    replay stored (t.toolVariables rt version) env p.1 = p.2 := by
  cases t with
  | llvm =>
      obtain rfl := List.mem_singleton.mp hp
      simp [toolVariables, Llvm.toolVariables, Llvm.llvmBinPath, hwin, stored]
  | wasmedge =>
      rcases List.mem_pair.mp hp with rfl | rfl
      · simp [toolVariables, WasmEdge.toolVariables, WasmEdge.wasmedgeRoot, hwin, stored, joinPath]
      · simp [toolVariables, WasmEdge.toolVariables, WasmEdge.wasmedgeRoot, hwin, stored, joinPath]
  | ggml =>
      obtain rfl := List.mem_singleton.mp hp
      rfl

theorem replay_clearedVariables {v : MachineVar} (hv : v ∈ t.ownVariables) (env : MachineEnv) :
    replay stored t.clearedVariables env v = none := by
  cases t with
  | llvm =>
      obtain rfl := List.mem_singleton.mp hv
      rfl
  | ggml =>
      obtain rfl := List.mem_singleton.mp hv
      rfl
  | wasmedge =>
      rcases List.mem_pair.mp hv with rfl | rfl <;> rfl

end AppendingTool

def Operation.tool : Operation → AppendingTool
  | .setup t => t
  | .cleanup t => t

theorem stored_ne_nil (value : Option Text) : stored value ≠ some [] := by
  rcases value with _ | _ | ⟨c, t⟩ <;> simp [stored]

variable {rt : Runtime} {s₀ s s' : Session}

/-- Only the empty text is interpolated like no text. -/
theorem interpolate_injective {value value' : Option Text} (h : value ≠ some [])
    (h' : value' ≠ some []) (heq : interpolate value = interpolate value') : value = value' := by
  rcases value with _ | t <;> rcases value' with _ | t'
  · rfl
  · exact absurd (congrArg some heq.symm) h'
  · exact absurd (congrArg some heq) h
  · exact congrArg some heq

/-- What a run can do to a session besides editing `PATH`: give the tool's
variables other values. -/
structure Confined (t : AppendingTool) (s s' : Session) : Prop where
  processPath : s'.processPath = s.processPath
  others : ∀ v, v ≠ .path → v ∉ t.ownVariables → s'.machine v = s.machine v
  stored : s.machine .path ≠ some [] → s'.machine .path ≠ some []

theorem InstallingRun.confined (hwin : rt.platform = .windows) {t : AppendingTool}
    (h : InstallingRun rt (.appending t) s s') : Confined t s s' := by
  obtain ⟨version, rfl⟩ := h.effect hwin
  constructor
  · rfl
  · intro v hpath hv
    apply replay_of_not_mem
    rw [environmentWrites, List.map_append, t.toolVariables_names, List.mem_append]
    rintro (hedit | hown)
    · split at hedit
      · cases hedit
      · exact hpath (List.mem_singleton.mp hedit)
    · exact hv hown
  · intro hnonempty
    rw [effect_appending_stored]
    split
    · exact hnonempty
    · exact stored_ne_nil _

/-- A cleanup either changes nothing, for want of a machine `PATH`, or deletes the
tool's variables. -/
theorem CleanupRun.confined (hwin : rt.platform = .windows) {t : AppendingTool}
    (h : CleanupRun rt t s s') :
    Confined t s s' ∧ ((s.machine .path = none ∧ s' = s) ∨
      ∀ v ∈ t.ownVariables, s'.machine v = none) := by
  obtain ⟨Ω, out, w, w', rfl, rfl, hrun | ⟨hunset, hrun⟩⟩ := h
  · obtain ⟨path, hpath, hmachine⟩ := runCleanup_ok hwin hrun
    have hget : Preserves World.processPath (getEnvironmentVariable rt .path : Script Ω _) :=
      fun w => congrArg Session.processPath (getEnvironmentVariable_session .path w)
    have hprocess : Preserves World.processPath (runCleanup rt out t.cleanupScript) := by
      rw [runCleanup_eq hwin]
      apply Preserves.bind
      · apply Preserves.bind hget
        intro path
        cases path with
        | none => exact Preserves.throw _ _
        | some path => exact setEnvironmentVariable_processPath _ _
      · exact fun _ => Preserves.forM fun v _ => setEnvironmentVariable_processPath v.1 v.2
    refine ⟨⟨hprocess.of_ok hrun, ?_, ?_⟩, Or.inr ?_⟩
    · intro v hv hown
      change w'.machine v = w.machine v
      rw [hmachine]
      apply replay_of_not_mem
      rw [List.map_cons, List.mem_cons, not_or]
      exact ⟨hv, hown⟩
    · intro _
      change w'.machine .path ≠ some []
      rw [hmachine, replay_cons, replay_of_not_mem t.path_not_mem_clearedVariables,
        Function.update_self]
      exact stored_ne_nil _
    · intro v hv
      change w'.machine v = none
      rw [hmachine, replay_cons, AppendingTool.replay_clearedVariables hv]
  · have hraise : (runCleanup rt out t.cleanupScript).run w = .error .nullMethodCall w := by
      rw [runCleanup_eq hwin, EStateM.run_bind, run_removeFromMachinePath_unset hwin _ hunset]
    rw [hraise] at hrun
    cases hrun
    exact ⟨⟨rfl, fun _ _ _ => rfl, id⟩, Or.inl ⟨hunset, rfl⟩⟩

section Mentioned

variable {casing : Casing} {base : Text} {t : AppendingTool}

/-- Only the cleanup of a tool takes its directory from a text that mentions it. -/
theorem contains_update {op : Operation} (hop : op ≠ .cleanup t)
    (h : Contains casing base t.directory.text) :
    Contains casing (op.update casing base) t.directory.text := by
  cases op with
  | setup u =>
      rw [Operation.update, addEntry]
      split
      · exact h
      · exact (t.directory.contains_append_iff _ _).mpr (Or.inl h)
  | cleanup u =>
      obtain ⟨e, he, hpart⟩ := (t.directory.contains_iff base).mp h
      have hkept : casing.eq e u.directory.text = false := by
        rw [Bool.eq_false_iff, ne_eq, Casing.eq_iff]
        intro hkey
        rw [hkey, directory_infix_iff] at hpart
        exact hop (by rw [hpart])
      have hmem : e ∈ (entries base).filter fun e => !casing.eq e u.directory.text :=
        List.mem_filter.mpr ⟨he, by rw [hkept]; rfl⟩
      have hentries : entries (removeEntry casing u.directory.text base) =
          (entries base).filter fun e => !casing.eq e u.directory.text :=
        Separated.parts_join_filter (List.ne_nil_of_mem hmem)
      exact (t.directory.contains_iff _).mpr ⟨e, hentries ▸ hmem, hpart⟩

/-- A tool that is set up is mentioned by the `PATH`, whatever that was before. -/
theorem contains_updates {ops : List Operation} (h : t ∈ installed ops) :
    Contains casing (updates casing ops base) t.directory.text := by
  induction ops using List.reverseRecOn with
  | nil => cases h
  | append_singleton ops op ih =>
      rw [installed_snoc, mem_mark_iff] at h
      rw [updates_snoc]
      rcases h with rfl | ⟨hbefore, hop⟩
      · exact contains_addEntry t.directory _
      · exact contains_update hop (ih hbefore)

end Mentioned

/-- The cleanup of a tool that is set up finds a machine `PATH`. -/
theorem path_set_of_installed (hwin : rt.platform = .windows) {ops : List Operation}
    (h : Runs rt ops s₀ s) {t : AppendingTool} (ht : t ∈ installed ops) :
    s.machine .path ≠ none := by
  intro hunset
  have hcontains : Contains rt.casing (machinePath s) t.directory.text := by
    rw [h.machinePath_eq hwin]
    exact contains_updates ht
  have hnil : machinePath s = [] := by
    rw [machinePath, hunset]
    rfl
  rw [hnil] at hcontains
  exact t.directory.key_ne_nil (List.infix_nil.mp hcontains)

/-- A setup leaves the tool's variables as it wrote them. -/
theorem InstallingRun.configures (hwin : rt.platform = .windows) {t : AppendingTool}
    (h : InstallingRun rt (.appending t) s s') :
    ∃ version, ∀ p ∈ t.toolVariables rt version, s'.machine p.1 = p.2 := by
  obtain ⟨version, rfl⟩ := h.effect hwin
  refine ⟨version, fun p hp => ?_⟩
  simp only [Tool.effect, environmentWrites, replay, List.foldl_append]
  exact AppendingTool.replay_toolVariables hp hwin _

/-- The run of another tool leaves a tool's variables alone. -/
theorem Confined.keeps {t u : AppendingTool} (h : Confined u s s') (hne : u ≠ t)
    {v : MachineVar} (hv : v ∈ t.ownVariables) : s'.machine v = s.machine v := by
  apply h.others
  · rintro rfl
    exact t.path_not_mem_clearedVariables hv
  · exact fun hu => hne (AppendingTool.eq_of_mem_ownVariables hu hv)

/-- As long as a tool is set up the `PATH` mentions its directory, its variables are
as a setup wrote them, and its cleanup has a `PATH` to work on. The other tools may
have been set up and cleaned up in between, in any order and any number of times, and
the machine the runs started from is any. -/
theorem installed_configured (hwin : rt.platform = .windows) {ops : List Operation}
    (h : Runs rt ops s₀ s) {t : AppendingTool} (ht : t ∈ installed ops) :
    Contains rt.casing (machinePath s) t.directory.text ∧
      (∃ version, ∀ p ∈ t.toolVariables rt version, s.machine p.1 = p.2) ∧
      s.machine .path ≠ none := by
  have hmentioned : Contains rt.casing (machinePath s) t.directory.text := by
    rw [h.machinePath_eq hwin]
    exact contains_updates ht
  refine ⟨hmentioned, ?_, path_set_of_installed hwin h ht⟩
  clear hmentioned
  induction h with
  | nil => cases ht
  | @snoc ops op s₀ s s' hruns hrun ih =>
      rw [installed_snoc, mem_mark_iff] at ht
      by_cases hop : op = .setup t
      · rw [hop] at hrun
        exact InstallingRun.configures hwin hrun
      · obtain ⟨hbefore, hcleanup⟩ := ht.resolve_left hop
        obtain ⟨version, hvalues⟩ := ih hbefore
        have hkept : ∀ v ∈ t.ownVariables, s'.machine v = s.machine v := by
          intro v hv
          cases op with
          | setup u =>
              have hne : u ≠ t := fun hsame => hop (by rw [hsame])
              exact (InstallingRun.confined hwin hrun).keeps hne hv
          | cleanup u =>
              have hne : u ≠ t := fun hsame => hcleanup (by rw [hsame])
              exact (CleanupRun.confined hwin hrun).1.keeps hne hv
        refine ⟨version, fun p hp => ?_⟩
        have hown : p.1 ∈ t.ownVariables := by
          rw [← t.toolVariables_names]
          exact List.mem_map_of_mem hp
        rw [hkept p.1 hown]
        exact hvalues p hp

theorem installed_configured_wasmedge :
    ∃ s, Runs windows [.setup .wasmedge, .setup .llvm, .cleanup .llvm] (sessionWithPath []) s ∧
      s.machine .wasmedgeLibDir = some "C:\\Program Files\\WasmEdge\\lib".toList := by
  have hwin : windows.platform = .windows := rfl
  let ops : List Operation := [.setup .wasmedge, .setup .llvm, .cleanup .llvm]
  have hggml : .setup .ggml ∉ ops := by decide
  obtain ⟨s, hruns⟩ := runs_exists hwin hggml (sessionWithPath [])
  have ht : .wasmedge ∈ installed ops := by decide
  obtain ⟨_, ⟨version, hvalues⟩, _⟩ := installed_configured hwin hruns ht
  exact ⟨s, hruns, hvalues (.wasmedgeLibDir, _) List.mem_cons_self⟩

/-- What is kept over runs whose tools start without variables. -/
structure Tidy (ops : List Operation) (s₀ s : Session) : Prop where
  processPath : s.processPath = s₀.processPath
  others : ∀ v, v ≠ .path → (∀ t ∈ installed ops, v ∉ t.ownVariables) →
    s.machine v = s₀.machine v
  stored : s.machine .path ≠ some []

theorem Runs.tidy (hwin : rt.platform = .windows) {ops : List Operation} (h : Runs rt ops s₀ s)
    (hvariables : ∀ op ∈ ops, ∀ v ∈ op.tool.ownVariables, s₀.machine v = none)
    (hstored : s₀.machine .path ≠ some []) : Tidy ops s₀ s := by
  induction h with
  | nil => exact ⟨rfl, fun _ _ _ => rfl, hstored⟩
  | @snoc ops op s₀ s s' hruns hrun ih =>
      have hbefore := ih (fun op' hop' => hvariables op' (List.mem_append_left _ hop')) hstored
      cases op with
      | setup t =>
          have hconfined : Confined t s s' := InstallingRun.confined hwin hrun
          refine ⟨hconfined.processPath.trans hbefore.processPath, ?_,
            hconfined.stored hbefore.stored⟩
          intro v hpath hv
          have hother : v ∉ t.ownVariables := by
            apply hv
            rw [installed_snoc, mem_mark_iff]
            exact Or.inl rfl
          rw [hconfined.others v hpath hother]
          apply hbefore.others v hpath
          intro u hu
          apply hv
          rw [installed_snoc, mem_mark_iff]
          exact Or.inr ⟨hu, nofun⟩
      | cleanup t =>
          obtain ⟨hconfined, hcleared⟩ := CleanupRun.confined hwin hrun
          refine ⟨hconfined.processPath.trans hbefore.processPath, ?_,
            hconfined.stored hbefore.stored⟩
          intro v hpath hv
          have hinstalled (u : AppendingTool) (hu : u ∈ installed ops) (hne : u ≠ t) :
              v ∉ u.ownVariables := by
            apply hv
            rw [installed_snoc, mem_mark_iff]
            exact Or.inr ⟨hu, by simpa using Ne.symm hne⟩
          by_cases hown : v ∈ t.ownVariables
          · rcases hcleared with ⟨hunset, rfl⟩ | hcleared
            · -- the cleanup raised, so the tool was not set up
              apply hbefore.others v hpath
              intro u hu
              by_cases hsame : u = t
              · exact absurd hunset (path_set_of_installed hwin hruns (hsame ▸ hu))
              · exact hinstalled u hu hsame
            · rw [hcleared v hown]
              exact (hvariables (.cleanup t) (by simp) v hown).symm
          · rw [hconfined.others v hpath hown]
            apply hbefore.others v hpath
            intro u hu
            by_cases hsame : u = t
            · exact hsame ▸ hown
            · exact hinstalled u hu hsame

/-- On a machine whose `PATH` mentions no tool and that has none of the tools'
variables, setups and cleanups leave nothing behind if and only if every tool that
was set up has since been cleaned up. What is compared is the whole session, all machine
variables and the session's own `PATH`. A `PATH` that is set to the empty text is
excluded, because the first write of it unsets it. -/
theorem session_restored_iff (hwin : rt.platform = .windows) {ops : List Operation}
    (h : Runs rt ops s₀ s)
    (hpath : ∀ t : AppendingTool, ¬ Contains rt.casing (machinePath s₀) t.directory.text)
    (hvariables : ∀ op ∈ ops, ∀ v ∈ op.tool.ownVariables, s₀.machine v = none)
    (hstored : s₀.machine .path ≠ some []) : s = s₀ ↔ CleanedUp ops := by
  rw [cleanedUp_iff]
  constructor
  · rintro rfl
    rw [List.eq_nil_iff_forall_not_mem]
    intro t ht
    apply hpath t
    have hcontains : Contains rt.casing (updates rt.casing ops (machinePath s)) t.directory.text :=
      contains_updates ht
    rwa [← h.machinePath_eq hwin] at hcontains
  · intro hdone
    have htidy := h.tidy hwin hvariables hstored
    have htext : machinePath s = machinePath s₀ := by
      apply entries_injective
      rw [h.machinePath_eq hwin, entries_updates hpath, hdone]
      simp
    have hmachine : s.machine = s₀.machine := by
      funext v
      by_cases hv : v = .path
      · rw [hv]
        exact interpolate_injective htidy.stored hstored htext
      · apply htidy.others v hv
        rw [hdone]
        simp
    obtain ⟨machine, processPath⟩ := s
    obtain rfl := hmachine
    obtain rfl := htidy.processPath
    rfl

theorem session_restored_interleaved :
    let s₀ := sessionWithPath ";C:\\Windows;".toList
    ∃ s, Runs windows [.setup .llvm, .setup .wasmedge, .cleanup .llvm, .cleanup .wasmedge] s₀ s ∧
      s = s₀ := by
  intro s₀
  have hwin : windows.platform = .windows := rfl
  let ops : List Operation := [.setup .llvm, .setup .wasmedge, .cleanup .llvm, .cleanup .wasmedge]
  have hggml : .setup .ggml ∉ ops := by decide
  obtain ⟨s, hruns⟩ := runs_exists hwin hggml s₀
  have hpath : ∀ t : AppendingTool,
      ¬ Contains windows.casing (machinePath s₀) t.directory.text := by
    intro t
    cases t <;> decide
  have hdone : CleanedUp ops := (cleanedUp_iff _).mpr (by decide)
  exact ⟨s, hruns,
    (session_restored_iff hwin hruns hpath (by decide) (by decide)).mpr hdone⟩

end IdxWorkspace.Setup
