import IdxWorkspace.Setup.Tools

/-!
Which installing runs succeed in PowerShell. There `where` is the alias of
`Where-Object`, which gives nothing where nothing is piped into it, so the last
check of `setup-ggml.ps1` never passes, whatever is installed: that script always
ends with exit code 1 and leaves the session as it was. Each of the other four has
a successful run from every session, in an outside where nothing goes wrong. With
`Tool.setup_effect` this makes `Tool.effect` exactly the relation between the
session before such a run and the one after it.
-/

namespace IdxWorkspace.Setup

open PowerShell Library.Effect Library.Journal

/-- What the prerequisite check of `setup-ggml.ps1` gets for its last command: nothing,
or at most an error. -/
def WhereIsAlias {Ω : Type} (out : Outside Ω) : Prop :=
  ∀ ω, out.invokeExpression "where cl.exe" ω ≠ .ok true

/-- An outside where nothing goes wrong. It remembers whether it was called at
all: a tool is installed from the first call on. -/
def smooth : Outside Bool where
  react _ _ := (none, true)
  testPath _ called := called
  getCommand _ _ := true
  invokeExpression command _ := .ok (command ≠ "where cl.exe")
  getChildItem _ _ _ := .ok []

/-- Whether the outside was called. -/
def Called (called : Bool) (w : World Bool) : Prop := w.outside = called

variable {rt : Runtime} {version : String} {called : Bool}

theorem invoke_finishes (call : Call) :
    Finishes (Called called) (invoke smooth call) fun _ => Called true :=
  fun w _ => ⟨⟨⟩, { w with outside := true }, rfl, rfl⟩

theorem writeHost_finishes (line : String) :
    Finishes (Called called) (writeHost line) fun _ => Called called :=
  fun w hw => ⟨⟨⟩, { w with console := w.console ++ [line] }, rfl, hw⟩

theorem testPath_finishes (path : String) :
    Finishes (Called called) (testPath smooth path) fun found w =>
      found = called ∧ Called called w :=
  fun w hw => ⟨w.outside, w, rfl, hw, hw⟩

theorem newCleanupScript_finishes (cleanupPath : String) (cleanupScript : CleanupScript) :
    Finishes (Called called) (newCleanupScript smooth cleanupPath cleanupScript)
      fun _ => Called true := by
  apply Finishes.bind (invoke_finishes _)
  intro _
  apply writeHost_finishes

theorem setEnvironmentVariable_finishes (hwin : rt.platform = .windows) (name : MachineVar)
    (value : Option Text) :
    Finishes (Called called) (setEnvironmentVariable rt smooth name value)
      fun _ => Called true := by
  unfold setEnvironmentVariable
  rw [hwin]
  exact Finishes.bind (invoke_finishes _) fun _ w hw => ⟨⟨⟩, _, rfl, hw⟩

/-- A check that throws when the tool is missing passes once the outside was called. -/
theorem verify_finishes (path : String) (e : Failure) :
    Finishes (Called true) (do unless ← testPath smooth path do throw e) fun _ => Called true := by
  apply Finishes.bind (testPath_finishes _)
  rintro found w ⟨rfl, hw⟩
  exact ⟨⟨⟩, w, rfl, hw⟩

theorem addToMachinePath_finishes (hwin : rt.platform = .windows) (d : Directory) :
    Finishes (Called true) (addToMachinePath rt smooth d.text) fun _ => Called true := by
  intro w hw
  rw [addToMachinePath, EStateM.run_bind, run_getEnvironmentVariable hwin]
  simp only [EStateM.run_bind, run_notLike_around d.plain]
  split
  · exact setEnvironmentVariable_finishes hwin _ _ w hw
  · exact ⟨⟨⟩, w, rfl, hw⟩

theorem AppendingTool.prerequisites_finishes {t : AppendingTool} (ht : t ≠ .ggml) :
    Finishes (Called called) (t.prerequisites smooth) fun _ => Called called := by
  cases t with
  | ggml => exact absurd rfl ht
  | llvm => exact Finishes.pure fun _ hw => hw
  | wasmedge => exact Finishes.pure fun _ hw => hw

theorem Llvm.installOnPlatform_finishes (hwin : rt.platform = .windows) :
    Finishes (Called called) (Llvm.installOnPlatform rt smooth version) fun _ => Called true := by
  unfold Llvm.installOnPlatform
  rw [hwin]
  apply Finishes.bind (writeHost_finishes _)
  intro _
  apply Finishes.bind (invoke_finishes _)
  intro _
  apply Finishes.bind (writeHost_finishes _)
  intro _
  apply Finishes.bind (invoke_finishes _)
  intro _
  apply invoke_finishes

theorem WasmEdge.installOnPlatform_finishes (hwin : rt.platform = .windows) :
    Finishes (Called called) (WasmEdge.installOnPlatform rt smooth version)
      fun _ => Called true := by
  unfold WasmEdge.installOnPlatform
  rw [hwin]
  apply Finishes.bind (writeHost_finishes _)
  intro _
  apply Finishes.bind (invoke_finishes _)
  intro _
  apply Finishes.bind (writeHost_finishes _)
  intro _
  apply Finishes.bind (invoke_finishes _)
  intro _
  apply invoke_finishes

theorem AppendingTool.installSilently_finishes (hwin : rt.platform = .windows)
    {t : AppendingTool} (ht : t ≠ .ggml) :
    Finishes (Called called) (t.installSilently rt smooth version) fun _ => Called true := by
  cases t with
  | llvm =>
      apply Finishes.bind (writeHost_finishes _)
      intro _
      apply Finishes.bind (Llvm.installOnPlatform_finishes hwin)
      intro _
      apply verify_finishes
  | wasmedge =>
      apply Finishes.bind (writeHost_finishes _)
      intro _
      apply Finishes.bind (WasmEdge.installOnPlatform_finishes hwin)
      intro _
      apply verify_finishes
  | ggml => exact absurd rfl ht

theorem AppendingTool.createCleanup_finishes (t : AppendingTool) :
    Finishes (Called called) (t.createCleanup smooth) fun _ => Called true := by
  cases t <;> exact newCleanupScript_finishes _ _

theorem AppendingTool.setup_finishes (hwin : rt.platform = .windows) {t : AppendingTool}
    (ht : t ≠ .ggml) :
    Finishes (Called false) (t.setup rt smooth version) fun code _ => code = .zero := by
  have hwrites : Finishes (Called true)
      (writeAll (setEnvironmentVariable rt smooth) (t.toolVariables rt version))
      fun _ => Called true :=
    Finishes.forM fun w _ => setEnvironmentVariable_finishes hwin w.1 w.2
  have htest : Finishes (Called false) (t.testInstalled rt smooth version)
      fun found w => found = false ∧ Called false w := by
    cases t <;> exact testPath_finishes _
  have hinstall : Finishes (Called false) (do
      t.installSilently rt smooth version
      addToMachinePath rt smooth t.directory.text
      writeAll (setEnvironmentVariable rt smooth) (t.toolVariables rt version)
      writeHost (t.label ++ " installation completed successfully")
      t.createCleanup smooth) fun _ => Called true := by
    apply Finishes.bind (installSilently_finishes hwin ht)
    intro _
    apply Finishes.bind (addToMachinePath_finishes hwin t.directory)
    intro _
    apply Finishes.bind hwrites
    intro _
    apply Finishes.bind (writeHost_finishes _)
    intro _
    apply t.createCleanup_finishes
  rw [t.setup_eq hwin]
  apply Finishes.tryCatch
  apply Finishes.bind
  · apply Finishes.bind (prerequisites_finishes ht)
    intro _
    apply Finishes.bind htest
    rintro found w ⟨rfl, hw⟩
    exact hinstall w hw
  · intro _ w _
    exact ⟨.zero, w, rfl, rfl⟩

theorem stage_finishes (banner tempDir label url archive destination : String) :
    Finishes (Called called) (stage smooth banner tempDir label url archive destination)
      fun _ => Called true := by
  apply Finishes.bind (writeHost_finishes _)
  intro _
  apply Finishes.bind (invoke_finishes _)
  intro _
  apply Finishes.bind (writeHost_finishes _)
  intro _
  apply Finishes.bind (invoke_finishes _)
  intro _
  apply Finishes.bind (writeHost_finishes _)
  intro _
  apply invoke_finishes

theorem overwriteMachinePath_finishes (hwin : rt.platform = .windows) (dllPath : Text) :
    Finishes (Called called) (overwriteMachinePath rt smooth dllPath) fun _ => Called true := by
  intro w hw
  exact setEnvironmentVariable_finishes hwin .path _
    { w with processPath := append dllPath w.processPath } hw

theorem PyTorch.settled_finishes (hwin : rt.platform = .windows) :
    Finishes (Called called) (PyTorch.settled rt smooth) fun _ => Called true := by
  have hfinish (tempDir : String) : Finishes (Called called)
      (PyTorch.finishInstall rt smooth tempDir) fun _ => Called true := by
    apply Finishes.bind (invoke_finishes _)
    intro _
    apply verify_finishes
  apply Finishes.bind (hfinish _)
  intro _
  apply Finishes.bind (writeHost_finishes _)
  intro _
  apply Finishes.bind (newCleanupScript_finishes _ _)
  intro _
  apply Finishes.bind (setEnvironmentVariable_finishes hwin _ _)
  intro _
  apply writeHost_finishes

theorem TensorFlow.settled_finishes :
    Finishes (Called called) (TensorFlow.settled rt smooth) fun _ => Called true := by
  have hfinish (tempDir : String) : Finishes (Called called)
      (TensorFlow.finishInstall rt smooth tempDir) fun _ => Called true := by
    apply Finishes.bind (invoke_finishes _)
    intro _
    apply verify_finishes
  apply Finishes.bind (hfinish _)
  intro _
  apply Finishes.bind (writeHost_finishes _)
  intro _
  apply newCleanupScript_finishes

theorem OverwritingTool.setup_finishes (hwin : rt.platform = .windows) (t : OverwritingTool) :
    Finishes (Called false) (t.setup rt smooth version) fun code _ => code = .zero := by
  have htest : Finishes (Called false) (t.testInstalled rt smooth)
      fun found w => found = false ∧ Called false w := by
    cases t <;> exact testPath_finishes _
  have hstaged : Finishes (Called false) (t.staged rt smooth version) fun _ => Called true := by
    cases t <;> exact stage_finishes _ _ _ _ _ _
  have hsettled : Finishes (Called true) (t.settled rt smooth) fun _ => Called true := by
    cases t with
    | pytorch => exact PyTorch.settled_finishes hwin
    | tensorflow => exact TensorFlow.settled_finishes
  have hinstall : Finishes (Called false) (do
      t.staged rt smooth version
      overwriteMachinePath rt smooth t.directory.text
      t.settled rt smooth) fun _ => Called true := by
    apply Finishes.bind hstaged
    intro _
    apply Finishes.bind (overwriteMachinePath_finishes hwin _)
    intro _
    exact hsettled
  rw [t.setup_eq hwin]
  apply Finishes.tryCatch
  apply Finishes.bind
  · apply Finishes.bind htest
    rintro found w ⟨rfl, hw⟩
    exact hinstall w hw
  · intro _ w _
    exact ⟨.zero, w, rfl, rfl⟩

/-- A successful installing run where `where` is what it is in PowerShell. -/
def AliasedRun (rt : Runtime) (t : Tool) (s s' : Session) : Prop :=
  ∃ (Ω : Type) (out : Outside Ω) (version : String) (w ready mid w' : World Ω),
    WhereIsAlias out ∧ w.session = s ∧ w'.session = s' ∧
    (t.prerequisites out).run w = .ok ⟨⟩ ready ∧
    (t.testInstalled rt out version).run ready = .ok false mid ∧
    (t.setup rt out version).run w = .ok .zero w'

theorem AliasedRun.installing {t : Tool} {s s' : Session} (h : AliasedRun rt t s s') :
    InstallingRun rt t s s' := by
  obtain ⟨Ω, out, version, w, ready, mid, w', _, hrun⟩ := h
  exact ⟨Ω, out, version, w, ready, mid, w', hrun⟩

/-- From every session each of the other four scripts has a successful installing run,
for every version. -/
theorem aliasedRun_exists (hwin : rt.platform = .windows) {t : Tool}
    (ht : t ≠ .appending .ggml) (version : String) (s : Session) :
    AliasedRun rt t s (t.effect rt version s) := by
  let start : World Bool := ⟨s.machine, s.processPath, [], false⟩
  have hprerequisites : Finishes (Called false) (t.prerequisites smooth) fun _ => Called false := by
    cases t with
    | appending t => exact AppendingTool.prerequisites_finishes fun h => ht (by rw [h])
    | overwriting t => exact Finishes.pure fun _ hw => hw
  have htest : Finishes (Called false) (t.testInstalled rt smooth version)
      fun found _ => found = false := by
    cases t with
    | appending t => cases t <;> exact fun w hw => ⟨_, w, rfl, hw⟩
    | overwriting t => cases t <;> exact fun w hw => ⟨_, w, rfl, hw⟩
  have hsetup : Finishes (Called false) (t.setup rt smooth version)
      fun code _ => code = .zero := by
    cases t with
    | appending t => exact AppendingTool.setup_finishes hwin fun h => ht (by rw [h])
    | overwriting t => exact t.setup_finishes hwin
  obtain ⟨_, ready, hready, hcalled⟩ := hprerequisites start rfl
  obtain ⟨_, mid, hmid, rfl⟩ := htest ready hcalled
  obtain ⟨_, w', hrun, rfl⟩ := hsetup start rfl
  have halias : WhereIsAlias smooth := by
    intro _
    simp [smooth]
  exact ⟨Bool, smooth, version, start, ready, mid, w', halias, rfl,
    t.setup_effect hwin hready hmid hrun, hready, hmid, hrun⟩

theorem installingRun_exists (hwin : rt.platform = .windows) {t : Tool}
    (ht : t ≠ .appending .ggml) (version : String) (s : Session) :
    InstallingRun rt t s (t.effect rt version s) :=
  (aliasedRun_exists hwin ht version s).installing

section Refused

variable {Ω : Type} {out : Outside Ω}

theorem invokeExpression_ok {command : String} {found : Bool} {w w' : World Ω}
    (hrun : (invokeExpression out command).run w = .ok found w') :
    out.invokeExpression command w.outside = .ok found := by
  obtain ⟨_, mid, hget, hrest⟩ := bind_ok hrun
  cases hget
  cases hresult : out.invokeExpression command w.outside with
  | ok result =>
      rw [hresult] at hrest
      cases hrest
      rfl
  | error message =>
      rw [hresult] at hrest
      cases hrest

/-- If neither Git nor CMake is missed, Visual Studio is. -/
theorem Ggml.testPrerequisites_raises (halias : WhereIsAlias out) (w : World Ω) :
    ∃ e mid, (Ggml.testPrerequisites out).run w = .error e mid := by
  cases hrun : (Ggml.testPrerequisites out).run w with
  | error e mid => exact ⟨e, mid, rfl⟩
  | ok u w' =>
      obtain ⟨_, _, _, hrest⟩ := bind_ok hrun
      obtain ⟨_, _, _, hrest⟩ := bind_ok hrest
      obtain ⟨_, checked, hlast, _⟩ := bind_ok hrest
      obtain ⟨_, said, _, hcheck⟩ := bind_ok hlast
      obtain ⟨found, mid, hfound, hpassed⟩ := bind_ok hcheck
      cases found with
      | false => cases hpassed
      | true => exact absurd (invokeExpression_ok hfound) (halias said.outside)

/-- In PowerShell `setup-ggml.ps1` always fails, and changes nothing. -/
theorem setupGgml_refused (halias : WhereIsAlias out) (w : World Ω) :
    ∃ w', (Tool.setup rt out version (.appending .ggml)).run w = .ok .one w' ∧
      w'.session = w.session := by
  obtain ⟨e, mid, hraise⟩ := Ggml.testPrerequisites_raises halias w
  have hmid : mid.session = w.session := Ggml.testPrerequisites_session.of_error hraise
  refine ⟨{ mid with console := mid.console ++ ["Failed to install GGML: " ++ e.message] }, ?_,
    hmid⟩
  change (exitOnFailure "Failed to install GGML: " (Ggml.testPrerequisites out >>= fun _ =>
    Ggml.mainInstallation rt out version)).run w = _
  rw [exitOnFailure, run_tryCatch, EStateM.run_bind, EStateM.run_bind, hraise]
  rfl

end Refused

/-- Where `where` is the alias it is in PowerShell, a successful installing run of
`setup-llvm.ps1`, `setup-wasmedge.ps1`, `setup-pytorch.ps1` or `setup-tensorflow.ps1`
can take one session to another if and only if the other is what `Tool.effect` makes
of it for some version; `setup-ggml.ps1` has no such run, because its check for Visual
Studio never passes: it always ends with exit code 1 and leaves the session as it was.
The outside is arbitrary apart from what `where cl.exe` gives. -/
theorem aliasedRun_iff (hwin : rt.platform = .windows) (t : Tool) (s s' : Session) :
    (AliasedRun rt t s s' ↔
      t ≠ .appending .ggml ∧ ∃ version, s' = t.effect rt version s) ∧
      ∀ (Ω : Type) (out : Outside Ω) (version : String) (w : World Ω), WhereIsAlias out →
        ∃ w', (Tool.setup rt out version (.appending .ggml)).run w = .ok .one w' ∧
          w'.session = w.session := by
  refine ⟨⟨fun h => ⟨?_, h.installing.effect hwin⟩, ?_⟩,
    fun Ω out version w halias => setupGgml_refused halias w⟩
  · rintro rfl
    obtain ⟨Ω, out, version, w, _, _, w', halias, _, _, _, _, hrun⟩ := h
    obtain ⟨_, hrefused, _⟩ : ∃ w'', (Tool.setup rt out version (.appending .ggml)).run w =
        .ok .one w'' ∧ w''.session = w.session := setupGgml_refused halias w
    rw [hrun] at hrefused
    cases hrefused
  · rintro ⟨ht, version, rfl⟩
    exact aliasedRun_exists hwin ht version s

theorem aliasedRun_iff_wasmedge :
    let rt : Runtime := ⟨.windows, Casing.ascii, "C:\\Windows\\Temp", true⟩
    let s : Session := ⟨fun _ => none, []⟩
    AliasedRun rt (.appending .wasmedge) s (Tool.effect rt "0.13.5" (.appending .wasmedge) s) ∧
      ∀ s', ¬ AliasedRun rt (.appending .ggml) s s' := by
  intro rt s
  have hwin : rt.platform = .windows := rfl
  refine ⟨(aliasedRun_iff hwin (.appending .wasmedge) s _).1.mpr ⟨by decide, "0.13.5", rfl⟩,
    fun s' hrun => ?_⟩
  exact ((aliasedRun_iff hwin (.appending .ggml) s s').1.mp hrun).1 rfl

end IdxWorkspace.Setup
