import IdxWorkspace.Setup.Progress

/-!
The cleanup scripts the five installers write to disk. Each takes its
directory out of the machine `PATH` again, entry by entry. None of them catches
errors: with no machine `PATH` at all there is nothing to split, and the script
ends right there.
-/

namespace IdxWorkspace.Setup

open PowerShell Library.Effect Library.Journal

variable {Ω : Type} (rt : Runtime) (out : Outside Ω)

/-- The `PATH` edit the cleanup scripts share. -/
def removeFromMachinePath (directory : Text) : Script Ω PUnit := do
  match ← getEnvironmentVariable rt .path with
  | none => throw .nullMethodCall
  | some path =>
      let newPath := removeEntry rt.casing directory path
      setEnvironmentVariable rt out .path (some newPath)

/-- `Remove-Item -ErrorAction SilentlyContinue` -/
def removeItemSilently (path : String) : Script Ω PUnit :=
  tryCatch (invoke out (.removeItem path)) fun _ => pure ⟨⟩

def cleanupLlvm : Script Ω PUnit := do
  -- the script is written to disk as it stands, and sets no `$Version` of its own
  let llvmPath := match rt.platform with
    | .windows => "C:\\Program Files\\LLVM\\bin"
    | .macOS => "/usr/local/opt/llvm/bin"
    | .linux => "/usr/lib/llvm-/bin"
  removeFromMachinePath rt out llvmPath.toList
  setEnvironmentVariable rt out .libclangPath none

def cleanupWasmedge : Script Ω PUnit := do
  let wasmedgePath := match rt.platform with
    | .windows => "C:\\Program Files\\WasmEdge\\bin"
    | _ => "/usr/local/bin"
  removeFromMachinePath rt out wasmedgePath.toList
  setEnvironmentVariable rt out .wasmedgeLibDir none
  setEnvironmentVariable rt out .wasmedgeIncludeDir none

def cleanupGgml : Script Ω PUnit := do
  let ggmlPath := "C:\\Program Files\\ggml\\lib"
  removeFromMachinePath rt out ggmlPath.toList
  setEnvironmentVariable rt out .ggmlDir none

def cleanupPytorch : Script Ω PUnit :=
  match rt.platform with
  | .windows => do
      removeItemSilently out "C:\\Program Files\\libtorch"
      let torchPath := "C:\\Program Files\\libtorch\\lib"
      removeFromMachinePath rt out torchPath.toList
  | _ => do
      invoke out (.native "sudo rm -rf /usr/local/libtorch")
      invoke out (.native "sudo rm -f /usr/local/lib/libtorch*")
      invoke out (.native "sudo rm -f /usr/local/include/torch")
      if rt.platform ≠ .macOS then
        invoke out (.native "sudo ldconfig")

def cleanupTensorflow : Script Ω PUnit :=
  match rt.platform with
  | .windows => do
      removeItemSilently out "C:\\Program Files\\tensorflow"
      let tfPath := "C:\\Program Files\\tensorflow\\lib"
      removeFromMachinePath rt out tfPath.toList
  | _ => do
      invoke out (.native "sudo rm -f /usr/local/lib/libtensorflow*")
      invoke out (.native "sudo rm -rf /usr/local/include/tensorflow")
      if rt.platform ≠ .macOS then
        invoke out (.native "sudo ldconfig")

/-- What a cleanup script on disk does when it is run. -/
def runCleanup : CleanupScript → Script Ω PUnit
  | .llvm => cleanupLlvm rt out
  | .wasmedge => cleanupWasmedge rt out
  | .ggml => cleanupGgml rt out
  | .pytorch => cleanupPytorch rt out
  | .tensorflow => cleanupTensorflow rt out

namespace AppendingTool

/-- The script each installer leaves behind. -/
def cleanupScript : AppendingTool → CleanupScript
  | .llvm => .llvm
  | .wasmedge => .wasmedge
  | .ggml => .ggml

/-- The writes of a cleanup script after its `PATH` edit. -/
def clearedVariables : AppendingTool → List (MachineVar × Option Text)
  | .llvm => [(.libclangPath, none)]
  | .wasmedge => [(.wasmedgeLibDir, none), (.wasmedgeIncludeDir, none)]
  | .ggml => [(.ggmlDir, none)]

end AppendingTool

variable {rt} {out}

/-- On Windows the cleanup scripts of the appending tools are one script with
three sets of values. -/
theorem runCleanup_eq (hwin : rt.platform = .windows) (t : AppendingTool) :
    runCleanup rt out t.cleanupScript =
      removeFromMachinePath rt out t.directory.text >>= fun _ =>
        writeAll (setEnvironmentVariable rt out) t.clearedVariables := by
  cases t with
  | llvm =>
      have hdir : "C:\\Program Files\\LLVM\\bin".toList =
          (AppendingTool.directory .llvm).text := rfl
      simp only [AppendingTool.cleanupScript, runCleanup, cleanupLlvm, hwin, hdir]
      simp [writeAll, AppendingTool.clearedVariables]
  | wasmedge =>
      have hdir : "C:\\Program Files\\WasmEdge\\bin".toList =
          (AppendingTool.directory .wasmedge).text := rfl
      simp only [AppendingTool.cleanupScript, runCleanup, cleanupWasmedge, hwin, hdir]
      simp [writeAll, AppendingTool.clearedVariables]
  | ggml =>
      have hdir : "C:\\Program Files\\ggml\\lib".toList =
          (AppendingTool.directory .ggml).text := rfl
      simp only [AppendingTool.cleanupScript, runCleanup, cleanupGgml, hdir]
      simp [writeAll, AppendingTool.clearedVariables]

theorem AppendingTool.path_not_mem_clearedVariables (t : AppendingTool) :
    .path ∉ t.clearedVariables.map Prod.fst := by
  cases t <;> simp [AppendingTool.clearedVariables]

/-- With no machine `PATH` the edit raises and changes nothing. -/
theorem run_removeFromMachinePath_unset (hwin : rt.platform = .windows) (d : Text) {w : World Ω}
    (hunset : w.machine .path = none) :
    (removeFromMachinePath rt out d).run w = .error .nullMethodCall w := by
  rw [removeFromMachinePath, EStateM.run_bind, run_getEnvironmentVariable hwin, hunset]
  rfl

theorem run_removeFromMachinePath_set (hwin : rt.platform = .windows) (d : Text) {w : World Ω}
    {path : Text} (hset : w.machine .path = some path) :
    (removeFromMachinePath rt out d).run w =
      (setEnvironmentVariable rt out .path (some (removeEntry rt.casing d path))).run w := by
  rw [removeFromMachinePath, EStateM.run_bind, run_getEnvironmentVariable hwin, hset]

/-- Off Windows there is no machine `PATH` to be had, so the cleanup of an appending tool
always raises before it has done anything, the directories it names for macOS and Linux
notwithstanding. -/
theorem cleanup_raises_elsewhere (hwin : rt.platform ≠ .windows) (t : AppendingTool)
    (w : World Ω) : (runCleanup rt out t.cleanupScript).run w = .error .nullMethodCall w := by
  have hremove (directory : Text) :
      (removeFromMachinePath rt out directory).run w = .error .nullMethodCall w := by
    unfold removeFromMachinePath getEnvironmentVariable
    cases hplatform : rt.platform with
    | windows => exact absurd hplatform hwin
    | macOS | linux => rfl
  cases t with
  | llvm =>
      change (removeFromMachinePath rt out _ >>= fun _ => _).run w = _
      rw [EStateM.run_bind, hremove]
  | wasmedge =>
      change (removeFromMachinePath rt out _ >>= fun _ => _).run w = _
      rw [EStateM.run_bind, hremove]
  | ggml =>
      change (removeFromMachinePath rt out _ >>= fun _ => _).run w = _
      rw [EStateM.run_bind, hremove]

/-- A cleanup that ran to its end has made all of its writes. -/
theorem runCleanup_ok (hwin : rt.platform = .windows) {t : AppendingTool} {w w' : World Ω}
    (hrun : (runCleanup rt out t.cleanupScript).run w = .ok ⟨⟩ w') :
    ∃ path, w.machine .path = some path ∧
      w'.machine = replay stored
        ((.path, some (removeEntry rt.casing t.directory.text path)) :: t.clearedVariables)
        w.machine := by
  rw [runCleanup_eq hwin] at hrun
  obtain ⟨_, mid, hremove, hclear⟩ := bind_ok hrun
  cases hpath : w.machine .path with
  | none =>
      rw [run_removeFromMachinePath_unset hwin _ hpath] at hremove
      cases hremove
  | some path =>
      refine ⟨path, rfl, ?_⟩
      rw [run_removeFromMachinePath_set hwin _ hpath] at hremove
      have hmid := (setEnvironmentVariable_writes hwin).ok hremove
      have hlast := writeAll_ok (setEnvironmentVariable_writes hwin) hclear
      rw [hlast, hmid]
      rfl

/-- A run of the cleanup script of `t`: it ran to its end, or it found no machine
`PATH` and raised. -/
def CleanupRun (rt : Runtime) (t : AppendingTool) (s s' : Session) : Prop :=
  ∃ (Ω : Type) (out : Outside Ω) (w w' : World Ω), w.session = s ∧ w'.session = s' ∧
    ((runCleanup rt out t.cleanupScript).run w = .ok ⟨⟩ w' ∨
      (s.machine .path = none ∧
        (runCleanup rt out t.cleanupScript).run w = .error .nullMethodCall w'))

theorem removeEntry_nil (casing : Casing) (d : Directory) :
    removeEntry casing d.text [] = [] := by
  have hentries : entries [] = [[]] := rfl
  have hne : casing.eq [] d.text = false := by
    rw [Bool.eq_false_iff, ne_eq, Casing.eq_iff]
    exact fun h => d.key_ne_nil h.symm
  rw [removeEntry, hentries]
  simp only [List.filter_cons, hne, Bool.not_false, if_true, List.filter_nil]
  rfl

/-- Either way the machine `PATH` is the old one without the tool's entries. -/
theorem CleanupRun.machinePath_eq (hwin : rt.platform = .windows) {t : AppendingTool}
    {s s' : Session} (h : CleanupRun rt t s s') :
    machinePath s' = removeEntry rt.casing t.directory.text (machinePath s) := by
  obtain ⟨Ω, out, w, w', rfl, rfl, hrun | ⟨hunset, hrun⟩⟩ := h
  · obtain ⟨path, hpath, hmachine⟩ := runCleanup_ok hwin hrun
    have hlookup : w'.machine .path =
        stored (some (removeEntry rt.casing t.directory.text path)) := by
      rw [hmachine, replay_cons, replay_of_not_mem t.path_not_mem_clearedVariables,
        Function.update_self]
    simp only [machinePath, World.session]
    rw [hlookup, interpolate_stored, hpath]
    rfl
  · have hraise : (runCleanup rt out t.cleanupScript).run w = .error .nullMethodCall w := by
      rw [runCleanup_eq hwin, EStateM.run_bind, run_removeFromMachinePath_unset hwin _ hunset]
    rw [hraise] at hrun
    cases hrun
    have hnil : machinePath w.session = [] := by
      rw [machinePath, hunset]
      rfl
    rw [hnil, removeEntry_nil]

/-- From every session the cleanup script has a run. -/
theorem cleanupRun_exists (hwin : rt.platform = .windows) (t : AppendingTool) (s : Session) :
    ∃ s', CleanupRun rt t s s' := by
  let start : World Bool := ⟨s.machine, s.processPath, [], false⟩
  cases hpath : s.machine .path with
  | none =>
      have hraise : (runCleanup rt smooth t.cleanupScript).run start =
          .error .nullMethodCall start := by
        rw [runCleanup_eq hwin, EStateM.run_bind, run_removeFromMachinePath_unset hwin _ hpath]
      exact ⟨s, Bool, smooth, start, start, rfl, rfl, Or.inr ⟨hpath, hraise⟩⟩
  | some path =>
      have hclear : Finishes (Called true)
          (writeAll (setEnvironmentVariable rt smooth) t.clearedVariables) fun _ => Called true :=
        Finishes.forM fun w _ => setEnvironmentVariable_finishes hwin w.1 w.2
      have hwrites : Finishes (Called false)
          (setEnvironmentVariable rt smooth .path
              (some (removeEntry rt.casing t.directory.text path)) >>= fun _ =>
            writeAll (setEnvironmentVariable rt smooth) t.clearedVariables)
          fun _ => Called true := by
        apply Finishes.bind (setEnvironmentVariable_finishes hwin _ _)
        intro _
        exact hclear
      obtain ⟨_, w', hrun, _⟩ := hwrites start rfl
      refine ⟨w'.session, Bool, smooth, start, w', rfl, rfl, Or.inl ?_⟩
      rw [runCleanup_eq hwin, EStateM.run_bind, run_removeFromMachinePath_set hwin _ hpath]
      exact hrun

end IdxWorkspace.Setup
