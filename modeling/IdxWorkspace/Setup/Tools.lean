import IdxWorkspace.Setup.Appending
import IdxWorkspace.Setup.Overwriting

/-!
The five Windows installers side by side. `Tool.effect` says what a successful
installing run does to the session, and `Tool.setup_effect` derives it from the
scripts.
-/

namespace IdxWorkspace.Setup

open PowerShell Library.Effect Library.Journal

inductive AppendingTool where
  | llvm
  | wasmedge
  | ggml
  deriving DecidableEq

inductive OverwritingTool where
  | pytorch
  | tensorflow
  deriving DecidableEq

inductive Tool where
  | appending (t : AppendingTool)
  | overwriting (t : OverwritingTool)
  deriving DecidableEq

variable {Ω : Type}

namespace AppendingTool

/-- The directory each script puts on the Windows `PATH`. -/
def directory : AppendingTool → Directory
  | .llvm => ⟨"C:\\Program Files\\LLVM\\bin".toList, by decide, by decide, by decide, by decide⟩
  | .wasmedge =>
      ⟨"C:\\Program Files\\WasmEdge\\bin".toList, by decide, by decide, by decide, by decide⟩
  | .ggml => ⟨"C:\\Program Files\\ggml\\lib".toList, by decide, by decide, by decide, by decide⟩

def toolVariables (rt : Runtime) (version : String) :
    AppendingTool → List (MachineVar × Option Text)
  | .llvm => Llvm.toolVariables rt version
  | .wasmedge => WasmEdge.toolVariables rt
  | .ggml => Ggml.toolVariables

def prerequisites (out : Outside Ω) : AppendingTool → Script Ω PUnit
  | .ggml => Ggml.testPrerequisites out
  | _ => pure ⟨⟩

def testInstalled (rt : Runtime) (out : Outside Ω) (version : String) :
    AppendingTool → Script Ω Bool
  | .llvm => Llvm.testLLVMInstalled rt out version
  | .wasmedge => WasmEdge.testWasmEdgeInstalled rt out
  | .ggml => Ggml.testGGMLInstalled rt out

def installSilently (rt : Runtime) (out : Outside Ω) (version : String) :
    AppendingTool → Script Ω PUnit
  | .llvm => Llvm.installLLVMSilently rt out version
  | .wasmedge => WasmEdge.installWasmEdgeSilently rt out version
  | .ggml => Ggml.installGGMLSilently rt out version

def label : AppendingTool → String
  | .llvm => "LLVM"
  | .wasmedge => "WasmEdge"
  | .ggml => "GGML"

/-- What the script's catch block puts before the error. -/
def context : AppendingTool → String
  | .llvm => "Failed to install LLVM: "
  | .wasmedge => "Failed to install WasmEdge: "
  | .ggml => "Failed to install GGML: "

def createCleanup (out : Outside Ω) : AppendingTool → Script Ω PUnit
  | .llvm => newCleanupScript out "cleanup-llvm.ps1" .llvm
  | .wasmedge => newCleanupScript out "cleanup-wasmedge.ps1" .wasmedge
  | .ggml => newCleanupScript out "cleanup-ggml.ps1" .ggml

def setup (rt : Runtime) (out : Outside Ω) (version : String) :
    AppendingTool → Script Ω ExitCode
  | .llvm => Llvm.setupLlvm rt out version
  | .wasmedge => WasmEdge.setupWasmEdge rt out version
  | .ggml => Ggml.setupGgml rt out version

variable {rt : Runtime} {out : Outside Ω} {version : String}

/-- On Windows the three scripts are one script with three sets of values. -/
theorem setup_eq (hwin : rt.platform = .windows) (t : AppendingTool) :
    t.setup rt out version = exitOnFailure t.context
      (t.prerequisites out >>= fun _ =>
        appendingInstallation rt out t.label (t.testInstalled rt out version)
          (t.installSilently rt out version) t.directory.text (t.toolVariables rt version)
          (t.createCleanup out)) := by
  cases t with
  | llvm =>
      have hpath : Llvm.llvmBinPath rt version = (directory .llvm).text := by
        unfold Llvm.llvmBinPath
        rw [hwin]
        rfl
      simp only [setup, Llvm.setupLlvm, Llvm.mainInstallation, prerequisites, pure_bind, hpath,
        context, label, testInstalled, installSilently, toolVariables, createCleanup]
  | wasmedge =>
      have hpath : WasmEdge.wasmedgeBinPath rt = (directory .wasmedge).text := by
        unfold WasmEdge.wasmedgeBinPath
        rw [hwin]
        rfl
      simp only [setup, WasmEdge.setupWasmEdge, WasmEdge.mainInstallation, prerequisites,
        pure_bind, hpath, context, label, testInstalled, installSilently, toolVariables,
        createCleanup]
  | ggml => rfl

theorem prerequisites_session (t : AppendingTool) :
    Preserves World.session (t.prerequisites out) := by
  cases t with
  | ggml => exact Ggml.testPrerequisites_session
  | llvm => exact Preserves.pure _ _
  | wasmedge => exact Preserves.pure _ _

theorem testInstalled_session (t : AppendingTool) :
    Preserves World.session (t.testInstalled rt out version) := by
  cases t <;> exact testPath_session _

theorem installSilently_session (t : AppendingTool) :
    Preserves World.session (t.installSilently rt out version) := by
  cases t with
  | llvm => exact Llvm.installLLVMSilently_session
  | wasmedge => exact WasmEdge.installWasmEdgeSilently_session
  | ggml => exact Ggml.installGGMLSilently_session

theorem createCleanup_session (t : AppendingTool) :
    Preserves World.session (t.createCleanup out) := by
  cases t <;> exact newCleanupScript_session _ _

theorem path_not_mem_toolVariables (t : AppendingTool) :
    .path ∉ (t.toolVariables rt version).map Prod.fst := by
  cases t <;> simp [toolVariables, Llvm.toolVariables, WasmEdge.toolVariables, Ggml.toolVariables]

end AppendingTool

namespace OverwritingTool

/-- The directory each script puts on the Windows `PATH`. -/
def directory : OverwritingTool → Directory
  | .pytorch =>
      ⟨"C:\\Program Files\\libtorch\\lib".toList, by decide, by decide, by decide, by decide⟩
  | .tensorflow =>
      ⟨"C:\\Program Files\\tensorflow\\lib".toList, by decide, by decide, by decide, by decide⟩

def toolVariables (rt : Runtime) : OverwritingTool → List (MachineVar × Option Text)
  | .pytorch => [(.torchRoot, some (PyTorch.torchPath rt))]
  | .tensorflow => []

def testInstalled (rt : Runtime) (out : Outside Ω) : OverwritingTool → Script Ω Bool
  | .pytorch => PyTorch.testLibTorchInstalled rt out
  | .tensorflow => TensorFlow.testTensorFlowInstalled rt out

def alreadyInstalled : OverwritingTool → String
  | .pytorch => "LibTorch is already installed"
  | .tensorflow => "TensorFlow C API is already installed"

/-- What the script's catch block puts before the error. -/
def context : OverwritingTool → String
  | .pytorch => "Failed to install LibTorch: "
  | .tensorflow => "Failed to install TensorFlow C API: "

def staged (rt : Runtime) (out : Outside Ω) (version : String) :
    OverwritingTool → Script Ω PUnit
  | .pytorch => PyTorch.staged rt out version
  | .tensorflow => TensorFlow.staged rt out version

def settled (rt : Runtime) (out : Outside Ω) : OverwritingTool → Script Ω PUnit
  | .pytorch => PyTorch.settled rt out
  | .tensorflow => TensorFlow.settled rt out

def setup (rt : Runtime) (out : Outside Ω) (version : String) :
    OverwritingTool → Script Ω ExitCode
  | .pytorch => PyTorch.setupPyTorch rt out version
  | .tensorflow => TensorFlow.setupTensorFlow rt out version

variable {rt : Runtime} {out : Outside Ω} {version : String}

theorem setup_eq (hwin : rt.platform = .windows) (t : OverwritingTool) :
    t.setup rt out version = exitOnFailure t.context
      (overwritingInstallation rt out (t.testInstalled rt out) t.alreadyInstalled (t.staged rt out version) t.directory.text
        (t.settled rt out)) := by
  cases t with
  | pytorch =>
      have hpath : PyTorch.dllPath rt = (directory .pytorch).text := PyTorch.dllPath_eq hwin
      simp only [setup, PyTorch.setupPyTorch, PyTorch.mainInstallation_eq hwin, hpath, context,
        alreadyInstalled, testInstalled, staged, settled]
  | tensorflow =>
      have hpath : TensorFlow.dllPath rt = (directory .tensorflow).text :=
        TensorFlow.dllPath_eq hwin
      simp only [setup, TensorFlow.setupTensorFlow, TensorFlow.mainInstallation_eq hwin, hpath,
        context, alreadyInstalled, testInstalled, staged, settled]

theorem testInstalled_session (t : OverwritingTool) :
    Preserves World.session (t.testInstalled rt out) := by
  cases t <;> exact testPath_session _

theorem staged_session (t : OverwritingTool) :
    Preserves World.session (t.staged rt out version) := by
  cases t <;> exact stage_session _ _ _ _ _ _

theorem settled_settles (hwin : rt.platform = .windows) (t : OverwritingTool) :
    Settles (t.settled rt out) (t.toolVariables rt) := by
  cases t with
  | pytorch => exact PyTorch.settled_settles hwin
  | tensorflow => exact TensorFlow.settled_settles

theorem path_not_mem_toolVariables (t : OverwritingTool) :
    .path ∉ (t.toolVariables rt).map Prod.fst := by
  cases t <;> simp [toolVariables]

end OverwritingTool

namespace Tool

def directory : Tool → Directory
  | .appending t => t.directory
  | .overwriting t => t.directory

def prerequisites (out : Outside Ω) : Tool → Script Ω PUnit
  | .appending t => t.prerequisites out
  | .overwriting _ => pure ⟨⟩

def testInstalled (rt : Runtime) (out : Outside Ω) (version : String) : Tool → Script Ω Bool
  | .appending t => t.testInstalled rt out version
  | .overwriting t => t.testInstalled rt out

def setup (rt : Runtime) (out : Outside Ω) (version : String) : Tool → Script Ω ExitCode
  | .appending t => t.setup rt out version
  | .overwriting t => t.setup rt out version

/-- No tool's directory is part of another's, in any casing. -/
theorem directory_infix_iff {casing : Casing} (t u : Tool) :
    casing.key t.directory.text <:+: casing.key u.directory.text ↔ t = u := by
  rw [t.directory.key_eq, u.directory.key_eq]
  rcases t with t | t <;> rcases u with u | u <;> cases t <;> cases u <;> decide

theorem directory_key_eq_iff {casing : Casing} (t u : Tool) :
    casing.key t.directory.text = casing.key u.directory.text ↔ t = u := by
  constructor
  · intro h
    have hinfix : casing.key t.directory.text <:+: casing.key u.directory.text := by
      rw [h]
    exact (directory_infix_iff t u).mp hinfix
  · rintro rfl
    rfl

/-- What a successful installing run makes of the session. -/
def effect (rt : Runtime) (version : String) : Tool → Session → Session
  | .appending t, s =>
      ⟨replay stored
          (environmentWrites rt.casing t.directory.text (t.toolVariables rt version) s.machine)
          s.machine,
        s.processPath⟩
  | .overwriting t, s =>
      let newPath := append t.directory.text s.processPath
      ⟨replay stored ((.path, some newPath) :: t.toolVariables rt) s.machine, newPath⟩

end Tool

/-- The machine `PATH` as the scripts see it. -/
def machinePath (s : Session) : Text := interpolate (s.machine .path)

section Effect

variable {rt : Runtime} {version : String}

private theorem interpolate_some_append (t d : Text) :
    interpolate (stored (some (append t d))) = append t d :=
  interpolate_stored (some (append t d))

/-- The machine `PATH` a guarded append leaves, as it is stored. -/
theorem effect_appending_stored (t : AppendingTool) (s : Session) :
    (Tool.effect rt version (.appending t) s).machine .path =
      if Contains rt.casing (machinePath s) t.directory.text then s.machine .path
      else stored (some (append (machinePath s) t.directory.text)) := by
  simp only [Tool.effect, environmentWrites, machinePath]
  by_cases h : Contains rt.casing (interpolate (s.machine .path)) t.directory.text
  · simp only [h, if_true, List.nil_append]
    rw [replay_of_not_mem t.path_not_mem_toolVariables]
  · simp only [h, if_false, List.singleton_append, replay_cons]
    rw [replay_of_not_mem t.path_not_mem_toolVariables, Function.update_self]

@[simp]
theorem effect_appending_machinePath (t : AppendingTool) (s : Session) :
    machinePath (Tool.effect rt version (.appending t) s) =
      addEntry rt.casing t.directory.text (machinePath s) := by
  rw [machinePath, effect_appending_stored, addEntry]
  by_cases h : Contains rt.casing (machinePath s) t.directory.text
  · rw [if_pos h, if_pos h]
    rfl
  · rw [if_neg h, if_neg h, interpolate_some_append]

@[simp]
theorem effect_appending_processPath (t : AppendingTool) (s : Session) :
    (Tool.effect rt version (.appending t) s).processPath = s.processPath := rfl

@[simp]
theorem effect_overwriting_machinePath (t : OverwritingTool) (s : Session) :
    machinePath (Tool.effect rt version (.overwriting t) s) =
      append t.directory.text s.processPath := by
  simp only [Tool.effect, machinePath, replay_cons]
  rw [replay_of_not_mem t.path_not_mem_toolVariables, Function.update_self,
    interpolate_some_append]

@[simp]
theorem effect_overwriting_processPath (t : OverwritingTool) (s : Session) :
    (Tool.effect rt version (.overwriting t) s).processPath =
      append t.directory.text s.processPath := rfl

end Effect

/-- A successful installing run of `t`: the tool was not found, and the script
ended with exit code 0. The outside, the version asked for and what is on the
console are arbitrary. -/
def InstallingRun (rt : Runtime) (t : Tool) (s s' : Session) : Prop :=
  ∃ (Ω : Type) (out : Outside Ω) (version : String) (w ready mid w' : World Ω),
    w.session = s ∧ w'.session = s' ∧
    (t.prerequisites out).run w = .ok ⟨⟩ ready ∧
    (t.testInstalled rt out version).run ready = .ok false mid ∧
    (t.setup rt out version).run w = .ok .zero w'

/-- The scripts do what `Tool.effect` says. -/
theorem Tool.setup_effect {rt : Runtime} {out : Outside Ω} {version : String}
    (hwin : rt.platform = .windows) (t : Tool) {w ready mid w' : World Ω}
    (hready : (t.prerequisites out).run w = .ok ⟨⟩ ready)
    (htest : (t.testInstalled rt out version).run ready = .ok false mid)
    (hrun : (t.setup rt out version).run w = .ok .zero w') :
    w'.session = t.effect rt version w.session := by
  cases t with
  | appending t =>
      rw [Tool.setup, t.setup_eq hwin] at hrun
      obtain ⟨_, ready', hready', hbody⟩ := bind_ok (exitOnFailure_zero hrun)
      obtain rfl : ready = ready' := by
        rw [Tool.prerequisites, hready'] at hready
        cases hready
        rfl
      have hsession : ready.session = w.session := t.prerequisites_session.of_ok hready'
      obtain ⟨found, _, hfound, hafter⟩ := appendingInstallation_ok hwin t.testInstalled_session
        t.installSilently_session t.createCleanup_session hbody
      rw [Tool.testInstalled, hfound] at htest
      cases htest
      have hmachine : ready.machine = w.machine := congrArg Session.machine hsession
      have hpath : ready.processPath = w.processPath := congrArg Session.processPath hsession
      rw [hafter, hmachine, hpath]
      rfl
  | overwriting t =>
      rw [Tool.setup, t.setup_eq hwin] at hrun
      cases hready
      obtain ⟨found, _, hfound, hafter⟩ := overwritingInstallation_ok hwin t.testInstalled_session
        t.staged_session (t.settled_settles hwin) (exitOnFailure_zero hrun)
      rw [Tool.testInstalled, hfound] at htest
      cases htest
      exact hafter

theorem InstallingRun.effect {rt : Runtime} (hwin : rt.platform = .windows) {t : Tool}
    {s s' : Session} (h : InstallingRun rt t s s') :
    ∃ version, s' = t.effect rt version s := by
  obtain ⟨Ω, out, version, w, ready, mid, w', rfl, rfl, hready, htest, hrun⟩ := h
  exact ⟨version, t.setup_effect hwin hready htest hrun⟩

end IdxWorkspace.Setup
