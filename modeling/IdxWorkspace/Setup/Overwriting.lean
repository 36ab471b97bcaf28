import IdxWorkspace.Setup.PathText
import IdxWorkspace.PowerShell.Host

/-!
`setup-pytorch.ps1` and `setup-tensorflow.ps1`. On Windows both edit `PATH`
inside the install function: the tool's directory goes in front of the
session's own `PATH`, and the result is written over the machine's. Removing
the temporary files and verifying the installation come after that.
-/

namespace IdxWorkspace.Setup

open PowerShell Library.Effect Library.Journal

variable {Ω : Type} (rt : Runtime) (out : Outside Ω) (version : String)

/-- `$env:PATH = "$dllPath;$env:PATH"`, then the session's `PATH` becomes the machine's. -/
def overwriteMachinePath (dllPath : Text) : Script Ω PUnit := do
  setProcessPath (append dllPath (← get).processPath)
  setEnvironmentVariable rt out .path (some (← get).processPath)

/-- Download an archive and unpack it. -/
def fetchArchive (label url archive destination : String) : Script Ω PUnit := do
  writeHost ("Downloading " ++ label ++ "...")
  invoke out (.invokeWebRequest url archive)
  writeHost ("Extracting " ++ label ++ "...")
  invoke out (.expandArchive archive destination)

namespace PyTorch

def testLibTorchInstalled : Script Ω Bool :=
  let torchPath := match rt.platform with
    | .windows => "C:\\Program Files\\libtorch"
    | _ => "/usr/local/libtorch"
  let libPath := match rt.platform with
    | .windows => joinPath rt torchPath "lib\\torch.dll"
    | .macOS => joinPath rt torchPath "lib/libtorch.dylib"
    | .linux => joinPath rt torchPath "lib/libtorch.so"
  testPath out libPath

def dllPath : Text := (joinPath rt "C:\\Program Files" "libtorch\\lib").toList

/-- The `switch ($os)` of `Install-LibTorchSilently`. -/
def installOnPlatform (tempDir : String) : Script Ω PUnit :=
  match rt.platform with
  | .windows => do
      fetchArchive out "LibTorch"
        s!"https://download.pytorch.org/libtorch/cpu/libtorch-win-shared-with-deps-{version}%2Bcpu.zip"
        (joinPath rt tempDir "libtorch.zip") "C:\\Program Files"
      overwriteMachinePath rt out (dllPath rt)
  | .macOS => do
      fetchArchive out "LibTorch"
        s!"https://download.pytorch.org/libtorch/cpu/libtorch-macos-{version}.zip"
        (joinPath rt tempDir "libtorch.zip") "/usr/local"
      invoke out (.native "sudo ln -sf /usr/local/libtorch/lib/* /usr/local/lib/")
      invoke out (.native "sudo ln -sf /usr/local/libtorch/include/* /usr/local/include/")
  | .linux => do
      fetchArchive out "LibTorch"
        s!"https://download.pytorch.org/libtorch/cpu/libtorch-cxx11-abi-shared-with-deps-{version}%2Bcpu.zip"
        (joinPath rt tempDir "libtorch.zip") "/usr/local"
      invoke out (.native "sudo ldconfig")

/-- What `Install-LibTorchSilently` does after the switch. -/
def finishInstall (tempDir : String) : Script Ω PUnit := do
  invoke out (.removeItem tempDir)
  unless ← testLibTorchInstalled rt out do
    throw (.thrown "LibTorch installation failed")

def installLibTorchSilently : Script Ω PUnit := do
  let os := match rt.platform with
    | .windows => "windows"
    | .macOS => "darwin"
    | .linux => "linux"
  let arch := if rt.is64Bit then "x86_64" else "x86"
  writeHost s!"Installing LibTorch for {os}-{arch}..."
  let tempDir := joinPath rt rt.temp "libtorch-install"
  invoke out (.newItem tempDir)
  installOnPlatform rt out version tempDir
  finishInstall rt out tempDir

/-- The value of `TORCH_ROOT`. -/
def torchPath : Text :=
  match rt.platform with
  | .windows => "C:\\Program Files\\libtorch".toList
  | _ => "/usr/local/libtorch".toList

/-- The body of the script's `try`. -/
def mainInstallation : Script Ω PUnit := do
  if ← testLibTorchInstalled rt out then
    writeHost "LibTorch is already installed"
  else
    installLibTorchSilently rt out version
    writeHost "LibTorch installation completed successfully"
    newCleanupScript out "cleanup-pytorch.ps1" .pytorch
    setEnvironmentVariable rt out .torchRoot (some (torchPath rt))
    writeHost "Environment variables set successfully"

def setupPyTorch : Script Ω ExitCode :=
  exitOnFailure "Failed to install LibTorch: " (mainInstallation rt out version)

end PyTorch

namespace TensorFlow

def testTensorFlowInstalled : Script Ω Bool :=
  let tfPath := match rt.platform with
    | .windows => "C:\\Program Files\\tensorflow"
    | _ => "/usr/local/lib"
  let libPath := match rt.platform with
    | .windows => joinPath rt tfPath "lib\\tensorflow.dll"
    | .macOS => joinPath rt tfPath "libtensorflow.dylib"
    | .linux => joinPath rt tfPath "libtensorflow.so"
  testPath out libPath

def architecture : String := if rt.is64Bit then "x86_64" else "x86"

def dllPath : Text := (joinPath rt "C:\\Program Files\\tensorflow" "lib").toList

def installBazel : Script Ω PUnit := do
  unless ← getCommand out "bazel" do
    writeHost "Installing Bazel..."
    invoke out (.native "brew install bazel")

/-- The `switch ($os)` of `Install-TensorFlowSilently`. -/
def installOnPlatform (tempDir : String) : Script Ω PUnit :=
  match rt.platform with
  | .windows => do
      let arch := architecture rt
      fetchArchive out "TensorFlow C API"
        s!"https://storage.googleapis.com/tensorflow/libtensorflow/libtensorflow-cpu-windows-{arch}-{version}.zip"
        (joinPath rt tempDir "tensorflow.zip") "C:\\Program Files\\tensorflow"
      overwriteMachinePath rt out (dllPath rt)
  | .macOS => do
      installBazel out
      writeHost "Cloning TensorFlow repository..."
      invoke out (.setLocation tempDir)
      invoke out (.native "git clone https://github.com/tensorflow/tensorflow.git")
      invoke out (.setLocation "tensorflow")
      invoke out (.native s!"git checkout \"v{version}\"")
      writeHost "Configuring TensorFlow build..."
      invoke out (.native "python configure.py")
      writeHost "Building TensorFlow C API..."
      invoke out (.native "bazel build --config=opt //tensorflow:libtensorflow.so")
      writeHost "Installing TensorFlow C API..."
      invoke out (.native "sudo cp bazel-bin/tensorflow/libtensorflow.so /usr/local/lib/")
      invoke out (.native "sudo cp -r bazel-bin/tensorflow/include /usr/local/include/tensorflow")
  | .linux => do
      let arch := architecture rt
      let url := s!"https://storage.googleapis.com/tensorflow/libtensorflow/libtensorflow-cpu-linux-{arch}-{version}.tar.gz"
      let tarFile := joinPath rt tempDir "tensorflow.tar.gz"
      writeHost "Downloading TensorFlow C API..."
      invoke out (.invokeWebRequest url tarFile)
      writeHost "Extracting TensorFlow C API..."
      invoke out (.native s!"tar -C /usr/local -xzf {tarFile}")
      invoke out (.native "sudo ldconfig")

/-- What `Install-TensorFlowSilently` does after the switch. -/
def finishInstall (tempDir : String) : Script Ω PUnit := do
  invoke out (.removeItem tempDir)
  unless ← testTensorFlowInstalled rt out do
    throw (.thrown "TensorFlow C API installation failed")

def installTensorFlowSilently : Script Ω PUnit := do
  let os := match rt.platform with
    | .windows => "windows"
    | .macOS => "darwin"
    | .linux => "linux"
  let arch := architecture rt
  writeHost s!"Installing TensorFlow C API for {os}-{arch}..."
  let tempDir := joinPath rt rt.temp "tensorflow-install"
  invoke out (.newItem tempDir)
  installOnPlatform rt out version tempDir
  finishInstall rt out tempDir

/-- The body of the script's `try`. -/
def mainInstallation : Script Ω PUnit := do
  if ← testTensorFlowInstalled rt out then
    writeHost "TensorFlow C API is already installed"
  else
    installTensorFlowSilently rt out version
    writeHost "TensorFlow C API installation completed successfully"
    newCleanupScript out "cleanup-tensorflow.ps1" .tensorflow

def setupTensorFlow : Script Ω ExitCode :=
  exitOnFailure "Failed to install TensorFlow C API: " (mainInstallation rt out version)

end TensorFlow

variable {rt} {out} {version}

/-- What both install functions do on Windows before they touch `PATH`. -/
def stage (out : Outside Ω) (banner tempDir label url archive destination : String) :
    Script Ω PUnit := do
  writeHost banner
  invoke out (.newItem tempDir)
  fetchArchive out label url archive destination

theorem fetchArchive_session (label url archive destination : String) :
    Preserves World.session (fetchArchive out label url archive destination) := by
  apply Preserves.bind (writeHost_session _)
  intro _
  apply Preserves.bind (invoke_session _)
  intro _
  exact Preserves.bind (writeHost_session _) fun _ => invoke_session _

theorem stage_session (banner tempDir label url archive destination : String) :
    Preserves World.session (stage out banner tempDir label url archive destination) := by
  apply Preserves.bind (writeHost_session _)
  intro _
  exact Preserves.bind (invoke_session _) fun _ => fetchArchive_session _ _ _ _

/-- A finished overwrite has put the same text on both paths. -/
theorem overwriteMachinePath_ok (hwin : rt.platform = .windows) {dllPath : Text}
    {w w' : World Ω} (hrun : (overwriteMachinePath rt out dllPath).run w = .ok ⟨⟩ w') :
    w'.session = ⟨Function.update w.machine .path (stored (some (append dllPath w.processPath))),
      append dllPath w.processPath⟩ := by
  obtain ⟨_, put, hput, hwrite⟩ := bind_ok hrun
  cases hput
  obtain ⟨_, put, hput, hwrite⟩ := bind_ok hwrite
  cases hput
  obtain ⟨_, put, hput, hwrite⟩ := bind_ok hwrite
  cases hput
  have hmachine := (setEnvironmentVariable_writes hwin).ok hwrite
  have hpath := (setEnvironmentVariable_processPath _ _).of_ok hwrite
  rw [World.session, hmachine, hpath]

theorem overwriteMachinePath_error (hwin : rt.platform = .windows) {dllPath : Text}
    {w w' : World Ω} {e : Failure}
    (hrun : (overwriteMachinePath rt out dllPath).run w = .error e w') :
    w'.machine = w.machine := by
  rcases bind_error hrun with hraise | ⟨_, put, hput, hwrite⟩
  · cases hraise
  cases hput
  rcases bind_error hwrite with hraise | ⟨_, put, hput, hwrite⟩
  · cases hraise
  cases hput
  rcases bind_error hwrite with hraise | ⟨_, put, hput, hwrite⟩
  · cases hraise
  cases hput
  have hkept := (setEnvironmentVariable_writes hwin).error hwrite
  exact hkept

section Family

variable {testInstalled : Script Ω Bool} {already : String} {staged settled : Script Ω PUnit}
  {dllPath : Text} {toolVariables : List (MachineVar × Option Text)}

/-- The common shape of the two scripts on Windows: `staged` is all that comes
before the `PATH` edit, `settled` all that comes after it. -/
def overwritingInstallation (rt : Runtime) (out : Outside Ω) (testInstalled : Script Ω Bool)
    (already : String) (staged : Script Ω PUnit) (dllPath : Text) (settled : Script Ω PUnit) :
    Script Ω PUnit :=
  testInstalled >>= fun found =>
    if found then writeHost already
    else staged >>= fun _ => overwriteMachinePath rt out dllPath >>= fun _ => settled

/-- What a script may do after its `PATH` edit: write its variables at the very
end, and nothing else. -/
structure Settles (settled : Script Ω PUnit) (toolVariables : List (MachineVar × Option Text)) :
    Prop where
  ok : ∀ {w w' : World Ω}, settled.run w = .ok ⟨⟩ w' →
    w'.session = ⟨replay stored toolVariables w.machine, w.processPath⟩
  error : ∀ {w w' : World Ω} {e : Failure}, settled.run w = .error e w' →
    w'.session = w.session

theorem overwritingInstallation_ok (hwin : rt.platform = .windows)
    (htest : Preserves World.session testInstalled) (hstaged : Preserves World.session staged)
    (hsettled : Settles settled toolVariables) {w w' : World Ω}
    (hrun : (overwritingInstallation rt out testInstalled already staged dllPath settled).run w =
      .ok ⟨⟩ w') :
    ∃ found mid, testInstalled.run w = .ok found mid ∧
      w'.session = if found then w.session
        else ⟨replay stored ((.path, some (append dllPath w.processPath)) :: toolVariables) w.machine,
          append dllPath w.processPath⟩ := by
  obtain ⟨found, mid, hfound, hrest⟩ := bind_ok hrun
  refine ⟨found, mid, hfound, ?_⟩
  have hmid : mid.session = w.session := htest.of_ok hfound
  cases found with
  | true => exact ((writeHost_session _).of_ok hrest).trans hmid
  | false =>
      obtain ⟨_, ready, hready, hrest⟩ := bind_ok hrest
      obtain ⟨_, edited, hedit, hrest⟩ := bind_ok hrest
      have hbefore : ready.session = w.session := (hstaged.of_ok hready).trans hmid
      have hmachine : ready.machine = w.machine := congrArg Session.machine hbefore
      have hpath : ready.processPath = w.processPath := congrArg Session.processPath hbefore
      have hedited := overwriteMachinePath_ok hwin hedit
      rw [hmachine, hpath] at hedited
      have heditMachine : edited.machine = _ := congrArg Session.machine hedited
      have heditPath : edited.processPath = _ := congrArg Session.processPath hedited
      rw [hsettled.ok hrest, heditMachine, heditPath]
      simp

/-- What a body that raised has written: both paths, if the overwrite had finished, and
nothing on the machine before that. -/
theorem overwritingInstallation_error (hwin : rt.platform = .windows)
    (htest : Preserves World.session testInstalled) (hstaged : Preserves World.session staged)
    (hsettled : Settles settled toolVariables) {w w' : World Ω} {e : Failure}
    (hrun : (overwritingInstallation rt out testInstalled already staged dllPath settled).run w =
      .error e w') :
    (w'.machine = w.machine ∧ ∀ mid, (testInstalled >>= fun _ => staged >>= fun _ =>
        overwriteMachinePath rt out dllPath).run w ≠ .ok ⟨⟩ mid) ∨
    ((∃ mid, (testInstalled >>= fun _ => staged >>= fun _ =>
        overwriteMachinePath rt out dllPath).run w = .ok ⟨⟩ mid) ∧
      w'.session = ⟨Function.update w.machine .path (stored (some (append dllPath w.processPath))),
        append dllPath w.processPath⟩) := by
  rcases bind_error hrun with hraise | ⟨found, mid, hfound, hrest⟩
  · refine Or.inl ⟨congrArg Session.machine (htest.of_error hraise), fun mid hmid => ?_⟩
    rw [EStateM.run_bind, hraise] at hmid
    cases hmid
  have hmid : mid.session = w.session := htest.of_ok hfound
  cases found with
  | true => cases hrest
  | false =>
      rcases bind_error hrest with hraise | ⟨_, ready, hready, hrest⟩
      · have hkept := congrArg Session.machine ((hstaged.of_error hraise).trans hmid)
        refine Or.inl ⟨hkept, fun mid' hmid' => ?_⟩
        simp only [EStateM.run_bind, hfound, hraise] at hmid'
        cases hmid'
      have hbefore : ready.session = w.session := (hstaged.of_ok hready).trans hmid
      have hmachine : ready.machine = w.machine := congrArg Session.machine hbefore
      have hpath : ready.processPath = w.processPath := congrArg Session.processPath hbefore
      rcases bind_error hrest with hraise | ⟨_, edited, hedit, hrest⟩
      · refine Or.inl ⟨(overwriteMachinePath_error hwin hraise).trans hmachine, fun mid' hmid' => ?_⟩
        simp only [EStateM.run_bind, hfound, hready, hraise] at hmid'
        cases hmid'
      right
      constructor
      · refine ⟨edited, ?_⟩
        simp only [EStateM.run_bind, hfound, hready]
        exact hedit
      · rw [hsettled.error hrest, overwriteMachinePath_ok hwin hedit, hmachine, hpath]

end Family

/-- An action that only talks to the outside settles with no variables. -/
theorem Settles.of_preserves {x : Script Ω PUnit} (h : Preserves World.session x) :
    Settles x [] where
  ok hrun := h.of_ok hrun
  error hrun := h.of_error hrun

theorem Settles.after {x : Script Ω PUnit} {y : Script Ω PUnit}
    {toolVariables : List (MachineVar × Option Text)} (hx : Preserves World.session x)
    (hy : Settles y toolVariables) : Settles (x >>= fun _ => y) toolVariables where
  ok {w w'} hrun := by
    obtain ⟨_, mid, hmid, hrest⟩ := bind_ok hrun
    have hsession : mid.session = w.session := hx.of_ok hmid
    have hmachine : mid.machine = w.machine := congrArg Session.machine hsession
    have hpath : mid.processPath = w.processPath := congrArg Session.processPath hsession
    rw [hy.ok hrest, hmachine, hpath]
  error {w w' e} hrun := by
    rcases bind_error hrun with hraise | ⟨_, mid, hmid, hrest⟩
    · exact hx.of_error hraise
    · exact (hy.error hrest).trans (hx.of_ok hmid)

namespace PyTorch

theorem dllPath_eq (hwin : rt.platform = .windows) :
    dllPath rt = "C:\\Program Files\\libtorch\\lib".toList := by
  simp [dllPath, joinPath, hwin]

def tempDir (rt : Runtime) : String := joinPath rt rt.temp "libtorch-install"

/-- `stage` with this script's values. -/
def staged (rt : Runtime) (out : Outside Ω) (version : String) : Script Ω PUnit :=
  let os := "windows"
  let arch := if rt.is64Bit then "x86_64" else "x86"
  stage out s!"Installing LibTorch for {os}-{arch}..." (tempDir rt) "LibTorch"
    s!"https://download.pytorch.org/libtorch/cpu/libtorch-win-shared-with-deps-{version}%2Bcpu.zip"
    (joinPath rt (tempDir rt) "libtorch.zip") "C:\\Program Files"

def settled (rt : Runtime) (out : Outside Ω) : Script Ω PUnit := do
  finishInstall rt out (tempDir rt)
  writeHost "LibTorch installation completed successfully"
  newCleanupScript out "cleanup-pytorch.ps1" .pytorch
  setEnvironmentVariable rt out .torchRoot (some (torchPath rt))
  writeHost "Environment variables set successfully"

theorem mainInstallation_eq (hwin : rt.platform = .windows) :
    mainInstallation rt out version =
      overwritingInstallation rt out (testLibTorchInstalled rt out)
        "LibTorch is already installed" (staged rt out version) (dllPath rt)
        (settled rt out) := by
  simp [mainInstallation, overwritingInstallation, installLibTorchSilently, installOnPlatform,
    hwin, staged, stage, settled, tempDir]

theorem finishInstall_session (tempDir : String) :
    Preserves World.session (finishInstall rt out tempDir) := by
  refine Preserves.bind (invoke_session _) fun _ => ?_
  refine Preserves.bind (testPath_session _) fun found => ?_
  exact Preserves.ite (Preserves.pure _ _) (Preserves.throw _ _)

/-- `TORCH_ROOT` is written last: if its write raises, nothing after the `PATH`
edit has reached the environment. -/
theorem settled_settles (hwin : rt.platform = .windows) :
    Settles (settled rt out) [(.torchRoot, some (torchPath rt))] := by
  refine Settles.after (finishInstall_session _) ?_
  refine Settles.after (writeHost_session _) ?_
  refine Settles.after (newCleanupScript_session _ _) ?_
  constructor
  · intro w w' hrun
    obtain ⟨_, mid, hwrite, hsay⟩ := bind_ok hrun
    have hmachine := (setEnvironmentVariable_writes hwin).ok hwrite
    have hpath := (setEnvironmentVariable_processPath _ _).of_ok hwrite
    rw [(writeHost_session _).of_ok hsay, World.session, hmachine, hpath]
    rfl
  · intro w w' e hrun
    rcases bind_error hrun with hraise | ⟨_, mid, hwrite, hsay⟩
    · have hmachine := (setEnvironmentVariable_writes hwin).error hraise
      have hpath := (setEnvironmentVariable_processPath _ _).of_error hraise
      rw [World.session, World.session, hmachine, hpath]
    · cases hsay

end PyTorch

namespace TensorFlow

theorem dllPath_eq (hwin : rt.platform = .windows) :
    dllPath rt = "C:\\Program Files\\tensorflow\\lib".toList := by
  simp [dllPath, joinPath, hwin]

def tempDir (rt : Runtime) : String := joinPath rt rt.temp "tensorflow-install"

/-- `stage` with this script's values. -/
def staged (rt : Runtime) (out : Outside Ω) (version : String) : Script Ω PUnit :=
  let os := "windows"
  let arch := architecture rt
  stage out s!"Installing TensorFlow C API for {os}-{arch}..." (tempDir rt) "TensorFlow C API"
    s!"https://storage.googleapis.com/tensorflow/libtensorflow/libtensorflow-cpu-windows-{arch}-{version}.zip"
    (joinPath rt (tempDir rt) "tensorflow.zip") "C:\\Program Files\\tensorflow"

def settled (rt : Runtime) (out : Outside Ω) : Script Ω PUnit := do
  finishInstall rt out (tempDir rt)
  writeHost "TensorFlow C API installation completed successfully"
  newCleanupScript out "cleanup-tensorflow.ps1" .tensorflow

theorem mainInstallation_eq (hwin : rt.platform = .windows) :
    mainInstallation rt out version =
      overwritingInstallation rt out (testTensorFlowInstalled rt out)
        "TensorFlow C API is already installed" (staged rt out version) (dllPath rt)
        (settled rt out) := by
  simp [mainInstallation, overwritingInstallation, installTensorFlowSilently, installOnPlatform,
    hwin, staged, stage, settled, tempDir]

theorem finishInstall_session (tempDir : String) :
    Preserves World.session (finishInstall rt out tempDir) := by
  refine Preserves.bind (invoke_session _) fun _ => ?_
  refine Preserves.bind (testPath_session _) fun found => ?_
  exact Preserves.ite (Preserves.pure _ _) (Preserves.throw _ _)

theorem settled_settles : Settles (settled rt out) [] := by
  apply Settles.of_preserves
  apply Preserves.bind (finishInstall_session _)
  intro _
  exact Preserves.bind (writeHost_session _) fun _ => newCleanupScript_session _ _

end TensorFlow

end IdxWorkspace.Setup
