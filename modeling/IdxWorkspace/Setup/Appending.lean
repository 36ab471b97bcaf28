import IdxWorkspace.PowerShell.Host
import IdxWorkspace.Setup.PathText

/-!
`setup-llvm.ps1`, `setup-wasmedge.ps1` and `setup-ggml.ps1`. All three install
first, verify, and then edit the machine environment: a guarded append to
`PATH`, the tool's own variables, and last the cleanup script on disk.
-/

namespace IdxWorkspace.Setup

open PowerShell Library.Effect Library.Journal

variable {Ω : Type} (rt : Runtime) (out : Outside Ω) (version : String)

/-- The `PATH` edit the three scripts share. -/
def addToMachinePath (directory : Text) : Script Ω PUnit := do
  let currentPath ← getEnvironmentVariable rt .path
  if ← notLike rt currentPath ('*' :: directory ++ ['*']) then
    let newPath := append (interpolate currentPath) directory
    setEnvironmentVariable rt out .path (some newPath)

/-- The main installation logic of the three scripts: `label` names the tool in the
messages, `toolVariables` are written after `PATH`. -/
def appendingInstallation (label : String) (testInstalled : Script Ω Bool)
    (installSilently : Script Ω PUnit) (directory : Text)
    (toolVariables : List (MachineVar × Option Text))
    (createCleanup : Script Ω PUnit) : Script Ω PUnit := do
  if ← testInstalled then
    writeHost (label ++ " is already installed")
  else
    installSilently
    addToMachinePath rt out directory
    writeAll (setEnvironmentVariable rt out) toolVariables
    writeHost (label ++ " installation completed successfully")
    createCleanup

/-- The Homebrew step of the macOS branches. -/
def installHomebrew : Script Ω PUnit := do
  unless ← getCommand out "brew" do
    writeHost "Installing Homebrew..."
    invoke out (.native
      "/bin/bash -c \"$(curl -fsSL https://raw.githubusercontent.com/Homebrew/install/HEAD/install.sh)\"")

/-- The `$shortVersion` of the Linux branches: what stands before the first dot. -/
def shortVersion : String :=
  String.ofList (version.toList.takeWhile (· ≠ '.'))

namespace Llvm

def testLLVMInstalled : Script Ω Bool :=
  let llvmPath := match rt.platform with
    | .windows => "C:\\Program Files\\LLVM"
    | .macOS => "/usr/local/opt/llvm"
    | .linux => s!"/usr/lib/llvm-{version}"
  let libclangPath := match rt.platform with
    | .windows => joinPath rt llvmPath "bin\\libclang.dll"
    | .macOS => joinPath rt llvmPath "lib/libclang.dylib"
    | .linux => joinPath rt llvmPath "lib/libclang.so"
  testPath out libclangPath

/-- The `switch ($os)` of `Install-LLVMSilently`. -/
def installOnPlatform : Script Ω PUnit :=
  match rt.platform with
  | .windows => do
      let url := s!"https://github.com/llvm/llvm-project/releases/download/llvmorg-{version}/LLVM-{version}-win64.exe"
      let installer := joinPath rt rt.temp "llvm-installer.exe"
      writeHost s!"Downloading LLVM {version}..."
      invoke out (.invokeWebRequest url installer)
      writeHost "Installing LLVM..."
      invoke out (.startProcess installer ["/S"])
      invoke out (.removeItem installer)
  | .macOS => do
      installHomebrew out
      writeHost "Installing LLVM via Homebrew..."
      invoke out (.native s!"brew install llvm@{version}")
      invoke out (.native s!"brew link --force llvm@{version}")
  | .linux => do
      let short := shortVersion version
      if ← testPath out "/etc/debian_version" then
        writeHost "Installing LLVM on Debian/Ubuntu..."
        invoke out (.native s!"curl -sSL https://apt.llvm.org/llvm.sh | sudo bash -s {short}")
        invoke out (.native "sudo apt-get update")
        invoke out (.native s!"sudo apt-get install -y libclang-{short}-dev llvm-{short}-dev")
      else if ← testPath out "/etc/redhat-release" then
        writeHost "Installing LLVM on RHEL/CentOS..."
        invoke out (.native "sudo yum install -y centos-release-scl")
        invoke out (.native s!"sudo yum install -y llvm-toolset-{short}")
        invoke out (.native s!"echo \"source scl_source enable llvm-toolset-{short}\" | sudo tee -a /etc/profile.d/llvm.sh")
      else
        throw (.thrown "Unsupported Linux distribution")

def installLLVMSilently : Script Ω PUnit := do
  let os := match rt.platform with
    | .windows => "windows"
    | .macOS => "darwin"
    | .linux => "linux"
  let arch := if rt.is64Bit then "x64" else "x86"
  writeHost s!"Installing LLVM for {os}-{arch}..."
  installOnPlatform rt out version
  unless ← testLLVMInstalled rt out version do
    throw (.thrown "LLVM installation failed")

def llvmBinPath : Text :=
  match rt.platform with
  | .windows => "C:\\Program Files\\LLVM\\bin".toList
  | .macOS => "/usr/local/opt/llvm/bin".toList
  | .linux => s!"/usr/lib/llvm-{version}/bin".toList

/-- The variables written after `PATH`: `LIBCLANG_PATH` is the directory put on it. -/
def toolVariables : List (MachineVar × Option Text) :=
  [(.libclangPath, some (llvmBinPath rt version))]

/-- The body of the script's `try`. -/
def mainInstallation : Script Ω PUnit :=
  appendingInstallation rt out "LLVM" (testLLVMInstalled rt out version)
    (installLLVMSilently rt out version) (llvmBinPath rt version) (toolVariables rt version)
    (newCleanupScript out "cleanup-llvm.ps1" .llvm)

def setupLlvm : Script Ω ExitCode :=
  exitOnFailure "Failed to install LLVM: " (mainInstallation rt out version)

end Llvm

namespace WasmEdge

def testWasmEdgeInstalled : Script Ω Bool :=
  let wasmedgePath := match rt.platform with
    | .windows => "C:\\Program Files\\WasmEdge"
    | _ => "/usr/local/lib/wasmedge"
  let wasmedgeLibPath := match rt.platform with
    | .windows => joinPath rt wasmedgePath "lib\\wasmedge.dll"
    | .macOS => joinPath rt wasmedgePath "libwasmedge.dylib"
    | .linux => joinPath rt wasmedgePath "libwasmedge.so"
  testPath out wasmedgeLibPath

/-- The `switch ($os)` of `Install-WasmEdgeSilently`. The Linux branch hands the
version over in a variable of the session that no script reads. -/
def installOnPlatform : Script Ω PUnit :=
  match rt.platform with
  | .windows => do
      let url := s!"https://github.com/WasmEdge/WasmEdge/releases/download/{version}/WasmEdge-{version}-windows.msi"
      let installer := joinPath rt rt.temp "wasmedge-installer.msi"
      writeHost s!"Downloading WasmEdge {version}..."
      invoke out (.invokeWebRequest url installer)
      writeHost "Installing WasmEdge..."
      invoke out (.startProcess "msiexec.exe" ["/i", installer, "/quiet", "/norestart"])
      invoke out (.removeItem installer)
  | .macOS => do
      installHomebrew out
      writeHost "Installing WasmEdge via Homebrew..."
      invoke out (.native "brew install wasmedge")
  | .linux => do
      writeHost "Installing WasmEdge using official install script..."
      invoke out (.native
        "curl -sSf https://raw.githubusercontent.com/WasmEdge/WasmEdge/master/utils/install.sh | bash")

def installWasmEdgeSilently : Script Ω PUnit := do
  let os := match rt.platform with
    | .windows => "windows"
    | .macOS => "darwin"
    | .linux => "linux"
  let arch := if rt.is64Bit then "amd64" else "amd32"
  writeHost s!"Installing WasmEdge for {os}-{arch}..."
  installOnPlatform rt out version
  unless ← testWasmEdgeInstalled rt out do
    throw (.thrown "WasmEdge installation failed")

def wasmedgeBinPath : Text :=
  match rt.platform with
  | .windows => "C:\\Program Files\\WasmEdge\\bin".toList
  | _ => "/usr/local/bin".toList

def wasmedgeRoot : String :=
  match rt.platform with
  | .windows => "C:\\Program Files\\WasmEdge"
  | _ => "/usr/local"

def toolVariables : List (MachineVar × Option Text) :=
  [(.wasmedgeLibDir, some (joinPath rt (wasmedgeRoot rt) "lib").toList),
   (.wasmedgeIncludeDir, some (joinPath rt (wasmedgeRoot rt) "include").toList)]

/-- The body of the script's `try`. -/
def mainInstallation : Script Ω PUnit :=
  appendingInstallation rt out "WasmEdge" (testWasmEdgeInstalled rt out)
    (installWasmEdgeSilently rt out version) (wasmedgeBinPath rt) (toolVariables rt)
    (newCleanupScript out "cleanup-wasmedge.ps1" .wasmedge)

def setupWasmEdge : Script Ω ExitCode :=
  exitOnFailure "Failed to install WasmEdge: " (mainInstallation rt out version)

end WasmEdge

-- This script has no platform branches: it names Windows directories wherever it runs.
namespace Ggml

def testGGMLInstalled : Script Ω Bool :=
  testPath out (joinPath rt "C:\\Program Files\\ggml" "lib\\ggml.lib")

/-- The `try` inside `Install-GGMLSilently`. -/
def buildAndCopy (libDir includeDir : String) : Script Ω PUnit := do
  writeHost "Configuring GGML build..."
  invoke out (.native
    "cmake -S . -B build -G \"Visual Studio 17 2022\" -A x64 -DCMAKE_BUILD_TYPE=Release -DBUILD_SHARED_LIBS=ON -DGGML_BUILD_TESTS=OFF")
  writeHost "Building GGML..."
  invoke out (.native "cmake --build build --config Release")
  writeHost "Installing GGML..."
  invoke out (.copyItem "build\\bin\\Release\\*.dll" libDir)
  invoke out (.copyItem "build\\lib\\Release\\*.lib" libDir)
  invoke out (.copyItem "include\\*.h" includeDir)

/-- The `finally` inside `Install-GGMLSilently`. -/
def leaveRepository (repoPath : String) : Script Ω PUnit := do
  invoke out .popLocation
  invoke out (.removeItem repoPath)

def installGGMLSilently : Script Ω PUnit := do
  let ggmlDir := "C:\\Program Files\\ggml"
  let libDir := joinPath rt ggmlDir "lib"
  let includeDir := joinPath rt ggmlDir "include"
  let buildDir := joinPath rt ggmlDir "build"
  invoke out (.newItem libDir)
  invoke out (.newItem includeDir)
  invoke out (.newItem buildDir)
  let repoUrl := "https://github.com/ggerganov/ggml.git"
  let repoPath := joinPath rt rt.temp "ggml"
  writeHost "Cloning GGML repository..."
  invoke out (.native s!"git clone --depth 1 --branch {version} {repoUrl} {repoPath}")
  invoke out (.pushLocation repoPath)
  tryFinally (buildAndCopy out libDir includeDir) (leaveRepository out repoPath)
  unless ← testGGMLInstalled rt out do
    throw (.thrown "GGML installation failed")

structure Requirement where
  name : String
  command : String

def requirements : List Requirement :=
  [⟨"Git", "git --version"⟩, ⟨"CMake", "cmake --version"⟩, ⟨"Visual Studio", "where cl.exe"⟩]

def testPrerequisites : Script Ω PUnit :=
  requirements.forM fun req => do
    writeHost ("Checking for " ++ req.name ++ "...")
    unless ← invokeExpression out req.command do
      throw (.thrown (req.name ++ " is required but not found"))

def ggmlLibPath : Text := "C:\\Program Files\\ggml\\lib".toList

def toolVariables : List (MachineVar × Option Text) :=
  [(.ggmlDir, some "C:\\Program Files\\ggml".toList)]

/-- What the body of the script's `try` does after the prerequisite check. -/
def mainInstallation : Script Ω PUnit :=
  appendingInstallation rt out "GGML" (testGGMLInstalled rt out)
    (installGGMLSilently rt out version) ggmlLibPath toolVariables
    (newCleanupScript out "cleanup-ggml.ps1" .ggml)

def setupGgml : Script Ω ExitCode :=
  exitOnFailure "Failed to install GGML: " (do
    testPrerequisites out
    mainInstallation rt out version)

end Ggml

variable {rt} {out} {version}

theorem installHomebrew_session : Preserves World.session (installHomebrew out) := by
  refine Preserves.bind (getCommand_session _) fun found => ?_
  refine Preserves.ite (Preserves.pure _ _) ?_
  exact Preserves.bind (writeHost_session _) fun _ => invoke_session _

/-- Installing reaches the session's environment on no platform: every step goes
to the outside. -/
theorem Llvm.installLLVMSilently_session :
    Preserves World.session (Llvm.installLLVMSilently rt out version) := by
  have hplatform : Preserves World.session (Llvm.installOnPlatform rt out version) := by
    unfold Llvm.installOnPlatform
    cases rt.platform with
    | windows =>
        repeat' first
          | exact invoke_session _
          | exact writeHost_session _
          | refine Preserves.bind ?_ fun _ => ?_
    | macOS =>
        repeat' first
          | exact invoke_session _
          | exact writeHost_session _
          | exact installHomebrew_session
          | refine Preserves.bind ?_ fun _ => ?_
    | linux =>
        repeat' first
          | exact invoke_session _
          | exact writeHost_session _
          | exact testPath_session _
          | exact Preserves.throw _ _
          | refine Preserves.ite ?_ ?_
          | refine Preserves.bind ?_ fun _ => ?_
  refine Preserves.bind (writeHost_session _) fun _ => ?_
  refine Preserves.bind hplatform fun _ => ?_
  refine Preserves.bind (testPath_session _) fun found => ?_
  exact Preserves.ite (Preserves.pure _ _) (Preserves.throw _ _)

theorem WasmEdge.installWasmEdgeSilently_session :
    Preserves World.session (WasmEdge.installWasmEdgeSilently rt out version) := by
  have hplatform : Preserves World.session (WasmEdge.installOnPlatform rt out version) := by
    unfold WasmEdge.installOnPlatform
    cases rt.platform with
    | windows =>
        repeat' first
          | exact invoke_session _
          | exact writeHost_session _
          | refine Preserves.bind ?_ fun _ => ?_
    | macOS =>
        refine Preserves.bind installHomebrew_session fun _ => ?_
        exact Preserves.bind (writeHost_session _) fun _ => invoke_session _
    | linux => exact Preserves.bind (writeHost_session _) fun _ => invoke_session _
  refine Preserves.bind (writeHost_session _) fun _ => ?_
  refine Preserves.bind hplatform fun _ => ?_
  refine Preserves.bind (testPath_session _) fun found => ?_
  exact Preserves.ite (Preserves.pure _ _) (Preserves.throw _ _)

theorem Ggml.installGGMLSilently_session :
    Preserves World.session (Ggml.installGGMLSilently rt out version) := by
  have hbuild (libDir includeDir : String) :
      Preserves World.session (Ggml.buildAndCopy out libDir includeDir) := by
    unfold Ggml.buildAndCopy
    repeat' first
      | exact invoke_session _
      | exact writeHost_session _
      | refine Preserves.bind ?_ fun _ => ?_
  have hleave (repoPath : String) :
      Preserves World.session (Ggml.leaveRepository out repoPath) :=
    Preserves.bind (invoke_session _) fun _ => invoke_session _
  unfold Ggml.installGGMLSilently
  repeat' first
    | exact invoke_session _
    | exact writeHost_session _
    | exact testPath_session _
    | exact Preserves.tryFinally (hbuild _ _) (hleave _)
    | exact Preserves.pure _ _
    | exact Preserves.throw _ _
    | refine Preserves.ite ?_ ?_
    | refine Preserves.bind ?_ fun _ => ?_

theorem Ggml.testPrerequisites_session :
    Preserves World.session (Ggml.testPrerequisites out) := by
  refine Preserves.forM fun req _ => ?_
  refine Preserves.bind (writeHost_session _) fun _ => ?_
  refine Preserves.bind (invokeExpression_session _) fun found => ?_
  exact Preserves.ite (Preserves.pure _ _) (Preserves.throw _ _)

/-- The writes of one run, in order, given the environment they start from. -/
def environmentWrites (casing : Casing) (directory : Text)
    (toolVariables : List (MachineVar × Option Text)) (env : MachineEnv) :
    List (MachineVar × Option Text) :=
  (if Contains casing (interpolate (env .path)) directory then []
    else [(.path, some (append (interpolate (env .path)) directory))]) ++ toolVariables

/-- On Windows the guarded append is either no write at all or one write of `PATH`. -/
theorem addToMachinePath_writes (hwin : rt.platform = .windows) (d : Directory)
    (toolVariables : List (MachineVar × Option Text)) (w : World Ω) :
    (addToMachinePath rt out d.text >>= fun _ =>
        writeAll (setEnvironmentVariable rt out) toolVariables).run w =
      (writeAll (setEnvironmentVariable rt out)
        (environmentWrites rt.casing d.text toolVariables w.machine)).run w := by
  have hpath : (addToMachinePath rt out d.text).run w =
      (if Contains rt.casing (interpolate (w.machine .path)) d.text then pure ⟨⟩
        else setEnvironmentVariable rt out .path
          (some (append (interpolate (w.machine .path)) d.text))).run w := by
    rw [addToMachinePath, EStateM.run_bind, run_getEnvironmentVariable hwin]
    simp only [EStateM.run_bind, run_notLike_around d.plain]
    by_cases h : Contains rt.casing (interpolate (w.machine .path)) d.text
    · have h' : rt.casing.key d.text <:+: rt.casing.key (interpolate (w.machine .path)) := h
      simp [h, h']
    · have h' : ¬ rt.casing.key d.text <:+: rt.casing.key (interpolate (w.machine .path)) := h
      simp [h, h']
  rw [EStateM.run_bind, hpath, environmentWrites]
  by_cases h : Contains rt.casing (interpolate (w.machine .path)) d.text
  · simp [h]
  · simp only [h, if_false, List.singleton_append, writeAll_cons, EStateM.run_bind]

section Family

variable {label : String} {testInstalled : Script Ω Bool} {installSilently : Script Ω PUnit}
  {d : Directory} {toolVariables : List (MachineVar × Option Text)} {createCleanup : Script Ω PUnit}

private theorem appendingInstallation_eq :
    appendingInstallation rt out label testInstalled installSilently d.text toolVariables
        createCleanup =
      testInstalled >>= fun found =>
        if found then writeHost (label ++ " is already installed")
        else installSilently >>= fun _ =>
          (addToMachinePath rt out d.text >>= fun _ =>
            writeAll (setEnvironmentVariable rt out) toolVariables) >>= fun _ =>
          writeHost (label ++ " installation completed successfully") >>= fun _ =>
          createCleanup := by
  simp [appendingInstallation]

private theorem writeAll_processPath (ws : List (MachineVar × Option Text)) :
    Preserves World.processPath (writeAll (setEnvironmentVariable rt out) ws) :=
  Preserves.forM fun w _ => setEnvironmentVariable_processPath w.1 w.2

/-- A body that returned either found the tool and changed nothing, or did all
of the run's writes. -/
theorem appendingInstallation_ok (hwin : rt.platform = .windows)
    (htest : Preserves World.session testInstalled)
    (hinstall : Preserves World.session installSilently)
    (hcleanup : Preserves World.session createCleanup) {w w' : World Ω}
    (hrun : (appendingInstallation rt out label testInstalled installSilently d.text
      toolVariables createCleanup).run w = .ok ⟨⟩ w') :
    ∃ found mid, testInstalled.run w = .ok found mid ∧
      w'.session = if found then w.session
        else ⟨replay stored (environmentWrites rt.casing d.text toolVariables w.machine) w.machine,
          w.processPath⟩ := by
  rw [appendingInstallation_eq] at hrun
  obtain ⟨found, mid, hfound, hrest⟩ := bind_ok hrun
  refine ⟨found, mid, hfound, ?_⟩
  have hmid : mid.session = w.session := htest.of_ok hfound
  cases found with
  | true => exact ((writeHost_session _).of_ok hrest).trans hmid
  | false =>
      obtain ⟨_, installed, hinstalled, hrest⟩ := bind_ok hrest
      obtain ⟨_, edited, hedit, hrest⟩ := bind_ok hrest
      obtain ⟨_, said, hsaid, hrest⟩ := bind_ok hrest
      have hbefore : installed.session = w.session := (hinstall.of_ok hinstalled).trans hmid
      have hafter : w'.session = edited.session :=
        (hcleanup.of_ok hrest).trans ((writeHost_session _).of_ok hsaid)
      have hmachine : installed.machine = w.machine := congrArg Session.machine hbefore
      have hpath : installed.processPath = w.processPath := congrArg Session.processPath hbefore
      rw [addToMachinePath_writes hwin] at hedit
      have heditMachine := writeAll_ok (setEnvironmentVariable_writes hwin) hedit
      have heditPath := (writeAll_processPath _).of_ok hedit
      rw [hmachine] at heditMachine
      rw [hpath] at heditPath
      rw [hafter, World.session, heditMachine, heditPath]
      simp

/-- A body that raised has done an initial part of its writes, and none at all
unless the tool was missing and its installation went through. -/
theorem appendingInstallation_error (hwin : rt.platform = .windows)
    (htest : Preserves World.session testInstalled)
    (hinstall : Preserves World.session installSilently)
    (hcleanup : Preserves World.session createCleanup) {w w' : World Ω} {e : Failure}
    (hrun : (appendingInstallation rt out label testInstalled installSilently d.text
      toolVariables createCleanup).run w = .error e w') :
    (w'.session = w.session) ∨
    ((∃ mid, (testInstalled >>= fun _ => installSilently).run w = .ok ⟨⟩ mid) ∧
      w'.processPath = w.processPath ∧
      ∃ done, done <+: environmentWrites rt.casing d.text toolVariables w.machine ∧
        w'.machine = replay stored done w.machine) := by
  rw [appendingInstallation_eq] at hrun
  rcases bind_error hrun with hraise | ⟨found, mid, hfound, hrest⟩
  · exact Or.inl (htest.of_error hraise)
  have hmid : mid.session = w.session := htest.of_ok hfound
  cases found with
  | true => exact Or.inl (((writeHost_session _).of_error hrest).trans hmid)
  | false =>
      rcases bind_error hrest with hraise | ⟨_, installed, hinstalled, hrest⟩
      · exact Or.inl ((hinstall.of_error hraise).trans hmid)
      right
      have hbefore : installed.session = w.session := (hinstall.of_ok hinstalled).trans hmid
      have hmachine : installed.machine = w.machine := congrArg Session.machine hbefore
      have hpath : installed.processPath = w.processPath := congrArg Session.processPath hbefore
      refine ⟨⟨installed, ?_⟩, ?_⟩
      · rw [EStateM.run_bind, hfound]
        exact hinstalled
      rcases bind_error hrest with hraise | ⟨_, edited, hedit, hrest⟩
      · -- a write raised
        rw [addToMachinePath_writes hwin, hmachine] at hraise
        obtain ⟨done, hprefix, _, hdone⟩ :=
          writeAll_error (setEnvironmentVariable_writes hwin) hraise
        refine ⟨((writeAll_processPath _).of_error hraise).trans hpath, done, hprefix, ?_⟩
        rw [hdone, hmachine]
      · -- all writes are done, and the cleanup script could not be created
        rw [addToMachinePath_writes hwin, hmachine] at hedit
        have hafter : w'.session = edited.session := by
          rcases bind_error hrest with hraise | ⟨_, said, hsaid, hrest⟩
          · exact (writeHost_session _).of_error hraise
          · exact (hcleanup.of_error hrest).trans ((writeHost_session _).of_ok hsaid)
        have hdone := writeAll_ok (setEnvironmentVariable_writes hwin) hedit
        refine ⟨?_, _, List.prefix_rfl, ?_⟩
        · have hlast : w'.processPath = edited.processPath := congrArg Session.processPath hafter
          rw [hlast, (writeAll_processPath _).of_ok hedit, hpath]
        · have hlast : w'.machine = edited.machine := congrArg Session.machine hafter
          rw [hlast, hdone, hmachine]

end Family

end IdxWorkspace.Setup
