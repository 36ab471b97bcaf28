import IdxWorkspace.PowerShell.Text
import IdxWorkspace.Library.Effect
import IdxWorkspace.Library.Journal

/-!
The session a script runs in: the machine environment, the session's own
`PATH`, the lines it printed, and everything outside. Nothing is assumed about
the outside: a cmdlet, a .NET call or a native command hands over to an
arbitrary total function, which says whether the call raises and what the
outside is afterwards. A native command raises only when it cannot be started;
its exit code is not looked at.
-/

namespace IdxWorkspace.PowerShell

open Library Library.Effect

/-- What `$IsWindows` and `$IsMacOS` say. -/
inductive Platform where
  | windows
  | macOS
  | linux
  deriving DecidableEq

/-- What stays fixed while a session lasts. `temp` is `$env:TEMP`. -/
structure Runtime where
  platform : Platform
  casing : Casing
  temp : String
  is64Bit : Bool

def joinPath (rt : Runtime) (parent child : String) : String :=
  match rt.platform with
  | .windows => parent ++ "\\" ++ child
  | _ => parent ++ "/" ++ child

/-- The machine variables the scripts name, and all others. -/
inductive MachineVar where
  | path
  | libclangPath
  | wasmedgeLibDir
  | wasmedgeIncludeDir
  | ggmlDir
  | torchRoot
  | other (name : String)
  deriving DecidableEq

abbrev MachineEnv := MachineVar → Option Text

/-- Writing null or the empty string deletes a variable. -/
def stored : Option Text → Option Text
  | some (c :: t) => some (c :: t)
  | _ => none

/-- The scripts a `Set-Content` writes. -/
inductive CleanupScript where
  | llvm
  | wasmedge
  | ggml
  | pytorch
  | tensorflow
  deriving DecidableEq

inductive Call where
  | invokeWebRequest (uri outFile : String)
  | startProcess (filePath : String) (arguments : List String)
  | newItem (path : String)
  | removeItem (path : String)
  | copyItem (path destination : String)
  | moveItem (path destination : String)
  | expandArchive (path destination : String)
  | setLocation (path : String)
  | pushLocation (path : String)
  | popLocation
  | setContent (path : String) (value : CleanupScript)
  | setEnvironmentVariable (name : MachineVar) (value : Option Text)
  | native (command : String)
  | startSleep (seconds : Nat)
  deriving DecidableEq

/-- What `Get-ChildItem` tells of a file; the time is in ticks. -/
structure FileInfo where
  fullName : Text
  lastWriteTime : Nat
  deriving DecidableEq

/-- The outside, as far as a script can tell. -/
structure Outside (Ω : Type) where
  /-- The text of the error, if the call raises one, and the outside after it. -/
  react : Call → Ω → Option String × Ω
  testPath : String → Ω → Bool
  getCommand : String → Ω → Bool
  /-- The truth value of what an evaluated command line gave, or the text of its error. -/
  invokeExpression : String → Ω → Except String Bool
  /-- The files below a folder that pass a filter, or the text of the error. -/
  getChildItem : String → String → Ω → Except String (List FileInfo)

inductive Failure where
  | raised (message : String)
  | thrown (message : String)
  | invalidPattern
  | nullMethodCall

/-- The text of `$_` in a catch block. -/
def Failure.message : Failure → String
  | .raised message => message
  | .thrown message => message
  | .invalidPattern => "The specified wildcard character pattern is not valid."
  | .nullMethodCall => "You cannot call a method on a null-valued expression."

structure World (Ω : Type) where
  machine : MachineEnv
  processPath : Text
  console : List String
  outside : Ω

/-- The part of a session that outlives a script's run. -/
structure Session where
  machine : MachineEnv
  processPath : Text

def World.session {Ω : Type} (w : World Ω) : Session := ⟨w.machine, w.processPath⟩

inductive ExitCode where
  | zero
  | one
  deriving DecidableEq

abbrev Script (Ω : Type) := EStateM Failure (World Ω)

variable {Ω : Type} (rt : Runtime) (out : Outside Ω)

def invoke (call : Call) : Script Ω PUnit := fun w =>
  match out.react call w.outside with
  | (none, after) => .ok ⟨⟩ { w with outside := after }
  | (some message, after) => .error (.raised message) { w with outside := after }

def testPath (path : String) : Script Ω Bool := do
  return out.testPath path (← get).outside

def getCommand (name : String) : Script Ω Bool := do
  return out.getCommand name (← get).outside

def invokeExpression (command : String) : Script Ω Bool := do
  match out.invokeExpression command (← get).outside with
  | .ok result => pure result
  | .error message => throw (.raised message)

def getChildItem (path filter : String) : Script Ω (List FileInfo) := do
  match out.getChildItem path filter (← get).outside with
  | .ok files => pure files
  | .error message => throw (.raised message)

def writeHost (line : String) : Script Ω PUnit :=
  modify fun w => { w with console := w.console ++ [line] }

def writeError (line : String) : Script Ω PUnit :=
  modify fun w => { w with console := w.console ++ [line] }

/-- `try { body } catch { Write-Error "context$_"; exit 1 }`. Under the scripts'
error preference `Write-Error` itself ends the script; the exit code is 1 either way. -/
def exitOnFailure (context : String) (body : Script Ω PUnit) : Script Ω ExitCode :=
  tryCatch (do body; return .zero)
    fun e => do
      writeError (context ++ e.message)
      return .one

/-- `New-CleanupScript`, which only differs in the file it writes. -/
def newCleanupScript (cleanupPath : String) (cleanupScript : CleanupScript) : Script Ω PUnit := do
  invoke out (.setContent cleanupPath cleanupScript)
  writeHost ("Created cleanup script at " ++ cleanupPath)

/-- `$env:PATH = value` -/
def setProcessPath (value : Text) : Script Ω PUnit :=
  modify fun w => { w with processPath := value }

/-- `[Environment]::GetEnvironmentVariable(name, "Machine")`. There is no machine
environment off Windows, and reading it gives null. -/
def getEnvironmentVariable (name : MachineVar) : Script Ω (Option Text) := do
  let w ← get
  match rt.platform with
  | .windows => pure (w.machine name)
  | _ => pure none

/-- `[Environment]::SetEnvironmentVariable(name, value, "Machine")`, which off
Windows does nothing. -/
def setEnvironmentVariable (name : MachineVar) (value : Option Text) : Script Ω PUnit :=
  match rt.platform with
  | .windows => do
      invoke out (.setEnvironmentVariable name value)
      modify fun w => { w with machine := Function.update w.machine name (stored value) }
  | _ => pure ⟨⟩

/-- `value -notlike pattern` -/
def notLike (value : Option Text) (pattern : Text) : Script Ω Bool :=
  match like rt.casing (interpolate value) pattern with
  | some found => pure (!found)
  | none => throw .invalidPattern

variable {rt} {out}

@[simp]
theorem interpolate_stored (v : Option Text) : interpolate (stored v) = interpolate v := by
  cases v with
  | none => rfl
  | some t => cases t <;> rfl

theorem invoke_session (call : Call) : Preserves World.session (invoke out call) := by
  intro w
  change World.session (after (invoke out call w)) = _
  unfold invoke
  split <;> rfl

theorem testPath_session (path : String) : Preserves World.session (testPath out path) :=
  fun _ => rfl

theorem getCommand_session (name : String) : Preserves World.session (getCommand out name) :=
  fun _ => rfl

theorem invokeExpression_session (command : String) :
    Preserves World.session (invokeExpression out command) := by
  refine Preserves.bind (Preserves.get _) fun w => ?_
  cases out.invokeExpression command w.outside with
  | ok result => exact Preserves.pure _ result
  | error message => exact Preserves.throw _ _

theorem writeHost_session (line : String) :
    Preserves World.session (writeHost line : Script Ω PUnit) :=
  fun _ => rfl

theorem writeError_session (line : String) :
    Preserves World.session (writeError line : Script Ω PUnit) :=
  fun _ => rfl

theorem newCleanupScript_session (cleanupPath : String) (cleanupScript : CleanupScript) :
    Preserves World.session (newCleanupScript out cleanupPath cleanupScript) :=
  Preserves.bind (invoke_session _) fun _ => writeHost_session _

theorem getEnvironmentVariable_session (name : MachineVar) :
    Preserves World.session (getEnvironmentVariable rt name : Script Ω (Option Text)) := by
  refine Preserves.bind (Preserves.get _) fun w => ?_
  cases rt.platform <;> exact Preserves.pure _ _

theorem setEnvironmentVariable_processPath (name : MachineVar) (value : Option Text) :
    Preserves World.processPath (setEnvironmentVariable rt out name value) := by
  unfold setEnvironmentVariable
  cases rt.platform with
  | windows =>
      refine Preserves.bind (fun w => ?_) fun _ => Preserves.modify fun _ => rfl
      exact congrArg Session.processPath (invoke_session _ w)
  | macOS => exact Preserves.pure _ _
  | linux => exact Preserves.pure _ _

/-- On Windows a machine write is a write of the journal: the value is in place,
or the call raised and nothing changed. -/
theorem setEnvironmentVariable_writes (hwin : rt.platform = .windows) :
    Journal.Writes World.machine stored
      (setEnvironmentVariable rt out : MachineVar → Option Text → Script Ω PUnit) := by
  intro name value w
  have hframe : Preserves World.session (invoke out (.setEnvironmentVariable name value)) :=
    invoke_session _
  replace hframe := hframe w
  simp only [setEnvironmentVariable, hwin, EStateM.run_bind]
  cases hrun : (invoke out (.setEnvironmentVariable name value)).run w with
  | ok _ w' =>
      rw [hrun] at hframe
      have hmachine : w'.machine = w.machine := congrArg Session.machine hframe
      simp [hmachine]
  | error e w' =>
      rw [hrun] at hframe
      exact congrArg Session.machine hframe

theorem run_getEnvironmentVariable (hwin : rt.platform = .windows) (name : MachineVar)
    (w : World Ω) : (getEnvironmentVariable rt name).run w = .ok (w.machine name) w := by
  simp only [getEnvironmentVariable, hwin]
  rfl

/-- The guard of the scripts, for a word without wildcard letters. -/
theorem run_notLike_around {d : Text} (hplain : Plain d) (value : Option Text) (w : World Ω) :
    (notLike rt value ('*' :: d ++ ['*'])).run w =
      .ok (!decide (rt.casing.key d <:+: rt.casing.key (interpolate value))) w := by
  rw [notLike, like_around hplain]
  rfl

theorem exitOnFailure_frame {τ : Type} {view : World Ω → τ} {context : String}
    {body : Script Ω PUnit} (hbody : Preserves view body)
    (herror : ∀ line, Preserves view (writeError line : Script Ω PUnit)) :
    Preserves view (exitOnFailure context body) := by
  apply Preserves.tryCatch
  · exact Preserves.bind hbody fun _ => Preserves.pure _ _
  · intro e
    exact Preserves.bind (herror _) fun _ => Preserves.pure _ _

/-- A script with a catch block always ends with an exit code. -/
theorem exitOnFailure_ends (context : String) (body : Script Ω PUnit) (w : World Ω) :
    ∃ code w', (exitOnFailure context body).run w = .ok code w' := by
  rw [exitOnFailure, run_tryCatch, EStateM.run_bind]
  cases hbody : body.run w with
  | ok _ mid => exact ⟨.zero, mid, rfl⟩
  | error e mid => exact ⟨.one, _, rfl⟩

/-- Exit code 0 means that the body returned. -/
theorem exitOnFailure_zero {context : String} {body : Script Ω PUnit} {w w' : World Ω}
    (hrun : (exitOnFailure context body).run w = .ok .zero w') :
    body.run w = .ok ⟨⟩ w' := by
  rw [exitOnFailure, run_tryCatch, EStateM.run_bind] at hrun
  cases hbody : body.run w with
  | ok _ mid =>
      rw [hbody] at hrun
      cases hrun
      rfl
  | error e mid =>
      rw [hbody] at hrun
      cases hrun

/-- Exit code 1 means that the body raised, and the handler left the session as
the body did. -/
theorem exitOnFailure_one {context : String} {body : Script Ω PUnit} {w w' : World Ω}
    (hrun : (exitOnFailure context body).run w = .ok .one w') :
    ∃ e mid, body.run w = .error e mid ∧ w'.session = mid.session ∧
      w'.console = mid.console ++ [context ++ e.message] := by
  rw [exitOnFailure, run_tryCatch, EStateM.run_bind] at hrun
  cases hbody : body.run w with
  | ok _ mid =>
      rw [hbody] at hrun
      cases hrun
  | error e mid =>
      rw [hbody] at hrun
      cases hrun
      exact ⟨e, mid, rfl, rfl, rfl⟩

end IdxWorkspace.PowerShell
