import IdxWorkspace.Setup.Guard

/-!
What a failed install leaves behind. No script takes a write back, so the
question is which writes can come before a failure. The appending scripts write
nothing until the installation is verified, and then one variable after the
other; the overwriting scripts write `PATH` in the middle of their
installation, and no other variable before everything else is done.
-/

namespace IdxWorkspace.Setup

open PowerShell Library.Effect Library.Journal

variable {Ω : Type} {rt : Runtime} {out : Outside Ω} {version : String}

/-- From `w` the script gets to its environment writes: the prerequisite check,
the check for the tool, the install function and its verification all return. -/
def InstallVerified (rt : Runtime) (out : Outside Ω) (version : String) (t : AppendingTool)
    (w : World Ω) : Prop :=
  ∃ mid, (t.prerequisites out >>= fun _ => t.testInstalled rt out version >>= fun _ =>
    t.installSilently rt out version).run w = .ok ⟨⟩ mid

/-- From `w` the script gets its write of the machine `PATH` done. -/
def PathReplaced (rt : Runtime) (out : Outside Ω) (version : String) (t : OverwritingTool)
    (w : World Ω) : Prop :=
  ∃ mid, (t.testInstalled rt out >>= fun _ => t.staged rt out version >>= fun _ =>
    overwriteMachinePath rt out t.directory.text).run w = .ok ⟨⟩ mid

/-- What of the machine environment survives a failed install. -/
def KeptOnFailure (rt : Runtime) (out : Outside Ω) (version : String) (w w' : World Ω) :
    Tool → Prop
  | .appending t =>
      (¬ InstallVerified rt out version t w → w'.machine = w.machine) ∧
      ∃ done, done <+: environmentWrites rt.casing t.directory.text (t.toolVariables rt version)
          w.machine ∧
        w'.machine = replay stored done w.machine
  | .overwriting t =>
      (¬ PathReplaced rt out version t w → w'.machine = w.machine) ∧
      ∀ v, v ≠ .path → w'.machine v = w.machine v

theorem AppendingTool.keptOnFailure (hwin : rt.platform = .windows) (t : AppendingTool)
    {w w' : World Ω} (hrun : (t.setup rt out version).run w = .ok .one w') :
    KeptOnFailure rt out version w w' (.appending t) := by
  rw [t.setup_eq hwin] at hrun
  obtain ⟨e, failed, hbody, hsession, _⟩ := exitOnFailure_one hrun
  have hmachine : w'.machine = failed.machine := congrArg Session.machine hsession
  rw [KeptOnFailure, hmachine]
  have hnothing (hsame : failed.machine = w.machine) :
      (¬ InstallVerified rt out version t w → failed.machine = w.machine) ∧
      ∃ done, done <+: environmentWrites rt.casing t.directory.text (t.toolVariables rt version)
          w.machine ∧
        failed.machine = replay stored done w.machine :=
    ⟨fun _ => hsame, [], List.nil_prefix, hsame⟩
  rcases bind_error hbody with hraise | ⟨_, ready, hready, hrest⟩
  · exact hnothing (congrArg Session.machine (t.prerequisites_session.of_error hraise))
  have hbefore : ready.machine = w.machine :=
    congrArg Session.machine (t.prerequisites_session.of_ok hready)
  rcases appendingInstallation_error hwin t.testInstalled_session t.installSilently_session
    t.createCleanup_session hrest with hsame | ⟨⟨mid, hinstalled⟩, _, done, hprefix, hdone⟩
  · exact hnothing ((congrArg Session.machine hsame).trans hbefore)
  · rw [hbefore] at hprefix hdone
    constructor
    · intro hnot
      apply absurd _ hnot
      refine ⟨mid, ?_⟩
      rw [EStateM.run_bind, hready]
      exact hinstalled
    · exact ⟨done, hprefix, hdone⟩

/-- The session after a failed run of an overwriting script, as its write of the machine
`PATH` was done or not. -/
theorem OverwritingTool.failure_session (hwin : rt.platform = .windows) (t : OverwritingTool)
    {w w' : World Ω} (hrun : (t.setup rt out version).run w = .ok .one w') :
    (¬ PathReplaced rt out version t w ∧ w'.machine = w.machine) ∨
      (PathReplaced rt out version t w ∧ w'.session =
        ⟨Function.update w.machine .path (stored (some (append t.directory.text w.processPath))),
          append t.directory.text w.processPath⟩) := by
  rw [t.setup_eq hwin] at hrun
  obtain ⟨e, failed, hbody, hsession, _⟩ := exitOnFailure_one hrun
  rcases overwritingInstallation_error hwin t.testInstalled_session t.staged_session
    (t.settled_settles hwin) hbody with ⟨hsame, hnot⟩ | ⟨hreplaced, hwritten⟩
  · left
    refine ⟨?_, (congrArg Session.machine hsession).trans hsame⟩
    rintro ⟨mid, hmid⟩
    exact hnot mid hmid
  · exact Or.inr ⟨hreplaced, hsession.trans hwritten⟩

theorem OverwritingTool.keptOnFailure (hwin : rt.platform = .windows) (t : OverwritingTool)
    {w w' : World Ω} (hrun : (t.setup rt out version).run w = .ok .one w') :
    KeptOnFailure rt out version w w' (.overwriting t) := by
  rcases t.failure_session hwin hrun with ⟨_, hsame⟩ | ⟨hreplaced, hsession⟩
  · exact ⟨fun _ => hsame, fun v _ => congrFun hsame v⟩
  · have hwritten : w'.machine = Function.update w.machine .path _ :=
      congrArg Session.machine hsession
    refine ⟨fun hnot => absurd hreplaced hnot, fun v hv => ?_⟩
    rw [hwritten, Function.update_of_ne hv]

/-- Whatever the outside does, a script ends with an exit code. -/
theorem setup_ends (t : Tool) (w : World Ω) :
    ∃ code w', (t.setup rt out version).run w = .ok code w' := by
  rcases t with t | t <;> cases t <;> exact exitOnFailure_ends _ _ w

/-- A failed install leaves the machine environment as it was up to the writes
that were made before the failure: no script takes back what it has written when a
later step raises. This holds for each of the five scripts on Windows, whichever
command, cmdlet or write of the outside raises. -/
theorem failed_setup_keeps (hwin : rt.platform = .windows) (t : Tool) {w w' : World Ω}
    (hrun : (t.setup rt out version).run w = .ok .one w') :
    KeptOnFailure rt out version w w' t := by
  cases t with
  | appending t => exact t.keptOnFailure hwin hrun
  | overwriting t => exact t.keptOnFailure hwin hrun

/-- A failed run of an appending script takes no entry off the machine `PATH`:
its only write of `PATH` is the guarded append. The run may fail at any of its steps,
before that write, in it or after it. -/
theorem failed_append_keeps_entries (hwin : rt.platform = .windows) (t : AppendingTool)
    {w w' : World Ω} (hrun : (t.setup rt out version).run w = .ok .one w') {e : Text}
    (he : Has rt.casing (machinePath w.session) e) :
    Has rt.casing (machinePath w'.session) e := by
  obtain ⟨_, done, hfirst, hdone⟩ := t.keptOnFailure hwin hrun
  have hpath : w'.machine .path = w.machine .path ∨
      w'.machine .path = stored (some (append (machinePath w.session) t.directory.text)) := by
    have hvariables : .path ∉ (t.toolVariables rt version).map Prod.fst :=
      t.path_not_mem_toolVariables
    rw [hdone]
    unfold environmentWrites at hfirst
    split at hfirst
    · have hnone : .path ∉ done.map Prod.fst := fun hk =>
        hvariables ((hfirst.map Prod.fst).subset hk)
      exact Or.inl (replay_of_not_mem hnone _)
    · exact replay_prefix hfirst hvariables _
  rcases hpath with hsame | hnew
  · have hkeep : machinePath w'.session = machinePath w.session := congrArg interpolate hsame
    rw [hkeep]
    exact he
  · have hgrow : machinePath w'.session = append (machinePath w.session) t.directory.text :=
      (congrArg interpolate hnew).trans (interpolate_stored _)
    rw [hgrow, has_append]
    exact Or.inl he

/-- An outside where everything works but writing the cleanup script. -/
def readOnlyFolder : Outside Bool where
  react call _ := match call with
    | .setContent _ _ => (some "Access to the path is denied.", true)
    | _ => (none, true)
  testPath _ called := called
  getCommand _ _ := true
  invokeExpression _ _ := .ok true
  getChildItem _ _ _ := .ok []

/-- What a failed run of an overwriting script leaves, exactly. If its write of the
machine `PATH` was done, the machine and the session both have the directory followed by
the session's former `PATH`, so that what only the machine's had is gone although the
install failed, and no other variable has changed; if it was not done, the machine
environment is as it was before the run. The outside is arbitrary. -/
theorem failed_overwrite_leaves (hwin : rt.platform = .windows) (t : OverwritingTool)
    {w w' : World Ω} (hrun : (t.setup rt out version).run w = .ok .one w') :
    (PathReplaced rt out version t w →
      machinePath w'.session = append t.directory.text w.processPath ∧
        w'.processPath = append t.directory.text w.processPath ∧
        ∀ v, v ≠ .path → w'.machine v = w.machine v) ∧
      (¬ PathReplaced rt out version t w → w'.machine = w.machine) := by
  rcases t.failure_session hwin hrun with ⟨hnot, hsame⟩ | ⟨hreplaced, hsession⟩
  · exact ⟨fun hreplaced => absurd hreplaced hnot, fun _ => hsame⟩
  · have hmachine : w'.machine = Function.update w.machine .path _ :=
      congrArg Session.machine hsession
    refine ⟨fun _ => ⟨?_, congrArg Session.processPath hsession, fun v hv => ?_⟩,
      fun hnot => absurd hreplaced hnot⟩
    · simp only [machinePath, hsession, Function.update_self, interpolate_stored]
      rfl
    · rw [hmachine, Function.update_of_ne hv]

-- LibTorch, where what only the machine's `PATH` had is lost
example :
    let machine : MachineEnv := (sessionWithPath "C:\\LLVM;C:\\Windows".toList).machine
    let w : World Bool := ⟨machine, "C:\\Windows".toList, [], false⟩
    ∃ w', (Tool.setup windows readOnlyFolder "2.2.1" (.overwriting .pytorch)).run w =
        .ok .one w' ∧
      machinePath w'.session = "C:\\Program Files\\libtorch\\lib;C:\\Windows".toList :=
  ⟨_, rfl, rfl⟩

theorem failed_setup_keeps_read_only :
    let w : World Bool := ⟨(sessionWithPath "C:\\Windows".toList).machine, [], [], false⟩
    ∃ w', (Tool.setup windows readOnlyFolder "17.0.6" (.appending .llvm)).run w = .ok .one w' ∧
      KeptOnFailure windows readOnlyFolder "17.0.6" w w' (.appending .llvm) := by
  intro w
  refine ⟨_, rfl, ?_⟩
  exact failed_setup_keeps rfl _ rfl

theorem failed_append_keeps_read_only :
    let w : World Bool := ⟨(sessionWithPath "C:\\Windows".toList).machine, [], [], false⟩
    ∃ w', (Tool.setup windows readOnlyFolder "17.0.6" (.appending .llvm)).run w = .ok .one w' ∧
      Has windows.casing (machinePath w'.session) "C:\\Windows".toList := by
  intro w
  obtain ⟨w', hrun⟩ : ∃ w', (Tool.setup windows readOnlyFolder "17.0.6" (.appending .llvm)).run w =
      .ok .one w' := ⟨_, rfl⟩
  have hthere : Has windows.casing (machinePath w.session) "C:\\Windows".toList := by decide
  exact ⟨w', hrun, failed_append_keeps_entries rfl .llvm hrun hthere⟩

/-- The `PATH` and `LIBCLANG_PATH` of an LLVM install whose cleanup script cannot be
written stay. -/
theorem llvm_failure_leaves_path :
    let w : World Bool := ⟨(sessionWithPath "C:\\Windows".toList).machine, [], [], false⟩
    ∃ w', (Tool.setup windows readOnlyFolder "17.0.6" (.appending .llvm)).run w = .ok .one w' ∧
      w'.machine .path ≠ w.machine .path ∧ w'.machine .libclangPath ≠ w.machine .libclangPath := by
  intro w
  refine ⟨_, rfl, ?_, ?_⟩
  · decide
  · decide

end IdxWorkspace.Setup
