import IdxWorkspace.BuildSsr.Watch
import IdxWorkspace.PowerShell.Calls

/-!
`build-ssr.ps1` as it runs: the tools it installs, one build, and the watch
loop, cut off after any number of rounds. Seen through the calls to the outside
the loop refines the pure polls: a poll that rebuilds makes the calls of one
build, and any other poll makes none. No part of the script touches the machine
environment.
-/

namespace IdxWorkspace.BuildSsr

open PowerShell Library Library.Effect Library.Emission

variable {Ω : Type} (rt : Runtime) (out : Outside Ω)

/-- The two values of `-BuildType`. -/
inductive BuildType where
  | debug
  | release
  deriving DecidableEq

def BuildType.text : BuildType → String
  | .debug => "debug"
  | .release => "release"

/-- The platform branches for wasm-opt. On Windows the unpacked binaries go in
front of the session's own `PATH`. -/
def installBinaryen : Script Ω PUnit :=
  match rt.platform with
  | .windows => do
      let binaryenVersion := "version_111"
      let url := s!"https://github.com/WebAssembly/binaryen/releases/download/{binaryenVersion}/binaryen-{binaryenVersion}-x86_64-windows.tar.gz"
      let tempFile := joinPath rt rt.temp "binaryen.tar.gz"
      invoke out (.invokeWebRequest url tempFile)
      invoke out (.native s!"tar -xzf {tempFile} -C {rt.temp}")
      let binPath := joinPath rt rt.temp s!"binaryen-{binaryenVersion}"
      setProcessPath (binPath.toList ++ ';' :: (← get).processPath)
  | .macOS => invoke out (.native "brew install binaryen")
  | .linux => do
      invoke out (.native "sudo apt-get update")
      invoke out (.native "sudo apt-get install -y binaryen")

def installRequirements : Script Ω PUnit := do
  writeHost "Checking and installing required tools..."
  unless ← getCommand out "wasm-pack" do
    writeHost "Installing wasm-pack..."
    invoke out (.native "cargo install wasm-pack")
  unless ← getCommand out "wasm-bindgen" do
    writeHost "Installing wasm-bindgen-cli..."
    invoke out (.native "cargo install wasm-bindgen-cli")
  unless ← getCommand out "wasm-opt" do
    writeHost "Installing binaryen (for wasm-opt)..."
    installBinaryen rt out

/-- `wasm-pack`, and `wasm-opt` in release mode. -/
def compile : BuildType → Script Ω PUnit
  | .debug => invoke out (.native "wasm-pack build --target web --dev")
  | .release => do
      invoke out (.native "wasm-pack build --target web --release")
      writeHost "Optimizing WASM binary..."
      let wasmFile := "pkg/spine_ssr_bg.wasm"
      invoke out (.native s!"wasm-opt -O3 -o \"{wasmFile}.opt\" {wasmFile}")
      invoke out (.moveItem s!"{wasmFile}.opt" wasmFile)

def buildSSRModule (buildType : BuildType) : Script Ω PUnit := do
  writeHost s!"Building SSR WASM module ({buildType.text})..."
  invoke out (.setLocation "crates/spine-ssr")
  compile out buildType
  writeHost "Copying WASM module to interface..."
  let targetDir := "../../interface/static/wasm"
  unless ← testPath out targetDir do
    invoke out (.newItem targetDir)
  invoke out (.copyItem "pkg/*" targetDir)
  invoke out (.setLocation "../..")

/-- What a round does after its poll. -/
def answerPoll (buildType : BuildType) (changes : Bool) : Script Ω PUnit := do
  if changes then
    writeHost "\nChanges detected, rebuilding..."
    buildSSRModule out buildType
  invoke out (.startSleep 2)

/-- The body of the `while`. -/
def watchRound (buildType : BuildType) (lastWrites : LastWrites) : Script Ω LastWrites := do
  let files ← getChildItem out "crates/spine-ssr/src" "*.rs"
  let (lastWrites', changes) := poll rt.casing lastWrites files
  answerPoll out buildType changes
  return lastWrites'

/-- The first rounds of the loop, which only a raise can end. -/
def watchRounds (buildType : BuildType) : Nat → LastWrites → Script Ω LastWrites
  | 0, lastWrites => pure lastWrites
  | rounds + 1, lastWrites => do
      watchRounds buildType rounds (← watchRound rt out buildType lastWrites)

def watchAndBuild (buildType : BuildType) (rounds : Nat) (lastWrites : LastWrites) :
    Script Ω LastWrites := do
  writeHost "Watching for changes..."
  watchRounds rt out buildType rounds lastWrites

/-- The script without `-Watch`. -/
def buildSsr (buildType : BuildType) : Script Ω ExitCode :=
  exitOnFailure "Build failed: " (do
    installRequirements rt out
    buildSSRModule out buildType
    writeHost "Build completed successfully!")

/-- What the polls of the first rounds list, up to the round that raises. A
listing that raises finds nothing. -/
def found (buildType : BuildType) : Nat → LastWrites → World Ω → List (List FileInfo)
  | 0, _, _ => []
  | rounds + 1, lastWrites, w =>
      match out.getChildItem "crates/spine-ssr/src" "*.rs" w.outside with
      | .error _ => []
      | .ok files =>
          files :: match (watchRound rt out buildType lastWrites).run w with
            | .ok lastWrites' w' => found buildType rounds lastWrites' w'
            | .error _ _ => []

/-- The calls of the compiler step. -/
def compileCalls : BuildType → List Call
  | .debug => [.native "wasm-pack build --target web --dev"]
  | .release =>
      [.native "wasm-pack build --target web --release",
        .native "wasm-opt -O3 -o \"pkg/spine_ssr_bg.wasm.opt\" pkg/spine_ssr_bg.wasm",
        .moveItem "pkg/spine_ssr_bg.wasm.opt" "pkg/spine_ssr_bg.wasm"]

/-- The calls of one build. The target folder is only made where it is missing. -/
def buildCalls (buildType : BuildType) : Language Call :=
  {.setLocation "crates/spine-ssr" :: compileCalls buildType} *
    (1 + {[.newItem "../../interface/static/wasm"]}) *
    {[.copyItem "pkg/*" "../../interface/static/wasm", .setLocation "../.."]}

/-- The calls of one round, by the answer of its poll. -/
def roundCalls (buildType : BuildType) : Bool → Language Call
  | true => buildCalls buildType * {[.startSleep 2]}
  | false => {[.startSleep 2]}

/-- The calls of complete rounds, one round for each answer. -/
def roundsCalls (buildType : BuildType) (answers : List Bool) : Language Call :=
  (answers.map (roundCalls buildType)).prod

/-- How a loop of at most `rounds` rounds breaks off after the answers of its
polls: the next listing raised, and all rounds so far are complete, or the round
of the last answer raised after it had begun. -/
inductive BrokenOff (buildType : BuildType) (rounds : Nat) :
    List Bool → List Call → Prop where
  | listing {answers : List Bool} {calls : List Call} :
      answers.length < rounds → calls ∈ roundsCalls buildType answers →
      BrokenOff buildType rounds answers calls
  | round {earlier : List Bool} {answer : Bool} {calls : List Call} :
      earlier.length < rounds →
      calls ∈ roundsCalls buildType earlier * begun (roundCalls buildType answer) →
      BrokenOff buildType rounds (earlier ++ [answer]) calls

variable {rt} {out} {buildType : BuildType} {log : Ω → List Call}

theorem compile_calls (hlog : Logs out log) :
    Emits (World.calls log) (compile out buildType) {compileCalls buildType} := by
  cases buildType with
  | debug => exact invoke_calls hlog _
  | release =>
      have hoptimize : Emits (World.calls log) (compile out .release) _ :=
        (invoke_calls hlog _).bind fun _ =>
          Emits.quiet_bind (writeHost_calls _) fun _ =>
            (invoke_calls hlog _).bind fun _ => invoke_calls hlog _
      rwa [singleton_mul_singleton, singleton_mul_singleton] at hoptimize

/-- One build makes the calls of a build, or raises in the middle of them. -/
theorem buildSSRModule_calls (hlog : Logs out log) :
    Emits (World.calls log) (buildSSRModule out buildType) (buildCalls buildType) := by
  have hcopy : Emits (World.calls log) (do
      invoke out (.copyItem "pkg/*" "../../interface/static/wasm")
      invoke out (.setLocation "../.."))
      {[.copyItem "pkg/*" "../../interface/static/wasm", .setLocation "../.."]} := by
    have h := (invoke_calls hlog (.copyItem "pkg/*" "../../interface/static/wasm")).bind
      fun _ => invoke_calls hlog (.setLocation "../..")
    rwa [singleton_mul_singleton] at h
  have hinstall (there : Bool) : Emits (World.calls log) (do
      unless there do
        invoke out (.newItem "../../interface/static/wasm")
      invoke out (.copyItem "pkg/*" "../../interface/static/wasm")
      invoke out (.setLocation "../.."))
      ((1 + {[.newItem "../../interface/static/wasm"]}) *
        {[.copyItem "pkg/*" "../../interface/static/wasm", .setLocation "../.."]}) := by
    rw [add_mul, one_mul]
    apply Emits.ite hcopy
    exact (invoke_calls hlog _).bind fun _ => hcopy
  rw [buildCalls, ← List.singleton_append, ← singleton_mul_singleton, mul_assoc, mul_assoc]
  apply Emits.quiet_bind (writeHost_calls _)
  intro _
  apply Emits.bind (invoke_calls hlog _)
  intro _
  apply Emits.bind (compile_calls hlog)
  intro _
  apply Emits.quiet_bind (writeHost_calls _)
  intro _
  apply Emits.quiet_bind (testPath_calls _)
  intro there
  exact hinstall there

theorem answerPoll_calls (hlog : Logs out log) (changes : Bool) :
    Emits (World.calls log) (answerPoll out buildType changes) (roundCalls buildType changes) := by
  cases changes with
  | false => exact invoke_calls hlog _
  | true =>
      apply Emits.quiet_bind (writeHost_calls _)
      intro _
      exact (buildSSRModule_calls hlog).bind fun _ => invoke_calls hlog _

theorem run_getChildItem (path filter : String) (w : World Ω) :
    (getChildItem out path filter).run w =
      match out.getChildItem path filter w.outside with
      | .ok files => .ok files w
      | .error message => .error (.raised message) w := by
  rw [getChildItem, EStateM.run_bind, EStateM.run_get]
  dsimp only
  cases out.getChildItem path filter w.outside <;> rfl

/-- A round whose listing raises does nothing else. -/
theorem watchRound_refused {lastWrites : LastWrites} {w : World Ω} {message : String}
    (hlist : out.getChildItem "crates/spine-ssr/src" "*.rs" w.outside = .error message) :
    (watchRound rt out buildType lastWrites).run w = .error (.raised message) w := by
  rw [watchRound, EStateM.run_bind, run_getChildItem, hlist]

/-- A round polls what is listed, and makes the calls its answer asks for. -/
theorem watchRound_listed {lastWrites : LastWrites} {w : World Ω} {files : List FileInfo}
    (hlist : out.getChildItem "crates/spine-ssr/src" "*.rs" w.outside = .ok files) :
    (watchRound rt out buildType lastWrites).run w =
      match (answerPoll out buildType (poll rt.casing lastWrites files).2).run w with
      | .ok _ w' => .ok (poll rt.casing lastWrites files).1 w'
      | .error e w' => .error e w' := by
  rw [watchRound, EStateM.run_bind, run_getChildItem, hlist]
  dsimp only
  rw [EStateM.run_bind]
  cases (answerPoll out buildType (poll rt.casing lastWrites files).2).run w <;> rfl

theorem roundsCalls_cons (answer : Bool) (answers : List Bool) :
    roundsCalls buildType (answer :: answers) =
      roundCalls buildType answer * roundsCalls buildType answers := List.prod_cons

/-- A complete round in front leaves the end of the loop as it is. -/
theorem BrokenOff.cons {rounds : Nat} {answer : Bool} {answers : List Bool}
    {calls later : List Call} (hcalls : calls ∈ roundCalls buildType answer)
    (h : BrokenOff buildType rounds answers later) :
    BrokenOff buildType (rounds + 1) (answer :: answers) (calls ++ later) := by
  cases h with
  | listing hshort hlater =>
      apply BrokenOff.listing (Nat.succ_lt_succ hshort)
      rw [roundsCalls_cons]
      exact Language.append_mem_mul hcalls hlater
  | @round earlier last _ hshort hlater =>
      have hmul : calls ++ later ∈
          roundsCalls buildType (answer :: earlier) * begun (roundCalls buildType last) := by
        rw [roundsCalls_cons, mul_assoc]
        exact Language.append_mem_mul hcalls hlater
      exact BrokenOff.round (Nat.succ_lt_succ hshort) hmul

/-- The loop makes the calls its answers ask for, round after round. -/
theorem watchRounds_calls (hlog : Logs out log) (rounds : Nat) (lastWrites : LastWrites)
    (w : World Ω) :
    let polls := found rt out buildType rounds lastWrites w
    let answers := watch rt.casing lastWrites polls
    match (watchRounds rt out buildType rounds lastWrites).run w with
    | .ok _ w' => polls.length = rounds ∧
        ∃ calls ∈ roundsCalls buildType answers, w'.calls log = w.calls log ++ calls
    | .error _ w' =>
        ∃ calls, BrokenOff buildType rounds answers calls ∧
          w'.calls log = w.calls log ++ calls := by
  induction rounds generalizing lastWrites w with
  | zero => exact ⟨rfl, [], Language.nil_mem_one, (List.append_nil _).symm⟩
  | succ rounds ih =>
      rw [watchRounds, EStateM.run_bind, found]
      cases hlist : out.getChildItem "crates/spine-ssr/src" "*.rs" w.outside with
      | error message =>
          rw [watchRound_refused hlist]
          refine ⟨[], .listing (Nat.succ_pos _) Language.nil_mem_one, ?_⟩
          rw [List.append_nil]
      | ok files =>
          rw [watchRound_listed hlist]
          have hcalls : Emits (World.calls log) _ (roundCalls buildType _) :=
            answerPoll_calls hlog (poll rt.casing lastWrites files).2
          cases hanswer : (answerPoll out buildType (poll rt.casing lastWrites files).2).run w with
          | error e broken =>
              obtain ⟨part, hpart, hbroken⟩ := hcalls.of_error hanswer
              have hmul : part ∈ roundsCalls buildType [] *
                  begun (roundCalls buildType (poll rt.casing lastWrites files).2) := by
                rwa [roundsCalls, List.map_nil, List.prod_nil, one_mul]
              exact ⟨part, .round (Nat.succ_pos _) hmul, hbroken⟩
          | ok _ next =>
              obtain ⟨calls, hround, hnext⟩ := hcalls.of_ok hanswer
              have hrest := ih (poll rt.casing lastWrites files).1 next
              dsimp only [watch_cons] at hrest ⊢
              cases hrun : (watchRounds rt out buildType rounds
                  (poll rt.casing lastWrites files).1).run next with
              | ok _ w' =>
                  rw [hrun] at hrest
                  obtain ⟨hlength, later, hlater, hlog'⟩ := hrest
                  refine ⟨congrArg Nat.succ hlength, calls ++ later, ?_, ?_⟩
                  · rw [roundsCalls_cons]
                    exact Language.append_mem_mul hround hlater
                  · rw [hlog', hnext, List.append_assoc]
              | error e w' =>
                  rw [hrun] at hrest
                  obtain ⟨later, hlater, hlog'⟩ := hrest
                  refine ⟨calls ++ later, hlater.cons hround, ?_⟩
                  rw [hlog', hnext, List.append_assoc]

/-- The watch loop refines the pure polls, for an arbitrary outside that keeps a
log of the calls. After any number of rounds that all ran through, every round
listed the files once, and the calls of the loop are those of the answers that
`watch` gives on the lists, one round after the other: a whole build and the
sleep where the poll rebuilds, the sleep alone where it does not. The loop
catches nothing: where a listing or a call raises it ends, after the calls of the
rounds before and a first part of the calls of the last round. -/
theorem watchAndBuild_calls (hlog : Logs out log) (rounds : Nat) (lastWrites : LastWrites)
    (w : World Ω) :
    let polls := found rt out buildType rounds lastWrites
      { w with console := w.console ++ ["Watching for changes..."] }
    let answers := watch rt.casing lastWrites polls
    match (watchAndBuild rt out buildType rounds lastWrites).run w with
    | .ok _ w' => polls.length = rounds ∧
        ∃ calls ∈ roundsCalls buildType answers, w'.calls log = w.calls log ++ calls
    | .error _ w' =>
        ∃ calls, BrokenOff buildType rounds answers calls ∧
          w'.calls log = w.calls log ++ calls :=
  watchRounds_calls hlog rounds lastWrites _

/-- An outside that works, keeps a log, and has one file that stays as it is. -/
def unchanging : Outside (List Call) where
  react call log := (none, log ++ [call])
  testPath _ _ := true
  getCommand _ _ := true
  invokeExpression _ _ := .ok true
  getChildItem _ _ _ := .ok [⟨"crates/spine-ssr/src/lib.rs".toList, 1⟩]

/-- In two rounds on a file that stays as it is, only the first builds. -/
theorem watchAndBuild_calls_unchanging :
    let rt : Runtime := ⟨.linux, Casing.ascii, "/tmp", true⟩
    let w : World (List Call) := ⟨fun _ => none, [], [], []⟩
    ∃ lastWrites w', (watchAndBuild rt unchanging .debug 2 noWrites).run w = .ok lastWrites w' ∧
      w'.outside ∈ roundsCalls .debug [true, false] := by
  intro rt w
  obtain ⟨lastWrites, w', hrun⟩ : ∃ lastWrites w',
      (watchAndBuild rt unchanging .debug 2 noWrites).run w = .ok lastWrites w' := ⟨_, _, rfl⟩
  refine ⟨lastWrites, w', hrun, ?_⟩
  have hlog : Logs unchanging id := fun _ _ => rfl
  have h := @watchAndBuild_calls _ rt unchanging .debug id hlog 2 noWrites w
  rw [hrun] at h
  obtain ⟨-, calls, hcalls, hcalled⟩ := h
  have hanswers : watch rt.casing noWrites (found rt unchanging .debug 2 noWrites
      { w with console := w.console ++ ["Watching for changes..."] }) = [true, false] := by
    decide
  rw [hanswers] at hcalls
  change w'.outside = [] ++ calls at hcalled
  rw [hcalled]
  exact hcalls

section Machine

theorem invoke_machine (call : Call) : Preserves World.machine (invoke out call) :=
  (invoke_session call).read Session.machine

theorem writeHost_machine (line : String) :
    Preserves World.machine (writeHost line : Script Ω PUnit) :=
  (writeHost_session line).read Session.machine

/-- On Windows the session's `PATH` changes, and only the session's. -/
theorem installBinaryen_machine : Preserves World.machine (installBinaryen rt out) := by
  unfold installBinaryen
  cases rt.platform with
  | windows =>
      apply Preserves.bind (invoke_machine _)
      intro _
      apply Preserves.bind (invoke_machine _)
      intro _
      apply Preserves.bind (Preserves.get _)
      intro w
      exact Preserves.modify fun _ => rfl
  | macOS => exact invoke_machine _
  | linux => exact Preserves.bind (invoke_machine _) fun _ => invoke_machine _

theorem installRequirements_machine : Preserves World.machine (installRequirements rt out) := by
  have hcommand (name : String) : Preserves World.machine (getCommand out name) :=
    (getCommand_session name).read Session.machine
  have hbinaryen : Preserves World.machine (do
      unless ← getCommand out "wasm-opt" do
        writeHost "Installing binaryen (for wasm-opt)..."
        installBinaryen rt out) := by
    apply Preserves.bind (hcommand _)
    intro there
    apply Preserves.ite (Preserves.pure _ _)
    exact Preserves.bind (writeHost_machine _) fun _ => installBinaryen_machine
  have hbindgen : Preserves World.machine (do
      unless ← getCommand out "wasm-bindgen" do
        writeHost "Installing wasm-bindgen-cli..."
        invoke out (.native "cargo install wasm-bindgen-cli")
      unless ← getCommand out "wasm-opt" do
        writeHost "Installing binaryen (for wasm-opt)..."
        installBinaryen rt out) := by
    apply Preserves.bind (hcommand _)
    intro there
    apply Preserves.ite hbinaryen
    apply Preserves.bind (writeHost_machine _)
    intro _
    exact Preserves.bind (invoke_machine _) fun _ => hbinaryen
  apply Preserves.bind (writeHost_machine _)
  intro _
  apply Preserves.bind (hcommand _)
  intro there
  apply Preserves.ite hbindgen
  apply Preserves.bind (writeHost_machine _)
  intro _
  exact Preserves.bind (invoke_machine _) fun _ => hbindgen

theorem buildSSRModule_machine : Preserves World.machine (buildSSRModule out buildType) := by
  have hcompile : Preserves World.machine (compile out buildType) := by
    cases buildType with
    | debug => exact invoke_machine _
    | release =>
        apply Preserves.bind (invoke_machine _)
        intro _
        apply Preserves.bind (writeHost_machine _)
        intro _
        exact Preserves.bind (invoke_machine _) fun _ => invoke_machine _
  have hcopy : Preserves World.machine (do
      invoke out (.copyItem "pkg/*" "../../interface/static/wasm")
      invoke out (.setLocation "../..")) :=
    Preserves.bind (invoke_machine _) fun _ => invoke_machine _
  have htest (path : String) : Preserves World.machine (testPath out path) := fun _ => rfl
  apply Preserves.bind (writeHost_machine _)
  intro _
  apply Preserves.bind (invoke_machine _)
  intro _
  apply Preserves.bind hcompile
  intro _
  apply Preserves.bind (writeHost_machine _)
  intro _
  apply Preserves.bind (htest _)
  intro there
  exact Preserves.ite hcopy (Preserves.bind (invoke_machine _) fun _ => hcopy)

theorem watchRound_machine (lastWrites : LastWrites) :
    Preserves World.machine (watchRound rt out buildType lastWrites) := by
  have hlist (path filter : String) : Preserves World.machine (getChildItem out path filter) := by
    apply Preserves.bind (Preserves.get _)
    intro w
    cases out.getChildItem path filter w.outside with
    | ok files => exact Preserves.pure _ files
    | error message => exact Preserves.throw _ _
  have hanswer (changes : Bool) : Preserves World.machine (answerPoll out buildType changes) := by
    apply Preserves.ite
    · apply Preserves.bind (writeHost_machine _)
      intro _
      exact Preserves.bind buildSSRModule_machine fun _ => invoke_machine _
    · exact invoke_machine _
  apply Preserves.bind (hlist _ _)
  intro files
  exact Preserves.bind (hanswer _) fun _ => Preserves.pure _ _

/-- No round of the loop changes the machine environment. -/
theorem watchRounds_machine (rounds : Nat) (lastWrites : LastWrites) :
    Preserves World.machine (watchRounds rt out buildType rounds lastWrites) := by
  induction rounds generalizing lastWrites with
  | zero => exact Preserves.pure _ _
  | succ rounds ih =>
      apply Preserves.bind (watchRound_machine _)
      intro next
      exact ih next

theorem watchAndBuild_machine (rounds : Nat) (lastWrites : LastWrites) :
    Preserves World.machine (watchAndBuild rt out buildType rounds lastWrites) :=
  Preserves.bind (writeHost_machine _) fun _ => watchRounds_machine rounds lastWrites

/-- A build changes no machine variable, whether it succeeds or fails. -/
theorem buildSsr_machine : Preserves World.machine (buildSsr rt out buildType) := by
  apply exitOnFailure_frame
  · apply Preserves.bind installRequirements_machine
    intro _
    exact Preserves.bind buildSSRModule_machine fun _ => writeHost_machine _
  · intro line
    exact (writeError_session line).read Session.machine

end Machine

end IdxWorkspace.BuildSsr
