import IdxWorkspace.Setup.SharedPath
import IdxWorkspace.Setup.Cleanup

/-!
What the cleanups of LibTorch and TensorFlow leave of their setups. The setup
replaced the machine `PATH` by the session's, and the cleanup only takes one
directory out of it again, so the user's entries stay on it. `TORCH_ROOT` and the
session's own `PATH` are not cleaned up at all.
-/

namespace IdxWorkspace.Setup

open PowerShell Library Library.Effect Library.Journal

variable {Ω : Type} {rt : Runtime} {out : Outside Ω}

namespace OverwritingTool

/-- The script each installer leaves behind. -/
def cleanupScript : OverwritingTool → CleanupScript
  | .pytorch => .pytorch
  | .tensorflow => .tensorflow

/-- The directory tree the cleanup script deletes. -/
def root : OverwritingTool → String
  | .pytorch => "C:\\Program Files\\libtorch"
  | .tensorflow => "C:\\Program Files\\tensorflow"

/-- On Windows the two cleanup scripts are one script with two sets of values. -/
theorem runCleanup_eq (hwin : rt.platform = .windows) (t : OverwritingTool) :
    runCleanup rt out t.cleanupScript =
      removeItemSilently out t.root >>= fun _ => removeFromMachinePath rt out t.directory.text := by
  cases t with
  | pytorch =>
      have hdir : "C:\\Program Files\\libtorch\\lib".toList = (directory .pytorch).text := rfl
      simp only [cleanupScript, runCleanup, cleanupPytorch, hwin, hdir, root]
  | tensorflow =>
      have hdir : "C:\\Program Files\\tensorflow\\lib".toList = (directory .tensorflow).text := rfl
      simp only [cleanupScript, runCleanup, cleanupTensorflow, hwin, hdir, root]

/-- A cleanup that ran to its end has taken the directory out of the machine `PATH`. -/
theorem runCleanup_ok (hwin : rt.platform = .windows) {t : OverwritingTool} {w w' : World Ω}
    (hrun : (runCleanup rt out t.cleanupScript).run w = .ok ⟨⟩ w') :
    ∃ path, w.machine .path = some path ∧
      w'.machine = Function.update w.machine .path
        (stored (some (removeEntry rt.casing t.directory.text path))) ∧
      w'.processPath = w.processPath := by
  rw [runCleanup_eq hwin] at hrun
  obtain ⟨_, mid, hitem, hremove⟩ := bind_ok hrun
  have hquiet : Preserves World.session (removeItemSilently out t.root) :=
    Preserves.tryCatch (invoke_session _) fun _ => Preserves.pure _ _
  have hmid : mid.session = w.session := hquiet.of_ok hitem
  have hmachine : mid.machine = w.machine := congrArg Session.machine hmid
  have hprocess : mid.processPath = w.processPath := congrArg Session.processPath hmid
  cases hpath : mid.machine .path with
  | none =>
      rw [run_removeFromMachinePath_unset hwin _ hpath] at hremove
      cases hremove
  | some path =>
      rw [run_removeFromMachinePath_set hwin _ hpath] at hremove
      have hwritten := (setEnvironmentVariable_writes hwin).ok hremove
      have hkept := (setEnvironmentVariable_processPath _ _).of_ok hremove
      rw [hmachine] at hwritten hpath
      exact ⟨path, hpath, hwritten, hkept.trans hprocess⟩

/-- A run of the cleanup script of `t` that ended well. -/
def CleanedUpBy (rt : Runtime) (t : OverwritingTool) (s s' : Session) : Prop :=
  ∃ (Ω : Type) (out : Outside Ω) (w w' : World Ω), w.session = s ∧ w'.session = s' ∧
    (runCleanup rt out t.cleanupScript).run w = .ok ⟨⟩ w'

theorem CleanedUpBy.machinePath_eq (hwin : rt.platform = .windows) {t : OverwritingTool}
    {s s' : Session} (h : CleanedUpBy rt t s s') :
    machinePath s' = removeEntry rt.casing t.directory.text (machinePath s) ∧
      (∀ v, v ≠ .path → s'.machine v = s.machine v) ∧ s'.processPath = s.processPath := by
  obtain ⟨Ω, out, w, w', rfl, rfl, hrun⟩ := h
  obtain ⟨path, hpath, hmachine, hprocess⟩ := runCleanup_ok hwin hrun
  refine ⟨?_, ?_, hprocess⟩
  · simp only [machinePath, World.session, hmachine, Function.update_self, interpolate_stored,
      hpath]
    rfl
  · intro v hv
    change w'.machine v = w.machine v
    rw [hmachine, Function.update_of_ne hv]

/-- With a machine `PATH` to edit the cleanup script has a run that ends well. -/
theorem cleanedUpBy_exists (hwin : rt.platform = .windows) (t : OverwritingTool) {s : Session}
    {path : Text} (hpath : s.machine .path = some path) : ∃ s', CleanedUpBy rt t s s' := by
  let start : World Bool := ⟨s.machine, s.processPath, [], false⟩
  have hitem : (removeItemSilently smooth t.root).run start =
      .ok ⟨⟩ { start with outside := true } := by
    rw [removeItemSilently, run_tryCatch]
    rfl
  obtain ⟨_, w', hwrite, _⟩ := setEnvironmentVariable_finishes hwin .path
    (some (removeEntry rt.casing t.directory.text path)) { start with outside := true } rfl
  refine ⟨w'.session, Bool, smooth, start, w', rfl, rfl, ?_⟩
  rw [runCleanup_eq hwin, EStateM.run_bind, hitem]
  change (removeFromMachinePath rt smooth t.directory.text).run { start with outside := true } = _
  rw [run_removeFromMachinePath_set hwin _ hpath, hwrite]

end OverwritingTool

/-- Without the entries of a directory that had none. -/
theorem filter_of_not_has {casing : Casing} {d t : Text} (h : ¬ Has casing t d) :
    (entries t).filter (fun e => !casing.eq e d) = entries t := by
  rw [List.filter_eq_self]
  intro e he
  rw [Bool.not_eq_true', Bool.eq_false_iff, ne_eq, Casing.eq_iff]
  exact fun hkey => h ⟨e, he, hkey⟩

theorem entries_followedBy (machine : Text) (user : Option Text) :
    entries (followedBy machine user) = entries machine ++ userEntries user := by
  cases user with
  | none => exact (List.append_nil _).symm
  | some u => exact entries_append machine u

/-- What the cleanup leaves of a text is the text before it if and only if that had no
entry of the directory and nothing else but such entries came after it. -/
theorem removeEntry_append_eq_iff {casing : Casing} (d : Directory) (machine : Text)
    (user : Option Text) :
    removeEntry casing d.text (append d.text (followedBy machine user)) = machine ↔
      ¬ Has casing machine d.text ∧ ∀ e ∈ userEntries user, casing.eq e d.text = true := by
  have hself : casing.eq d.text d.text = true := Casing.eq_iff.mpr rfl
  have hentries : (entries (append d.text (followedBy machine user))).filter
      (fun e => !casing.eq e d.text) =
        (entries machine).filter (fun e => !casing.eq e d.text) ++
          (userEntries user).filter fun e => !casing.eq e d.text := by
    rw [entries_append, d.entries_eq, entries_followedBy]
    simp [hself]
  have hsome : entries machine ≠ [] := Separated.parts_ne_nil ';' machine
  rw [removeEntry, hentries]
  constructor
  · intro hback
    have hleft : (entries machine).filter (fun e => !casing.eq e d.text) ++
        (userEntries user).filter (fun e => !casing.eq e d.text) ≠ [] := by
      intro hnone
      -- then the text is empty, and its only entry is not the directory
      rw [hnone] at hback
      have hempty : [] ∈ (entries machine).filter fun e => !casing.eq e d.text := by
        rw [← hback, List.mem_filter]
        refine ⟨List.mem_singleton_self _, ?_⟩
        rw [Bool.not_eq_true', Bool.eq_false_iff, ne_eq, Casing.eq_iff]
        exact fun hkey => d.key_ne_nil hkey.symm
      rw [(List.append_eq_nil_iff.mp hnone).1] at hempty
      cases hempty
    have hsame : (entries machine).filter (fun e => !casing.eq e d.text) ++
        (userEntries user).filter (fun e => !casing.eq e d.text) = entries machine := by
      rw [← hentries] at hleft hback ⊢
      rw [← congrArg entries hback]
      exact (Separated.parts_join_filter hleft).symm
    have hnew : ¬ Has casing machine d.text := by
      rintro ⟨e, he, hkey⟩
      rw [← hsame, ← List.filter_append] at he
      have hother := List.of_mem_filter he
      rw [Casing.eq_iff.mpr hkey] at hother
      cases hother
    refine ⟨hnew, ?_⟩
    rw [filter_of_not_has hnew, List.append_right_eq_self, List.filter_eq_nil_iff] at hsame
    simpa using hsame
  · rintro ⟨hnew, huser⟩
    have hnone : (userEntries user).filter (fun e => !casing.eq e d.text) = [] := by
      rw [List.filter_eq_nil_iff]
      simpa using huser
    rw [hnone, List.append_nil, filter_of_not_has hnew]
    exact Separated.join_parts ';' machine

/-- Install LibTorch or TensorFlow and run its cleanup, in a session whose `PATH` is the
machine's followed by the user's, as it is after logging on. The machine `PATH` is what
it was before if and only if it had no entry of the tool's directory, and every entry
of the user's is one: otherwise the cleanup takes off more than the setup put on, or
the user's entries stay on the machine's `PATH`. In every case the session's own `PATH`
and the variables of the tool stay as the setup left them. -/
theorem overwriting_restored_iff (hwin : rt.platform = .windows) {t : OverwritingTool}
    {s mid s' : Session} (hsetup : InstallingRun rt (.overwriting t) s mid)
    (hcleanup : t.CleanedUpBy rt mid s') {user : Option Text}
    (hstart : s.processPath = followedBy (machinePath s) user) :
    (machinePath s' = machinePath s ↔
      ¬ Has rt.casing (machinePath s) t.directory.text ∧
        ∀ e ∈ userEntries user, rt.casing.eq e t.directory.text = true) ∧
      s'.processPath = append t.directory.text s.processPath ∧
      ∀ p ∈ t.toolVariables rt, s'.machine p.1 = p.2 := by
  obtain ⟨version, rfl⟩ := hsetup.effect hwin
  obtain ⟨hpath, hothers, hprocess⟩ := hcleanup.machinePath_eq hwin
  refine ⟨?_, hprocess, ?_⟩
  · rw [hpath, effect_overwriting_machinePath, hstart]
    exact removeEntry_append_eq_iff t.directory (machinePath s) user
  · cases t with
    | tensorflow => exact nofun
    | pytorch =>
        intro p hp
        obtain rfl := List.mem_singleton.mp hp
        have hroot : PyTorch.torchPath rt = "C:\\Program Files\\libtorch".toList := by
          rw [PyTorch.torchPath, hwin]
        rw [hothers .torchRoot nofun, hroot]
        simp [Tool.effect, OverwritingTool.toolVariables, hroot, stored]

/-- LibTorch for a user with a `PATH` of their own, which the cleanup leaves on the
machine's. -/
theorem overwriting_not_restored :
    let s := logon "C:\\Windows".toList (some "C:\\Tools".toList)
    ∃ mid s', InstallingRun windows (.overwriting .pytorch) s mid ∧
      OverwritingTool.CleanedUpBy windows .pytorch mid s' ∧ machinePath s' ≠ machinePath s := by
  intro s
  have hwin : windows.platform = .windows := rfl
  have hother : Tool.overwriting .pytorch ≠ .appending .ggml := by decide
  have hsetup := installingRun_exists hwin hother "2.2.1" s
  have hset : (Tool.effect windows "2.2.1" (.overwriting .pytorch) s).machine .path =
      some (append (OverwritingTool.directory .pytorch).text s.processPath) := rfl
  obtain ⟨s', hcleanup⟩ := OverwritingTool.cleanedUpBy_exists hwin .pytorch hset
  refine ⟨_, s', hsetup, hcleanup, ?_⟩
  have hstart : s.processPath = followedBy (machinePath s) (some "C:\\Tools".toList) := rfl
  obtain ⟨hiff, _⟩ := overwriting_restored_iff hwin hsetup hcleanup hstart
  rw [ne_eq, hiff]
  decide

end IdxWorkspace.Setup
