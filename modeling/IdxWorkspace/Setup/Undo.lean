import IdxWorkspace.Library.History
import IdxWorkspace.Setup.Cleanup
import IdxWorkspace.Setup.Guard

/-!
Setups and cleanups of the appending tools on one machine, in any order. The
cleanups work on whole entries and the setups' guard on the joined string, so
the undoing rests on an invariant: from a `PATH` that mentions no tool, the
entries are always the old ones followed by the directories of the tools that
are set up, oldest first.
-/

namespace IdxWorkspace.Setup

open PowerShell Library

inductive Operation where
  | setup (t : AppendingTool)
  | cleanup (t : AppendingTool)
  deriving DecidableEq

/-- What each operation does to the text of the machine `PATH`. -/
def Operation.update (casing : Casing) : Operation → Text → Text
  | .setup t => addEntry casing t.directory.text
  | .cleanup t => removeEntry casing t.directory.text

def updates (casing : Casing) (ops : List Operation) (t : Text) : Text :=
  ops.foldl (fun t op => op.update casing t) t

/-- An entry that no operation is about. -/
def unrelated (casing : Casing) (e : Text) : Bool :=
  !e.isEmpty && [AppendingTool.llvm, .wasmedge, .ggml].all fun t => !casing.eq e t.directory.text

/-- The tools that are set up, in the order of their setups. -/
def Operation.mark : Operation → List AppendingTool → List AppendingTool
  | .setup t, tools => if t ∈ tools then tools else tools ++ [t]
  | .cleanup t, tools => tools.filter (· ≠ t)

def installed (ops : List Operation) : List AppendingTool :=
  ops.foldl (fun tools op => op.mark tools) []

/-- Each tool that was set up has since been cleaned up. -/
def CleanedUp (ops : List Operation) : Prop :=
  ∀ t before later, ops = before ++ .setup t :: later → .cleanup t ∈ later

variable {casing : Casing}

@[simp]
theorem updates_snoc (ops : List Operation) (op : Operation) (t : Text) :
    updates casing (ops ++ [op]) t = op.update casing (updates casing ops t) := by
  simp [updates]

@[simp]
theorem installed_snoc (ops : List Operation) (op : Operation) :
    installed (ops ++ [op]) = op.mark (installed ops) := by
  simp [installed]

theorem unrelated_nil : unrelated casing [] = false := rfl

theorem unrelated_directory (t : AppendingTool) :
    unrelated casing t.directory.text = false := by
  have heq : casing.eq t.directory.text t.directory.text = true := Casing.eq_iff.mpr rfl
  cases t <;> simp [unrelated, heq]

theorem ne_directory_of_unrelated {e : Text} (h : unrelated casing e = true) (t : AppendingTool) :
    casing.eq e t.directory.text = false := by
  simp only [unrelated, Bool.and_eq_true, List.all_cons, List.all_nil, Bool.not_eq_true',
    Bool.and_true] at h
  obtain ⟨_, hllvm, hwasmedge, hggml⟩ := h
  cases t with
  | llvm => exact hllvm
  | wasmedge => exact hwasmedge
  | ggml => exact hggml

/-- No operation touches an entry it is not about, nor changes the order of those. -/
theorem filter_unrelated_update (op : Operation) (t : Text) :
    (entries (op.update casing t)).filter (unrelated casing) =
      (entries t).filter (unrelated casing) := by
  cases op with
  | setup tool =>
      simp only [Operation.update, addEntry]
      by_cases h : Contains casing t tool.directory.text
      · rw [if_pos h]
      · rw [if_neg h, entries_append, tool.directory.entries_eq, List.filter_append]
        simp [unrelated_directory]
  | cleanup tool =>
      have hkeep : ∀ e, unrelated casing e = true →
          (!casing.eq e tool.directory.text) = true := by
        intro e he
        rw [ne_directory_of_unrelated he tool]
        rfl
      calc (entries (removeEntry casing tool.directory.text t)).filter (unrelated casing)
          = ((entries t).filter fun e => !casing.eq e tool.directory.text).filter
              (unrelated casing) := Separated.filter_parts_join_filter unrelated_nil
        _ = (entries t).filter (unrelated casing) := by
            rw [List.filter_filter]
            apply List.filter_congr
            intro e _
            cases he : unrelated casing e with
            | false => rfl
            | true => rw [hkeep e he]; rfl

theorem filter_unrelated_updates (ops : List Operation) (t : Text) :
    (entries (updates casing ops t)).filter (unrelated casing) =
      (entries t).filter (unrelated casing) := by
  induction ops using List.reverseRecOn with
  | nil => rfl
  | append_singleton ops op ih => rw [updates_snoc, filter_unrelated_update, ih]

/-- Joining can bring back an empty entry, but never one that was dropped. -/
theorem not_has_removeEntry (d : Directory) (t : Text) :
    ¬ Has casing (removeEntry casing d.text t) d.text := by
  rintro ⟨e, he, hkey⟩
  by_cases hnil : ((entries t).filter fun e => !casing.eq e d.text) = []
  · rw [removeEntry, hnil] at he
    have hempty : e = [] := List.mem_singleton.mp he
    rw [hempty] at hkey
    exact d.key_ne_nil hkey.symm
  · have hparts : entries (removeEntry casing d.text t) =
        (entries t).filter fun e => !casing.eq e d.text := Separated.parts_join_filter hnil
    rw [hparts, List.mem_filter] at he
    have hdropped : casing.eq e d.text = true := Casing.eq_iff.mpr hkey
    simp [hdropped] at he

theorem directory_infix_iff (t u : AppendingTool) :
    casing.key t.directory.text <:+: casing.key u.directory.text ↔ t = u := by
  have h : casing.key (Tool.directory (.appending t)).text <:+:
      casing.key (Tool.directory (.appending u)).text ↔ Tool.appending t = .appending u :=
    Tool.directory_infix_iff _ _
  simpa [Tool.directory] using h

theorem directory_eq_iff (t u : AppendingTool) :
    casing.eq t.directory.text u.directory.text = true ↔ t = u := by
  have h : casing.key (Tool.directory (.appending t)).text =
      casing.key (Tool.directory (.appending u)).text ↔ Tool.appending t = .appending u :=
    Tool.directory_key_eq_iff _ _
  rw [Casing.eq_iff]
  simpa [Tool.directory] using h

section Invariant

variable {base t : Text} {tools : List AppendingTool}

/-- The guard's search tells whether the tool is set up. -/
theorem contains_iff_mem (hbase : ∀ u : AppendingTool, ¬ Contains casing base u.directory.text)
    (hentries : entries t = entries base ++ tools.map fun u => u.directory.text)
    (u : AppendingTool) : Contains casing t u.directory.text ↔ u ∈ tools := by
  rw [u.directory.contains_iff, hentries]
  constructor
  · rintro ⟨e, he, hinfix⟩
    rcases List.mem_append.mp he with hold | hnew
    · exact absurd ((u.directory.contains_iff base).mpr ⟨e, hold, hinfix⟩) (hbase u)
    · obtain ⟨v, hv, rfl⟩ := List.mem_map.mp hnew
      rw [(directory_infix_iff u v).mp hinfix]
      exact hv
  · intro hu
    refine ⟨u.directory.text, ?_, List.infix_rfl⟩
    exact List.mem_append_right _ (List.mem_map.mpr ⟨u, hu, rfl⟩)

/-- One operation keeps the invariant. -/
theorem entries_update (hbase : ∀ u : AppendingTool, ¬ Contains casing base u.directory.text)
    (hentries : entries t = entries base ++ tools.map fun u => u.directory.text)
    (op : Operation) :
    entries (op.update casing t) =
      entries base ++ (op.mark tools).map fun u => u.directory.text := by
  cases op with
  | setup u =>
      have hguard := contains_iff_mem hbase hentries u
      simp only [Operation.update, Operation.mark, addEntry]
      by_cases hu : u ∈ tools
      · rw [if_pos (hguard.mpr hu), if_pos hu, hentries]
      · rw [if_neg (fun h => hu (hguard.mp h)), if_neg hu, entries_append, hentries,
          u.directory.entries_eq, List.map_append, List.append_assoc]
        rfl
  | cleanup u =>
      have hold : (entries base).filter (fun e => !casing.eq e u.directory.text) =
          entries base := by
        rw [List.filter_eq_self]
        intro e he
        rw [Bool.not_eq_true', Bool.eq_false_iff, ne_eq, Casing.eq_iff]
        intro hkey
        exact hbase u (u.directory.contains_of_has ⟨e, he, hkey⟩)
      have hnew : (tools.map fun v => v.directory.text).filter
          (fun e => !casing.eq e u.directory.text) =
            (tools.filter (· ≠ u)).map fun v => v.directory.text := by
        rw [List.filter_map]
        congr 1
        apply List.filter_congr
        intro v _
        have hv : casing.eq v.directory.text u.directory.text = true ↔ v = u :=
          directory_eq_iff v u
        simp only [Function.comp]
        by_cases h : v = u
        · rw [hv.mpr h]
          simp [h]
        · have hne : casing.eq v.directory.text u.directory.text = false := by
            rw [Bool.eq_false_iff]
            exact fun heq => h (hv.mp heq)
          simp [h, hne]
      have hfilter : (entries t).filter (fun e => !casing.eq e u.directory.text) =
          entries base ++ (tools.filter (· ≠ u)).map fun v => v.directory.text := by
        rw [hentries, List.filter_append, hold, hnew]
      have hne : (entries t).filter (fun e => !casing.eq e u.directory.text) ≠ [] := by
        rw [hfilter]
        exact List.append_ne_nil_of_left_ne_nil (Separated.parts_ne_nil ';' base) _
      exact (Separated.parts_join_filter hne).trans hfilter

end Invariant

/-- From a `PATH` that mentions no tool: the old entries, then the tools that are set up. -/
theorem entries_updates {base : Text}
    (hbase : ∀ u : AppendingTool, ¬ Contains casing base u.directory.text)
    (ops : List Operation) :
    entries (updates casing ops base) =
      entries base ++ (installed ops).map fun u => u.directory.text := by
  induction ops using List.reverseRecOn with
  | nil => simp [updates, installed]
  | append_singleton ops op ih =>
      rw [updates_snoc, installed_snoc]
      exact entries_update hbase ih op

theorem mem_mark_iff (op : Operation) (tools : List AppendingTool) (t : AppendingTool) :
    t ∈ op.mark tools ↔ op = .setup t ∨ (t ∈ tools ∧ op ≠ .cleanup t) := by
  cases op with
  | setup u =>
      simp only [Operation.mark]
      by_cases hu : u ∈ tools
      · rw [if_pos hu]
        constructor
        · exact fun h => Or.inr ⟨h, by simp⟩
        · rintro (h | ⟨h, _⟩)
          · cases h
            exact hu
          · exact h
      · rw [if_neg hu, List.mem_append, List.mem_singleton]
        constructor
        · rintro (h | rfl)
          · exact Or.inr ⟨h, by simp⟩
          · exact Or.inl rfl
        · rintro (h | ⟨h, _⟩)
          · cases h
            exact Or.inr rfl
          · exact Or.inl h
  | cleanup u =>
      simp only [Operation.mark, List.mem_filter, decide_eq_true_eq]
      constructor
      · rintro ⟨h, hne⟩
        exact Or.inr ⟨h, fun heq => hne (by cases heq; rfl)⟩
      · rintro (h | ⟨h, hne⟩)
        · cases h
        · exact ⟨h, fun heq => hne (by rw [heq])⟩

/-- A tool is set up when some setup of it has no cleanup behind it. -/
theorem mem_installed_iff (ops : List Operation) (t : AppendingTool) :
    t ∈ installed ops ↔
      ∃ before later, ops = before ++ .setup t :: later ∧ .cleanup t ∉ later := by
  induction ops using List.reverseRecOn with
  | nil => simp [installed]
  | append_singleton ops op ih =>
      rw [installed_snoc, mem_mark_iff, ih]
      constructor
      · rintro (rfl | ⟨⟨before, later, rfl, hlater⟩, hop⟩)
        · exact ⟨ops, [], rfl, by simp⟩
        · refine ⟨before, later ++ [op], by simp, ?_⟩
          simp only [List.mem_append, List.mem_singleton, not_or]
          exact ⟨hlater, fun heq => hop heq.symm⟩
      · rintro ⟨before, later, hops, hlater⟩
        rcases History.split_snoc hops with ⟨_, hop, _⟩ | ⟨rest, hold, rfl⟩
        · exact Or.inl hop.symm
        · right
          simp only [List.mem_append, List.mem_singleton, not_or] at hlater
          exact ⟨⟨before, rest, hold, hlater.1⟩, fun heq => hlater.2 heq.symm⟩

theorem cleanedUp_iff (ops : List Operation) : CleanedUp ops ↔ installed ops = [] := by
  rw [List.eq_nil_iff_forall_not_mem]
  constructor
  · intro h t ht
    obtain ⟨before, later, hops, hlater⟩ := (mem_installed_iff ops t).mp ht
    exact hlater (h t before later hops)
  · intro h t before later hops
    by_contra hlater
    exact h t ((mem_installed_iff ops t).mpr ⟨before, later, hops, hlater⟩)

/-- An operation is a successful installing run of a setup script, or a run of a
cleanup script. -/
def OperationRun (rt : Runtime) : Operation → Session → Session → Prop
  | .setup t => InstallingRun rt (.appending t)
  | .cleanup t => CleanupRun rt t

inductive Runs (rt : Runtime) : List Operation → Session → Session → Prop where
  | nil (s : Session) : Runs rt [] s s
  | snoc {ops : List Operation} {op : Operation} {s₀ s s' : Session} :
      Runs rt ops s₀ s → OperationRun rt op s s' → Runs rt (ops ++ [op]) s₀ s'

variable {rt : Runtime}

theorem OperationRun.machinePath_eq (hwin : rt.platform = .windows) {op : Operation}
    {s s' : Session} (h : OperationRun rt op s s') :
    machinePath s' = op.update rt.casing (machinePath s) := by
  cases op with
  | setup t => exact InstallingRun.machinePath_eq hwin h
  | cleanup t => exact CleanupRun.machinePath_eq hwin h

/-- The scripts' runs do to the machine `PATH` what the operations do to its text. -/
theorem Runs.machinePath_eq (hwin : rt.platform = .windows) {ops : List Operation}
    {s₀ s : Session} (h : Runs rt ops s₀ s) :
    machinePath s = updates rt.casing ops (machinePath s₀) := by
  induction h with
  | nil => rfl
  | snoc _ hrun ih => rw [OperationRun.machinePath_eq hwin hrun, ih, updates_snoc]

/-- Operations have runs, as far as the setups among them can succeed. -/
theorem runs_exists (hwin : rt.platform = .windows) {ops : List Operation}
    (hggml : .setup .ggml ∉ ops) (s₀ : Session) : ∃ s, Runs rt ops s₀ s := by
  induction ops using List.reverseRecOn with
  | nil => exact ⟨s₀, Runs.nil s₀⟩
  | append_singleton ops op ih =>
      rw [List.mem_append, not_or] at hggml
      obtain ⟨s, hs⟩ := ih hggml.1
      cases op with
      | setup t =>
          have ht : Tool.appending t ≠ .appending .ggml := by
            rintro ⟨⟩
            exact hggml.2 (List.mem_singleton_self _)
          exact ⟨_, hs.snoc (installingRun_exists hwin ht "" s)⟩
      | cleanup t =>
          obtain ⟨s', hs'⟩ := cleanupRun_exists hwin t s
          exact ⟨s', hs.snoc hs'⟩

/-- Cleanup undoes setup, whatever the order of the operations: foreign entries
stay as they are, a cleaned-up tool has no entry, and a `PATH` that mentioned no
tool is itself again once every tool that was set up is cleaned up. The machine
`PATH` at the start may be any string or unset, with entries that are empty, that
are there twice or that differ only in case. -/
theorem cleanup_undoes_setup (hwin : rt.platform = .windows) {ops : List Operation}
    {s₀ s : Session} (h : Runs rt ops s₀ s) :
    (entries (machinePath s)).filter (unrelated rt.casing) =
        (entries (machinePath s₀)).filter (unrelated rt.casing) ∧
      (∀ t, ops.getLast? = some (.cleanup t) →
        ¬ Has rt.casing (machinePath s) t.directory.text) ∧
      ((∀ t : AppendingTool, ¬ Contains rt.casing (machinePath s₀) t.directory.text) →
        CleanedUp ops → machinePath s = machinePath s₀) := by
  have hpath : machinePath s = updates rt.casing ops (machinePath s₀) := h.machinePath_eq hwin
  refine ⟨?_, ?_, ?_⟩
  · rw [hpath, filter_unrelated_updates]
  · intro t hlast
    obtain ⟨before, rfl⟩ := List.getLast?_eq_some_iff.mp hlast
    rw [hpath, updates_snoc]
    exact not_has_removeEntry t.directory _
  · intro hclean hdone
    apply entries_injective
    rw [hpath, entries_updates hclean, (cleanedUp_iff ops).mp hdone]
    simp

theorem cleanup_undoes_setup_interleaved :
    let s₀ := sessionWithPath ";C:\\Windows;".toList
    ∃ s, Runs windows [.setup .llvm, .setup .wasmedge, .cleanup .llvm, .cleanup .wasmedge] s₀ s ∧
      machinePath s = ";C:\\Windows;".toList := by
  intro s₀
  have hwin : windows.platform = .windows := rfl
  let ops : List Operation := [.setup .llvm, .setup .wasmedge, .cleanup .llvm, .cleanup .wasmedge]
  have hggml : .setup .ggml ∉ ops := by decide
  obtain ⟨s, hruns⟩ := runs_exists hwin hggml s₀
  have hclean : ∀ t : AppendingTool,
      ¬ Contains windows.casing (machinePath s₀) t.directory.text := by
    intro t
    cases t <;> decide
  have hundone := cleanup_undoes_setup hwin hruns
  refine ⟨s, hruns, ?_⟩
  rw [hundone.2.2 hclean ((cleanedUp_iff _).mpr (by decide))]
  decide

end IdxWorkspace.Setup
