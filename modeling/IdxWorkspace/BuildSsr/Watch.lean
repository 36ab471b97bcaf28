import IdxWorkspace.Library.History
import IdxWorkspace.Library.Sighting
import IdxWorkspace.PowerShell.Host

/-!
The polls of `Watch-AndBuild`. The script keeps a hash table of last write
times, whose keys do not distinguish case, and only ever adds to it. A poll
compares each file it finds with the table, so what it can notice is a file that
is there now and not as it was last seen.
-/

namespace IdxWorkspace.BuildSsr

open PowerShell Library Library.History Library.Sighting

/-- `$script:lastWrites` -/
abbrev LastWrites := Table Text Nat

/-- One round of the `ForEach-Object`, on the table and `$changes`. -/
def visit (casing : Casing) (state : LastWrites × Bool) (file : FileInfo) : LastWrites × Bool :=
  let path := casing.key file.fullName
  if (state.1 path).isNone then
    (Function.update state.1 path (some file.lastWriteTime), true)
  else if state.1 path ≠ some file.lastWriteTime then
    (Function.update state.1 path (some file.lastWriteTime), true)
  else state

/-- The files a poll finds, as the file system distinguishes them. -/
structure Snapshot where
  files : List FileInfo
  nodup : (files.map FileInfo.fullName).Nodup

def Snapshot.empty : Snapshot := ⟨[], List.nodup_nil⟩

def Snapshot.single (file : FileInfo) : Snapshot := ⟨[file], by simp⟩

/-- The snapshot as a map from paths to last write times. -/
def Snapshot.map (s : Snapshot) (path : Text) : Option Nat :=
  (s.files.find? fun file => file.fullName = path).map FileInfo.lastWriteTime

/-- The table after a poll, and whether the poll rebuilds. -/
def poll (casing : Casing) (lastWrites : LastWrites) (files : List FileInfo) :
    LastWrites × Bool :=
  files.foldl (visit casing) (lastWrites, false)

/-- Which polls of the loop call `Build-SSRModule`, one answer for each poll. -/
def watch (casing : Casing) (lastWrites : LastWrites) : List (List FileInfo) → List Bool
  | [] => []
  | files :: rest =>
      let (lastWrites', changes) := poll casing lastWrites files
      changes :: watch casing lastWrites' rest

theorem watch_cons (casing : Casing) (lastWrites : LastWrites) (files : List FileInfo)
    (rest : List (List FileInfo)) :
    watch casing lastWrites (files :: rest) =
      (poll casing lastWrites files).2 :: watch casing (poll casing lastWrites files).1 rest := rfl

/-- The table the script starts with. -/
def noWrites : LastWrites := fun _ => none

def previous (before : List Snapshot) : Snapshot :=
  before.getLast?.getD Snapshot.empty

/-- The loop rebuilds at exactly those polls whose snapshot differs from the one before. -/
def RebuildsOnChange (casing : Casing) (snapshots : List Snapshot) : Prop :=
  AtEvery (fun before s =>
    (watch casing noWrites (snapshots.map Snapshot.files))[before.length]? = some true ↔
      s.map ≠ (previous before).map) snapshots

/-- The files of all polls, in the order they were found, under the table's keys. -/
def sightings (casing : Casing) (snapshots : List Snapshot) : List (Text × Nat) :=
  snapshots.flatMap fun s =>
    s.files.map fun file => (casing.key file.fullName, file.lastWriteTime)

/-- What a snapshot has to be for its poll to decide rightly. Unchanged, it has no
two paths that differ only in case and were written at different times; changed,
it has a file that was last seen otherwise or not at all. -/
def Noticeable (casing : Casing) (before : List Snapshot) (s : Snapshot) : Prop :=
  (s.map = (previous before).map → ∀ f ∈ s.files, ∀ g ∈ s.files,
    casing.key f.fullName = casing.key g.fullName → f.lastWriteTime = g.lastWriteTime) ∧
  (s.map ≠ (previous before).map → ∃ f ∈ s.files,
    lastSeen (sightings casing before) (casing.key f.fullName) ≠ some f.lastWriteTime)

variable {casing : Casing}

/-- Whether the key is missing or has another time, the branches do the same. -/
theorem visit_eq_note (state : LastWrites × Bool) (file : FileInfo) :
    visit casing state file = note state (casing.key file.fullName, file.lastWriteTime) := by
  unfold visit note
  cases h : state.1 (casing.key file.fullName) with
  | none => simp [h]
  | some t => by_cases ht : t = file.lastWriteTime <;> simp [h, ht]

theorem poll_eq_noteAll (lastWrites : LastWrites) (s : Snapshot) :
    poll casing lastWrites s.files = noteAll (lastWrites, false) (sightings casing [s]) := by
  have hvisit : visit casing = fun state file =>
      note state (casing.key file.fullName, file.lastWriteTime) := by
    funext state file
    exact visit_eq_note state file
  rw [poll, noteAll, hvisit, sightings, List.flatMap_singleton, List.foldl_map]

@[simp]
theorem sightings_append (before later : List Snapshot) :
    sightings casing (before ++ later) = sightings casing before ++ sightings casing later :=
  List.flatMap_append

theorem mem_sightings_singleton {s : Snapshot} {sighting : Text × Nat} :
    sighting ∈ sightings casing [s] ↔
      ∃ f ∈ s.files, (casing.key f.fullName, f.lastWriteTime) = sighting := by
  simp [sightings]

/-- After any polls the table has the last sighting of each key. -/
theorem poll_table (before : List Snapshot) (s : Snapshot) :
    (poll casing (lastSeen (sightings casing before)) s.files).1 =
      lastSeen (sightings casing (before ++ [s])) := by
  rw [poll_eq_noteAll, noteAll_table, sightings_append]

theorem poll_rebuilds_iff (before : List Snapshot) (s : Snapshot) :
    (poll casing (lastSeen (sightings casing before)) s.files).2 = true ↔
      ∃ f ∈ s.files,
        lastSeen (sightings casing before) (casing.key f.fullName) ≠ some f.lastWriteTime := by
  rw [poll_eq_noteAll, noteAll_news]
  constructor
  · rintro ⟨sighting, hmem, hnews⟩
    obtain ⟨f, hf, rfl⟩ := mem_sightings_singleton.mp hmem
    exact ⟨f, hf, hnews⟩
  · rintro ⟨f, hf, hnews⟩
    exact ⟨_, mem_sightings_singleton.mpr ⟨f, hf, rfl⟩, hnews⟩

/-- The answer of the loop at each poll is that of the poll on the last sightings. -/
theorem watch_getElem? (earlier before : List Snapshot) (s : Snapshot) (after : List Snapshot) :
    (watch casing (lastSeen (sightings casing earlier))
        ((before ++ s :: after).map Snapshot.files))[before.length]? =
      some (poll casing (lastSeen (sightings casing (earlier ++ before))) s.files).2 := by
  induction before generalizing earlier with
  | nil => simp [watch]
  | cons first before ih =>
      have hsplit : earlier ++ first :: before = (earlier ++ [first]) ++ before := by simp
      rw [List.cons_append, List.map_cons, watch_cons, List.length_cons,
        List.getElem?_cons_succ, poll_table, ih, hsplit]

theorem Snapshot.map_eq_some_iff (s : Snapshot) (path : Text) (t : Nat) :
    s.map path = some t ↔ ⟨path, t⟩ ∈ s.files := by
  obtain ⟨files, hnodup⟩ := s
  simp only [Snapshot.map]
  induction files with
  | nil => simp
  | cons file files ih =>
      simp only [List.map_cons, List.nodup_cons] at hnodup
      by_cases h : file.fullName = path
      · have hrest : (⟨path, t⟩ : FileInfo) ∉ files := by
          intro hmem
          apply hnodup.1
          rw [h]
          exact List.mem_map.mpr ⟨_, hmem, rfl⟩
        simp only [List.find?_cons, h, decide_true, Option.map_some, Option.some.injEq,
          List.mem_cons, hrest, or_false]
        constructor
        · rintro rfl
          rw [← h]
        · intro heq
          rw [← heq]
      · have hne : (⟨path, t⟩ : FileInfo) ≠ file := by
          rintro rfl
          exact h rfl
        simp only [List.find?_cons, h, decide_false, List.mem_cons, hne, false_or]
        exact ih hnodup.2

/-- Snapshots are the same map when they have the same files, in whatever order. -/
theorem Snapshot.map_eq_iff (s t : Snapshot) :
    s.map = t.map ↔ s.files ⊆ t.files ∧ t.files ⊆ s.files := by
  constructor
  · intro h
    constructor
    · intro file hfile
      rw [← t.map_eq_some_iff, ← h, s.map_eq_some_iff]
      exact hfile
    · intro file hfile
      rw [← s.map_eq_some_iff, h, t.map_eq_some_iff]
      exact hfile
  · rintro ⟨hst, hts⟩
    funext path
    apply Option.ext
    intro time
    rw [s.map_eq_some_iff, t.map_eq_some_iff]
    exact ⟨fun h => hst h, fun h => hts h⟩

/-- When nothing changed, each file's key was last seen in the snapshot before,
with the time of a file that has the same key. -/
theorem lastSeen_of_unchanged {before : List Snapshot} {s : Snapshot}
    (hsame : s.map = (previous before).map) {f : FileInfo} (hf : f ∈ s.files) :
    ∃ g ∈ s.files, casing.key g.fullName = casing.key f.fullName ∧
      lastSeen (sightings casing before) (casing.key f.fullName) = some g.lastWriteTime := by
  obtain ⟨hst, hts⟩ := (Snapshot.map_eq_iff _ _).mp hsame
  rcases List.eq_nil_or_concat before with rfl | ⟨earlier, last, rfl⟩
  · have hnone := hst hf
    simp [previous, Snapshot.empty] at hnone
  · have hlast : previous (earlier ++ [last]) = last := by
      simp [previous]
    rw [List.concat_eq_append] at hst hts ⊢
    rw [hlast] at hst hts
    have hmem : (casing.key f.fullName, f.lastWriteTime) ∈ sightings casing [last] :=
      mem_sightings_singleton.mpr ⟨f, hst hf, rfl⟩
    obtain ⟨t, ht, hseen⟩ := lastSeen_append_of_mem hmem (sightings casing earlier)
    obtain ⟨g, hg, heq⟩ := mem_sightings_singleton.mp ht
    obtain ⟨hkey, htime⟩ := Prod.mk.inj heq
    refine ⟨g, hts hg, hkey, ?_⟩
    rw [sightings_append, htime]
    exact hseen

/-- A poll decides rightly exactly when its snapshot is noticeable. -/
theorem rebuild_right_iff (before : List Snapshot) (s : Snapshot) (after : List Snapshot) :
    ((watch casing noWrites ((before ++ s :: after).map Snapshot.files))[before.length]? =
        some true ↔ s.map ≠ (previous before).map) ↔ Noticeable casing before s := by
  have hrun : (watch casing noWrites ((before ++ s :: after).map Snapshot.files))[before.length]? =
      some (poll casing (lastSeen (sightings casing before)) s.files).2 :=
    watch_getElem? [] before s after
  rw [hrun, Option.some.injEq, poll_rebuilds_iff]
  unfold Noticeable
  by_cases hsame : s.map = (previous before).map
  · simp only [hsame, ne_eq, not_true, iff_false, true_implies, false_implies, and_true]
    constructor
    · intro hquiet f hf g hg hkey
      have hseen (file : FileInfo) (hfile : file ∈ s.files) :
          lastSeen (sightings casing before) (casing.key file.fullName) =
            some file.lastWriteTime := by
        by_contra hnews
        exact hquiet ⟨file, hfile, hnews⟩
      have htimes := (hseen f hf).symm.trans (hkey ▸ hseen g hg)
      exact Option.some.inj htimes
    · rintro htwins ⟨f, hf, hnews⟩
      obtain ⟨g, hg, hkey, hseen⟩ := lastSeen_of_unchanged hsame hf
      apply hnews
      rw [hseen, htwins g hg f hf hkey]
  · simp only [hsame, ne_eq, not_false_eq_true, iff_true, false_implies, true_implies, true_and]

/-- The loop rebuilds exactly on changes if and only if every snapshot is noticeable:
it has a file that was last seen otherwise whenever it differs from the snapshot
before, and otherwise no two paths that the table takes for one and that were written
at different times. What is deleted is never noticed by itself. The condition is on
the history of the file system, for any number of polls and any folding of case. -/
theorem rebuildsOnChange_iff (casing : Casing) (snapshots : List Snapshot) :
    RebuildsOnChange casing snapshots ↔ AtEvery (Noticeable casing) snapshots := by
  apply atEvery_congr
  rintro before s after rfl _
  exact rebuild_right_iff before s after

/-- Deleting the only file changes the snapshot, and the loop does not rebuild. -/
theorem deletion_not_rebuilt :
    let file : FileInfo := ⟨"crates/spine-ssr/src/lib.rs".toList, 1⟩
    ¬ RebuildsOnChange Casing.ascii [Snapshot.single file, Snapshot.empty] := by
  intro file h
  have hrebuild := (h [Snapshot.single file] Snapshot.empty [] rfl).mpr
  have hchanged : Snapshot.empty.map ≠ (previous [Snapshot.single file]).map := by
    rw [ne_eq, Snapshot.map_eq_iff]
    intro hfiles
    exact absurd (hfiles.2 (List.mem_singleton.mpr rfl)) List.not_mem_nil
  exact absurd (hrebuild hchanged) (by decide)

/-- A snapshot that came about by adding and editing files: no file is gone, a
file that is new or changed carries a time its path never had, and no two paths
differ only in case. -/
structure Edited (casing : Casing) (before : List Snapshot) (s : Snapshot) : Prop where
  kept : ∀ f ∈ (previous before).files, ∃ g ∈ s.files, g.fullName = f.fullName
  fresh : ∀ f ∈ s.files, f ∈ (previous before).files ∨
    (casing.key f.fullName, f.lastWriteTime) ∉ sightings casing before
  distinct : ∀ f ∈ s.files, ∀ g ∈ s.files, casing.key f.fullName = casing.key g.fullName → f = g

theorem Edited.noticeable {before : List Snapshot} {s : Snapshot} (h : Edited casing before s) :
    Noticeable casing before s := by
  constructor
  · intro _ f hf g hg hkey
    rw [h.distinct f hf g hg hkey]
  · intro hchanged
    have hnew : ∃ f ∈ s.files, f ∉ (previous before).files := by
      by_contra hnone
      have hsub : s.files ⊆ (previous before).files := by
        intro f hf
        by_contra hf'
        exact hnone ⟨f, hf, hf'⟩
      apply hchanged
      rw [Snapshot.map_eq_iff]
      refine ⟨hsub, ?_⟩
      intro f hf
      obtain ⟨g, hg, hname⟩ := h.kept f hf
      have hfound := ((previous before).map_eq_some_iff _ _).mpr hf
      have hfound' := ((previous before).map_eq_some_iff _ _).mpr (hsub hg)
      rw [hname, hfound, Option.some.injEq] at hfound'
      have hsame : g = f := by
        cases g
        cases f
        simp_all
      exact hsame ▸ hg
    obtain ⟨f, hf, hf'⟩ := hnew
    refine ⟨f, hf, fun hseen => ?_⟩
    rcases h.fresh f hf with hold | hfresh
    · exact hf' hold
    · exact hfresh (mem_of_lastSeen hseen)

/-- As long as files are only added and edited, the loop rebuilds exactly on changes. -/
theorem rebuildsOnChange_of_edited {snapshots : List Snapshot}
    (h : AtEvery (Edited casing) snapshots) : RebuildsOnChange casing snapshots := by
  rintro before s after hsplit
  rw [hsplit]
  exact (rebuild_right_iff before s after).mpr (h before s after hsplit).noticeable

end IdxWorkspace.BuildSsr
