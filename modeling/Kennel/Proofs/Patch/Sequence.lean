import Kennel.Proofs.Patch.Turn

/-!
# Patches one after another

Patches are applied to a site in order, each with a snapshot of its own. Some are applied, some are
rolled back, and some rollbacks fail; a rollback may even leave the live directory at another place. For
each of them the same holds (`patches_in_turn`): **if the patch is applied, its changes are what the live
directory is edited by**, and the last change of a file wins; **and from when its snapshot is complete, the
snapshot is at every later step of any patch a copy of what the live directory was when the patch began**.

What carries over from one patch to the next is `PatchSite.Ready`. It leaves open where the live
directory is, and whether it is there.

That the path of the live directory does not go through the directory is more than a convenience. If it
does, a change may cut the path off; and a snapshot is a copy, in which no file runs in another name
(`looped_host_not_kept`).
-/

namespace Kennel

open Node Disk Path

/-- A patch that is to be applied, with the name of its snapshot, the rebuild after it, and what the device
refuses meanwhile. -/
structure PatchJob where
  action : String
  ops : List PatchOp
  snapshotName : String
  rebuild : Rebuild
  hazards : Hazards := {}

namespace PatchJob

def patch (job : PatchJob) : Patch where
  action := job.action
  ops := job.ops

/-- The disk after the patch was applied, or was not. -/
def after (site : PatchSite) (d : Disk) (job : PatchJob) : Disk :=
  (job.patch.outcome site job.snapshotName job.rebuild d job.hazards).2

/-- The disk after patches were applied in order. -/
def afterAll (site : PatchSite) (d : Disk) (jobs : List PatchJob) : Disk := jobs.foldl (after site) d

/-- A disk after a step of a patch. -/
def Passes (site : PatchSite) (d : Disk) (job : PatchJob) (e : Disk) : Prop :=
  ∃ start n, Run.begin job.patch site job.snapshotName = .ok start ∧
    e = ((Run.step site job.rebuild job.hazards)^[n + 1] (start, d)).2

/-- A disk after a step of one of these patches, which are applied in order. -/
def PassesIn (site : PatchSite) (d : Disk) (jobs : List PatchJob) (e : Disk) : Prop :=
  ∃ before job later, jobs = before ++ job :: later ∧ job.Passes site (afterAll site d before) e

/-- A patch whose changes are about files of the live directory, and whose rebuild touches neither
directory. -/
structure Fits (job : PatchJob) (site : PatchSite) (place live root : Location) : Prop where
  plain : Plain job.snapshotName
  ids : ∀ op ∈ job.ops, ∀ id, op.pupId? = some id → '/' ∉ id.toList
  spares : site.Spares place live root job.rebuild

theorem Fits.named {job : PatchJob} {site : PatchSite} {place live root : Location}
    (fits : job.Fits site place live root) : ∀ op ∈ job.ops, Plain op.fileName :=
  fun op hop => PatchOp.plain_fileName (fits.ids op hop)

end PatchJob

/-- A site on which these patches can be applied next: their snapshots are not there yet. -/
structure PatchSite.Ready (site : PatchSite) (place live root : Location) (d : Disk)
    (jobs : List PatchJob) : Prop where
  holds : ∃ l, site.Holds place live root l d
  fits : ∀ job ∈ jobs, job.Fits site place live root
  beside : ∀ job ∈ jobs, Beside place live root job.snapshotName
  fresh : ∀ job ∈ jobs, d.get? (root ++ [job.snapshotName]) = none
  distinct : (jobs.map (·.snapshotName)).Nodup

theorem Run.snapshotPath_iterate {site : PatchSite} {rebuild : Rebuild} {hazards : Hazards}
    (state : Run × Disk) (n : Nat) :
    ((Run.step site rebuild hazards)^[n + 1] state).1.patch.snapshotPath =
      (Run.step site rebuild hazards state).1.patch.snapshotPath := by
  induction n with
  | zero => rfl
  | succ n ih =>
    rw [Function.iterate_succ_apply', snapshotPath_step ?_, ih]
    rw [Function.iterate_succ_apply']
    exact stage_step_ne_snapshot site rebuild hazards _

namespace PatchJob

variable {site : PatchSite} {d e : Disk} {job : PatchJob} {jobs : List PatchJob}

/-- A patch that is to be applied is pending. -/
theorem begins (job : PatchJob) (site : PatchSite) :
    ∃ start, Run.begin job.patch site job.snapshotName = .ok start := ⟨_, if_pos rfl⟩

theorem after_eq {start : Run} (begun : Run.begin job.patch site job.snapshotName = .ok start)
    (d : Disk) : job.after site d = ((Run.step site job.rebuild job.hazards)^[4] (start, d)).2 := by
  rw [after, Patch.outcome_begun begun]

theorem passes_after (job : PatchJob) (site : PatchSite) (d : Disk) :
    job.Passes site d (job.after site d) := by
  obtain ⟨start, begun⟩ := job.begins site
  exact ⟨start, 3, begun, after_eq begun d⟩

/-- What is passed in the course of patches is passed by the first or in the course of the others. -/
theorem passesIn_cons (h : PassesIn site d (job :: jobs) e) :
    job.Passes site d e ∨ PassesIn site (job.after site d) jobs e := by
  obtain ⟨before, passed, later, split, passes⟩ := h
  cases before with
  | nil =>
    cases split
    exact .inl passes
  | cons first before =>
    cases split
    exact .inr ⟨before, passed, later, rfl, passes⟩

end PatchJob

namespace PatchSite.Ready

variable {site : PatchSite} {place live root : Location} {d e : Disk} {job : PatchJob}
  {jobs before : List PatchJob}

/-- A site is ready for patches with snapshots that are not there yet. -/
theorem begin (sorted : d.Sorted) (found : site.Found d place live root)
    (fits : ∀ job ∈ jobs, job.Fits site place live root)
    (fresh : ∀ job ∈ jobs, d.get? (root ++ [job.snapshotName]) = none)
    (distinct : (jobs.map (·.snapshotName)).Nodup) : site.Ready place live root d jobs := by
  exact ⟨⟨live, (found.stands sorted).toHolds⟩, fits, fun job hjob => found.apart (fresh job hjob), fresh,
    distinct⟩

/-- The next patch runs in order, with the live directory where it is now. -/
theorem inTurn (ready : site.Ready place live root d (job :: jobs)) {l : Location}
    (holds : site.Holds place live root l d) {start : Run}
    (begun : Run.begin job.patch site job.snapshotName = .ok start) (n : Nat) :
    Run.InTurn site place live root l job.snapshotName job.ops d
      ((Run.step site job.rebuild job.hazards)^[n] (start, d)) := by
  have fits := ready.fits job List.mem_cons_self
  have begins : Run.InTurn site place live root l job.snapshotName job.ops d (start, d) := .begin rfl begun
  exact begins.iterate job.hazards holds fits.plain (ready.fresh job List.mem_cons_self)
    (ready.beside job List.mem_cons_self) fits.named fits.spares n

/-- A patch leaves the snapshots of others alone. -/
theorem same_of_passes (ready : site.Ready place live root d (job :: jobs))
    (passes : job.Passes site d e) {other : String} (hne : job.snapshotName ≠ other)
    (beside : Beside place live root other) : e.get? (root ++ [other]) = d.get? (root ++ [other]) := by
  obtain ⟨start, n, begun, rfl⟩ := passes
  obtain ⟨l, holds⟩ := ready.holds
  exact (ready.inTurn holds begun (n + 1)).others other hne beside

/-- **After a patch the site is ready for the next**, however it went. -/
theorem next (ready : site.Ready place live root d (job :: jobs)) :
    site.Ready place live root (job.after site d) jobs := by
  obtain ⟨l, holds⟩ := ready.holds
  obtain ⟨start, begun⟩ := job.begins site
  obtain ⟨first, distinct⟩ := List.nodup_cons.1 ready.distinct
  refine ⟨?_, fun job h => ready.fits job (.tail _ h), fun job h => ready.beside job (.tail _ h),
    fun later h => ?_, distinct⟩
  · rw [PatchJob.after_eq begun]
    exact (ready.inTurn holds begun 4).stage.holds holds
  · rw [ready.same_of_passes (job.passes_after site d) (fun same => ?_) (ready.beside later (.tail _ h))]
    · exact ready.fresh later (.tail _ h)
    · exact first (List.mem_map.2 ⟨later, h, same.symm⟩)

theorem afterAll (ready : site.Ready place live root d (before ++ jobs)) :
    site.Ready place live root (PatchJob.afterAll site d before) jobs := by
  induction before generalizing d with
  | nil => exact ready
  | cons job before ih => exact ih ready.next

/-- In the course of patches every snapshot stays that is not theirs. -/
theorem same_of_passesIn (ready : site.Ready place live root d jobs)
    (passes : PatchJob.PassesIn site d jobs e) {other : String}
    (others : ∀ job ∈ jobs, job.snapshotName ≠ other) (beside : Beside place live root other) :
    e.get? (root ++ [other]) = d.get? (root ++ [other]) := by
  induction jobs generalizing d with
  | nil =>
    obtain ⟨before, job, later, split, -⟩ := passes
    simp at split
  | cons job jobs ih =>
    have first := others job List.mem_cons_self
    rcases PatchJob.passesIn_cons passes with now | later
    · exact ready.same_of_passes now first beside
    · rw [ih ready.next later fun job h => others job (.tail _ h)]
      exact ready.same_of_passes (job.passes_after site d) first beside

/-- **A patch that is applied has edited the live directory.** -/
theorem tree_of_applied (ready : site.Ready place live root d (job :: jobs)) {start : Run}
    (begun : Run.begin job.patch site job.snapshotName = .ok start) (n : Nat)
    (ended : ((Run.step site job.rebuild job.hazards)^[n] (start, d)).1.stage = .finished none) :
    ∃ mode entries, site.tree d = some (.dir mode entries) ∧
      site.tree ((Run.step site job.rebuild job.hazards)^[n] (start, d)).2 =
        some (PatchOp.editAll job.ops (.dir mode entries)) := by
  obtain ⟨l, holds⟩ := ready.holds
  have last : Run.Underway site place live root l job.snapshotName d
      ((Run.step site job.rebuild job.hazards)^[n] (start, d)).2 job.ops := by
    have stage := (ready.inTurn holds begun n).stage
    rwa [ended] at stage
  obtain ⟨mode, entries, hd⟩ := last.directory
  refine ⟨mode, entries, holds.tree_eq.trans hd, ?_⟩
  rw [last.stands.tree_eq, last.edited, hd, Option.map_some]

/-- **A snapshot that is complete stays a copy of what the live directory was.** -/
theorem snapshot_of_passesIn (ready : site.Ready place live root d (job :: jobs)) {start : Run}
    (begun : Run.begin job.patch site job.snapshotName = .ok start) (n : Nat)
    {path : String}
    (taken : ((Run.step site job.rebuild job.hazards)^[n + 1] (start, d)).1.patch.snapshotPath = some path)
    (passes : PatchJob.PassesIn site d (job :: jobs) e) :
    path = join site.snapshotDir job.snapshotName ∧
      ∃ mode entries, site.tree d = some (.dir mode entries) ∧
        e.get? (root ++ [job.snapshotName]) = some (dir mode entries).copied := by
  obtain ⟨l, holds⟩ := ready.holds
  rw [Run.snapshotPath_iterate] at taken
  have complete (m : Nat) : path = join site.snapshotDir job.snapshotName ∧
      (∃ mode entries, d.get? l = some (.dir mode entries)) ∧
      ((Run.step site job.rebuild job.hazards)^[m + 1] (start, d)).2.get? (root ++ [job.snapshotName]) =
        (d.get? l).map copied :=
    (ready.inTurn holds begun (m + 1)).taken path (by rwa [Run.snapshotPath_iterate])
  obtain ⟨named, ⟨mode, entries, hd⟩, last⟩ := complete 3
  refine ⟨named, mode, entries, holds.tree_eq.trans hd, ?_⟩
  rcases PatchJob.passesIn_cons passes with ⟨start', m, begun', rfl⟩ | later
  · cases begun.symm.trans begun'
    rw [(complete m).2.2, hd, Option.map_some]
  · have first := (List.nodup_cons.1 ready.distinct).1
    rw [ready.next.same_of_passesIn later (fun job h same => first (List.mem_map.2 ⟨job, h, same⟩))
      (ready.beside job List.mem_cons_self), PatchJob.after_eq begun, last, hd, Option.map_some]

end PatchSite.Ready

/-- **Patches one after another.** The path of the live directory leads to it, directly or through a link,
and the patches fit the site, with snapshots of different names that are not there yet. If one of them is
applied, the tree that the path leads to is the one that it led to before, edited by the changes in order:
of each file the last change counts, and all other entries are what they were. And if its snapshot was
completed, then from there on, after every step of this patch and of the later ones, the snapshot is a
copy of the tree that the path led to before. -/
theorem patches_in_turn {site : PatchSite} {d : Disk} {place live root : Location}
    {jobs before later : List PatchJob} {job : PatchJob} (sorted : d.Sorted)
    (found : site.Found d place live root) (fits : ∀ job ∈ jobs, job.Fits site place live root)
    (fresh : ∀ job ∈ jobs, d.get? (root ++ [job.snapshotName]) = none)
    (distinct : (jobs.map (·.snapshotName)).Nodup) (split : jobs = before ++ job :: later) :
    ∃ r, job.patch.apply site job.snapshotName job.rebuild (PatchJob.afterAll site d before) job.hazards =
        .ok (r, PatchJob.afterAll site d (before ++ [job])) ∧
      (r.patch.state = .applied →
        ∃ mode entries entries',
          site.tree (PatchJob.afterAll site d before) = some (.dir mode entries) ∧
          site.tree (PatchJob.afterAll site d (before ++ [job])) = some (.dir mode entries') ∧
          .dir mode entries' = PatchOp.editAll job.ops (.dir mode entries) ∧
          ∀ file, entries'.lookup file =
            match (job.ops.filter fun op => op.fileName = file).getLast? with
            | some op => op.contents?.map fun c => .file c.toUTF8 Mode.privateFile
            | none => entries.lookup file) ∧
      (∀ path, r.patch.snapshotPath = some path → path = join site.snapshotDir job.snapshotName ∧
        ∃ mode entries, site.tree (PatchJob.afterAll site d before) = some (.dir mode entries) ∧
          ∀ e, PatchJob.PassesIn site (PatchJob.afterAll site d before) (job :: later) e →
            e.get? (root ++ [job.snapshotName]) = some (dir mode entries).copied) := by
  subst split
  have ready := (PatchSite.Ready.begin sorted found fits fresh distinct).afterAll
  obtain ⟨start, begun⟩ := job.begins site
  have next : PatchJob.afterAll site d (before ++ [job]) =
      ((Run.step site job.rebuild job.hazards)^[4] (start, PatchJob.afterAll site d before)).2 := by
    rw [PatchJob.afterAll, List.foldl_append]
    exact PatchJob.after_eq begun _
  rw [next]
  generalize PatchJob.afterAll site d before = now at ready ⊢
  have stage := (Run.begin_ok begun).1
  refine ⟨((Run.step site job.rebuild job.hazards)^[4] (start, now)).1, by rw [Patch.apply, begun]; rfl,
    fun applied => ?_, fun path taken => ?_⟩
  · have ended : ((Run.step site job.rebuild job.hazards)^[4] (start, now)).1.stage = .finished none := by
      rcases Run.ends site job.rebuild job.hazards now stage with ⟨ended, -⟩ | ⟨e, -, errored⟩
      · exact ended
      · cases applied.symm.trans errored
    obtain ⟨mode, entries, before, after⟩ := ready.tree_of_applied begun 4 ended
    obtain ⟨entries', edited⟩ := PatchOp.editAll_dir job.ops mode entries
    refine ⟨mode, entries, entries', before, after.trans (congrArg some edited), edited.symm,
      fun file => ?_⟩
    have entry (es : List (String × Node)) : (dir mode es).get? [file] = es.lookup file :=
      get?_append_singleton (get?_nil (dir mode es)) file
    have law := PatchOp.get?_editAll job.ops (n := .dir mode entries) rfl file
    rwa [edited, entry, entry] at law
  · obtain ⟨named, mode, entries, before, -⟩ := ready.snapshot_of_passesIn begun 3 taken
      ⟨[], job, later, rfl, job.passes_after site now⟩
    refine ⟨named, mode, entries, before, fun e passes => ?_⟩
    obtain ⟨-, mode', entries', same, snapshot⟩ := ready.snapshot_of_passesIn begun 3 taken passes
    cases same.symm.trans before
    exact snapshot

def refusedJob : PatchJob := ⟨"a", [.writeNetwork "new"], "s", refuse, {}⟩

def acceptedJob : PatchJob :=
  ⟨"b", [.writePup "x" "1", .removePup "x", .writePup "x" "2"], "t", accept, {}⟩

/-- After a rollback that has put a directory in the place of the link, the next patch is applied there. -/
theorem patches_in_turn_linked :
    ∃ r, acceptedJob.patch.apply linkedSite "t" accept
        (PatchJob.afterAll linkedSite linkedHost [refusedJob]) =
          .ok (r, PatchJob.afterAll linkedSite linkedHost [refusedJob, acceptedJob]) ∧
      r.patch.state = .applied ∧ r.patch.snapshotPath = some "kept/t" ∧
      ∃ mode entries entries',
        linkedSite.tree (PatchJob.afterAll linkedSite linkedHost [refusedJob]) =
          some (.dir mode entries) ∧
        linkedSite.tree (PatchJob.afterAll linkedSite linkedHost [refusedJob, acceptedJob]) =
          some (.dir mode entries') ∧
        (PatchJob.afterAll linkedSite linkedHost [refusedJob, acceptedJob]).get? ["kept", "t"] =
          some (dir mode entries).copied ∧
        entries'.lookup "pup_x.nix" = some (.file "2".toUTF8 Mode.privateFile) ∧
        entries'.lookup "a.nix" = entries.lookup "a.nix" := by
  have fits : ∀ job ∈ [refusedJob, acceptedJob], job.Fits linkedSite ["config"] ["real"] ["kept"] := by
    simp only [List.forall_mem_cons]
    exact ⟨⟨⟨by decide, by decide, by decide, by decide⟩, by decide, PatchSite.spares_answer _ _ _ _ _⟩,
      ⟨⟨by decide, by decide, by decide, by decide⟩, by decide, PatchSite.spares_answer _ _ _ _ _⟩,
      nofun⟩
  have fresh : ∀ job ∈ [refusedJob, acceptedJob],
      linkedHost.get? (["kept"] ++ [job.snapshotName]) = none := by
    simp only [List.forall_mem_cons]
    exact ⟨rfl, rfl, nofun⟩
  have ended : (acceptedJob.patch.apply linkedSite "t" accept
      (PatchJob.afterAll linkedSite linkedHost [refusedJob])).toOption.map
        (fun p => (p.1.patch.state, p.1.patch.snapshotPath)) = some (.applied, some "kept/t") := by
    decide +kernel
  have split : [refusedJob, acceptedJob] = [refusedJob] ++ acceptedJob :: [] := rfl
  obtain ⟨r, ran, edited, kept⟩ := patches_in_turn sorted_linkedHost (.inr linked_linkedHost) fits fresh
    (by decide) split
  rw [show acceptedJob.patch.apply linkedSite "t" accept _ = _ from ran] at ended
  obtain ⟨state, path⟩ := Prod.mk.inj (Option.some.inj ended)
  obtain ⟨mode, entries, entries', before, after, -, law⟩ := edited state
  obtain ⟨-, mode', entries'', same, snapshot⟩ := kept _ path
  cases before.symm.trans same
  refine ⟨r, ran, state, path, mode, entries, entries', before, after, ?_,
    (law "pup_x.nix").trans (by rfl), (law "a.nix").trans (by rfl)⟩
  exact snapshot _ ⟨[], acceptedJob, [], rfl, acceptedJob.passes_after _ _⟩

/-- A host on which the path of the live directory goes through a link in the directory. A program there
runs in the name of its owner. -/
def loopHost : Disk :=
  .dir 0o755 [("config", .link "real/pup_a.nix"), ("kept", .emptyDir),
    ("real", .dir 0o755 [("keep", .file ⟨#[120]⟩ 0o4755), ("pup_a.nix", .link ".")])]

/-- **A change may cut off the path of the live directory**: if the path goes through a link in the
directory, and the file that takes the place of the link is all that the path leads to afterwards. **And a
snapshot does not keep that a program runs in the name of its owner.** -/
theorem looped_host_not_kept :
    (linkedSite.tree loopHost).map Node.isDir = some true ∧
      (Patch.apply ⟨"a", [.writePup "a" "a"], .pending, none, none⟩ linkedSite "s" accept
        loopHost).toOption.map (fun p => (p.1.patch.state, (linkedSite.tree p.2).map Node.isDir)) =
          some (.applied, some false) ∧
      ∀ r e, Patch.apply ⟨"a", [.writePup "a" "a"], .pending, none, none⟩ linkedSite "s" accept
        loopHost = .ok (r, e) →
          linkedSite.tree e ≠ (linkedSite.tree loopHost).map (PatchOp.editAll [.writePup "a" "a"]) ∧
          r.patch.snapshotPath = some "kept/s" ∧
          e.get? ["kept", "s"] ≠ linkedSite.tree loopHost := by
  have before : (linkedSite.tree loopHost).map Node.isDir = some true := by decide +kernel
  have after : (Patch.apply ⟨"a", [.writePup "a" "a"], .pending, none, none⟩ linkedSite "s" accept
      loopHost).toOption.map (fun p => (p.1.patch.state, (linkedSite.tree p.2).map Node.isDir)) =
        some (.applied, some false) := by decide +kernel
  have program : ((linkedSite.tree loopHost).bind (·.get? ["keep"])).map Node.mode = some 0o4755 := by
    decide +kernel
  have kept : (Patch.apply ⟨"a", [.writePup "a" "a"], .pending, none, none⟩ linkedSite "s" accept
      loopHost).toOption.map (fun p => (p.1.patch.snapshotPath,
        ((p.2.get? ["kept", "s"]).bind (·.get? ["keep"])).map Node.mode)) =
          some (some "kept/s", some 0o755) := by decide +kernel
  refine ⟨before, after, fun r e ran => ?_⟩
  rw [ran] at after kept
  obtain ⟨path, mode⟩ := Prod.mk.inj (Option.some.inj kept)
  refine ⟨fun same => ?_, path, fun same => ?_⟩
  · have after : (linkedSite.tree e).map Node.isDir = some false :=
      congrArg Prod.snd (Option.some.inj after)
    obtain ⟨n, there, directory⟩ := Option.map_eq_some_iff.1 before
    rw [same, there, Option.map_some, Option.map_some, Option.some_inj] at after
    exact absurd (PatchOp.isDir_edit (.writePup "a" "a") directory)
      (by simpa [PatchOp.editAll] using after)
  · rw [same, program] at mode
    cases mode

end Kennel
