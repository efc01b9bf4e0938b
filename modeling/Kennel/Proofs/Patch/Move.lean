import Kennel.Proofs.Patch.Holds

/-!
# What a step of a run does

A run takes its steps on a disk that others use between them. So what a step does is said here of the disk
at hand, not of the one on which the run began. **Each step changes one place only**, the snapshot or the
one where the live directory is or comes to be (`Run.Move`), and the site holds after it; it stands,
unless there was nothing to copy or a rollback failed.
-/

namespace Kennel

open Node Disk Path

namespace Run

variable {site : PatchSite} {place live root l : Location} {name : String} {ops : List PatchOp}
  {d e : Disk}

/-- What a step of a run does on a disk on which the live directory is at `l`: from a stage to another
stage, and to another disk on which the live directory is at another place perhaps. -/
inductive Move (site : PatchSite) (place live root l : Location) (name : String) (ops : List PatchOp)
    (d : Disk) : RunStage → RunStage → Location → Disk → Prop where
  | copied {e : Disk} (stands : site.Stands place live root l e)
      (beside : SameBeside (root ++ [name]) d e)
      (copy : e.get? (root ++ [name]) = (d.get? l).map Node.copied) :
      Move site place live root l name ops d .snapshot .write l e
  | uncopied {e : Disk} (holds : site.Holds place live root l e)
      (beside : SameBeside (root ++ [name]) d e) (err : DiskError) :
      Move site place live root l name ops d .snapshot (.finished (some (.snapshot err))) l e
  | changed {e : Disk} (stands : site.Stands place live root l e) (beside : SameBeside l d e)
      (edited : e.get? l = (d.get? l).map (PatchOp.editAll ops)) :
      Move site place live root l name ops d .write .rebuild l e
  | unchanged {e : Disk} (stands : site.Stands place live root l e) (beside : SameBeside l d e)
      (cause : PatchError) (undone : cause.isUndone = true)
      (edited : e.get? l = (d.get? l).map (PatchOp.editAll (cause.made ops))) :
      Move site place live root l name ops d .write (.rollback cause) l e
  | rebuilt {e : Disk} (stands : site.Stands place live root l e) (same : e.get? l = d.get? l)
      (snapshots : ∀ name, e.get? (root ++ [name]) = d.get? (root ++ [name]))
      (linked : site.Linked d place live root → site.Linked e place live root) :
      Move site place live root l name ops d .rebuild (.finished none) l e
  | unbuilt {e : Disk} (stands : site.Stands place live root l e) (same : e.get? l = d.get? l)
      (snapshots : ∀ name, e.get? (root ++ [name]) = d.get? (root ++ [name]))
      (linked : site.Linked d place live root → site.Linked e place live root) (message : String) :
      Move site place live root l name ops d .rebuild (.rollback (.rebuild message)) l e
  | restored {l' : Location} {e : Disk} (holds : site.Holds place live root l' e)
      (beside : SameBeside l' d e) (cause : PatchError)
      (back : e.get? l' = (d.get? (root ++ [name])).map Node.copied)
      (unlinked : site.Linked d place live root → l' = place) :
      Move site place live root l name ops d (.rollback cause) (.finished (some cause)) l' e
  | unrestored {l' : Location} {e : Disk} (holds : site.Holds place live root l' e)
      (beside : SameBeside l' d e) (cause : PatchError) (err : DiskError) :
      Move site place live root l name ops d (.rollback cause)
        (.finished (some (.rollback cause.message err))) l' e
  | idle (error : Option PatchError) :
      Move site place live root l name ops d (.finished error) (.finished error) l d

/-- **Every step of a run is such a move.** The snapshot is not there before it is made, and it is there
when it is put back. -/
theorem move {rebuild : Rebuild} (hazards : Hazards) {r : Run} (holds : site.Holds place live root l d)
    (stands : r.stage ≠ .snapshot → site.Stands place live root l d)
    (spares : site.Spares place live root rebuild) (plain : Plain name)
    (apart : PatchSite.Beside place live root name) (path : r.snapshot = join site.snapshotDir name)
    (named : ∀ op ∈ r.patch.ops, Plain op.fileName)
    (fresh : r.stage = .snapshot → d.get? (root ++ [name]) = none)
    (kept : ∀ cause, r.stage = .rollback cause →
      ∃ mode entries, d.get? (root ++ [name]) = some (.dir mode entries)) :
    ∃ l', Move site place live root l name r.patch.ops d r.stage
      (step site rebuild hazards (r, d)).1.stage l' (step site rebuild hazards (r, d)).2 := by
  unfold step
  simp only
  cases stage : r.stage with
  | snapshot =>
    simp only [takeSnapshot, path]
    rcases ran : Disk.run (copyDir site.configDir (join site.snapshotDir name) hazards.snapshot) d with
      ⟨err | ⟨⟩, e⟩ <;> obtain ⟨beside, holds', -, complete⟩ := holds.copy plain (fresh stage) apart ran
    · exact ⟨l, .uncopied holds' beside err⟩
    · obtain ⟨stands', copy⟩ := complete rfl
      exact ⟨l, .copied stands' beside copy⟩
  | write =>
    simp only [write]
    rcases ran : performAll hazards site.configDir 0 d r.patch.ops with ⟨cause | ⟨⟩, e⟩ <;>
      obtain ⟨stands', beside, all, upTo⟩ := (stands (by simp [stage])).performAll named ran
    · obtain ⟨undone, edited⟩ := upTo cause rfl
      exact ⟨l, .unchanged stands' beside cause undone edited⟩
    · exact ⟨l, .changed stands' beside (all rfl)⟩
  | rebuild =>
    have now := stands (by simp [stage])
    have stands' := spares.stands d l now
    have same := spares.same d l now
    have snapshots := fun name => spares.snapshots d l name now
    have linked := spares.linked d holds.sorted
    simp only [rebuildHost]
    rcases ran : rebuild d with ⟨message | _, e⟩ <;> rw [ran] at stands' same snapshots linked
    · exact ⟨l, .rebuilt stands' same snapshots linked⟩
    · exact ⟨l, .unbuilt stands' same snapshots linked _⟩
  | rollback cause =>
    obtain ⟨mode, entries, there⟩ := kept cause stage
    simp only [rollBack, path]
    rcases ran : Disk.run (restoreDir (join site.snapshotDir name) site.configDir hazards.rollback) d with
      ⟨err | ⟨⟩, e⟩ <;>
      obtain ⟨l', holds', beside, complete⟩ := (stands (by simp [stage])).restore plain apart there ran
    · exact ⟨l', .unrestored holds' beside cause err⟩
    · obtain ⟨back, unlinked⟩ := complete rfl
      exact ⟨l', .restored holds' beside cause (by rw [back, there, Option.map_some]) unlinked⟩
  | finished error =>
    refine ⟨l, ?_⟩
    show Move site place live root l name r.patch.ops d (.finished error) r.stage l d
    rw [stage]
    exact .idle error

namespace Move

variable {a b : RunStage} {l' : Location}

/-- A step leaves a snapshot alone, unless it is the one that makes it. -/
theorem snapshots (move : Move site place live root l name ops d a b l' e)
    (holds : site.Holds place live root l d) {other : String}
    (apart : PatchSite.Beside place live root other) (hne : a = .snapshot → name ≠ other) :
    e.get? (root ++ [other]) = d.get? (root ++ [other]) := by
  have elsewhere {j : Location} (at_ : j = place ∨ j = live) (beside : SameBeside j d e) :
      e.get? (root ++ [other]) = d.get? (root ++ [other]) :=
    beside.elsewhere _ (apart j at_).1 (apart j at_).2
  cases move with
  | copied _ beside | uncopied _ beside => exact PatchSite.snapshot_elsewhere (hne rfl) beside
  | changed _ beside | unchanged _ beside => exact elsewhere holds.among beside
  | rebuilt _ _ snapshots | unbuilt _ _ snapshots => exact snapshots other
  | restored holds' beside | unrestored holds' beside => exact elsewhere holds'.among beside
  | idle => rfl

end Move

end Run

end Kennel
