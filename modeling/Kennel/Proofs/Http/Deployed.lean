import Kennel.Http.Server
import Kennel.Proofs.Manager.Reload
import Kennel.Proofs.Nix.Imports
import Kennel.Proofs.Patch.Turn

/-!
# Which imported files are there

A request to apply the configuration of a pup writes the file of that pup only, and the list of
containers from the records of all pups. So a file that the list imports can be missing
(`imported_file_missing`). What is there follows from the history of the host: **the file of a pup is in
the live directory exactly if a patch for it was applied** (`Host.Settled`), whatever was called in
between, as long as no rollback failed. And whenever a patch is applied, the list imports the files of
exactly the installed pups (`imported_iff_applied`).
-/

namespace Kennel

open Node Disk Path

/-! ## The patch of a pup -/

/-- Changes that are staged on a pending patch are added to it. -/
theorem Patch.stageAll_pending {p : Patch} (pending : p.state = .pending) (ops : List PatchOp) :
    p.stageAll ops = .ok { p with ops := p.ops ++ ops } := by
  induction ops generalizing p with
  | nil => simp [stageAll, pure, Except.pure]
  | cons op ops ih =>
    have first : p.stage op = .ok { p with ops := p.ops ++ [op] } := if_pos pending
    have rest := ih (p := { p with ops := p.ops ++ [op] }) pending
    rw [stageAll, List.foldlM_cons, first]
    exact rest.trans (by simp)

/-- The patch of an installed pup has three changes. -/
theorem PatchOp.forPup_installed {g : Registry} (indexed : g.Indexed) {id : String} {r : Record}
    (found : g.records.get? id = some r) : forPup g.list id =
      [writePup id (Nix.pupConfig r (Nix.peerIndex g.list)),
        writeFirewall (Nix.firewallRules g.list), writeContainers (Nix.systemContainers g.list)] := by
  have single : ∀ a ∈ g.list, ∀ b ∈ g.list, a.id = b.id → a = b :=
    fun a ha b hb => indexed.eq_of_mem_list ha hb
  have keyed := indexed.keyed id r found
  have peer : (Nix.peerIndex g.list).get? id = some r :=
    (Registry.get?_ofList_ids single (fun r => r) id r).2
      ⟨r, indexed.mem_list_iff.2 (keyed ▸ found), keyed, rfl⟩
  simp only [forPup, peer]
  rfl

/-- **What the patch of an installed pup makes of a directory**: the file of the pup, the ports of the
firewall and the list of containers are written, and everything else is left alone. -/
theorem PatchOp.get?_forPup {g : Registry} (indexed : g.Indexed) {id : String} {r : Record}
    (found : g.records.get? id = some r) {n : Node} (directory : n.isDir = true) (name : String) :
    (editAll (forPup g.list id) n).get? [name] =
      if name = "system_container.nix" then
        some (.file (Nix.systemContainers g.list).toUTF8 Mode.privateFile)
      else if name = "firewall.nix" then
        some (.file (Nix.firewallRules g.list).toUTF8 Mode.privateFile)
      else if name = Nix.pupFileName id then
        some (.file (Nix.pupConfig r (Nix.peerIndex g.list)).toUTF8 Mode.privateFile)
      else n.get? [name] := by
  have written := isDir_edit (writePup id (Nix.pupConfig r (Nix.peerIndex g.list))) directory
  have opened := isDir_edit (writeFirewall (Nix.firewallRules g.list)) written
  rw [forPup_installed indexed found]
  simp only [editAll, List.foldl_cons, List.foldl_nil]
  rw [get?_edit _ opened, get?_edit _ written, get?_edit _ directory]
  rfl

namespace Http

/-- An ID that can be in the name of a file and on one line, as one of hexadecimal digits can. -/
structure PlainId (id : String) : Prop where
  noSlash : '/' ∉ id.toList
  noBreak : '\n' ∉ id.toList

/-- A new pup gets a plain ID, whatever IDs are in use. -/
def PicksPlain : Call → Prop
  | .adopt ids _ _ _ => ∀ used, PlainId (ids.pick used)
  | _ => True

/-- How a request to apply the configuration of a pup ends: the disk after it, and the run. -/
inductive Deployment (site : PatchSite) (live root : Location) (g : Registry) (id : String) (d : Disk) :
    Disk → Option Run → Prop where
  | refused : Deployment site live root g id d d none
  | applied {r : Run} {e : Disk} (state : r.patch.state = .applied) (ends : r.error? = none)
      (installed : (g.records.get? id).isSome) (stands : site.Stands live live root live e)
      (edited : e.get? live = (d.get? live).map (PatchOp.editAll (PatchOp.forPup g.list id))) :
      Deployment site live root g id d e (some r)
  | failed {r : Run} {e : Disk} {cause : PatchError} (state : r.patch.state ≠ .applied)
      (ends : r.error? = some cause)
      (back : cause.isFatal = false →
        site.Stands live live root live e ∧ e.get? live = (d.get? live).map cause.leaves) :
      Deployment site live root g id d e (some r)

section

variable {site : PatchSite} {live root : Location} {d : Disk} {name : String} {rebuild : Rebuild}
  {m : Manager}

/-- **Every request to apply the configuration of a pup ends like this.** -/
theorem Server.deployment (indexed : m.registry.Indexed)
    (plainIds : ∀ k, (m.registry.records.get? k).isSome → PlainId k)
    (stands : site.Stands live live root live d) (plain : Plain name)
    (fresh : d.get? (root ++ [name]) = none) (spares : site.Spares live live root rebuild)
    (hazards : Hazards) (id : String) :
    Deployment site live root m.registry id d
      (Server.applyConfig ⟨m, some site⟩ id name rebuild d hazards).2.1
      (Server.applyConfig ⟨m, some site⟩ id name rebuild d hazards).2.2 := by
  unfold Server.applyConfig
  cases looked : m.registry.get id with
  | error err => exact .refused
  | ok rec =>
    have found := Registry.get_eq_ok_iff.1 looked
    have installed : (m.registry.records.get? id).isSome := by
      rw [found]
      rfl
    have ops := PatchOp.forPup_installed indexed found
    have named : ∀ op ∈ PatchOp.forPup m.registry.list id, Plain op.fileName := by
      refine fun op hop => PatchOp.plain_fileName fun k hk => ?_
      rw [ops] at hop
      have same : id = k := by
        rcases List.mem_cons.1 hop with rfl | hop
        · exact Option.some.inj hk
        · rcases List.mem_cons.1 hop with rfl | hop
          · cases hk
          · obtain rfl := List.mem_singleton.1 hop
            cases hk
      exact (plainIds k (same ▸ installed)).noSlash
    have beside : PatchSite.Beside live live root name :=
      PatchSite.Found.apart (.inl ⟨rfl, stands.laid.2⟩) fresh
    obtain ⟨r, e, ran, ended⟩ := Patch.apply_alone
      (p := { action := "apply-config-" ++ id, ops := PatchOp.forPup m.registry.list id }) hazards rfl rfl
      stands spares plain fresh beside named
    have staged : (Patch.stageAll { action := "apply-config-" ++ id }
        (PatchOp.forPup m.registry.list id) >>= (Patch.apply · site name rebuild d hazards)) =
          .ok (r, e) := by
      rw [Patch.stageAll_pending rfl]
      exact ran
    simp only [staged]
    rcases ended with ⟨state, ends, stands', edited⟩ | ⟨cause, state, ends, back⟩
    · rw [ends]
      exact .applied state ends installed stands' edited
    · rw [ends]
      refine .failed state ends fun notFatal => ?_
      obtain ⟨l, stands', left⟩ := back notFatal
      obtain rfl := stands'.laid.1
      exact ⟨stands', left⟩

end

/-! ## A host and its history -/

/-- A host that is served: its manager, its disk, and what became of the patches so far. -/
structure Host where
  manager : Manager
  disk : Disk
  /-- The pups for which a patch was applied. -/
  applied : List String := []
  /-- A rollback failed, so that the live directory may be inconsistent. -/
  lost : Bool := false

/-- What happens on a host. -/
inductive Event where
  /-- The manager is called; the records are stored on a disk of any kind. -/
  | call (c : Call) (records : Disk)
  /-- The configuration of a pup is applied. -/
  | apply (id snapshotName : String) (rebuild : Rebuild) (hazards : Hazards)
  /-- Something else changes the disk. -/
  | change (after : Disk)

/-- A patch was applied by a request. -/
def endedApplied (run? : Option Run) : Bool := run?.any fun r => r.patch.state = .applied

/-- A request ended with a rollback that failed. -/
def endedLost (run? : Option Run) : Bool := run?.any fun r => r.error?.any (·.isFatal)

namespace Host

/-- What a request to apply the configuration of a pup leads to. -/
def request (site : PatchSite) (h : Host) (id snapshotName : String) (rebuild : Rebuild)
    (hazards : Hazards) : Except ManagerError Json.Value × Disk × Option Run :=
  Server.applyConfig ⟨h.manager, some site⟩ id snapshotName rebuild h.disk hazards

/-- The host after a request for a pup left this disk and this run. -/
def after (h : Host) (id : String) (disk : Disk) (run? : Option Run) : Host :=
  { h with
    disk
    applied := if endedApplied run? then id :: h.applied else h.applied
    lost := h.lost || endedLost run? }

def step (site : PatchSite) (h : Host) : Event → Host
  | .call c records => { h with manager := (c.run h.manager records).2.1 }
  | .apply id snapshotName rebuild hazards =>
    let (_, disk, run?) := h.request site id snapshotName rebuild hazards
    h.after id disk run?
  | .change after => { h with disk := after }

/-- What may happen: new pups get plain IDs, snapshots get names that are not taken, and nothing but the
requests touches the live directory. -/
def Allows (site : PatchSite) (live root : Location) (h : Host) : Event → Prop
  | .call c _ => PicksPlain c
  | .apply _ snapshotName rebuild _ => Plain snapshotName ∧
      h.disk.get? (root ++ [snapshotName]) = none ∧ site.Spares live live root rebuild
  | .change after => site.Stands live live root live after ∧ after.get? live = h.disk.get? live

/-- A host that other events lead to. -/
inductive Reaches (site : PatchSite) (live root : Location) (start : Host) : Host → Prop
  | refl : Reaches site live root start start
  | step {h : Host} (reached : Reaches site live root start h) {e : Event}
      (allowed : h.Allows site live root e) : Reaches site live root start (h.step site e)

/-- A host on which no patch was applied yet. -/
structure Fresh (site : PatchSite) (live root : Location) (h : Host) : Prop where
  indexed : h.manager.registry.Indexed
  plainIds : ∀ k, (h.manager.registry.records.get? k).isSome → PlainId k
  stands : site.Stands live live root live h.disk
  empty : ∃ mode, h.disk.get? live = some (.dir mode [])
  unapplied : h.applied = []

end Host

/-- There is a file of this name in the live directory. -/
def hasFile (live : Location) (d : Disk) (name : String) : Bool :=
  (d.get? (live ++ [name])).any Node.isFile

/-- What an error leaves of the live directory has the same files. -/
theorem hasFile_leaves {live : Location} {d e : Disk} {cause : PatchError}
    (left : e.get? live = (d.get? live).map cause.leaves) (name : String) :
    hasFile live e name = hasFile live d name := by
  unfold hasFile
  rw [get?_append, get?_append, left]
  cases d.get? live with
  | none => rfl
  | some n =>
    show ((cause.leaves n).get? [name]).any Node.isFile = (n.get? [name]).any Node.isFile
    unfold PatchError.leaves
    split
    · rw [get?_copied]
      cases n.get? [name] with
      | none => rfl
      | some x => exact isFile_copied x
    · rfl

/-- The files that the container list in the live directory imports. -/
def imported (live : Location) (d : Disk) : List String :=
  match d.get? (live ++ ["system_container.nix"]) with
  | some (.file bytes _) => ((String.fromUTF8? bytes).map Nix.importedFiles).getD []
  | _ => []

namespace Host

/-- **The files of pups in the live directory are those of the pups for which a patch was applied.** -/
structure Settled (site : PatchSite) (live root : Location) (h : Host) : Prop where
  indexed : h.manager.registry.Indexed
  plainIds : ∀ k, (h.manager.registry.records.get? k).isSome → PlainId k
  stands : h.lost = false → site.Stands live live root live h.disk
  files : h.lost = false → ∀ k, hasFile live h.disk (Nix.pupFileName k) = true ↔ k ∈ h.applied

namespace Settled

variable {site : PatchSite} {live root : Location} {h : Host} {id name : String} {rebuild : Rebuild}
  {hazards : Hazards}

/-- After a patch was applied, the installed pups are imported, and there is one more file of a pup
at most. -/
theorem applied (settled : h.Settled site live root) (known : h.lost = false) {e : Disk}
    (installed : (h.manager.registry.records.get? id).isSome)
    (edited : e.get? live = (h.disk.get? live).map
      (PatchOp.editAll (PatchOp.forPup h.manager.registry.list id))) :
    imported live e = (Nix.sortedIds h.manager.registry.list).map Nix.pupFileName ∧
      ∀ k, hasFile live e (Nix.pupFileName k) = true ↔ k ∈ id :: h.applied := by
  obtain ⟨r, found⟩ := Option.isSome_iff_exists.1 installed
  obtain ⟨mode, entries, there⟩ := (settled.stands known).directory
  have entry : ∀ name, e.get? (live ++ [name]) =
      (PatchOp.editAll (PatchOp.forPup h.manager.registry.list id) (.dir mode entries)).get? [name] := by
    intro name
    rw [get?_append, edited, there]
    rfl
  have before : ∀ name, (Node.dir mode entries).get? [name] = h.disk.get? (live ++ [name]) := by
    intro name
    rw [get?_append, there]
    rfl
  constructor
  · have unbroken : ∀ r ∈ h.manager.registry.list, '\n' ∉ r.id.toList := by
      intro r hr
      obtain ⟨k, found⟩ := Dict.mem_values_iff.1 (List.mem_mergeSort.1 hr)
      rw [settled.indexed.keyed k r found]
      exact (settled.plainIds k (by rw [found]; rfl)).noBreak
    unfold imported
    rw [entry, PatchOp.get?_forPup settled.indexed found rfl, if_pos rfl]
    simp only [Glyph.fromUTF8?_toUTF8, Option.map_some, Option.getD_some]
    exact Nix.importedFiles_systemContainers unbroken
  · intro k
    unfold hasFile
    rw [entry, PatchOp.get?_forPup settled.indexed found rfl,
      if_neg (Nix.pupFileName_ne (by decide) k), if_neg (Nix.pupFileName_ne (by decide) k), before,
      List.mem_cons, ← settled.files known k]
    by_cases same : k = id
    · rw [if_pos (congrArg _ same)]
      exact ⟨fun _ => .inl same, fun _ => rfl⟩
    · rw [if_neg fun e => same (Nix.pupFileName_injective e)]
      exact ⟨.inr, fun h => h.resolve_left same⟩

/-- How a request on a settled host ends. -/
theorem deployment (settled : h.Settled site live root) (known : h.lost = false)
    (allowed : h.Allows site live root (.apply id name rebuild hazards)) :
    Deployment site live root h.manager.registry id h.disk (h.request site id name rebuild hazards).2.1
      (h.request site id name rebuild hazards).2.2 :=
  Server.deployment settled.indexed settled.plainIds (settled.stands known) allowed.1 allowed.2.1
    allowed.2.2 hazards id

/-- A request keeps a host settled however it ends. -/
theorem after (settled : h.Settled site live root) {disk : Disk} {run? : Option Run}
    (ended : h.lost = false →
      Deployment site live root h.manager.registry id h.disk disk run?) :
    (h.after id disk run?).Settled site live root := by
  have now : (h.after id disk run?).lost = false → site.Stands live live root live disk ∧
      ∀ k, hasFile live disk (Nix.pupFileName k) = true ↔ k ∈ (h.after id disk run?).applied := by
    intro unlost
    obtain ⟨known, notLost⟩ := Bool.or_eq_false_iff.1 unlost
    cases ended known with
    | refused => exact ⟨settled.stands known, settled.files known⟩
    | applied state ends installed stands edited =>
      have counted : ∀ r : Run, r.patch.state = .applied → endedApplied (some r) = true := by
        simp [endedApplied]
      refine ⟨stands, fun k => ?_⟩
      rw [Host.after, counted _ state]
      exact (settled.applied known installed edited).2 k
    | failed state ends back =>
      have uncounted : ∀ r : Run, r.patch.state ≠ .applied → endedApplied (some r) = false := by
        simp [endedApplied]
      obtain ⟨stands, left⟩ := back (by simpa [endedLost, ends] using notLost)
      refine ⟨stands, fun k => ?_⟩
      rw [Host.after, uncounted _ state, hasFile_leaves left]
      exact settled.files known k
  exact ⟨settled.indexed, settled.plainIds, fun unlost => (now unlost).1,
    fun unlost => (now unlost).2⟩

/-- **Every event keeps a host settled.** -/
theorem step (settled : h.Settled site live root) {e : Event} (allowed : h.Allows site live root e) :
    (h.step site e).Settled site live root := by
  cases e with
  | call c records =>
    have outcome := c.outcome h.manager records
    refine ⟨outcome.effect.indexed settled.indexed, fun k installed => ?_, settled.stands,
      settled.files⟩
    rcases outcome.installed settled.indexed installed with
      before | ⟨ids, manifest, source, breakdown, rfl, rfl⟩
    · exact settled.plainIds k before
    · exact allowed _
  | apply id name rebuild hazards => exact settled.after fun known => settled.deployment known allowed
  | change after =>
    refine ⟨settled.indexed, settled.plainIds, fun _ => allowed.1, fun known k => ?_⟩
    have same : after.get? (live ++ [Nix.pupFileName k]) = h.disk.get? (live ++ [Nix.pupFileName k]) := by
      rw [get?_append, get?_append, allowed.2]
    rw [show (h.step site (.change after)).disk = after from rfl, hasFile, same]
    exact settled.files known k

/-- Every host that events lead to is settled. -/
theorem reached {start : Host} (fresh : start.Fresh site live root) {h : Host}
    (reached : start.Reaches site live root h) : h.Settled site live root := by
  induction reached with
  | refl =>
    obtain ⟨mode, there⟩ := fresh.empty
    refine ⟨fresh.indexed, fresh.plainIds, fun _ => fresh.stands, fun _ k => ?_⟩
    rw [fresh.unapplied, hasFile, get?_append, there]
    simp [get?]
  | step _ allowed settled => exact settled.step allowed

/-- **Whenever a patch is applied**, the installed pups are imported, and the file of a pup is there
exactly if a patch for it was applied. -/
theorem imports (settled : h.Settled site live root) (known : h.lost = false)
    (allowed : h.Allows site live root (.apply id name rebuild hazards))
    (ended : endedApplied (h.request site id name rebuild hazards).2.2 = true) :
    imported live (h.request site id name rebuild hazards).2.1 =
        (Nix.sortedIds h.manager.registry.list).map Nix.pupFileName ∧
      ∀ k, hasFile live (h.request site id name rebuild hazards).2.1 (Nix.pupFileName k) = true ↔
        k ∈ id :: h.applied := by
  have deployment := settled.deployment known allowed
  rcases request : (h.request site id name rebuild hazards).2 with ⟨after, _ | r⟩
  · rw [request] at ended
    cases ended
  · rw [request] at deployment ended
    have state : r.patch.state = .applied := by simpa [endedApplied] using ended
    cases deployment with
    | failed unapplied => exact absurd state unapplied
    | applied state ends installed stands edited => exact settled.applied known installed edited

end Settled

end Host

/-- **An imported file is there exactly if a patch for its pup was applied.** On a host that began with
an empty live directory, after any calls and requests of which none ended with a rollback that failed,
whenever a patch is applied the container list imports the files of exactly the installed pups; and
the file of a pup is in the live directory exactly if a patch for that pup was applied, be it this one or
one before it. So no imported file is missing exactly if there was one for every installed pup. -/
theorem imported_iff_applied {site : PatchSite} {live root : Location} {start h : Host}
    (fresh : start.Fresh site live root) (reached : start.Reaches site live root h)
    (known : h.lost = false) {id name : String} {rebuild : Rebuild}
    {hazards : Hazards} (allowed : h.Allows site live root (.apply id name rebuild hazards))
    (ended : endedApplied (h.request site id name rebuild hazards).2.2 = true) :
    imported live (h.request site id name rebuild hazards).2.1 =
        (Nix.sortedIds h.manager.registry.list).map Nix.pupFileName ∧
      (∀ k, hasFile live (h.request site id name rebuild hazards).2.1 (Nix.pupFileName k) = true ↔
        k ∈ id :: h.applied) ∧
      ((∀ file ∈ imported live (h.request site id name rebuild hazards).2.1,
          hasFile live (h.request site id name rebuild hazards).2.1 file = true) ↔
        ∀ r ∈ h.manager.registry.list, r.id ∈ id :: h.applied) := by
  obtain ⟨imports, files⟩ := (Host.Settled.reached fresh reached).imports known allowed ended
  refine ⟨imports, files, ?_⟩
  rw [imports]
  simp only [List.forall_mem_map, files, Nix.sortedIds, List.mem_mergeSort]

/-! ## A host with two pups -/

/-- A site whose live directory is in another directory. -/
def innerSite : PatchSite := ⟨"etc/live", "kept"⟩

/-- A host without pups. The directory around the live directory may not be written, so the live
directory cannot be removed. -/
def bareHost : Host where
  manager := bareManager
  disk := .dir 0o755 [("etc", .dir 0o555 [("live", .dir 0o700 [])]), ("kept", .emptyDir)]

theorem fresh_bareHost : bareHost.Fresh innerSite ["etc", "live"] ["kept"] := by
  have live : (Node.dir 0o700 []).Sorted := sorted_dir .nil fun _ h => by cases h
  have around : (Node.dir 0o555 [("live", .dir 0o700 [])]).Sorted :=
    sorted_dir (by decide) (by simp [live])
  have sorted : bareHost.disk.Sorted := sorted_dir (by decide) (by simp [sorted_emptyDir, around])
  have toLive : steps (withoutEndSlashes innerSite.configDir) = ["etc", "live"] := by decide +kernel
  have toKept : steps innerSite.snapshotDir = ["kept"] := by decide +kernel
  have top : Passable (bareHost.disk.erase ["etc", "live"]) [] := ⟨_, _, rfl, by decide⟩
  have inner : Passable (bareHost.disk.erase ["etc", "live"]) ["etc"] := ⟨_, _, rfl, by decide⟩
  have laid : innerSite.Laid bareHost.disk ["etc", "live"] ["kept"] := by
    refine ⟨⟨_, _, rfl⟩, finds_iff.2 ⟨?_, ?_, rfl⟩, ⟨_, _, finds_iff.2 ⟨?_, ?_, rfl⟩⟩⟩
    · exact ⟨by decide +kernel, by decide +kernel, by decide +kernel⟩
    · rw [toLive]
      exact .into top ⟨by decide, by decide, by decide⟩ rfl (by simp [erase])
        (.absent inner ⟨by decide, by decide, by decide⟩ rfl)
    · exact ⟨by decide +kernel, by decide +kernel, by decide +kernel⟩
    · rw [toKept]
      exact .into top ⟨by decide, by decide, by decide⟩ rfl (by simp [emptyDir]) .stop
  have none : ∀ k, bareHost.manager.registry.records.get? k = none := fun k => rfl
  refine ⟨⟨fun k r found => ?_, fun k => rfl⟩, fun k found => ?_, laid.stands sorted, ⟨_, rfl⟩, rfl⟩
  · rw [none] at found
    cases found
  · rw [none] at found
    cases found

theorem plainId_numbersFrom (start : Nat) (used : List String) :
    PlainId ((IdSource.numbersFrom start).pick used) :=
  ⟨fun slash => absurd (IdSource.isDigit_numbersFrom slash) (by decide),
    fun lineEnd => absurd (IdSource.isDigit_numbersFrom lineEnd) (by decide)⟩

/-- The adoption of a package of this name. -/
def adoptionOf (name : String) : Event :=
  .call (.adopt (.numbersFrom 0) { identity := ⟨name, "1.0.0", ""⟩ } ⟨"main", "/srv"⟩ none) bareDisk

theorem allows_adoptionOf (h : Host) (name : String) :
    h.Allows innerSite ["etc", "live"] ["kept"] (adoptionOf name) :=
  plainId_numbersFrom 0

/-- The host with two pups. -/
def pairHost : Host :=
  (bareHost.step innerSite (adoptionOf "node")).step innerSite (adoptionOf "wallet")

theorem reaches_pairHost : bareHost.Reaches innerSite ["etc", "live"] ["kept"] pairHost :=
  .step (.step .refl (allows_adoptionOf _ "node")) (allows_adoptionOf _ "wallet")

/-- The records stand in the order of their addresses already. -/
theorem list_pairHost : pairHost.manager.registry.list = pairHost.manager.registry.records.values :=
  List.mergeSort_of_pairwise (by decide +kernel)

theorem sortedIds_pairHost : Nix.sortedIds pairHost.manager.registry.records.values = ["0", "1"] := by
  have ids : pairHost.manager.registry.records.values.map (·.id) = ["0", "1"] := by decide +kernel
  rw [Nix.sortedIds, ids]
  exact List.mergeSort_of_pairwise (by decide)

theorem allows_first : pairHost.Allows innerSite ["etc", "live"] ["kept"] (.apply "0" "s" accept {}) :=
  ⟨⟨by decide, by decide, by decide, by decide⟩, rfl, innerSite.spares_answer _ _ _ fun _ => none⟩

theorem applied_first : endedApplied (pairHost.request innerSite "0" "s" accept {}).2.2 = true := by
  simp only [Host.request, Server.applyConfig, list_pairHost]
  decide +kernel

/-- After the patch of the first pup both pups are imported, and the file of the first one is there. -/
theorem imported_iff_applied_first :
    bareHost.Fresh innerSite ["etc", "live"] ["kept"] ∧
      imported ["etc", "live"] (pairHost.request innerSite "0" "s" accept {}).2.1 =
        ["pup_0.nix", "pup_1.nix"] ∧
      hasFile ["etc", "live"] (pairHost.request innerSite "0" "s" accept {}).2.1 "pup_0.nix" = true := by
  obtain ⟨imports, files, -⟩ :=
    imported_iff_applied fresh_bareHost reaches_pairHost rfl allows_first applied_first
  refine ⟨fresh_bareHost, ?_, (files "0").2 List.mem_cons_self⟩
  rw [imports, list_pairHost, sortedIds_pairHost]
  rfl

/-- The host on which the patch of the first pup was applied and the one of the second pup failed. -/
def failedHost : Host :=
  (pairHost.step innerSite (.apply "0" "s" accept {})).step innerSite (.apply "1" "t" refuse {})

theorem reaches_failedHost : bareHost.Reaches innerSite ["etc", "live"] ["kept"] failedHost := by
  refine .step (.step reaches_pairHost allows_first) ⟨⟨by decide, by decide, by decide, by decide⟩,
    ?_, innerSite.spares_answer _ _ _ fun _ => some "refused"⟩
  rw [← Option.isNone_iff_eq_none]
  simp only [Host.step, Host.request, Server.applyConfig, Host.after, list_pairHost]
  decide +kernel

theorem systemContainers_pairHost :
    Nix.systemContainers pairHost.manager.registry.records.values =
      Nix.lines ["\x7b ... \x7d:", "\x7b", "  imports = [", "    ./pup_0.nix", "    ./pup_1.nix", "  ];",
        "\x7d"] := by
  rw [Nix.systemContainers, sortedIds_pairHost]
  rfl

/-- A request for a pup ends with an applied patch, and a file that is imported then is missing. -/
structure Dangles (h : Host) (id name file : String) : Prop where
  ended : endedApplied (h.request innerSite id name accept {}).2.2 = true
  imports : file ∈ imported ["etc", "live"] (h.request innerSite id name accept {}).2.1
  missing : hasFile ["etc", "live"] (h.request innerSite id name accept {}).2.1 file = false

theorem dangles_pairHost : Dangles pairHost "0" "s" "pup_1.nix" := by
  obtain ⟨imports, files⟩ :=
    (Host.Settled.reached fresh_bareHost reaches_pairHost).imports rfl allows_first applied_first
  refine ⟨applied_first, ?_, ?_⟩
  · rw [imports, list_pairHost, sortedIds_pairHost]
    decide
  · rw [← Bool.not_eq_true]
    intro there
    have applied := (files "1").1 there
    simp [pairHost, bareHost, Host.step, adoptionOf] at applied

/-- The rollback removed the file of the first pup and could not bring it back, and the next patch of
the second pup is applied without it. -/
theorem dangles_failedHost : (failedHost.disk.get? ["kept", "u"] = none ∧ "0" ∈ failedHost.applied) ∧
    Dangles failedHost "1" "u" "pup_0.nix" := by
  have list : failedHost.manager.registry.list = pairHost.manager.registry.records.values :=
    list_pairHost
  have facts : ((failedHost.disk.get? ["kept", "u"]).isNone = true ∧ "0" ∈ failedHost.applied) ∧
      endedApplied (failedHost.request innerSite "1" "u" accept {}).2.2 = true ∧
      "pup_0.nix" ∈ imported ["etc", "live"] (failedHost.request innerSite "1" "u" accept {}).2.1 ∧
      hasFile ["etc", "live"] (failedHost.request innerSite "1" "u" accept {}).2.1 "pup_0.nix" =
        false := by
    simp only [Host.request, Server.applyConfig, list]
    simp only [failedHost, Host.step, Host.request, Server.applyConfig, Host.after, list_pairHost,
      PatchOp.forPup, systemContainers_pairHost]
    decide +kernel
  obtain ⟨⟨untaken, applied⟩, ended, imports, missing⟩ := facts
  exact ⟨⟨Option.isNone_iff_eq_none.1 untaken, applied⟩, ended, imports, missing⟩

/-- **An imported file can be missing**: the file of a pup for which no patch was applied yet, and the
file of one for which a patch was applied before a rollback failed. -/
theorem imported_file_missing :
    bareHost.Fresh innerSite ["etc", "live"] ["kept"] ∧
      (bareHost.Reaches innerSite ["etc", "live"] ["kept"] pairHost ∧
        pairHost.Allows innerSite ["etc", "live"] ["kept"] (.apply "0" "s" accept {}) ∧
        Dangles pairHost "0" "s" "pup_1.nix") ∧
      (bareHost.Reaches innerSite ["etc", "live"] ["kept"] failedHost ∧
        failedHost.Allows innerSite ["etc", "live"] ["kept"] (.apply "1" "u" accept {}) ∧
        "0" ∈ failedHost.applied ∧ Dangles failedHost "1" "u" "pup_0.nix") := by
  obtain ⟨⟨untaken, applied⟩, dangles⟩ := dangles_failedHost
  exact ⟨fresh_bareHost, ⟨reaches_pairHost, allows_first, dangles_pairHost⟩, reaches_failedHost,
    ⟨⟨by decide, by decide, by decide, by decide⟩, untaken, innerSite.spares_answer _ _ _ fun _ => none⟩,
    applied, dangles⟩

end Http

end Kennel
