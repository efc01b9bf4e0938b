import Kennel.Proofs.Allocation.Lowest
import Kennel.Proofs.Allocation.Upwards
import Kennel.Proofs.Manager.Unique
import Kennel.Proofs.Store.Writing

/-!
# When an adoption is accepted

An adoption can be refused for three reasons: the package is installed already, a port of the host
that the manifest binds is bound twice, or there is no address or not enough ports left for the pup.
They are said of the registry and the manifest alone, without the checks that find them.

The reasons are looked for in this order, and a plan ends with the first one that there is
(`Registry.Verdict`). So **an adoption whose record can be stored is accepted exactly if there is no
reason to refuse it** (`adoption_refused_iff`), in any state of the manager.
-/

namespace Kennel

/-! ## Reasons to refuse -/

namespace Registry

/-- A record of the registry is of the package. -/
def HasPackage (g : Registry) (manifest : Manifest) (source : Source) : Prop :=
  ∃ r ∈ g.records.values,
    r.manifest.name = manifest.name ∧ r.manifest.version = manifest.version ∧ r.source.id = source.id

/-- A port of the host that the manifest binds is bound twice by it, or a record binds it. -/
def BindsTwice (g : Registry) (manifest : Manifest) : Prop :=
  ¬ manifest.hostPorts.Nodup ∨
    ∃ r ∈ g.records.values, ∃ p ∈ manifest.hostPorts, p ∈ r.boundHostPorts

/-- There is no address after the mark, or it lies above the ceiling; or there are fewer free ports
than the manifest has web interfaces. -/
def Exhausted (g : Registry) (manifest : Manifest) : Prop :=
  2 ^ 32 ≤ g.allocator.mark.number + 1 ∨
    g.allocator.range.ceiling.number < g.allocator.mark.number + 1 ∨
    (freeHostPorts g.allocator.range.portStart manifest g.records.values).ncard <
      manifest.webUis.length

instance (g : Registry) (manifest : Manifest) (source : Source) :
    Decidable (g.HasPackage manifest source) :=
  inferInstanceAs (Decidable (∃ r ∈ g.records.values, _))

instance (g : Registry) (manifest : Manifest) : Decidable (g.BindsTwice manifest) :=
  inferInstanceAs (Decidable (_ ∨ ∃ r ∈ g.records.values, ∃ p ∈ manifest.hostPorts, _))

theorem exhausted_iff (g : Registry) (manifest : Manifest) :
    g.Exhausted manifest ↔ 2 ^ 32 ≤ g.allocator.mark.number + 1 ∨
      g.allocator.range.ceiling.number < g.allocator.mark.number + 1 ∨
        (freePorts g.allocator.range.portStart (takenPorts manifest g.records.values)).length <
          manifest.webUis.length := by
  rw [Exhausted, ncard_freeHostPorts]

instance (g : Registry) (manifest : Manifest) : Decidable (g.Exhausted manifest) :=
  decidable_of_iff _ (g.exhausted_iff manifest).symm

end Registry

/-! ## The checks -/

theorem Record.isSamePackage_iff {r : Record} {manifest : Manifest} {source : Source} :
    r.isSamePackage manifest source = true ↔ r.manifest.name = manifest.name ∧
      r.manifest.version = manifest.version ∧ r.source.id = source.id := by
  simp [isSamePackage, name, version, and_assoc]

/-- The check of the ports of the host fails exactly if one of them is bound twice, and it never says
that anything is exhausted. -/
theorem checkHostPorts_cases (manifest : Manifest) (g : Registry) :
    (checkHostPorts manifest g.records.values = .ok () ∧ ¬ g.BindsTwice manifest) ∨
      ∃ e, checkHostPorts manifest g.records.values = .error e ∧ e.isExhaustion = false ∧
        g.BindsTwice manifest := by
  cases checked : checkHostPorts manifest g.records.values with
  | ok =>
    obtain ⟨nodup, unbound⟩ := checkHostPorts_ok checked
    refine .inl ⟨rfl, ?_⟩
    rintro (twice | ⟨r, hr, p, hp, bound⟩)
    · exact twice nodup
    · exact unbound r hr bound hp
  | error e =>
    refine .inr ⟨e, rfl, ?_⟩
    unfold checkHostPorts at checked
    split at checked
    · next p repeated =>
      cases checked
      refine ⟨rfl, .inl fun nodup => ?_⟩
      rw [firstRepeated_eq_none_iff.2 ⟨nodup, by simp⟩] at repeated
      cases repeated
    · simp only at checked
      split at checked
      · next p id held =>
        cases checked
        obtain ⟨r, hr, found⟩ := List.exists_of_findSome?_eq_some held
        obtain ⟨q, first, -⟩ := Option.map_eq_some_iff.1 found
        exact ⟨rfl, .inr ⟨r, hr, q, by simpa using List.find?_some first,
          List.mem_of_find?_eq_some first⟩⟩
      · cases checked

/-- Address and ports are handed out exactly if nothing is exhausted. -/
theorem handedOut_cases (manifest : Manifest) (g : Registry) :
    (¬ g.Exhausted manifest ∧ ∃ address ports, g.allocator.nextAddress = .ok address ∧
        allocatePorts g.allocator.range manifest.webUis.length manifest g.records.values =
          .ok ports) ∨
      g.Exhausted manifest ∧ ∃ e, e.isExhaustion = true ∧
        (g.allocator.nextAddress = .error e ∨ ∃ address, g.allocator.nextAddress = .ok address ∧
          allocatePorts g.allocator.range manifest.webUis.length manifest g.records.values =
            .error e) := by
  have top := g.allocator.range.ceiling.number_lt
  have left : g.allocator.left = g.allocator.range.ceiling.number - g.allocator.mark.number := rfl
  rw [Registry.exhausted_iff, Allocator.nextAddress_eq, allocatePorts_eq]
  by_cases full : g.allocator.left = 0
  · rw [if_pos full]
    exact .inr ⟨by omega, _, rfl, .inl rfl⟩
  · rw [if_neg full]
    split
    · next few => exact .inr ⟨.inr (.inr few), _, rfl, .inr ⟨_, rfl, rfl⟩⟩
    · next enough => exact .inl ⟨by omega, _, _, rfl, rfl⟩

/-! ## The plan -/

namespace Registry

/-- What a plan of an adoption ends with: the first reason to refuse it, or a record. -/
inductive Verdict (g : Registry) (ids : IdSource) (manifest : Manifest) (source : Source) :
    Except ManagerError Record → Prop where
  | installed {r : Record} (member : r ∈ g.records.values)
      (same : r.isSamePackage manifest source = true) :
      Verdict g ids manifest source (.error (.alreadyExists r.id))
  | invalid (new : ¬ g.HasPackage manifest source) (twice : g.BindsTwice manifest)
      {e : AllocationError} (kind : e.isExhaustion = false) :
      Verdict g ids manifest source (.error (.allocation e))
  | exhausted (new : ¬ g.HasPackage manifest source) (once : ¬ g.BindsTwice manifest)
      (exhausted : g.Exhausted manifest) {e : AllocationError} (kind : e.isExhaustion = true) :
      Verdict g ids manifest source (.error (.allocation e))
  | accepted (new : ¬ g.HasPackage manifest source) (once : ¬ g.BindsTwice manifest)
      (enough : ¬ g.Exhausted manifest) {r : Record} (id : r.id = ids.pick g.records.keys) :
      Verdict g ids manifest source (.ok r)

/-- **Every plan ends with the verdict on it.** -/
theorem verdict_planAdoption (g : Registry) (ids : IdSource) (manifest : Manifest)
    (source : Source) : g.Verdict ids manifest source (g.planAdoption ids manifest source) := by
  unfold planAdoption
  simp only
  split
  · next r found =>
    have same : r.isSamePackage manifest source = true := by simpa using List.find?_some found
    exact .installed (List.mem_of_find?_eq_some found) same
  · next unknown =>
    have new : ¬ g.HasPackage manifest source := by
      rintro ⟨r, member, same⟩
      exact List.find?_eq_none.1 unknown r member (Record.isSamePackage_iff.2 same)
    rcases checkHostPorts_cases manifest g with ⟨checked, once⟩ | ⟨e, checked, kind, twice⟩
    · rw [checked]
      rcases handedOut_cases manifest g with
        ⟨enough, address, ports, next, handed⟩ | ⟨exhausted, e, kind, next | ⟨address, next, handed⟩⟩
      · rw [next, handed]
        exact .accepted new once enough rfl
      · rw [next]
        exact .exhausted new once exhausted kind
      · rw [next, handed]
        exact .exhausted new once exhausted kind
    · rw [checked]
      exact .invalid new twice kind

end Registry

/-- An adoption whose record can be stored ends as its plan does. -/
theorem Manager.adopt_eq_plan {m : Manager} {d : Disk} {ids : IdSource}
    (writable : m.store.CanSave d (ids.pick m.registry.records.keys)) (manifest : Manifest)
    (source : Source) :
    (m.adopt ids manifest source d).1 = m.registry.planAdoption ids manifest source := by
  unfold adopt
  cases planned : m.registry.planAdoption ids manifest source with
  | error e => rfl
  | ok r =>
    obtain ⟨-, -, address, ports, -, -, hr⟩ := Registry.planAdoption_ok planned
    obtain ⟨d', saved⟩ := writable r (by rw [hr]; rfl)
    simp only [saved]

/-- **An adoption is accepted exactly if it can be.** Whatever the manager has come to, an adoption
whose record can be stored fails exactly if the package is installed, a port of the host is bound
twice, or there is no address or not enough ports left. It names a pup of the package if there is one;
otherwise it says that the manifest is not valid if a port is bound twice, and otherwise that there is
nothing left. -/
theorem adoption_refused_iff (m : Manager) (d : Disk) (ids : IdSource) (manifest : Manifest)
    (source : Source) (writable : m.store.CanSave d (ids.pick m.registry.records.keys)) :
    ((∃ e, (m.adopt ids manifest source d).1 = .error e) ↔
        m.registry.HasPackage manifest source ∨ m.registry.BindsTwice manifest ∨
          m.registry.Exhausted manifest) ∧
      (m.registry.HasPackage manifest source →
        ∃ r ∈ m.registry.records.values, r.isSamePackage manifest source = true ∧
          (m.adopt ids manifest source d).1 = .error (.alreadyExists r.id)) ∧
      (¬ m.registry.HasPackage manifest source → m.registry.BindsTwice manifest →
        ∃ e, (m.adopt ids manifest source d).1 = .error e ∧ e.kind = .validation) ∧
      (¬ m.registry.HasPackage manifest source → ¬ m.registry.BindsTwice manifest →
        m.registry.Exhausted manifest →
        ∃ e, (m.adopt ids manifest source d).1 = .error e ∧ e.kind = .resourceExhausted) := by
  rw [Manager.adopt_eq_plan writable]
  have verdict := m.registry.verdict_planAdoption ids manifest source
  generalize m.registry.planAdoption ids manifest source = plan at verdict
  cases verdict with
  | @installed r member same =>
    have has : m.registry.HasPackage manifest source :=
      ⟨r, member, Record.isSamePackage_iff.1 same⟩
    exact ⟨⟨fun _ => .inl has, fun _ => ⟨_, rfl⟩⟩, fun _ => ⟨r, member, same, rfl⟩,
      fun new => absurd has new, fun new => absurd has new⟩
  | invalid new twice kind =>
    refine ⟨⟨fun _ => .inr (.inl twice), fun _ => ⟨_, rfl⟩⟩, fun has => absurd has new,
      fun _ _ => ⟨_, rfl, ?_⟩, fun _ once => absurd twice once⟩
    rw [ManagerError.kind, kind]
    rfl
  | exhausted new once exhausted kind =>
    refine ⟨⟨fun _ => .inr (.inr exhausted), fun _ => ⟨_, rfl⟩⟩, fun has => absurd has new,
      fun _ twice => absurd twice once, fun _ _ _ => ⟨_, rfl, ?_⟩⟩
    rw [ManagerError.kind, kind]
    rfl
  | accepted new once enough =>
    refine ⟨⟨fun ⟨_, failed⟩ => (nomatch failed), ?_⟩, fun has => absurd has new,
      fun _ twice => absurd twice once, fun _ _ exhausted => absurd exhausted enough⟩
    rintro (has | twice | exhausted)
    · exact absurd has new
    · exact absurd twice once
    · exact absurd exhausted enough

/-- A manager of the two stored pups with one address left and the last two ports to hand out. -/
def narrowManager : Manager where
  settings :=
    { range := { ceiling := .ofOctets 10 69 0 4, portStart := 65534 }
      bufferSize := 4
      subscriberCapacity := 2 }
  store := ⟨"records"⟩
  catalogs := default
  monitor := none
  registry := .ofRecords { ceiling := .ofOctets 10 69 0 4, portStart := 65534 } 4 storedPair
  noticeFeed := { capacity := 2 }
  statsFeed := { capacity := 2 }

/-- A manifest with so many web interfaces that binds the port before the last one itself. -/
def listener (webUis : Nat) : Manifest where
  identity := ⟨"listener", "1.0.0", ""⟩
  container :=
    { exposes := { name := "rpc", protocol := .tcp, port := 65534, listenOnHost := true } ::
        List.replicate webUis { name := "ui", protocol := .http, port := 80, webUi := true } }

theorem canSave_narrowManager :
    narrowManager.store.CanSave stockedDisk
      ((IdSource.numbersFrom 0).pick narrowManager.registry.records.keys) := by
  have id : (IdSource.numbersFrom 0).pick narrowManager.registry.records.keys = "0" := by
    decide +kernel
  rw [id]
  refine lodged_stockedDisk.canSave
    ⟨by decide, ⟨by decide +kernel, by decide +kernel, by decide +kernel⟩, by decide, by decide⟩ ?_
  have absent : Node.get? stockedDisk (["records"] ++ [Store.fileName "0"]) = none := by
    decide +kernel
  intro n there
  rw [absent] at there
  cases there

/-- The last address and the last port are enough for a pup with one web interface, and not for one
with two. -/
theorem adoption_refused_iff_narrow :
    narrowManager.store.CanSave stockedDisk
        ((IdSource.numbersFrom 0).pick narrowManager.registry.records.keys) ∧
      (¬ ∃ e, (narrowManager.adopt (.numbersFrom 0) (listener 1) ⟨"main", "/srv"⟩ stockedDisk).1 =
        .error e) ∧
      ∃ e, (narrowManager.adopt (.numbersFrom 0) (listener 2) ⟨"main", "/srv"⟩ stockedDisk).1 =
        .error e ∧ e.kind = .resourceExhausted := by
  have one := adoption_refused_iff narrowManager stockedDisk (.numbersFrom 0) (listener 1)
    ⟨"main", "/srv"⟩ canSave_narrowManager
  have two := adoption_refused_iff narrowManager stockedDisk (.numbersFrom 0) (listener 2)
    ⟨"main", "/srv"⟩ canSave_narrowManager
  refine ⟨canSave_narrowManager, fun refused => ?_, two.2.2.2 ?_ ?_ ?_⟩
  · rcases one.1.1 refused with has | twice | exhausted
    · exact absurd has (by decide +kernel)
    · exact absurd twice (by decide +kernel)
    · exact absurd exhausted (by decide +kernel)
  · decide +kernel
  · decide +kernel
  · decide +kernel

end Kennel
