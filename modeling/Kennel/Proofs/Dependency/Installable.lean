import Kennel.Proofs.Dependency.Candidate
import Kennel.Proofs.Manager.Acceptance

/-!
# Installable pups and installed packages

A report lists the pups of the catalogs that declare the interface, but for those that go by the source
and the name of a pup that provides the dependency already (`DependencyReport.lists_iff`). What provides
it is looked for among the other pups, so **the package of a pup itself can be listed for its own
dependency**, although it is installed and its adoption is refused (`own_package_listed`); and so can one
that was installed with a manifest that does not declare the interface.

These are the only ones: no listed pup is of the package of another installed pup that declares the
interface in the range (`listed_unless_provided`).
-/

namespace Kennel

/-- The line on a pup of a catalog in a report. -/
def Catalog.entry (l : Catalog) (c : CatalogPup) : InstallableProvider :=
  ⟨l.sourceId, c.name, c.version, c.location⟩

/-- The line names the package of an installed pup: its source, its name and its version. -/
structure InstallableProvider.Names (e : InstallableProvider) (p : Record) : Prop where
  source : e.sourceId = p.source.id
  name : e.name = p.name
  version : e.version = p.version

namespace DependencyReport

variable {x : Record} {installed : List Record} {lists : List Catalog} {d : Manifest.Dependency}
  {l : Catalog} {c : CatalogPup}

/-- A pup goes by the source and the name of a provider. -/
theorem isInstalled_iff {providers : List Record} {sourceId name : String} :
    isInstalled providers sourceId name = true ↔
      ∃ p ∈ providers, p.source.id = sourceId ∧ p.name = name := by
  simp only [isInstalled, List.any_eq_true, Bool.and_eq_true, beq_iff_eq]

/-- **A pup of a catalog is listed** if it declares the interface, and every installed pup of its source
and name is the record's own or does not declare it. -/
theorem lists_iff :
    (ofDependency x installed (.ok lists) d).Lists lists l c ↔
      l ∈ lists ∧ c ∈ l.pups ∧ ∃ range, Range.read d.range = .ok range ∧
        c.manifest.Declares d.interface range ∧
        ∀ p ∈ installed, p.source.id = l.sourceId → p.name = c.name →
          p.id = x.id ∨ ¬ p.manifest.Declares d.interface range := by
  obtain ⟨onInterface, onRange, -⟩ := ofDependency_names x installed (.ok lists) d
  -- Providers hide a pup by its source and name, which stand in its line.
  have hidden : ∀ range : Range, ∀ l : Catalog, ∀ c : CatalogPup,
      isInstalled (providersOf x installed d.interface range) l.sourceId c.name = false ↔
        ∀ p ∈ installed, p.source.id = l.sourceId → p.name = c.name →
          p.id = x.id ∨ ¬ p.manifest.Declares d.interface range := by
    intro range l c
    rw [← Bool.not_eq_true, isInstalled_iff, providersOf_eq]
    simp only [List.mem_filter, decide_eq_true_iff]
    constructor
    · intro none p member source name
      by_contra provides
      exact none ⟨p, ⟨member, not_or.1 provides |>.imp id not_not.1⟩, source, name⟩
    · rintro all ⟨p, ⟨member, other, declares⟩, source, name⟩
      rcases all p member source name with own | silent
      · exact other own
      · exact silent declares
  constructor
  · rintro ⟨catalog, pup, entry, range, readable, offers⟩
    rw [onRange] at readable
    rw [onInterface, Manifest.offers_iff] at offers
    refine ⟨catalog, pup, range, readable, offers, ?_⟩
    simp only [ofDependency, readable] at entry
    obtain ⟨l', -, listed⟩ := List.mem_flatMap.1 entry
    obtain ⟨c', chosen, same⟩ := List.mem_map.1 listed
    obtain ⟨-, passes⟩ := List.mem_filter.1 chosen
    obtain ⟨source, name, -, -⟩ := InstallableProvider.mk.inj same
    have absent := (Bool.and_eq_true_iff.1 passes).1
    rw [Bool.not_eq_true', source, name] at absent
    exact (hidden range l c).1 absent
  · rintro ⟨catalog, pup, range, readable, declares, absent⟩
    refine ⟨catalog, pup, ?_, range, by rw [onRange, readable], ?_⟩
    · simp only [ofDependency, readable]
      refine List.mem_flatMap.2 ⟨l, catalog, List.mem_map.2 ⟨c, List.mem_filter.2 ⟨pup, ?_⟩, rfl⟩⟩
      rw [(hidden range l c).2 absent, Manifest.offers_iff.2 declares]
      rfl
    · rw [onInterface, Manifest.offers_iff]
      exact declares

end DependencyReport

/-- An adoption is refused because the package is installed exactly if it is, of whichever pup. -/
theorem Manager.adopt_alreadyExists_iff (m : Manager) (ids : IdSource) (manifest : Manifest)
    (source : Source) (d : Disk) (breakdown : Option Disk.Breakdown) :
    (∃ id, (m.adopt ids manifest source d breakdown).1 = .error (.alreadyExists id)) ↔
      m.registry.HasPackage manifest source := by
  have verdict := m.registry.verdict_planAdoption ids manifest source
  unfold adopt
  generalize m.registry.planAdoption ids manifest source = plan at verdict
  cases verdict with
  | installed member same =>
    exact ⟨fun _ => ⟨_, member, Record.isSamePackage_iff.1 same⟩, fun _ => ⟨_, rfl⟩⟩
  | invalid new | exhausted new => exact ⟨nofun, fun has => absurd has new⟩
  | @accepted new _ _ r _ =>
    refine ⟨?_, fun has => absurd has new⟩
    rcases saved : Disk.run (m.store.save r breakdown) d with ⟨e | ⟨⟩, d'⟩
    · simp [saved]
    · simp [saved]

/-- **What is listed as installable, and what of it is installed.** For every record, installed pups and
catalogs, and every report on the record: a pup of a catalog is listed exactly if it declares the
interface in the range, and every installed pup of its source and name is the record's own or does not
declare it; and nothing else is listed. So a listed pup that is of the package of an installed one is of
the package of the record's own pup, or of one that does not declare the interface. A listed pup that
goes by the name and version of its manifest can be adopted into these pups as far as its package goes,
unless it is one of those: then the adoption is refused. -/
theorem listed_unless_provided {x : Record} {installed : List Record} {lists : List Catalog}
    {report : DependencyReport} (asked : report ∈ resolveDependencies x installed (.ok lists)) :
    (∀ l c, report.Lists lists l c ↔
        l ∈ lists ∧ c ∈ l.pups ∧ ∃ range, Range.read report.range = .ok range ∧
          c.manifest.Declares report.interface range ∧
          ∀ p ∈ installed, p.source.id = l.sourceId → p.name = c.name →
            p.id = x.id ∨ ¬ p.manifest.Declares report.interface range) ∧
      (∀ e ∈ report.installable, ∃ l c, report.Lists lists l c ∧ e = l.entry c) ∧
      (∀ l c, report.Lists lists l c → ∀ p ∈ installed, (l.entry c).Names p →
        p.id = x.id ∨ ∀ range, Range.read report.range = .ok range →
          ¬ p.manifest.Declares report.interface range) ∧
      ∀ l c, report.Lists lists l c → c.manifest.name = c.name → c.manifest.version = c.version →
        ∀ (m : Manager) (ids : IdSource) (source : Source) (d : Disk)
          (breakdown : Option Disk.Breakdown),
          m.registry.records.values = installed → source.id = l.sourceId →
          ((∃ id, (m.adopt ids c.manifest source d breakdown).1 = .error (.alreadyExists id)) ↔
            ∃ p ∈ installed, (l.entry c).Names p) := by
  obtain ⟨dependency, -, rfl⟩ := List.mem_map.1 asked
  obtain ⟨onInterface, onRange, -⟩ := DependencyReport.ofDependency_names x installed (.ok lists)
    dependency
  refine ⟨fun l c => ?_, fun e member => ?_, fun l c listed p member names => ?_,
    fun l c listed name version m ids source d breakdown pups origin => ?_⟩
  · rw [onInterface, onRange]
    exact DependencyReport.lists_iff
  · obtain ⟨l, c, listed, rfl⟩ := DependencyReport.exists_lists member
    exact ⟨l, c, listed, rfl⟩
  · obtain ⟨-, -, range, readable, -, absent⟩ := DependencyReport.lists_iff.1 listed
    refine (absent p member names.source.symm names.name.symm).imp_right fun silent range' again => ?_
    rw [onRange, readable] at again
    obtain rfl := Except.ok.inj again
    rwa [onInterface]
  · rw [Manager.adopt_alreadyExists_iff, Registry.HasPackage, pups]
    refine exists_congr fun p => and_congr_right fun _ => ?_
    rw [name, version, origin]
    exact ⟨fun ⟨name, version, source⟩ => ⟨source.symm, name.symm, version.symm⟩,
      fun names => ⟨names.name.symm, names.version.symm, names.source.symm⟩⟩

/-- A relay calls other relays. -/
def relayManifest : Manifest where
  identity := ⟨"relay", "1.0.0", ""⟩
  interfaces := [⟨"rpc", "1.2.0", []⟩]
  dependencies := [⟨"rpc", "^1.1", false, none⟩]

/-- The relay in a catalog. -/
def relayOffer : CatalogPup := ⟨"relay", "1.0.0", "/srv/relay", relayManifest⟩

/-- A node that a relay could call as well. -/
def nodeOffer : CatalogPup := ⟨"node", "1.0.0", "/srv/node", nodeManifest "1.0.0"⟩

/-- A catalog with both of them. -/
def relayCatalog : Catalog := ⟨"main", "/srv", [relayOffer, nodeOffer]⟩

/-- The relay, installed from that catalog. -/
def relayPup : Record := localPup "0" 2 relayManifest

/-- A manager of the relay and the node. -/
def relayManager : Manager :=
  { bareManager with
    registry := .ofRecords {} 4 [relayPup, localPup "1" 3 (nodeManifest "1.0.0")] }

/-- The node is hidden, since it is installed and provides the dependency of the relay. The package of
the relay is listed, and the relay is installed as well, so its adoption is refused. -/
theorem listed_unless_provided_relay :
    ∃ report ∈ resolveDependencies relayPup relayManager.registry.records.values
        (.ok [relayCatalog]),
      ¬ report.Lists [relayCatalog] relayCatalog nodeOffer ∧
        report.Lists [relayCatalog] relayCatalog relayOffer ∧
        ∃ id, (relayManager.adopt (.numbersFrom 0) relayManifest ⟨"main", "/srv"⟩ bareDisk).1 =
          .error (.alreadyExists id) := by
  obtain ⟨range, readable, found⟩ := Range.exists_read "^1.1" (fun range =>
    decide (relayManifest.Declares "rpc" range ∧ (nodeManifest "1.0.0").Declares "rpc" range ∧
      ∀ p ∈ relayManager.registry.records.values, p.source.id = "main" → p.name = "relay" →
        p.id = "0" ∨ ¬ p.manifest.Declares "rpc" range)) (by decide +kernel)
  obtain ⟨declares, node, absent⟩ := decide_eq_true_iff.1 found
  have asked : DependencyReport.ofDependency relayPup relayManager.registry.records.values
      (.ok [relayCatalog]) ⟨"rpc", "^1.1", false, none⟩ ∈
        resolveDependencies relayPup relayManager.registry.records.values (.ok [relayCatalog]) :=
    List.mem_singleton_self _
  obtain ⟨onInterface, onRange, -⟩ := DependencyReport.ofDependency_names relayPup
    relayManager.registry.records.values (.ok [relayCatalog]) ⟨"rpc", "^1.1", false, none⟩
  obtain ⟨listed, -, -, adopted⟩ := listed_unless_provided asked
  rw [onInterface, onRange] at listed
  have relay := (listed relayCatalog relayOffer).2
    ⟨List.mem_singleton_self _, List.mem_cons_self, range, readable, declares, absent⟩
  refine ⟨_, asked, fun other => ?_, relay,
    (adopted relayCatalog relayOffer relay rfl rfl relayManager _ _ _ none rfl rfl).2 ?_⟩
  · obtain ⟨-, -, range', again, -, absent⟩ := (listed relayCatalog nodeOffer).1 other
    rw [readable] at again
    obtain rfl := Except.ok.inj again
    have installed : ∃ p ∈ relayManager.registry.records.values, p.source.id = "main" ∧
        p.name = "node" ∧ p.id ≠ "0" ∧ p.manifest = nodeManifest "1.0.0" := by decide +kernel
    obtain ⟨p, member, source, name, other, manifest⟩ := installed
    rcases absent p member source name with own | silent
    · exact other own
    · exact silent (manifest ▸ node)
  · have installed : ∃ p ∈ relayManager.registry.records.values, "main" = p.source.id ∧
        "relay" = p.name ∧ "1.0.0" = p.version := by decide +kernel
    obtain ⟨p, member, source, name, version⟩ := installed
    exact ⟨p, member, source, name, version⟩

/-- **The package of an installed pup is listed for its own dependency**, and it cannot be adopted. -/
theorem own_package_listed :
    (∃ report ∈ resolveDependencies relayPup [relayPup] (.ok [relayCatalog]),
        ∃ e ∈ report.installable, e.Names relayPup) ∧
      (relayManager.adopt (.numbersFrom 0) relayManifest ⟨"main", "/srv"⟩ bareDisk).1 =
        .error (.alreadyExists "0") := by
  have listed : ∃ report ∈ resolveDependencies relayPup [relayPup] (.ok [relayCatalog]),
      ∃ e ∈ report.installable, e.sourceId = relayPup.source.id ∧ e.name = relayPup.name ∧
        e.version = relayPup.version := by decide +kernel
  obtain ⟨report, asked, e, member, source, name, version⟩ := listed
  exact ⟨⟨report, asked, e, member, source, name, version⟩, by decide +kernel⟩

end Kennel
