import Kennel.Proofs.Dependency.Resolution
import Kennel.Proofs.Manager.Bystanders

/-!
# A candidate that is installed

A report on a dependency lists pups twice over: those that are installed and provide it, and those of
the catalogs that would. **A pup of the catalogs that is adopted moves from the second list to the
first** (`candidate_moves`), with all its versions, and nothing else in the report changes; a purge
takes it back.

Two things carry this. A report does not look at the flags of the records
(`resolveDependencies_eq_of_bare`), so it does not matter that an adoption and a purge mark all records
anew. And one more provider among the installed pups adds its ID, and hides from each catalog the pups
of its source and name (`DependencyReport.moved_insert`), wherever in the order it comes.

Nothing is said of a pup whose name in the catalog is not that of its manifest: an adopted pup goes by
the name in its manifest, so it does not hide the other name. The pups of a catalog directory are listed
under the names of their manifests (`Catalog.readPup`); other catalogs are free to do otherwise.
-/

namespace Kennel

/-- The source gives these catalogs on every disk, and asking changes nothing. -/
def CatalogSource.Settled (c : CatalogSource) (lists : List Catalog) : Prop :=
  ∀ d, c.list d = (.ok lists, c)

/-- A source that was asked, and from which catalogs could be had, is settled on them. -/
theorem CatalogSource.settled_list {c : CatalogSource} {d : Disk} {lists : List Catalog}
    (reachable : (c.list d).1 = .ok lists) : (c.list d).2.Settled lists := by
  intro d'
  have again : (c.list d).2.list d' = c.list d := by
    cases c with
    | fixed answer => rfl
    | shelf s => cases kept : s.kept <;> simp [list, CatalogShelf.list, kept]
  rw [again, ← reachable]

namespace DependencyReport

/-! ## What a report looks at -/

theorem providersOf_bare (r : Record) (installed : List Record) (interface : String)
    (range : Range) :
    providersOf r.bare (installed.map Record.bare) interface range =
      (providersOf r installed interface range).map Record.bare := by
  rw [providersOf, List.filter_map]
  rfl

theorem installableFrom_bare (providers : List Record) (interface : String) (range : Range)
    (c : Catalog) :
    installableFrom (providers.map Record.bare) interface range c =
      installableFrom providers interface range c := by
  simp only [installableFrom, isInstalled, List.any_map]
  rfl

/-- The flags of the records leave a report alone. -/
theorem ofDependency_bare (r : Record) (installed : List Record)
    (catalogs : Except String (List Catalog)) (d : Manifest.Dependency) :
    ofDependency r.bare (installed.map Record.bare) catalogs d =
      ofDependency r installed catalogs d := by
  unfold ofDependency
  simp only [providersOf_bare, funext (installableFrom_bare _ _ _), List.map_map]
  rfl

end DependencyReport

/-- **Reports are the same where records differ in their flags only.** -/
theorem resolveDependencies_eq_of_bare {r r' : Record} {installed installed' : List Record}
    (same : r.bare = r'.bare) (all : installed.map Record.bare = installed'.map Record.bare)
    (catalogs : Except String (List Catalog)) :
    resolveDependencies r installed catalogs = resolveDependencies r' installed' catalogs := by
  have bare : ∀ (r : Record) (installed : List Record), resolveDependencies r.bare
      (installed.map Record.bare) catalogs = resolveDependencies r installed catalogs := by
    intro r installed
    simp only [resolveDependencies, funext (DependencyReport.ofDependency_bare r installed catalogs)]
    rfl
  rw [← bare r, ← bare r', same, all]

namespace DependencyReport

/-! ## The pups that a report lists -/

/-- The report lists a pup of one of the catalogs among the installable ones. Two pups of a catalog can
look alike there, so the manifest of the pup says whether it is the one that would provide the
dependency. -/
structure Lists (report : DependencyReport) (catalogs : List Catalog) (l : Catalog)
    (c : CatalogPup) : Prop where
  catalog : l ∈ catalogs
  pup : c ∈ l.pups
  entry : ⟨l.sourceId, c.name, c.version, c.location⟩ ∈ report.installable
  offers : ∃ range, Range.read report.range = .ok range ∧ c.manifest.offers report.interface range

/-- Every installable pup of a report is one of the catalogs that it lists. -/
theorem exists_lists {x : Record} {installed : List Record} {catalogs : List Catalog}
    {d : Manifest.Dependency} {p : InstallableProvider}
    (member : p ∈ (ofDependency x installed (.ok catalogs) d).installable) :
    ∃ l c, (ofDependency x installed (.ok catalogs) d).Lists catalogs l c ∧
      p = ⟨l.sourceId, c.name, c.version, c.location⟩ := by
  unfold ofDependency at member ⊢
  cases readable : Range.read d.range with
  | error e =>
    rw [readable] at member
    cases member
  | ok range =>
    rw [readable] at member
    obtain ⟨l, hl, listed⟩ := List.mem_flatMap.1 member
    obtain ⟨c, chosen, rfl⟩ := List.mem_map.1 listed
    obtain ⟨hc, passes⟩ := List.mem_filter.1 chosen
    exact ⟨l, c, ⟨hl, hc, member, range, readable, (Bool.and_eq_true_iff.1 passes).2⟩, rfl⟩

/-! ## One more provider -/

/-- The second report is the first one after a pup of a source and a name moved from the installable
providers to the installed ones. -/
structure Moved (id sourceId name : String) (before after : DependencyReport) : Prop where
  installed : id ∈ after.installed
  others : after.installed.filter (· != id) = before.installed
  gone : ∀ p ∈ after.installable, p.sourceId = sourceId → p.name ≠ name
  remaining : after.installable =
    before.installable.filter fun p => !(p.sourceId == sourceId && p.name == name)
  rest : { after with installed := before.installed, installable := before.installable } = before

variable {x r : Record} {low high : List Record} {interface : String} {range : Range}

/-- One more provider hides the pups of its source and name. -/
theorem installableFrom_insert (c : Catalog) :
    installableFrom (low ++ r :: high) interface range c =
      (installableFrom (low ++ high) interface range c).filter fun p =>
        !(p.sourceId == r.source.id && p.name == r.name) := by
  rw [installableFrom, installableFrom, List.filter_map, List.filter_filter]
  refine congrArg (List.map _) (List.filter_congr fun p _ => ?_)
  have hidden : isInstalled (low ++ r :: high) c.sourceId p.name =
      (isInstalled (low ++ high) c.sourceId p.name ||
        c.sourceId == r.source.id && p.name == r.name) := by
    rw [isInstalled, isInstalled, List.any_append, List.any_cons, List.any_append,
      BEq.comm (a := r.source.id), BEq.comm (a := r.name)]
    ac_rfl
  simp only [hidden, Function.comp_apply, Bool.not_or]
  ac_rfl

/-- **One more provider moves from the installable ones to the installed ones**, wherever it comes
among the pups. -/
theorem moved_insert {d : Manifest.Dependency} (readable : Range.read d.range = .ok range)
    (offers : r.manifest.offers d.interface range = true) (other : r.id ≠ x.id)
    (new : ∀ s ∈ low ++ high, s.id ≠ r.id) (catalogs : List Catalog) :
    Moved r.id r.source.id r.name (ofDependency x (low ++ high) (.ok catalogs) d)
      (ofDependency x (low ++ r :: high) (.ok catalogs) d) := by
  have before : providersOf x (low ++ high) d.interface range =
      providersOf x low d.interface range ++ providersOf x high d.interface range :=
    List.filter_append _ _
  have after : providersOf x (low ++ r :: high) d.interface range =
      providersOf x low d.interface range ++ r :: providersOf x high d.interface range := by
    simp [providersOf, other, offers]
  have absent : ∀ s, s ∈ providersOf x low d.interface range ∨
      s ∈ providersOf x high d.interface range → s.id ≠ r.id := fun s member => by
    rw [← List.mem_append, ← before] at member
    exact new s (List.mem_filter.1 member).1
  simp only [ofDependency, readable, before, after]
  generalize providersOf x low d.interface range = a at absent
  generalize providersOf x high d.interface range = b at absent
  have remaining : catalogs.flatMap (installableFrom (a ++ r :: b) d.interface range) =
      (catalogs.flatMap (installableFrom (a ++ b) d.interface range)).filter fun p =>
        !(p.sourceId == r.source.id && p.name == r.name) := by
    simp only [List.filter_flatMap, funext installableFrom_insert]
  have others : ((a ++ r :: b).map (·.id)).filter (· != r.id) = (a ++ b).map (·.id) := by
    have kept : ∀ l : List Record, (∀ s ∈ l, s.id ≠ r.id) →
        (l.map (·.id)).filter (· != r.id) = l.map (·.id) :=
      fun l absent => List.filter_eq_self.2 (by simpa using absent)
    rw [List.map_append, List.filter_append, List.map_cons, List.filter_cons_of_neg (by simp),
      kept a fun s hs => absent s (.inl hs), kept b fun s hs => absent s (.inr hs), List.map_append]
  refine ⟨by simp, others, fun p member source name => ?_, remaining, rfl⟩
  rw [remaining] at member
  simp [source, name] at member

/-- With one more provider, the report on a dependency that it provides changes in that way. -/
theorem exists_moved {i : Nat} {report : DependencyReport} {catalogs : List Catalog}
    (there : (resolveDependencies x (low ++ high) (.ok catalogs))[i]? = some report)
    (readable : Range.read report.range = .ok range)
    (offers : r.manifest.offers report.interface range = true) (other : r.id ≠ x.id)
    (new : ∀ s ∈ low ++ high, s.id ≠ r.id) :
    ∃ report', (resolveDependencies x (low ++ r :: high) (.ok catalogs))[i]? = some report' ∧
      report.Moved r.id r.source.id r.name report' := by
  rw [resolveDependencies, List.getElem?_map, Option.map_eq_some_iff] at there
  obtain ⟨d, dependency, rfl⟩ := there
  obtain ⟨interface, range, -⟩ := ofDependency_names x (low ++ high) (.ok catalogs) d
  rw [interface] at offers
  rw [range] at readable
  refine ⟨_, ?_, moved_insert readable offers other new catalogs⟩
  rw [resolveDependencies, List.getElem?_map, dependency, Option.map_some]

end DependencyReport

/-! ## Adoption and purge -/

namespace Registry

variable {g g' : Registry} {r : Record}

/-- A planned record has the manifest and the source that it was planned with, and an ID that is not in
use. -/
theorem planAdoption_package {ids : IdSource} {manifest : Manifest} {source : Source}
    (planned : g.planAdoption ids manifest source = .ok r) :
    r.manifest = manifest ∧ r.source = source ∧ g.records.get? r.id = none := by
  obtain ⟨-, -, address, ports, -, -, rfl⟩ := planAdoption_ok planned
  exact ⟨rfl, rfl, g.get?_pick ids⟩

/-- A purge leaves the other records as they were, up to their flags. -/
theorem bare_purge {id : String} (purged : g.purge id = .ok g') (k : String) :
    (g'.records.get? k).map Record.bare =
      if k = id then none else (g.records.get? k).map Record.bare := by
  obtain ⟨-, rfl⟩ := purge_ok purged
  rw [bare_refreshHealth, Dict.get?_erase]
  split <;> rfl

/-- An adoption adds its record and leaves the others as they were, up to their flags. -/
theorem bare_commitAdoption (g : Registry) (bufferSize : Nat) (r : Record) (k : String) :
    ((g.commitAdoption bufferSize r).records.get? k).map Record.bare =
      ((g.records.insert r.id r).get? k).map Record.bare :=
  bare_refreshHealth _ k

/-- A purge takes an adoption back. -/
theorem bare_purge_commitAdoption (new : g.records.get? r.id = none) {bufferSize : Nat}
    (purged : (g.commitAdoption bufferSize r).purge r.id = .ok g') (k : String) :
    (g'.records.get? k).map Record.bare = (g.records.get? k).map Record.bare := by
  rw [bare_purge purged, bare_commitAdoption, Dict.get?_insert]
  split
  · next same => rw [same, new, Option.map_none]
  · rfl

/-- A pup that is installed can be purged. -/
theorem exists_purge {id : String} (installed : (g.records.get? id).isSome) :
    ∃ g', g.purge id = .ok g' := by
  obtain ⟨r, found⟩ := Option.isSome_iff_exists.1 installed
  exact ⟨_, by rw [purge, get_eq_ok_iff.2 found]; rfl⟩

end Registry

namespace Manager

variable {m m' : Manager} {d d' : Disk} {lists : List Catalog}

/-- What reports that are given while the catalogs can be had were made from. The catalogs are settled
from then on. -/
theorem dependencyReports_ok {id : String} {reports : List DependencyReport}
    (h : m.dependencyReports id d = (.ok reports, m')) (reachable : (m.catalogs.list d).1 = .ok lists) :
    m'.registry = m.registry ∧ m'.catalogs.Settled lists ∧
      ∃ r, m.registry.records.get? id = some r ∧
        reports = resolveDependencies r m.registry.records.values (.ok lists) := by
  unfold dependencyReports at h
  cases found : m.registry.get id with
  | error e => rw [found] at h; cases h
  | ok r =>
    simp only [found, reachable] at h
    cases h
    exact ⟨rfl, CatalogSource.settled_list reachable, r, Registry.get_eq_ok_iff.1 found, rfl⟩

/-- **Reports are made anew from the same pups**, up to their flags, and from the same catalogs. -/
theorem dependencyReports_of_bare (settled : m.catalogs.Settled lists) {id : String} {r : Record}
    {pups : List Record} (found : (m.registry.records.get? id).map Record.bare = some r.bare)
    (all : m.registry.records.values.map Record.bare = pups.map Record.bare) (d : Disk) :
    m.dependencyReports id d = (.ok (resolveDependencies r pups (.ok lists)), m) := by
  obtain ⟨r', found, bare⟩ := Option.map_eq_some_iff.1 found
  rw [dependencyReports, Registry.get_eq_ok_iff.2 found]
  simp only [settled d, resolveDependencies_eq_of_bare bare all]

/-- An adoption does not ask for the catalogs. -/
theorem catalogs_adopt {ids : IdSource} {manifest : Manifest} {source : Source}
    {breakdown : Option Disk.Breakdown} {r : Record}
    (h : m.adopt ids manifest source d breakdown = (.ok r, m', d')) : m'.catalogs = m.catalogs := by
  have outcome := (Call.adopt ids manifest source breakdown).outcome m d
  simp only [Call.run, h] at outcome
  exact outcome.catalogs

/-- The reports on a pup after another one was adopted are made from the same pups and the new one. -/
theorem dependencyReports_adopt (settled : m.catalogs.Settled lists) {ids : IdSource}
    {manifest : Manifest} {source : Source} {breakdown : Option Disk.Breakdown} {r : Record}
    (adopted : m.adopt ids manifest source d breakdown = (.ok r, m', d')) {id : String} {s : Record}
    (found : m.registry.records.get? id = some s) (d : Disk) :
    m'.dependencyReports id d =
      (.ok (resolveDependencies s (m.registry.records.insert r.id r).values (.ok lists)), m') := by
  obtain ⟨planned, committed⟩ := adopt_ok adopted
  obtain ⟨-, -, new⟩ := Registry.planAdoption_package planned
  have other : id ≠ r.id := fun same => by
    rw [← same, found] at new
    cases new
  have inserted := Registry.bare_commitAdoption m.registry m.settings.bufferSize r
  rw [← committed] at inserted
  refine dependencyReports_of_bare (catalogs_adopt adopted ▸ settled) ?_
    (Dict.map_values_eq _ inserted) d
  rw [inserted, Dict.get?_insert, if_neg other, found, Option.map_some]

/-- The pup that was adopted can be purged, and the reports on another one are made from the pups that
there were before. -/
theorem dependencyReports_purge (settled : m.catalogs.Settled lists) {ids : IdSource}
    {manifest : Manifest} {source : Source} {breakdown : Option Disk.Breakdown} {r : Record}
    (adopted : m.adopt ids manifest source d breakdown = (.ok r, m', d')) {id : String} {s : Record}
    (found : m.registry.records.get? id = some s) :
    ∃ m'', m'.purge r.id = (.ok (), m'') ∧ ∀ d, m''.dependencyReports id d =
      (.ok (resolveDependencies s m.registry.records.values (.ok lists)), m'') := by
  obtain ⟨planned, committed⟩ := adopt_ok adopted
  obtain ⟨-, -, new⟩ := Registry.planAdoption_package planned
  have installed : (m'.registry.records.get? r.id).isSome := by
    have inserted := Registry.bare_commitAdoption m.registry m.settings.bufferSize r r.id
    rw [← committed, Dict.get?_insert, if_pos rfl] at inserted
    simpa using congrArg Option.isSome inserted
  obtain ⟨g, purged⟩ := Registry.exists_purge installed
  have restored : ∀ k, (g.records.get? k).map Record.bare =
      (m.registry.records.get? k).map Record.bare :=
    Registry.bare_purge_commitAdoption new (committed ▸ purged)
  simp only [purge, purged]
  refine ⟨_, rfl, dependencyReports_of_bare ?_ ?_ (Dict.map_values_eq _ restored)⟩
  · exact catalogs_adopt adopted ▸ settled
  · exact (restored id).trans (by rw [found, Option.map_some])

end Manager

/-- **A candidate that is adopted moves from the installable pups to the installed ones.** A manager is
loaded from any store, and anything is called on it, on any disks. Then the reports on a pup are asked
for, while the catalogs can be had, and one of them lists a pup of a catalog as installable. If that pup
is adopted from the source of its catalog, the same report afterwards has the new pup among the installed
ones, has no pup of the source and name among the installable ones, and is otherwise the same. If the new
pup is purged, all reports are what they were before. -/
theorem candidate_moves {settings : ManagerSettings} {store : Store} {catalogs : CatalogSource}
    {monitor : Option Monitor} {d : Disk} {m : Manager}
    (loaded : Manager.load settings store catalogs monitor d = .ok m) (calls : List (Call × Disk))
    {x : String} {d₁ : Disk} {before : List DependencyReport} {m₁ : Manager}
    (asked : (m.after calls).dependencyReports x d₁ = (.ok before, m₁)) {lists : List Catalog}
    (reachable : ((m.after calls).catalogs.list d₁).1 = .ok lists) {i : Nat}
    {report : DependencyReport} (dependency : before[i]? = some report) {l : Catalog} {c : CatalogPup}
    (candidate : report.Lists lists l c) (named : c.manifest.name = c.name) {ids : IdSource}
    {source : Source} (origin : source.id = l.sourceId) {d₂ d₂' : Disk}
    {breakdown : Option Disk.Breakdown} {r : Record} {m₂ : Manager}
    (adopted : m₁.adopt ids c.manifest source d₂ breakdown = (.ok r, m₂, d₂')) (d₃ d₄ : Disk) :
    ∃ after m₃ report', m₂.dependencyReports x d₃ = (.ok after, m₃) ∧ after[i]? = some report' ∧
      report.Moved r.id l.sourceId c.name report' ∧
      ∃ m₄, m₃.purge r.id = (.ok (), m₄) ∧ (m₄.dependencyReports x d₄).1 = .ok before := by
  have indexed := Manager.registry_after (P := Registry.Indexed) (fun _ _ h effect => effect.indexed h)
    m (Manager.current_load loaded).1 calls
  obtain ⟨unchanged, settled, s, found, rfl⟩ := Manager.dependencyReports_ok asked reachable
  rw [← unchanged] at indexed found dependency ⊢
  obtain ⟨manifest, comesFrom, new⟩ :=
    Registry.planAdoption_package (Manager.adopt_ok adopted).1
  -- The new record comes in somewhere among the others, of which none has its ID.
  obtain ⟨low, high, pups, morePups⟩ := Dict.values_insert new r
  have absent : ∀ t ∈ low ++ high, t.id ≠ r.id := fun t member same => by
    obtain ⟨k, there⟩ := Dict.mem_values_iff.1 (pups ▸ member)
    rw [← same, indexed.keyed k t there, there] at new
    cases new
  have other : r.id ≠ s.id :=
    (absent s (pups ▸ Dict.mem_values_iff.2 ⟨x, found⟩)).symm
  have after := Manager.dependencyReports_adopt settled adopted found d₃
  obtain ⟨m₄, purged, restored⟩ := Manager.dependencyReports_purge settled adopted found
  obtain ⟨range, readable, offers⟩ := candidate.offers
  rw [pups] at dependency
  obtain ⟨report', there, moved⟩ := DependencyReport.exists_moved dependency readable
    (manifest ▸ offers) other absent
  have sourceId : r.source.id = l.sourceId := comesFrom ▸ origin
  have name : r.name = c.name := by rw [Record.name, manifest, named]
  rw [sourceId, name] at moved
  rw [morePups] at after
  exact ⟨_, m₂, report', after, there, moved, m₄, purged, by rw [restored d₄]⟩

/-- A manifest of a node that can be called. -/
def nodeManifest (version : String) : Manifest where
  identity := ⟨"node", version, ""⟩
  interfaces := [{ name := "rpc", version := "1.2.0" }]

/-- A catalog with a node in two versions. -/
def nodeCatalog : Catalog where
  sourceId := "main"
  location := "/srv"
  pups := ["1.0.0", "2.0.0"].map fun version => ⟨"node", version, "/srv/node", nodeManifest version⟩

/-- A manager without pups that can be supplied from the catalog. -/
def suppliedManager : Manager :=
  { bareManager with catalogs := .fixed (.ok [nodeCatalog]) }

/-- A wallet calls a node. -/
def walletAdoption : List (Call × Disk) :=
  [(.adopt (.numbersFrom 0)
    { identity := ⟨"wallet", "1.0.0", ""⟩, dependencies := [{ interface := "rpc", range := "^1.1" }] }
    ⟨"main", "/srv"⟩ none, bareDisk)]

/-- What is known of the dependency of the wallet before a node is installed. -/
def walletReport : DependencyReport where
  interface := "rpc"
  range := "^1.1"
  isOptional := false
  installable := [⟨"main", "node", "1.0.0", "/srv/node"⟩, ⟨"main", "node", "2.0.0", "/srv/node"⟩]

/-- The wallet could have a node in two versions. One of them is installed, and neither is installable any
more; it is purged, and both are again. -/
theorem candidate_moves_node :
    Manager.load suppliedManager.settings suppliedManager.store suppliedManager.catalogs
        suppliedManager.monitor bareDisk = .ok suppliedManager.rewatch ∧
      ∃ m₁, (suppliedManager.rewatch.after walletAdoption).dependencyReports "0" bareDisk =
          (.ok [walletReport], m₁) ∧
        ∃ r m₂ d, m₁.adopt (.numbersFrom 0) (nodeManifest "1.0.0") ⟨"main", "/srv"⟩ bareDisk =
            (.ok r, m₂, d) ∧ r.id = "1" ∧
          ∃ after m₃ report', m₂.dependencyReports "0" d = (.ok after, m₃) ∧
            after[0]? = some report' ∧ walletReport.Moved "1" "main" "node" report' ∧
            ∃ m₄, m₃.purge "1" = (.ok (), m₄) ∧
              (m₄.dependencyReports "0" d).1 = .ok [walletReport] := by
  have loaded : Manager.load suppliedManager.settings suppliedManager.store suppliedManager.catalogs
      suppliedManager.monitor bareDisk = .ok suppliedManager.rewatch := by
    have none : (Disk.run suppliedManager.store.loadAll bareDisk).1 = .ok [] := by decide +kernel
    rw [Manager.load, none]
    rfl
  have given : ((suppliedManager.rewatch.after walletAdoption).dependencyReports "0" bareDisk).1 =
      .ok [walletReport] := by decide +kernel
  have range : ∃ range, Range.read walletReport.range = .ok range ∧
      (nodeManifest "1.0.0").offers walletReport.interface range := by
    have offered : (Range.read walletReport.range).toOption.any
        ((nodeManifest "1.0.0").offers walletReport.interface) = true := by decide +kernel
    cases read : Range.read walletReport.range with
    | error e => rw [read] at offered; cases offered
    | ok range =>
      rw [read] at offered
      exact ⟨range, rfl, offered⟩
  have candidate : walletReport.Lists [nodeCatalog] nodeCatalog
      ⟨"node", "1.0.0", "/srv/node", nodeManifest "1.0.0"⟩ :=
    ⟨List.mem_singleton_self _, by decide, by decide, range⟩
  have id : (((suppliedManager.rewatch.after walletAdoption).dependencyReports "0" bareDisk).2.adopt
      (.numbersFrom 0) (nodeManifest "1.0.0") ⟨"main", "/srv"⟩ bareDisk).1.map (·.id) = .ok "1" := by
    decide +kernel
  refine ⟨loaded, _, Prod.ext given rfl, ?_⟩
  rcases ran : ((suppliedManager.rewatch.after walletAdoption).dependencyReports "0" bareDisk).2.adopt
      (.numbersFrom 0) (nodeManifest "1.0.0") ⟨"main", "/srv"⟩ bareDisk with ⟨e | r, m₂, d⟩
  · rw [ran] at id
    cases id
  · rw [ran] at id
    have id : r.id = "1" := Except.ok.inj id
    refine ⟨r, m₂, d, rfl, id, ?_⟩
    rw [← id]
    exact candidate_moves loaded walletAdoption (Prod.ext given rfl) (by decide +kernel) rfl candidate rfl
      rfl ran d d

end Kennel
