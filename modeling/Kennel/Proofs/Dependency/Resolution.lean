import Kennel.Dependency.Resolution

/-!
# Reports that stand by themselves

The dependencies of a pup are reported on one by one, in the order of its manifest. A report looks at
its dependency, at the ID of the pup and the provider that is selected for the interface, at the other
pups that are installed, and at the catalogs (`DependencyReport.ofDependency_congr`). So **what is wrong
with one dependency shows in no report on another**, and a pup that is installed is found by what its
manifest declares (`Manifest.Declares`), wherever else the manifest has a version that cannot be read.

Catalogs that cannot be had leave their mark in the reports on ranges that can be read, and take nothing
from them but the pups of the catalogs. Nothing is said here of which these are.
-/

namespace Kennel

/-! ## What a manifest declares -/

/-- The manifest has the interface, under this name and at a version that can be read and is in
range. It may have others of that name. -/
def Manifest.Declares (m : Manifest) (interface : String) (range : Range) : Prop :=
  ∃ i ∈ m.interfaces, i.name = interface ∧
    ∃ v, Version.read i.version = .ok v ∧ range.contains v = true

theorem Manifest.Interface.provides_iff {i : Manifest.Interface} {name : String} {range : Range} :
    i.provides name range = true ↔
      i.name = name ∧ ∃ v, Version.read i.version = .ok v ∧ range.contains v = true := by
  unfold provides
  cases Version.read i.version <;> simp

/-- What is offered is what is declared. -/
theorem Manifest.offers_iff {m : Manifest} {interface : String} {range : Range} :
    m.offers interface range = true ↔ m.Declares interface range := by
  simp only [offers, List.any_eq_true, Manifest.Interface.provides_iff, Declares]

instance (m : Manifest) (interface : String) (range : Range) :
    Decidable (m.Declares interface range) :=
  decidable_of_iff _ Manifest.offers_iff

/-- What is found out about the range of a text holds of a range that is read from it. -/
theorem Range.exists_read (text : String) (p : Range → Bool)
    (h : (Range.read text).toOption.any p = true) :
    ∃ range, Range.read text = .ok range ∧ p range = true := by
  cases read : Range.read text with
  | error e => rw [read] at h; cases h
  | ok range => exact ⟨range, rfl, by rwa [read] at h⟩

/-- The record with other dependencies in its manifest. -/
def Record.withDependencies (r : Record) (dependencies : List Manifest.Dependency) : Record :=
  { r with manifest := { r.manifest with dependencies } }

namespace DependencyReport

variable {r r' : Record} {installed installed' : List Record} {catalogs : Except String (List Catalog)}
  {d : Manifest.Dependency} {range : Range}

/-! ## One report -/

/-- A report is on its dependency, whatever came of the range. -/
theorem ofDependency_names (r : Record) (installed : List Record)
    (catalogs : Except String (List Catalog)) (d : Manifest.Dependency) :
    (ofDependency r installed catalogs d).interface = d.interface ∧
      (ofDependency r installed catalogs d).range = d.range ∧
      (ofDependency r installed catalogs d).isOptional = d.isOptional := by
  unfold ofDependency
  split <;> exact ⟨rfl, rfl, rfl⟩

/-- The providers are the other pups that declare the interface. -/
theorem providersOf_eq (r : Record) (installed : List Record) (interface : String) (range : Range) :
    providersOf r installed interface range =
      installed.filter fun p => p.id ≠ r.id ∧ p.manifest.Declares interface range := by
  refine List.filter_congr fun p _ => ?_
  rw [Bool.eq_iff_iff, Bool.and_eq_true, bne_iff_ne, Manifest.offers_iff, decide_eq_true_iff]

/-- The providers are found among the other pups. -/
theorem providersOf_others (r : Record) (installed : List Record) (interface : String)
    (range : Range) :
    providersOf r installed interface range =
      (installed.filter (·.id != r.id)).filter (·.manifest.offers interface range) := by
  rw [List.filter_filter]
  exact List.filter_congr fun p _ => Bool.and_comm _ _

/-- **A report looks only at its dependency**, the ID of the record, the provider that is selected for
the interface, the other pups and the catalogs. -/
theorem ofDependency_congr (id : r'.id = r.id)
    (selected : r'.providers.get? d.interface = r.providers.get? d.interface)
    (others : installed'.filter (·.id != r.id) = installed.filter (·.id != r.id)) :
    ofDependency r' installed' catalogs d = ofDependency r installed catalogs d := by
  have providers : ∀ range, providersOf r' installed' d.interface range =
      providersOf r installed d.interface range := fun range => by
    rw [providersOf_others, providersOf_others, id, others]
  simp only [ofDependency, providers, selected]

/-- Without catalogs a report on a range that can be read has no installable pups and says why, and is
otherwise the same. -/
theorem ofDependency_unreachable (readable : Range.read d.range = .ok range) (lists : List Catalog)
    (message : String) :
    ofDependency r installed (.error message) d =
      { ofDependency r installed (.ok lists) d with
        installable := []
        error := some ("catalogs unavailable: " ++ message) } := by
  simp only [ofDependency, readable]

/-- A report on a range that cannot be read does not look at the catalogs. -/
theorem ofDependency_unreadable {e : VersionError} (unreadable : Range.read d.range = .error e)
    (catalogs catalogs' : Except String (List Catalog)) :
    ofDependency r installed catalogs' d = ofDependency r installed catalogs d := by
  simp only [ofDependency, unreadable]

/-- A report on a range that can be read has the other pups that declare the interface. -/
theorem installed_ofDependency (readable : Range.read d.range = .ok range) :
    (ofDependency r installed catalogs d).installed =
      (installed.filter fun p => p.id ≠ r.id ∧ p.manifest.Declares d.interface range).map (·.id) := by
  simp only [ofDependency, readable, providersOf_eq]

end DependencyReport

open DependencyReport

/-- **Reports are exact, and each stands by itself.** For every record, installed pups and catalogs
there is one report for each dependency, in the order of the manifest. A report on a range that can be
read names the installed pups other than the record's own that declare the interface in that range, in
their order. Another dependency in the place of one of them leaves the reports on all others as they
are, however the record's own pup stands among the installed ones. And without catalogs a report on a
range that can be read differs in the installable pups, of which there are none, and in the error; one
on a range that cannot be read is the same. -/
theorem reports_independent (r : Record) (installed : List Record)
    (catalogs : Except String (List Catalog)) :
    (resolveDependencies r installed catalogs).map (fun a => (a.interface, a.range, a.isOptional)) =
        r.manifest.dependencies.map (fun d => (d.interface, d.range, d.isOptional)) ∧
      (∀ (i : Nat) (d : Manifest.Dependency) (range : Range),
        r.manifest.dependencies[i]? = some d → Range.read d.range = .ok range →
        ((resolveDependencies r installed catalogs)[i]?).map (·.installed) =
          some ((installed.filter fun p => p.id ≠ r.id ∧ p.manifest.Declares d.interface range).map
            (·.id))) ∧
      (∀ (i : Nat) (d : Manifest.Dependency) (installed' : List Record),
        installed'.filter (·.id != r.id) = installed.filter (·.id != r.id) → ∀ j, j ≠ i →
          (resolveDependencies (r.withDependencies (r.manifest.dependencies.set i d)) installed'
              catalogs)[j]? = (resolveDependencies r installed catalogs)[j]?) ∧
      ∀ (i : Nat) (d : Manifest.Dependency) (lists : List Catalog) (message : String),
        r.manifest.dependencies[i]? = some d →
        (∀ range, Range.read d.range = .ok range →
          (resolveDependencies r installed (.error message))[i]? =
            ((resolveDependencies r installed (.ok lists))[i]?).map fun a =>
              { a with
                installable := []
                error := some ("catalogs unavailable: " ++ message) }) ∧
        ∀ e, Range.read d.range = .error e →
          (resolveDependencies r installed (.error message))[i]? =
            (resolveDependencies r installed (.ok lists))[i]? := by
  refine ⟨?_, fun i d range there readable => ?_, fun i d installed' others j other => ?_,
    fun i d lists message there => ⟨fun range readable => ?_, fun e unreadable => ?_⟩⟩
  · rw [resolveDependencies, List.map_map]
    refine List.map_congr_left fun d _ => ?_
    obtain ⟨interface, range, isOptional⟩ := ofDependency_names r installed catalogs d
    simp only [Function.comp_apply, interface, range, isOptional]
  · rw [resolveDependencies, List.getElem?_map, there, Option.map_some, Option.map_some,
      installed_ofDependency readable]
  · have apart : (r.manifest.dependencies.set i d)[j]? = r.manifest.dependencies[j]? :=
      List.getElem?_set_ne (Ne.symm other)
    rw [resolveDependencies, List.getElem?_map, resolveDependencies, List.getElem?_map]
    simp only [Record.withDependencies, apart]
    exact congrArg (Option.map · _) (funext fun _ => ofDependency_congr rfl rfl others)
  · rw [resolveDependencies, List.getElem?_map, resolveDependencies, List.getElem?_map, there,
      Option.map_some, Option.map_some, Option.map_some,
      ofDependency_unreachable readable lists message]
  · rw [resolveDependencies, List.getElem?_map, resolveDependencies, List.getElem?_map, there,
      Option.map_some, Option.map_some, ofDependency_unreadable unreadable]

/-- A pup at this address that was adopted from one source. -/
def localPup (id : String) (last : UInt8) (manifest : Manifest) : Record where
  id := id
  phase := .ready
  enabled := true
  config := ∅
  address := .ofOctets 10 69 0 last
  webUis := []
  providers := ∅
  manifest := manifest
  source := ⟨"main", "/srv"⟩
  needsConf := false
  needsDeps := false

/-- A pup with two dependencies, of which one has a range that cannot be read. -/
def confusedPup : Record := localPup "wallet" 2
  { identity := ⟨"wallet", "1.0.0", ""⟩
    dependencies := [{ interface := "stats", range := "soon" }, { interface := "rpc", range := "^1.1" }] }

/-- That pup and two nodes. The first of them has the interface in three versions, of which one cannot
be read and one is out of range. -/
def pupsBesideConfused : List Record :=
  [localPup "node" 3
      { identity := ⟨"node", "1.0.0", ""⟩
        interfaces := [⟨"rpc", "one", []⟩, ⟨"rpc", "1.0.0", []⟩, ⟨"rpc", "1.2.0", []⟩] },
    confusedPup,
    localPup "later" 4 { identity := ⟨"later", "1.0.0", ""⟩, interfaces := [⟨"rpc", "2.0.0", []⟩] }]

/-- The range that cannot be read takes nothing from the other report, in which the node stands, nor do
catalogs that cannot be had; and that report is the same with a range that can be read in its place. -/
theorem reports_independent_confused :
    ((resolveDependencies confusedPup pupsBesideConfused (.error "down"))[1]?).map (·.installed) =
        some ["node"] ∧
      (resolveDependencies
          (confusedPup.withDependencies [⟨"stats", "*", true, none⟩, ⟨"rpc", "^1.1", false, none⟩])
          pupsBesideConfused (.error "down"))[1]? =
        (resolveDependencies confusedPup pupsBesideConfused (.error "down"))[1]? ∧
      (resolveDependencies confusedPup pupsBesideConfused (.error "down"))[0]? =
        (resolveDependencies confusedPup pupsBesideConfused (.ok []))[0]? := by
  obtain ⟨-, exact, others, catalogs⟩ :=
    reports_independent confusedPup pupsBesideConfused (.error "down")
  obtain ⟨range, readable, node⟩ := Range.exists_read "^1.1"
    (fun range => (pupsBesideConfused.filter fun p =>
      p.id ≠ "wallet" ∧ p.manifest.Declares "rpc" range).map (·.id) == ["node"]) (by decide +kernel)
  have unreadable : ∃ e, Range.read "soon" = .error e := by
    have failed : (Range.read "soon").toOption.isNone = true := by decide +kernel
    cases read : Range.read "soon" with
    | error e => exact ⟨e, rfl⟩
    | ok range => rw [read] at failed; cases failed
  obtain ⟨e, unreadable⟩ := unreadable
  refine ⟨?_, others 0 ⟨"stats", "*", true, none⟩ _ rfl 1 (by decide), ?_⟩
  · rw [exact 1 ⟨"rpc", "^1.1", false, none⟩ range rfl readable]
    exact congrArg some (beq_iff_eq.1 node)
  · exact (catalogs 0 ⟨"stats", "soon", false, none⟩ [] "down" rfl).2 e unreadable

end Kennel
