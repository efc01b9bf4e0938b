import Kennel.Proofs.Manager.Calls

/-!
# Health flags

The flags of a record are found anew after each change, and nothing depends on what they were:
they follow from the rest of the record and from which pups are installed. So records that differ in
their flags only are marked alike by registries of the same pups (`marked_eq`), and in a registry
that looked at the health after its last change **every record bears its own verdict** (`Fresh`).
-/

namespace Kennel

/-- The record with both flags down. -/
def Record.bare (r : Record) : Record := { r with needsConf := false, needsDeps := false }

/-- Records that differ in their flags only keep what was settled at adoption. -/
theorem Record.Kept.of_bare {a b : Record} (h : a.bare = b.bare) : a.Kept b where
  id := (congrArg Record.id h).symm
  address := (congrArg Record.address h).symm
  webUis := (congrArg Record.webUis h).symm
  manifest := (congrArg Record.manifest h).symm
  source := (congrArg Record.source h).symm

/-- Records that agree but for their flags are of the same pups. -/
theorem isSome_eq_of_bare {records records' : Dict Record} {k : String}
    (same : (records'.get? k).map Record.bare = (records.get? k).map Record.bare) :
    (records'.get? k).isSome = (records.get? k).isSome := by
  simpa only [Option.isSome_map] using congrArg Option.isSome same

namespace Registry

variable {g g' : Registry}

/-- A look at the health changes nothing but flags. -/
theorem bare_refreshHealth (g : Registry) (k : String) :
    (g.refreshHealth.records.get? k).map Record.bare = (g.records.get? k).map Record.bare := by
  rw [get?_refreshHealth, Option.map_map]
  rfl

/-- A mark of health looks only at which of the selected providers are installed. -/
theorem marked_eq_of_providers {r : Record}
    (same : ∀ interface id, r.providers.get? interface = some id →
      (g.stats.get? id).isSome = (g'.stats.get? id).isSome) : g.marked r = g'.marked r := by
  have selected : ∀ interface : String,
      (Health.providerStatus r g.statusOf interface).isNone =
        (Health.providerStatus r g'.statusOf interface).isNone := by
    intro interface
    unfold Health.providerStatus
    cases chosen : r.providers.get? interface with
    | none => rfl
    | some id =>
      have installed := same interface id chosen
      simp only [Option.bind_some, statusOf, Option.isNone_map]
      rw [← Option.not_isSome, ← Option.not_isSome, installed]
  simp only [marked, evaluate, Health.evaluate, Health.mark, selected]

/-- **The flags follow from the rest of the record and from which pups are installed.** -/
theorem marked_eq (pups : ∀ k, (g.stats.get? k).isSome = (g'.stats.get? k).isSome) {r r' : Record}
    (same : r.bare = r'.bare) : g.marked r = g'.marked r' :=
  calc g.marked r = g.marked r.bare := rfl
    _ = g.marked r'.bare := by rw [same]
    _ = g.marked r' := rfl
    _ = g'.marked r' := marked_eq_of_providers fun _ id _ => pups id

/-- Every record bears its own verdict. -/
def Fresh (g : Registry) : Prop := ∀ k r, g.records.get? k = some r → g.marked r = r

theorem fresh_refreshHealth (g : Registry) : g.refreshHealth.Fresh := by
  intro k r h
  rw [get?_refreshHealth, Option.map_eq_some_iff] at h
  obtain ⟨r, -, rfl⟩ := h
  exact marked_eq (isSome_stats_refreshHealth g) rfl

/-- **Every operation on the registry leaves each record with its verdict.** -/
theorem Fresh.step (h : g.Fresh) (effect : Call.Effect g g') : g'.Fresh := by
  cases effect with
  | none => exact h
  | adopt bufferSize planned => exact fresh_refreshHealth _
  | update planned => exact fresh_refreshHealth _
  | purge purged =>
    obtain ⟨-, rfl⟩ := purge_ok purged
    exact fresh_refreshHealth _
  | ingest sample slow =>
    obtain ⟨seen, seenEq, -⟩ := ingest_eq g sample slow
    rw [seenEq]
    exact fresh_refreshHealth seen
  | recordMetrics recorded =>
    obtain ⟨records, -, stats⟩ := recordMetrics_ok recorded
    intro k r found
    rw [records] at found
    rw [marked_eq stats rfl]
    exact h k r found

/-- Two registries of the same pups, in which each record bears its verdict, have the same records if
these agree in all but the flags. -/
theorem records_eq_of_bare (indexed : g.Indexed) (indexed' : g'.Indexed) (fresh : g.Fresh)
    (fresh' : g'.Fresh)
    (same : ∀ k, (g.records.get? k).map Record.bare = (g'.records.get? k).map Record.bare) :
    g.records = g'.records := by
  have installed : ∀ k, (g.records.get? k).isSome = (g'.records.get? k).isSome := fun k =>
    isSome_eq_of_bare (same k)
  have pups : ∀ k, (g.stats.get? k).isSome = (g'.stats.get? k).isSome := by
    intro k
    rw [indexed.tracked, indexed'.tracked, installed]
  refine Dict.ext_get? fun k => ?_
  have h := same k
  cases hg : g.records.get? k with
  | none =>
    rw [hg] at h
    exact (Option.map_eq_none_iff.1 h.symm).symm
  | some r =>
    rw [hg] at h
    obtain ⟨r', hg', bare⟩ := Option.map_eq_some_iff.1 h.symm
    rw [hg', ← fresh k r hg, ← fresh' k r' hg', marked_eq pups bare.symm]

end Registry

end Kennel
