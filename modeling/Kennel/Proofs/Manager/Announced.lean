import Kennel.Proofs.Manager.Bystanders
import Kennel.Proofs.Manager.Observed
import Kennel.Proofs.Record.Updates

/-!
# What is told of an update

Subscribers are told of each kind of change that an update made, and the monitor is asked for a burst of
measurements if the pup was enabled or disabled. **What is told is complete and has no repetitions**
(`updates_announced`): a part of the record of which nothing is told is as it was, so that who follows
the notices knows the record up to its health flags, and the burst is asked for once.

The other way around nothing is claimed: what was told of can be as it was before, since configuration
and providers are told of at every update, and a pup that is disabled and enabled again was changed.
-/

namespace Kennel

/-- What updates make of a record, and the kinds of change that they queue. -/
structure Record.Updated (updates : List Update) (old new : Record) (kinds : List NoticeKind) :
    Prop where
  nodup : kinds.Nodup
  queued : Update.Queues (Update.produced updates old) kinds
  kept : old.Kept new
  samePhase : .installationChanged ∉ kinds → new.phase = old.phase
  sameEnabled : .enabledChanged ∉ kinds → new.enabled = old.enabled
  sameConfig : .configChanged ∉ kinds → new.config = old.config
  sameProviders : .providersChanged ∉ kinds → new.providers = old.providers
  /-- Nothing but flags is changed silently. -/
  quiet : kinds = [] → new.bare = old.bare
  /-- The latest value that was given for a field counts. -/
  config : ∀ field, new.config.get? field =
    ((updates.filterMap Update.merged?).reverse.findSome? (·.get? field)).or (old.config.get? field)
  /-- Selections are put over the old ones. -/
  amended : (∀ u ∈ updates, u.replacesProviders = false) → ∀ interface,
    new.providers.get? interface = ((updates.filterMap Update.selected?).reverse.lookup interface).or
      (old.providers.get? interface)
  /-- After the last replacement, selections are put over what it brought. -/
  replaced : ∀ before providers later, updates = before ++ .setProviders providers :: later →
    (∀ u ∈ later, u.replacesProviders = false) → ∀ interface,
      new.providers.get? interface = ((later.filterMap Update.selected?).reverse.lookup interface).or
        (providers.get? interface)

/-- Records that agree in what was settled at adoption and in what updates can be told of agree in all
but the flags. -/
theorem Record.Kept.bare_eq {old new : Record} (h : old.Kept new) (phase : new.phase = old.phase)
    (enabled : new.enabled = old.enabled) (config : new.config = old.config)
    (providers : new.providers = old.providers) : new.bare = old.bare := by
  simp only [Record.bare, h.id, h.address, h.webUis, h.manifest, h.source, phase, enabled, config,
    providers]

theorem Record.updated_applyAll (updates : List Update) (r : Record) :
    r.Updated updates (Update.applyAll updates r).1 (Update.applyAll updates r).2 := by
  have queued := Update.queues_applyAll updates r
  have kept := Record.Kept.applyAll updates r
  have view : ∀ {β : Type} (view : Record → β) (k : NoticeKind),
      (∀ (u : Update) r, u.kind? r ≠ some k → view (u.applyTo r) = view r) →
        k ∉ (Update.applyAll updates r).2 → view (Update.applyAll updates r).1 = view r :=
    fun view k seen absent => Update.view_applyAll seen fun made => absent ((queued.mem_iff k).2 made)
  have phase := view (·.phase) .installationChanged fun u r => (u.kept_of_kind? r).1
  have enabled := view (·.enabled) .enabledChanged fun u r => (u.kept_of_kind? r).2.1
  have config := view (·.config) .configChanged fun u r => (u.kept_of_kind? r).2.2.1
  have providers := view (·.providers) .providersChanged fun u r => (u.kept_of_kind? r).2.2.2
  refine ⟨queued.nodup, queued, kept, phase, enabled, config, providers, fun empty => ?_,
    Update.get?_config_applyAll updates r, fun amended => Update.get?_providers_applyAll amended r, ?_⟩
  · rw [empty] at phase enabled config providers
    exact kept.bare_eq (phase List.not_mem_nil) (enabled List.not_mem_nil) (config List.not_mem_nil)
      (providers List.not_mem_nil)
  · rintro before base later rfl amended
    exact Update.get?_providers_applyAll_replaced amended before base r

namespace Manager

/-- The monitor is asked for one burst, of the container of the pup, or for nothing. -/
theorem monitor_announceKinds (m : Manager) (id : String) (kinds : List NoticeKind) :
    (m.announceKinds id kinds).monitor = m.monitor.map fun w =>
      ⟨w.calls ++ if .enabledChanged ∈ kinds then [.burst (.container id)] else []⟩ := by
  unfold announceKinds
  by_cases queued : .enabledChanged ∈ kinds
  · rw [if_pos (List.contains_iff_mem.2 queued)]
    simp only [if_pos queued]
    rfl
  · rw [if_neg fun there => queued (List.contains_iff_mem.1 there)]
    simp only [if_neg queued, List.append_nil, Option.map_id_fun', id_eq]

theorem noticeFeed_announceKinds (m : Manager) (id : String) (kinds : List NoticeKind) :
    (m.announceKinds id kinds).noticeFeed = m.noticeFeed := by
  unfold announceKinds
  split <;> rfl

end Manager

/-- **What is told of an update is complete and has no repetitions.** Any updates are applied to any
record. No kind of change is queued twice, the kinds stand in the order in which the updates first made
such changes, and a part of the record whose kind is not queued is as it was; with nothing queued, all but
the flags is. What was settled at adoption stays. Each field of the configuration has the latest value
that the updates give for it, or the old one, and each interface the latest provider, where the last
replacement of all providers takes the place of the old ones.

A manager that is asked for the updates of a pup tells its subscribers of the kinds in the queue, each with
the record after all updates, and asks the monitor for one burst, of the container of that pup, exactly if
the pup was enabled or disabled in between. If the update fails, the manager is as it was. -/
theorem updates_announced (updates : List Update) :
    (∀ r : Record, r.Updated updates (Update.applyAll updates r).1 (Update.applyAll updates r).2) ∧
    ∀ (m : Manager) (id : String) (d : Disk) (breakdown : Option Disk.Breakdown),
      (∀ e m' d', m.update id updates d breakdown = (.error e, m', d') → m' = m) ∧
      ∀ r m' d', m.update id updates d breakdown = (.ok r, m', d') →
        (m.registry.Indexed → r.id = id) ∧
        ∃ old new kinds, m.registry.records.get? id = some old ∧
          Update.applyAll updates old = (new, kinds) ∧ r = m.registry.marked new ∧
          m'.noticeFeed = m.noticeFeed.emitAll (kinds.map (Notice.ofRecord · r)) ∧
          m'.monitor = m.monitor.map fun w =>
            ⟨w.calls ++ if .enabledChanged ∈ kinds then [.burst (.container r.id)] else []⟩ := by
  refine ⟨Record.updated_applyAll updates, fun m id d breakdown => ⟨fun e m' d' failed => ?_,
    fun r m' d' updated => ?_⟩⟩
  · unfold Manager.update at failed
    split at failed
    · cases failed
      rfl
    · split at failed
      · cases failed
        rfl
      · cases failed
  · obtain ⟨kinds, planned, rfl⟩ := Manager.update_eq_ok updated
    obtain ⟨old, found, rfl, rfl⟩ := Registry.planUpdate_eq_ok planned
    refine ⟨fun indexed => ?_, old, _, _, found, rfl, rfl, ?_, ?_⟩
    · exact (Record.Kept.applyAll updates old).id.trans (indexed.keyed id old found)
    · rw [Manager.noticeFeed_announceKinds]
      rfl
    · rw [Manager.monitor_announceKinds]
      rfl

/-- A pup is disabled and enabled again, and configured before and after. -/
def wavering : List Update :=
  [.mergeConfig (Dict.ofList [("peers", "8"), ("seed", "a")]), .setEnabled false, .setEnabled true,
    .mergeConfig (Dict.ofList [("peers", "16")])]

/-- Subscribers are told of two changes, and the monitor is asked for a burst though the pup is enabled
as before. -/
theorem updates_announced_wavering :
    ∃ r m' d', (bareManager.rewatch.after enabledPup).update "0" wavering bareDisk = (.ok r, m', d') ∧
      r.enabled = true ∧ r.config.get? "peers" = some "16" ∧ r.config.get? "seed" = some "a" ∧
      m'.noticeFeed = (bareManager.rewatch.after enabledPup).noticeFeed.emitAll
        [.ofRecord .configChanged r, .ofRecord .enabledChanged r] ∧
      m'.monitor = (bareManager.rewatch.after enabledPup).monitor.map
        fun w => ⟨w.calls ++ [.burst (.container "0")]⟩ := by
  have queued : ((bareManager.rewatch.after enabledPup).registry.records.get? "0").map
      (fun old => ((Update.applyAll wavering old).1.enabled, (Update.applyAll wavering old).2)) =
        some (true, [.configChanged, .enabledChanged]) := by decide +kernel
  have done : ((bareManager.rewatch.after enabledPup).update "0" wavering bareDisk).1.map (·.id) =
      .ok "0" := by decide +kernel
  obtain ⟨applied, managed⟩ := updates_announced wavering
  obtain ⟨-, told⟩ := managed (bareManager.rewatch.after enabledPup) "0" bareDisk none
  rcases ran : (bareManager.rewatch.after enabledPup).update "0" wavering bareDisk with ⟨e | r, m', d'⟩
  · rw [ran] at done
    cases done
  · obtain ⟨-, old, new, kinds, found, made, marked, notices, monitor⟩ := told r m' d' ran
    have updated := applied old
    rw [made] at updated
    simp only [found, made, Option.map_some, Option.some.injEq, Prod.mk.injEq] at queued
    obtain ⟨enabled, rfl⟩ := queued
    rw [ran] at done
    have id : r.id = "0" := Except.ok.inj done
    rw [id] at monitor
    refine ⟨r, m', d', rfl, by rw [marked]; exact enabled, ?_, ?_, notices, monitor⟩
    · rw [marked]
      exact updated.config "peers"
    · rw [marked]
      exact updated.config "seed"

end Kennel
