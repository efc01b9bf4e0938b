import Kennel.Proofs.Manager.Addresses
import Kennel.Proofs.Manager.Follower
import Kennel.Proofs.Record.Updates

/-!
# Selected providers

A pup may select other pups as providers, and a provider can be gone later. An update is refused if
anybody it mentions is not installed, also where a later update of the same list takes the selection
back (`Registry.installed_of_planUpdate`). So **a selected provider is installed, or somebody took it
away**: it was purged, or its stored record was deleted (`Registry.Provided`). And where a provider is
gone that a pup cannot do without, **the pup may not start** (`Manager.Gated`).

A restart loads the stored records, in which a provider can stand that was purged before they were
stored last. So the invariant (`Rooted`) is about the stored records too; and who is installed is stored
as well, unless somebody took it away, so that a restart takes away nobody else.

An update stores its record between its check and its commit, and others go on meanwhile. Since no purge
can take the write lock then, the plan stays valid (`Traffic.Matches`), and everybody that the update
mentions is installed up to its commit.
-/

namespace Kennel

open Traffic

/-! ## What updates select -/

namespace Update

/-- A provider that is selected after an update was selected before it, or the update mentions it. -/
theorem mem_providers_of_applyTo {u : Update} {r : Record} {interface p : String}
    (selected : (u.applyTo r).providers.get? interface = some p) :
    r.providers.get? interface = some p ∨ p ∈ u.providers := by
  cases u with
  | setProvider i q =>
    rw [applyTo, Dict.get?_insert] at selected
    split at selected
    · exact .inr (List.mem_singleton.2 (Option.some.inj selected).symm)
    · exact .inl selected
  | setProviders providers => exact .inr (Dict.mem_values_iff.2 ⟨interface, selected⟩)
  | setPhase | mergeConfig | setEnabled | setNeedsConf | setNeedsDeps => exact .inl selected

/-- A provider that is selected after updates was selected before them, or one of them mentions it. -/
theorem mem_providers_of_applyAll {updates : List Update} {r : Record} {interface p : String}
    (selected : (applyAll updates r).1.providers.get? interface = some p) :
    r.providers.get? interface = some p ∨ ∃ u ∈ updates, p ∈ u.providers := by
  rw [applyAll_eq] at selected
  induction updates generalizing r with
  | nil => exact .inl selected
  | cons u updates ih =>
    rcases ih selected with before | ⟨v, later, mentioned⟩
    · exact (mem_providers_of_applyTo before).imp_right fun mentioned =>
        ⟨u, List.mem_cons_self, mentioned⟩
    · exact .inr ⟨v, List.mem_cons_of_mem u later, mentioned⟩

end Update

namespace Registry

variable {g : Registry}

/-- Nobody is missing exactly if all are installed whom the updates mention. -/
theorem missingProvider?_eq_none_iff {updates : List Update} :
    g.missingProvider? updates = none ↔
      ∀ u ∈ updates, ∀ p ∈ u.providers, (g.records.get? p).isSome := by
  simp only [missingProvider?, List.findSome?_eq_none_iff, List.find?_eq_none, Bool.not_eq_true,
    Bool.not_eq_false', Dict.contains_eq]

/-- **An update is planned only if all are installed whom it mentions.** -/
theorem installed_of_planUpdate {id : String} {updates : List Update} {plan : Record × List NoticeKind}
    (planned : g.planUpdate id updates = .ok plan) :
    ∀ u ∈ updates, ∀ p ∈ u.providers, (g.records.get? p).isSome := by
  refine missingProvider?_eq_none_iff.1 ?_
  unfold planUpdate at planned
  cases found : g.get id with
  | error e => rw [found] at planned; cases planned
  | ok r =>
    rw [found] at planned
    simp only [bind, Except.bind] at planned
    split at planned
    · cases planned
    · next none => exact none

/-- **An update that mentions somebody who is not installed is refused**, since the pup itself is not
installed, or with the name of such a provider. -/
theorem planUpdate_of_missing {updates : List Update} {u : Update} {p : String} (member : u ∈ updates)
    (mentioned : p ∈ u.providers) (missing : g.records.get? p = none) (id : String) :
    g.planUpdate id updates = .error (.notFound id) ∨
      ∃ q, g.records.get? q = none ∧ g.planUpdate id updates = .error (.unknownProvider q) := by
  cases found : g.records.get? id with
  | none => exact .inl (by rw [planUpdate, get, found]; rfl)
  | some r =>
    cases first : g.missingProvider? updates with
    | none =>
      have there := missingProvider?_eq_none_iff.1 first u member p mentioned
      rw [missing] at there
      cases there
    | some q =>
      refine .inr ⟨q, ?_, ?_⟩
      · obtain ⟨v, -, absent⟩ := List.exists_of_findSome?_eq_some first
        have absent := List.find?_some absent
        rwa [Bool.not_eq_true', Dict.contains_eq, ← Bool.not_eq_true, Option.not_isSome_iff_eq_none]
          at absent
      · rw [planUpdate, get, found]
        simp only [Option.elim_some, bind, Except.bind, first]

end Registry

/-! ## Who is installed or was taken away -/

/-- Whoever the records select as a provider is such a pup. -/
def Selects (records : Dict Record) (P : String → Prop) : Prop :=
  ∀ id r, records.get? id = some r → ∀ interface p, r.providers.get? interface = some p → P p

namespace Selects

variable {records records' : Dict Record} {P Q : String → Prop}

theorem mono (h : Selects records P) (more : ∀ p, P p → Q p) : Selects records Q :=
  fun id r found interface p selected => more p (h id r found interface p selected)

theorem insert (h : Selects records P) {r : Record}
    (new : ∀ interface p, r.providers.get? interface = some p → P p) (k : String) :
    Selects (records.insert k r) P := by
  intro id s found
  rw [Dict.get?_insert] at found
  split at found
  · exact Option.some.inj found ▸ new
  · exact h id s found

theorem erase (h : Selects records P) (k : String) : Selects (records.erase k) P := by
  intro id s found
  rw [Dict.get?_erase] at found
  split at found
  · cases found
  · exact h id s found

/-- Records that agree but for their flags select the same providers. -/
theorem of_bare (h : Selects records P)
    (same : ∀ k, (records'.get? k).map Record.bare = (records.get? k).map Record.bare) :
    Selects records' P := by
  intro id r' found
  have bare := same id
  rw [found] at bare
  obtain ⟨r, before, bare⟩ := Option.map_eq_some_iff.1 bare.symm
  have providers : r.bare.providers = r'.bare.providers := congrArg Record.providers bare
  exact fun interface p selected => h id r before interface p (providers ▸ selected)

theorem refreshHealth {g : Registry} (h : Selects g.records P) : Selects g.refreshHealth.records P :=
  h.of_bare g.bare_refreshHealth

end Selects

/-- A provider that an installed pup has selected is installed, or it is excused. -/
def Registry.Provided (g : Registry) (excused : String → Prop) : Prop :=
  Selects g.records fun p => (g.records.get? p).isSome ∨ excused p

/-- Whoever is selected by an installed pup or in a stored record is installed, or was taken away; and
so is stored who is installed. -/
structure Rooted (g : Registry) (stored : Dict Record) (gone : String → Prop) : Prop where
  kept : ∀ p, (g.records.get? p).isSome → (stored.get? p).isSome ∨ gone p
  installed : g.Provided gone
  stored : Selects stored fun p => (g.records.get? p).isSome ∨ gone p

/-- Nobody is installed whom the order does not know. -/
theorem Ranked.nobody {range : AllocationRange} {g : Registry} {stored : Dict Record}
    (h : Ranked range g stored []) (k : String) : g.records.get? k = none := by
  cases found : g.records.get? k with
  | none => rfl
  | some r => cases h.known k r.address (.inl (by rw [addressIn, found]; rfl))

namespace Rooted

variable {g g' : Registry} {stored stored' : Dict Record} {gone gone' : String → Prop}

/-- Where nobody is installed and nothing is stored, nobody is selected. -/
theorem start (nobody : ∀ k, g.records.get? k = none) : Rooted g ∅ fun _ => False where
  kept p there := by
    rw [nobody p] at there
    cases there
  installed id r found := by cases (nobody id).symm.trans found
  stored id r found := by cases found

/-- Where more were taken away, the rest of it stays. -/
theorem mono (h : Rooted g stored gone) (more : ∀ p, gone p → gone' p) : Rooted g stored gone' where
  kept p there := (h.kept p there).imp_right (more p)
  installed := h.installed.mono fun p => Or.imp_right (more p)
  stored := h.stored.mono fun p => Or.imp_right (more p)

/-- A record is put in and stored whose providers are installed or were taken away. -/
theorem save (h : Rooted g stored gone) (stats : Dict Stats) (allocator : Allocator) {r : Record}
    (new : ∀ interface p, r.providers.get? interface = some p →
      (g.records.get? p).isSome ∨ gone p) :
    Rooted (Registry.refreshHealth ⟨g.records.insert r.id r, stats, allocator⟩)
      (stored.insert r.id r) gone := by
  have there (p : String) :
      ((Registry.refreshHealth ⟨g.records.insert r.id r, stats, allocator⟩).records.get? p).isSome =
        if p = r.id then true else (g.records.get? p).isSome := by
    rw [Registry.isSome_records_refreshHealth, Dict.get?_insert]
    split <;> rfl
  have stays (p : String) (known : (g.records.get? p).isSome ∨ gone p) :
      ((Registry.refreshHealth ⟨g.records.insert r.id r, stats, allocator⟩).records.get? p).isSome ∨
        gone p := by
    rw [there]
    exact known.imp_left fun installed => by rw [installed, ite_self]
  refine ⟨fun p installed => ?_, ?_, (h.stored.insert new r.id).mono stays⟩
  · rw [there] at installed
    rw [Dict.get?_insert]
    split at installed
    next same => rw [if_pos same]; exact .inl rfl
    next other => rw [if_neg other]; exact h.kept p installed
  · exact Selects.refreshHealth ((h.installed.insert new r.id).mono stays)

/-- A pup is taken out of the registry. -/
theorem purge (h : Rooted g stored gone) (stats : Dict Stats) (allocator : Allocator) {id : String}
    (lost : gone id) :
    Rooted (Registry.refreshHealth ⟨g.records.erase id, stats, allocator⟩) stored gone := by
  have there (p : String) :
      ((Registry.refreshHealth ⟨g.records.erase id, stats, allocator⟩).records.get? p).isSome =
        if p = id then false else (g.records.get? p).isSome := by
    rw [Registry.isSome_records_refreshHealth, Dict.get?_erase]
    split <;> rfl
  have stays (p : String) (known : (g.records.get? p).isSome ∨ gone p) :
      ((Registry.refreshHealth ⟨g.records.erase id, stats, allocator⟩).records.get? p).isSome ∨
        gone p := by
    rw [there]
    split
    next same => exact .inr (same ▸ lost)
    next => exact known
  refine ⟨fun p installed => ?_, ?_, h.stored.mono stays⟩
  · rw [there] at installed
    split at installed
    next => cases installed
    next => exact h.kept p installed
  · exact Selects.refreshHealth ((h.installed.erase id).mono stays)

/-- **Every step leaves each selected provider installed, or taken away**: by now, or by this step. -/
theorem step (h : Rooted g stored gone) {s : Step} {adopted : Option Record}
    (effect : s.Effect g stored adopted g' stored') (more : ∀ p, gone p → gone' p)
    (purged : ∀ p after, s = .call (.purge p) → g.purge p = .ok after → gone' p)
    (deleted : ∀ p, s = .delete p → gone' p) : Rooted g' stored' gone' := by
  replace h := h.mono more
  cases effect with
  | idle => exact h
  | adopted bufferSize planned =>
    -- A pup starts without providers.
    obtain ⟨-, -, address, ports, -, -, rfl⟩ := Registry.planAdoption_ok planned
    exact h.save _ _ fun interface p selected => by cases selected
  | updated planned =>
    obtain ⟨old, found, rfl⟩ := Registry.planUpdate_ok planned
    refine h.save _ _ fun interface p selected => ?_
    rcases Update.mem_providers_of_applyAll selected with before | ⟨u, member, mentioned⟩
    · exact h.installed _ old found interface p before
    · exact .inl (Registry.installed_of_planUpdate planned u member p mentioned)
  | purged ok =>
    have lost := purged _ _ rfl ok
    obtain ⟨-, rfl⟩ := Registry.purge_ok ok
    exact h.purge _ _ lost
  | observed same =>
    have there (p : String) := isSome_eq_of_bare (same p)
    refine ⟨fun p installed => h.kept p (there p ▸ installed), ?_, ?_⟩
    · exact (h.installed.of_bare same).mono fun p => by rw [there]; exact id
    · exact h.stored.mono fun p => by rw [there]; exact id
  | deleted id =>
    refine ⟨fun p installed => ?_, h.installed, h.stored.erase id⟩
    rw [Dict.get?_erase]
    split
    next same => exact .inr (same ▸ deleted id rfl)
    next => exact h.kept p installed
  | restarted same =>
    have there (p : String) := isSome_eq_of_bare (same p)
    -- Who was installed before the restart is stored, so it is installed after it.
    have stays (p : String) (known : (g.records.get? p).isSome ∨ gone' p) :
        (g'.records.get? p).isSome ∨ gone' p := by
      rw [there]
      exact known.elim (h.kept p) .inr
    exact ⟨fun p installed => .inl (there p ▸ installed), (h.stored.mono stays).of_bare same,
      h.stored.mono stays⟩

end Rooted

/-! ## Any steps -/

/-- The pup that a call purges, by its answer. -/
def Call.purgee : Call → Except ManagerError Answer → Option String
  | .purge id, .ok _ => some id
  | _, _ => none

/-- Only a purge that succeeds purges anybody. -/
theorem Call.purgee_run {m : Manager} {d : Disk} {c : Call} {p : String}
    (purged : c.purgee (c.run m d).1 = some p) : c = .purge p ∧ (c.run m d).1 = .ok .done := by
  cases c with
  | purge id =>
    rw [run_purge] at purged ⊢
    cases dropped : m.drop id with
    | error e => rw [dropped] at purged; cases purged
    | ok m' =>
      rw [dropped] at purged
      cases purged
      exact ⟨rfl, rfl⟩
  | _ => cases purged

namespace Installation

/-- The pup that a step purges. -/
def purged (i : Installation) : Step → Option String
  | .call c => c.purgee (c.run i.manager i.disk).1
  | _ => none

/-- The pups that steps purge, in their order. -/
def purges (i : Installation) : List Step → List String
  | [] => []
  | s :: steps => (i.purged s).toList ++ (i.step s).purges steps

theorem purged_of_purge {i : Installation} {id : String} {after : Registry}
    (ok : i.registry.purge id = .ok after) : i.purged (.call (.purge id)) = some id := by
  simp only [purged, Call.run, Manager.purge, ok]
  rfl

/-- **Any steps leave each selected provider installed, or taken away** by a purge or by the deletion of
its stored record. -/
theorem rooted_after {i : Installation} {range : AllocationRange} {l : Location} {mode : Mode}
    {stored : Dict Record} {gone : String → Prop} (sound : i.Sound range l mode stored)
    (rooted : Rooted i.registry stored gone) (steps : List Step) :
    ∃ stored', Rooted (i.after steps).registry stored' fun p =>
      gone p ∨ p ∈ i.purges steps ∨ .delete p ∈ steps := by
  induction steps generalizing i stored gone with
  | nil => exact ⟨stored, rooted.mono fun p => .inl⟩
  | cons s steps ih =>
    obtain ⟨next, effect, sound'⟩ := sound.step s
    have here : Rooted (i.step s).registry next fun p =>
        gone p ∨ p ∈ (i.purged s).toList ∨ .delete p = s := by
      refine rooted.step effect (fun p => .inl) (fun p after same ok => .inr (.inl ?_))
        fun p same => .inr (.inr same.symm)
      rw [same, purged_of_purge ok]
      exact List.mem_singleton_self p
    obtain ⟨last, rooted'⟩ := ih sound' here
    refine ⟨last, rooted'.mono fun p => ?_⟩
    rw [purges, List.mem_append, List.mem_cons]
    tauto

/-- Whatever an installation goes through, its registry stays settled. -/
theorem settled_after {i : Installation} (settled : i.registry.Settled) (steps : List Step) :
    (i.after steps).registry.Settled := by
  induction steps generalizing i with
  | nil => exact settled
  | cons s steps ih =>
    refine ih ?_
    cases s with
    | call c =>
      have effect := (c.outcome i.manager i.disk).effect
      exact ⟨effect.indexed settled.indexed, settled.fresh.step effect⟩
    | delete id => exact settled
    | restart anew =>
      simp only [registry, step]
      split
      · next loaded =>
        obtain ⟨indexed, current⟩ := Manager.current_load loaded
        exact ⟨indexed, current.fresh⟩
      · exact settled

end Installation

/-! ## The gate -/

namespace Manager

/-- A pup whose record selects a provider that is not installed, for a dependency that is not optional,
is flagged and may not start. -/
def Gated (m : Manager) : Prop :=
  ∀ id r, m.registry.get id = .ok r → ∀ dep ∈ r.manifest.dependencies, dep.isOptional = false →
    ∀ p, r.providers.get? dep.interface = some p → m.registry.records.get? p = none →
      r.needsDeps = true ∧ m.canStart id = .ok false

/-- **Where each record bears its verdict, the missing provider stops the pup.** -/
theorem gated_of_settled {m : Manager} (settled : m.registry.Settled) : m.Gated := by
  intro id r installed dep member needed p selected missing
  have untracked : m.registry.statusOf p = none := by
    have tracked := settled.indexed.tracked p
    rw [missing, Option.isSome_none, Option.isSome_eq_false_iff, Option.isNone_iff_eq_none] at tracked
    rw [Registry.statusOf, tracked, Option.map_none]
  have flagged : (m.registry.evaluate r).needsDeps = true := by
    refine List.any_eq_true.2 ⟨dep, member, ?_⟩
    rw [needed, Health.providerStatus, selected, Option.bind_some, untracked]
    rfl
  have marked := settled.fresh id r (Registry.get_eq_ok_iff.1 installed)
  refine ⟨?_, ?_⟩
  · rw [← marked]
    exact flagged
  · rw [canStart, health, installed]
    simp only [Except.map, Health.canStart, flagged, Bool.not_true, Bool.and_false]

/-- An update list that mentions somebody who is not installed is refused, whichever of its updates
does, and nothing of it is applied: the pup itself is not installed, or the answer names such a
provider. -/
def RefusesMissing (m : Manager) (d : Disk) : Prop :=
  ∀ id updates breakdown, ∀ u ∈ updates, ∀ p ∈ u.providers, m.registry.records.get? p = none →
    ∃ e, (Call.update id updates breakdown).run m d = (.error e, m, d) ∧
      (e = .notFound id ∨ ∃ q, m.registry.records.get? q = none ∧ e = .unknownProvider q)

theorem refusesMissing (m : Manager) (d : Disk) : m.RefusesMissing d := by
  intro id updates breakdown u member p mentioned missing
  have refused : ∀ e, m.registry.planUpdate id updates = .error e →
      (Call.update id updates breakdown).run m d = (.error e, m, d) := fun e planned =>
    run_refused (by rw [Call.plan?, planned]; rfl) d
  rcases Registry.planUpdate_of_missing member mentioned missing id with planned | ⟨q, absent, planned⟩
  · exact ⟨_, refused _ planned, .inl rfl⟩
  · exact ⟨_, refused _ planned, .inr ⟨q, absent, rfl⟩⟩

end Manager

/-! ## Many at once -/

namespace Traffic

/-- The steps of an installation that requests in a row are; questions are none. -/
def Request.steps (requests : List Request) : List Step :=
  requests.filterMap fun
    | .call c => some (.call c)
    | .query _ => none

/-- Nothing is deleted by requests. -/
theorem Request.delete_notMem_steps (requests : List Request) (id : String) :
    Step.delete id ∉ steps requests := by
  intro member
  obtain ⟨request, -, same⟩ := List.mem_filterMap.1 member
  cases request <;> cases same

/-- **Requests in a row are steps of an installation**, and what these purge was asked for. -/
theorem Request.after_steps {m m' : Manager} {d d' : Disk} {requests : List Request}
    {replies : List (Except ManagerError Reply)} (ran : runAll m d requests = (replies, m', d')) :
    (⟨m, d⟩ : Installation).after (steps requests) = ⟨m', d'⟩ ∧
      ∀ p ∈ (⟨m, d⟩ : Installation).purges (steps requests),
        (.call (.purge p), .ok (.answer .done)) ∈ requests.zip replies := by
  induction requests generalizing m d replies with
  | nil =>
    obtain ⟨rfl, rfl, rfl⟩ : [] = replies ∧ m = m' ∧ d = d' := by simpa [runAll] using ran
    exact ⟨rfl, fun p purged => by cases purged⟩
  | cons request requests ih =>
    simp only [runAll, Prod.mk.injEq] at ran
    obtain ⟨rfl, rfl, rfl⟩ := ran
    obtain ⟨after, purges⟩ := ih rfl
    cases request with
    | query q => exact ⟨after, fun p purged => List.mem_cons_of_mem _ (purges p purged)⟩
    | call c =>
      refine ⟨after, fun p purged => ?_⟩
      rcases List.mem_append.1 purged with here | later
      · refine List.mem_cons.2 (.inl ?_)
        rw [Option.mem_toList] at here
        obtain ⟨rfl, ok⟩ := Call.purgee_run here
        exact congrArg (Prod.mk _) (congrArg (Except.map Reply.answer) ok).symm
      · exact List.mem_cons_of_mem _ (purges p later)

end Traffic

namespace Traffic

/-- A request that took effect purged this pup. -/
def Purged (requests : Nat → Request) (s : Traffic) (p : String) : Prop :=
  ∃ t, requests t = .call (.purge p) ∧ (t, .ok (.answer .done)) ∈ s.log

/-- While an update is on its way to its commit, everybody it mentions is installed. -/
def HoldsProviders (requests : Nat → Request) (s : Traffic) : Prop :=
  ∀ t plan, s.writer = some (t, .planned plan) ∨ s.writer = some (t, .stored plan) →
    ∀ id updates breakdown, requests t = .call (.update id updates breakdown) →
      ∀ u ∈ updates, ∀ p ∈ u.providers, (s.manager.registry.records.get? p).isSome

namespace Serial

variable {requests : Nat → Request} {m : Manager} {d : Disk} {s : Traffic}

/-- **Nobody takes a provider away between the check and the commit**, since the plan stays valid. -/
theorem holdsProviders (h : s.Serial requests m d) : s.HoldsProviders requests := by
  obtain ⟨m', d', -, here⟩ := h.serial
  intro t plan holds id updates breakdown request
  have valid : (Call.update id updates breakdown).plan? s.manager.registry = some (.ok plan) := by
    cases here with
    | free writer | committed writer => rcases holds with holds | holds <;> cases writer.symm.trans holds
    | planned writer new change planned | stored writer new change planned saved =>
      rcases holds with holds | holds <;> cases writer.symm.trans holds
      cases change.symm.trans request
      exact planned
  cases planned : s.manager.registry.planUpdate id updates with
  | error e =>
    rw [Call.plan?, planned] at valid
    cases valid
  | ok p => exact Registry.installed_of_planUpdate planned

/-- The registry of a manager that is asked by many is that of an installation after steps, whose purges
are in the log. -/
theorem after_steps (h : s.Serial requests m d) :
    ∃ steps : List Step, ((⟨m, d⟩ : Installation).after steps).registry = s.manager.registry ∧
      (∀ id, .delete id ∉ steps) ∧
      ∀ p ∈ (⟨m, d⟩ : Installation).purges steps, s.Purged requests p := by
  obtain ⟨m', d', ran, here, -⟩ := h.in_a_row
  obtain ⟨after, purges⟩ := Request.after_steps ran
  refine ⟨Request.steps (s.log.map fun e => requests e.1), ?_, Request.delete_notMem_steps _,
    fun p purged => ?_⟩
  · rw [after, ← here]
  · have member := purges p purged
    rw [List.zip_map', List.mem_map] at member
    obtain ⟨⟨t, reply⟩, logged, same⟩ := member
    obtain ⟨request, rfl⟩ := Prod.mk.inj same
    exact ⟨t, request, logged⟩

end Serial

end Traffic

/-- **Selected providers are installed, or they were taken away, and then they stop who needs them.** A
manager starts on a directory without records. Anything is called on it, stored records are deleted and
it is loaded anew, in any order. Then everybody who is selected as a provider is installed or was purged,
or somebody deleted its stored record; so without deletions it was purged. And a pup for which a provider
is missing that it cannot do without is flagged and may not start. An update list that mentions anybody
who is not installed is refused before any of it is applied.

When many ask at once, it is the same at every moment, and while an update is on its way to its commit
everybody it mentions is installed. -/
theorem providers_lost_by_purge_only (settings : ManagerSettings) (store : Store)
    (catalogs : CatalogSource) (monitor : Option Monitor) {d : Disk} (sorted : d.Sorted)
    {entries : List (String × Disk)}
    (listed : (Disk.run (Disk.readDir store.dir) d).1 = .ok entries)
    (unnamed : ∀ e ∈ entries, e.1.startsWith "pup_" = false) :
    ∃ m, Manager.load settings store catalogs monitor d = .ok m ∧
      (∀ steps : List Step,
        let i := (⟨m, d⟩ : Installation).after steps
        i.registry.Provided
            (fun p => p ∈ (⟨m, d⟩ : Installation).purges steps ∨ .delete p ∈ steps) ∧
          i.manager.Gated ∧ i.manager.RefusesMissing i.disk) ∧
      ∀ (requests : Nat → Request) (schedule : List Nat) (s : Traffic),
        Traffic.run requests { manager := m, disk := d } schedule = s →
          s.manager.registry.Provided (s.Purged requests) ∧ s.manager.Gated ∧
            s.HoldsProviders requests := by
  obtain ⟨m, l, mode, loaded, start⟩ :=
    Installation.Orderly.start settings sorted listed unnamed catalogs monitor
  obtain ⟨indexed, current⟩ := Manager.current_load loaded
  have settled (steps : List Step) := Installation.settled_after
    (i := ⟨m, d⟩) ⟨indexed, current.fresh⟩ steps
  have provided (steps : List Step) : ((⟨m, d⟩ : Installation).after steps).registry.Provided
      fun p => p ∈ (⟨m, d⟩ : Installation).purges steps ∨ .delete p ∈ steps := by
    obtain ⟨_, rooted⟩ :=
      Installation.rooted_after start.toSound (.start start.ranked.nobody) steps
    exact rooted.installed.mono fun p => Or.imp_right fun gone => gone.resolve_left id
  refine ⟨m, loaded, fun steps => ⟨provided steps, Manager.gated_of_settled (settled steps),
    Manager.refusesMissing _ _⟩, fun requests schedule s ran => ?_⟩
  have serial := ran ▸ (Serial.start loaded requests).run schedule
  obtain ⟨steps, same, kept, purges⟩ := serial.after_steps
  refine ⟨?_, ?_, serial.holdsProviders⟩
  · rw [← same]
    exact (provided steps).mono fun p => Or.imp_right fun gone =>
      gone.elim (purges p) fun deleted => absurd deleted (kept p)
  · exact Manager.gated_of_settled (same ▸ settled steps)

/-- The pup whose provider was purged still selects it, so it may not start; and it cannot select it
anew, even if the next update of the list takes that back. -/
theorem providers_lost_by_purge_only_lostProvider :
    Manager.load bareManager.settings bareManager.store default bareManager.monitor bareDisk =
        .ok bareManager.rewatch ∧
      bareInstallation.purges (lostProvider.map .call) = ["0"] ∧
      (bareInstallation.after (lostProvider.map .call)).registry.Provided
        (fun p => p ∈ bareInstallation.purges (lostProvider.map .call) ∨
          .delete p ∈ lostProvider.map Step.call) ∧
      ∃ r, (bareInstallation.after (lostProvider.map .call)).registry.get "1" = .ok r ∧
        r.providers.get? "rpc" = some "0" ∧
        (bareInstallation.after (lostProvider.map .call)).registry.records.get? "0" = none ∧
        r.needsDeps = true ∧
        (bareInstallation.after (lostProvider.map .call)).manager.canStart "1" = .ok false ∧
        ∃ e, (Call.update "1" [.setProvider "rpc" "0", .setProvider "rpc" "1"] none).run
            (bareInstallation.after (lostProvider.map .call)).manager
            (bareInstallation.after (lostProvider.map .call)).disk =
          (.error e, (bareInstallation.after (lostProvider.map .call)).manager,
            (bareInstallation.after (lostProvider.map .call)).disk) := by
  obtain ⟨m, loaded, after, -⟩ := providers_lost_by_purge_only bareManager.settings bareManager.store
    default bareManager.monitor sorted_bareDisk readDir_bareDisk (by simp)
  obtain rfl : bareManager.rewatch = m := Except.ok.inj (load_bareDisk.symm.trans loaded)
  obtain ⟨provided, gated, refuses⟩ := after (lostProvider.map .call)
  have selected : ((bareInstallation.after (lostProvider.map .call)).registry.records.get? "1").map
      (fun r => (r.manifest.dependencies.map fun d => (d.interface, d.isOptional),
        r.providers.get? "rpc")) = some ([("rpc", false)], some "0") := by decide +kernel
  have missing : (bareInstallation.after (lostProvider.map .call)).registry.records.get? "0" =
      none := by decide +kernel
  obtain ⟨r, found, shape⟩ := Option.map_eq_some_iff.1 selected
  obtain ⟨dependencies, provider⟩ := Prod.mk.inj shape
  obtain ⟨dep, member, same⟩ := List.mem_map.1 (dependencies ▸ List.mem_singleton_self ("rpc", false))
  obtain ⟨interface, needed⟩ := Prod.mk.inj same
  have installed := Registry.get_eq_ok_iff.2 found
  obtain ⟨flagged, stopped⟩ :=
    gated "1" r installed dep member needed "0" (interface ▸ provider) missing
  obtain ⟨e, refused, -⟩ := refuses "1" [.setProvider "rpc" "0", .setProvider "rpc" "1"] none
    (.setProvider "rpc" "0") List.mem_cons_self "0" (List.mem_singleton_self "0") missing
  exact ⟨load_bareDisk, by decide +kernel, provided, r, installed, provider, missing, flagged, stopped,
    e, refused⟩

end Kennel
