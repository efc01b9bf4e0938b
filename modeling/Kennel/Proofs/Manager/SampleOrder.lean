import Kennel.Proofs.Manager.Observed

/-!
# The order of a sample

A sample has one entry for each service, and its entries are taken in one after another. Stats are kept
for a pup and not for a service, so the entries on one pup write to the same place: the last of them
settles the status, and each of them joins the series.

Two measurements of one pup can be taken in either way around exactly if they agree
(`Stats.observe_comm`, `Stats.agrees_of_traces`). So **the order of a sample shows in the stats of a pup
exactly if its services disagree in the sample** (`sample_order_shows`). Which records there are after a
sample, with their flags, does not depend on it at all.

The manager has the monitor watch one service of each pup, its container, and a sample of containers has
one entry on a pup. Nothing is said of the order in which a sample is in fact gone through.
-/

namespace Kennel

/-! ## Two measurements of one pup -/

/-- Of two measurements it does not matter which is taken in first: both services run or neither does,
and if the measurements join the series, then what both of them measured is the same. -/
structure Vitals.Agrees (slow : Bool) (v w : Vitals) : Prop where
  running : v.running = w.running
  cpuPercent : slow = true → v.cpuPercent = w.cpuPercent
  memMb : slow = true → v.memMb = w.memMb
  memPercent : slow = true → v.memPercent = w.memPercent
  diskMb : slow = true → ∀ x y, v.diskMb = some x → w.diskMb = some y → x = y

theorem Vitals.Agrees.refl (slow : Bool) (v : Vitals) : v.Agrees slow v where
  running := rfl
  cpuPercent _ := rfl
  memMb _ := rfl
  memPercent _ := rfl
  diskMb _ _ _ hx hy := Option.some.inj (hx.symm.trans hy)

/-- Without measurements that join the series, it only matters whether both services run. -/
theorem Vitals.agrees_false_iff {v w : Vitals} : v.Agrees false w ↔ v.running = w.running :=
  ⟨Agrees.running, fun same => ⟨same, nofun, nofun, nofun, nofun⟩⟩

theorem Status.derive_inj {enabled a b : Bool} (h : derive enabled a = derive enabled b) : a = b := by
  cases enabled <;> cases a <;> cases b <;> first | rfl | cases h

/-- The last value of a series is the one that was pushed last. -/
theorem Rolling.getLast?_push {α : Type} (r : Rolling α) (v : α) :
    (r.push v).values.getLast? = some v := by
  unfold push
  split <;> exact List.getLast?_concat

/-- Two values can be pushed either way around only if they are the same. -/
theorem Rolling.eq_of_push_push {α : Type} {r : Rolling α} {v w : α}
    (same : (r.push v).push w = (r.push w).push v) : v = w := by
  have last := congrArg (fun r => r.values.getLast?) same
  simp only [getLast?_push] at last
  exact (Option.some.inj last).symm

namespace Stats

variable {enabled slow : Bool} {v w : Vitals} {s : Stats}

/-- What samples write to: the status and all series. -/
def traces (s : Stats) := (s.status, s.series)

/-- **Measurements that agree can be taken in either way around.** -/
theorem observe_comm (h : v.Agrees slow w) (s : Stats) :
    (s.observe enabled slow v).observe enabled slow w =
      (s.observe enabled slow w).observe enabled slow v := by
  cases slow with
  | false => simp only [observe, h.running, Bool.false_eq_true, if_false]
  | true =>
    have disk : ∀ r : Rolling Float, w.diskMb.elim (v.diskMb.elim r r.push)
        (v.diskMb.elim r r.push).push = v.diskMb.elim (w.diskMb.elim r r.push)
          (w.diskMb.elim r r.push).push := by
      intro r
      cases hv : v.diskMb with
      | none => cases w.diskMb <;> rfl
      | some x =>
        cases hw : w.diskMb with
        | none => rfl
        | some y => rw [h.diskMb rfl x y hv hw]
    simp only [observe, measure, if_true, h.running, h.cpuPercent rfl, h.memMb rfl,
      h.memPercent rfl, disk]

/-- **Measurements that can be taken in either way around agree.** -/
theorem agrees_of_traces (same : ((s.observe enabled slow v).observe enabled slow w).traces =
    ((s.observe enabled slow w).observe enabled slow v).traces) : v.Agrees slow w := by
  cases slow with
  | false => exact Vitals.agrees_false_iff.2 (Status.derive_inj (congrArg Prod.fst same)).symm
  | true =>
    obtain ⟨status, series⟩ := Prod.mk.inj same
    obtain ⟨cpuPercent, memMb, memPercent, diskMb, -⟩ := by
      simpa only [Stats.series, Prod.mk.injEq] using series
    refine ⟨(Status.derive_inj status).symm, fun _ => Rolling.eq_of_push_push cpuPercent,
      fun _ => Rolling.eq_of_push_push memMb, fun _ => Rolling.eq_of_push_push memPercent,
      fun _ x y hv hw => ?_⟩
    simp only [observe, measure, if_true, hv, hw, Option.elim_some] at diskMb
    exact Rolling.eq_of_push_push diskMb

/-- The stats of a pup after several services of it were observed. -/
def observeAll (enabled slow : Bool) (seen : List Vitals) (s : Stats) : Stats :=
  seen.foldl (fun s v => s.observe enabled slow v) s

/-- Measurements that agree can be taken in in any order. -/
theorem observeAll_perm {seen seen' : List Vitals} (order : seen.Perm seen')
    (agree : ∀ v ∈ seen, ∀ w ∈ seen, v.Agrees slow w) (s : Stats) :
    s.observeAll enabled slow seen' = s.observeAll enabled slow seen :=
  (order.foldl_eq' (fun v hv w hw s => observe_comm (agree v hv w hw) s) s).symm

/-- The last measurement settles the status. -/
theorem status_observeAll (enabled slow : Bool) (seen : List Vitals) (s : Stats) :
    (s.observeAll enabled slow seen).status =
      seen.getLast?.elim s.status fun v => .derive enabled v.running := by
  rcases List.eq_nil_or_concat seen with rfl | ⟨before, v, rfl⟩
  · rfl
  · rw [List.concat_eq_append, observeAll, List.foldl_append, List.getLast?_concat]
    cases slow <;> rfl

/-- What is looked at of the stats of a pup leaves the notes out, and it is the same in any order of
its measurements exactly if every two of them stand in a relation. -/
structure Settles {β : Type} (view : Stats → β) (enabled slow : Bool)
    (alike : Vitals → Vitals → Prop) : Prop where
  blind : ∀ (s : Stats) notes, view { s with depsNotRunning := notes } = view s
  apart : ∀ (s : Stats) v w, view ((s.observe enabled slow v).observe enabled slow w) =
    view ((s.observe enabled slow w).observe enabled slow v) → alike v w
  together : ∀ (s : Stats) seen seen', seen.Perm seen' → (∀ v ∈ seen, ∀ w ∈ seen, alike v w) →
    view (s.observeAll enabled slow seen') = view (s.observeAll enabled slow seen)

/-- Status and series are the same in any order of measurements that agree. -/
theorem settles_traces (enabled slow : Bool) :
    Settles traces enabled slow (Vitals.Agrees slow) where
  blind _ _ := rfl
  apart _ _ _ := agrees_of_traces
  together s _ _ order agree := congrArg traces (observeAll_perm order agree s)

/-- The status, or what is made of it, is the same in any order if each measurement alone gives it. -/
theorem settles_status {β : Type} (f : Status → β) (enabled slow : Bool) :
    Settles (fun s => f s.status) enabled slow
      fun v w => f (.derive enabled v.running) = f (.derive enabled w.running) where
  blind _ _ := rfl
  apart s v w same := by
    cases slow <;> exact same.symm
  together s seen seen' order alike := by
    simp only [status_observeAll]
    cases last : seen.getLast? with
    | none =>
      obtain rfl := List.getLast?_eq_none_iff.1 last
      obtain rfl := order.nil_eq
      rfl
    | some v =>
      cases last' : seen'.getLast? with
      | none =>
        obtain rfl := List.getLast?_eq_none_iff.1 last'
        obtain rfl := order.symm.nil_eq
        cases last
      | some w =>
        exact alike w (order.mem_iff.2 (List.mem_of_getLast? last')) v (List.mem_of_getLast? last)

end Stats

/-! ## The entries on one pup -/

namespace Sample

variable {sample other : Sample} {slow : Bool} {k : String}

/-- What was measured of the services of a pup, in the order of the sample. -/
def about (sample : Sample) (k : String) : List Vitals :=
  (sample.filter (·.1.pup == k)).map (·.2)

/-- Something is the same for all orders of the sample. -/
def OrderFree {β : Type} (sample : Sample) (f : Sample → β) : Prop :=
  ∀ other : Sample, sample.Perm other → f other = f sample

/-- All services of the pup in the sample agree. -/
def AgreesOn (sample : Sample) (slow : Bool) (k : String) : Prop :=
  ∀ v ∈ sample.about k, ∀ w ∈ sample.about k, v.Agrees slow w

theorem about_perm (order : sample.Perm other) (k : String) :
    (sample.about k).Perm (other.about k) :=
  (order.filter _).map _

/-- Any two entries on a pup come last, one after the other, in some order of the sample. -/
theorem exists_last {v w : Vitals} (hv : v ∈ sample.about k) (hw : w ∈ sample.about k) :
    v = w ∨ ∃ (rest : Sample) (a b : MonitoredService × Vitals), sample.Perm (rest ++ [a, b]) ∧
      (rest ++ [a, b]).about k = rest.about k ++ [v, w] ∧
      (rest ++ [b, a]).about k = rest.about k ++ [w, v] := by
  obtain ⟨a, onA, rfl⟩ := List.mem_map.1 hv
  obtain ⟨b, onB, rfl⟩ := List.mem_map.1 hw
  obtain ⟨memA, pupA⟩ := List.mem_filter.1 onA
  obtain ⟨memB, pupB⟩ := List.mem_filter.1 onB
  obtain ⟨before, later, rfl⟩ := List.append_of_mem memA
  have first : (before ++ a :: later).Perm (a :: (before ++ later)) := List.perm_middle
  rcases List.mem_cons.1 (first.mem_iff.1 memB) with rfl | memB
  · exact .inl rfl
  · obtain ⟨low, high, rest⟩ := List.append_of_mem memB
    have second : (before ++ later).Perm (b :: (low ++ high)) := rest ▸ List.perm_middle
    have last : ([a, b] ++ (low ++ high)).Perm ((low ++ high) ++ [a, b]) := List.perm_append_comm
    refine .inr ⟨low ++ high, a, b, (first.trans (second.cons a)).trans last, ?_, ?_⟩
    · simp [about, pupA, pupB]
    · simp [about, pupA, pupB]

/-- **What is looked at of the stats of a pup is the same in any order of the sample exactly if every two
entries on the pup are alike.** -/
theorem orderFree_iff {β : Type} {view : Stats → β} {enabled slow : Bool}
    {alike : Vitals → Vitals → Prop} (settles : Stats.Settles view enabled slow alike)
    (sample : Sample) (k : String) (s : Stats) :
    (sample.OrderFree fun o => view (s.observeAll enabled slow (about o k))) ↔
      ∀ v ∈ sample.about k, ∀ w ∈ sample.about k, alike v w := by
  constructor
  · intro same v hv w hw
    -- The two entries are moved to the end, and there they are taken in either way around.
    rcases exists_last hv hw with rfl | ⟨rest, a, b, order, forth, back⟩
    · exact settles.apart s v v rfl
    · have turned : sample.Perm (rest ++ [b, a]) :=
        order.trans ((List.Perm.swap b a []).append_left rest)
      have swapped := (same _ order).trans (same _ turned).symm
      simp only [forth, back, Stats.observeAll, List.foldl_append] at swapped
      exact settles.apart _ v w swapped
  · intro alike other order
    exact settles.together s _ _ (about_perm order k) alike

/-- In a sample of containers the services of every pup agree: there is one of each. -/
theorem agreesOn_of_containers (distinct : (sample.map (·.1)).Nodup)
    (containers : ∀ o ∈ sample, o.1 = .container o.1.pup) (slow : Bool) (k : String) :
    sample.AgreesOn slow k := by
  intro v hv w hw
  obtain ⟨a, onA, rfl⟩ := List.mem_map.1 hv
  obtain ⟨b, onB, rfl⟩ := List.mem_map.1 hw
  obtain ⟨memA, pupA⟩ := List.mem_filter.1 onA
  obtain ⟨memB, pupB⟩ := List.mem_filter.1 onB
  have same : a.1 = b.1 := by
    rw [containers a memA, containers b memB, beq_iff_eq.1 pupA, beq_iff_eq.1 pupB]
  rw [List.inj_on_of_nodup_map distinct memA memB same]
  exact .refl slow b.2

end Sample

/-! ## The notes -/

/-- The notes of a pup tell which of its dependencies have a provider that does not run. -/
theorem Health.depsNotRunning_eq_iff {r : Record} {statusOf statusOf' : String → Option Status} :
    (evaluate r statusOf).depsNotRunning = (evaluate r statusOf').depsNotRunning ↔
      ∀ d ∈ r.manifest.dependencies,
        (providerStatus r statusOf d.interface).any (· != .running) =
          (providerStatus r statusOf' d.interface).any (· != .running) := by
  have noted : ∀ statusOf, ∀ d ∈ r.manifest.dependencies,
      d.interface ∈ (evaluate r statusOf).depsNotRunning ↔
        (providerStatus r statusOf d.interface).any (· != .running) = true := by
    intro statusOf d member
    simp only [evaluate, List.mem_map, List.mem_filter]
    constructor
    · rintro ⟨d', ⟨-, idle⟩, same⟩
      rwa [same] at idle
    · exact fun idle => ⟨d, ⟨member, idle⟩, rfl⟩
  constructor
  · intro same d member
    rw [Bool.eq_iff_iff, ← noted statusOf d member, ← noted statusOf' d member, same]
  · intro same
    exact congrArg (List.map _) (List.filter_congr same)

/-! ## A sample in any order -/

namespace Registry

variable {g : Registry} {sample : Sample} {slow : Bool} {k : String} {r : Record} {s : Stats}

/-- The observations of a sample change the stats of an installed pup by the entries on it. -/
theorem stats_foldl_about (g : Registry) (slow : Bool) (sample : Sample) (k : String) :
    (sample.foldl (observe slow) g).stats.get? k = (g.stats.get? k).map fun s =>
      (g.records.get? k).elim s fun r => s.observeAll r.enabled slow (sample.about k) := by
  cases found : g.records.get? k with
  | some r =>
    rw [stats_foldl_observe found]
    simp only [Option.elim_some, Stats.observeAll, Sample.about, List.foldl_map]
  | none =>
    simp only [Option.elim_none, Option.map_id_fun', id_eq]
    induction sample generalizing g with
    | nil => rfl
    | cons o sample ih =>
      rw [List.foldl_cons, ih _ (by rw [(observe_eq slow g o).1, found]), observe]
      split
      · rfl
      · next r there =>
        have other : k ≠ o.1.pup := fun same => by rw [← same, found] at there; cases there
        simp only [Dict.get?_modify, if_neg other, Option.map_id_fun', id_eq]

/-- What is looked at of the stats after a sample, if it leaves the notes out. -/
theorem view_ingest {β : Type} (view : Stats → β)
    (blind : ∀ (s : Stats) notes, view { s with depsNotRunning := notes } = view s) (g : Registry)
    (sample : Sample) (slow : Bool) (k : String) :
    ((g.ingest sample slow).stats.get? k).map view = (g.stats.get? k).map fun s =>
      (g.records.get? k).elim (view s) fun r =>
        view (s.observeAll r.enabled slow (sample.about k)) := by
  rw [ingest, refreshHealth, Dict.get?_mapWithKey, stats_foldl_about, Option.map_map, Option.map_map,
    (foldl_observe_eq slow g sample).1]
  refine congrArg (Option.map · (g.stats.get? k)) (funext fun s => ?_)
  cases g.records.get? k with
  | none => rfl
  | some r => exact blind _ _

/-- What is looked at of the stats of an installed pup is the same in any order of the sample exactly if
every two entries on it are alike. -/
theorem orderFree_view_iff {β : Type} {view : Stats → β} {alike : Vitals → Vitals → Prop}
    (settles : Stats.Settles view r.enabled slow alike) (found : g.records.get? k = some r)
    (tracked : g.stats.get? k = some s) :
    (sample.OrderFree fun o => ((g.ingest o slow).stats.get? k).map view) ↔
      ∀ v ∈ sample.about k, ∀ w ∈ sample.about k, alike v w := by
  rw [← Sample.orderFree_iff settles sample k s]
  simp only [Sample.OrderFree, view_ingest view settles.blind, found, tracked, Option.map_some,
    Option.elim_some, Option.some.injEq]

/-- The status of an installed pup is the same in any order exactly if its services agree whether they
run. -/
theorem orderFree_statusOf_iff (found : g.records.get? k = some r) (tracked : g.stats.get? k = some s) :
    (sample.OrderFree fun o => (g.ingest o slow).statusOf k) ↔ sample.AgreesOn false k := by
  refine (orderFree_view_iff (Stats.settles_status id r.enabled slow) found tracked).trans ?_
  refine forall₂_congr fun v _ => forall₂_congr fun w _ => ?_
  exact ⟨fun same => Vitals.agrees_false_iff.2 (Status.derive_inj same),
    fun agree => congrArg (Status.derive r.enabled) agree.running⟩

/-- The notes after a sample are those that the statuses after it give. -/
theorem notes_ingest (found : g.records.get? k = some r) (tracked : (g.stats.get? k).isSome)
    (sample : Sample) (slow : Bool) :
    ((g.ingest sample slow).stats.get? k).map (·.depsNotRunning) =
      some (Health.evaluate r (g.ingest sample slow).statusOf).depsNotRunning := by
  obtain ⟨seen, seenEq, records, -, stats⟩ := ingest_eq g sample slow
  rw [← stats] at tracked
  obtain ⟨s, stats⟩ := Option.isSome_iff_exists.1 tracked
  rw [seenEq, statusOf_refreshHealth, refreshHealth, Dict.get?_mapWithKey, stats, records, found]
  rfl

/-- Whether a selected provider runs is the same in any order exactly if its services agree on that, or
nobody wants it to run. -/
theorem orderFree_provider_iff {interface p : String}
    (selected : r.providers.get? interface = some p) :
    (sample.OrderFree fun o =>
        (Health.providerStatus r (g.ingest o slow).statusOf interface).any (· != .running)) ↔
      ∀ q, g.records.get? p = some q → (g.stats.get? p).isSome → q.enabled = true →
        sample.AgreesOn false p := by
  have idle : ∀ enabled a b,
      (Status.derive enabled a != .running) = (Status.derive enabled b != .running) ↔
        (enabled = true → a = b) := by decide
  have shown : ∀ o,
      (Health.providerStatus r (g.ingest o slow).statusOf interface).any (· != .running) =
        (((g.ingest o slow).stats.get? p).map fun s => s.status != .running).getD false := by
    intro o
    rw [Health.providerStatus, selected, Option.bind_some, statusOf]
    cases (g.ingest o slow).stats.get? p <;> rfl
  simp only [Sample.OrderFree, shown, view_ingest (fun s => s.status != .running) fun _ _ => rfl]
  cases tracked : g.stats.get? p with
  | none => simp
  | some s =>
    cases found : g.records.get? p with
    | none => simp
    | some q =>
      have alike := Sample.orderFree_iff (Stats.settles_status (· != .running) q.enabled slow) sample p s
      simp only [Option.map_some, Option.elim_some, Option.getD_some]
      refine alike.trans ⟨fun same q' found' _ wanted v hv w hw => ?_, fun agree v hv w hw => ?_⟩
      · obtain rfl := Option.some.inj found'
        exact Vitals.agrees_false_iff.2 ((idle _ _ _).1 (same v hv w hw) wanted)
      · exact (idle _ _ _).2 fun wanted => (agree q rfl rfl wanted v hv w hw).running

/-- The notes of an installed pup are the same in any order exactly if the services of each provider that
should run agree whether they do. -/
theorem orderFree_notes_iff (found : g.records.get? k = some r) (tracked : (g.stats.get? k).isSome) :
    (sample.OrderFree fun o => ((g.ingest o slow).stats.get? k).map (·.depsNotRunning)) ↔
      ∀ d ∈ r.manifest.dependencies, ∀ p q, r.providers.get? d.interface = some p →
        g.records.get? p = some q → (g.stats.get? p).isSome → q.enabled = true →
          sample.AgreesOn false p := by
  simp only [Sample.OrderFree, notes_ingest found tracked, Option.some.injEq,
    Health.depsNotRunning_eq_iff]
  constructor
  · intro same d member p q selected
    exact (orderFree_provider_iff selected).1 (fun other order => same other order d member) q
  · intro agree other order d member
    cases selected : r.providers.get? d.interface with
    | none => simp only [Health.providerStatus, selected, Option.bind_none]
    | some p =>
      exact (orderFree_provider_iff selected).2 (fun q => agree d member p q selected) other order

/-- The records after a sample are those that a look at the health gives. -/
theorem records_ingest (g : Registry) (sample : Sample) (slow : Bool) :
    (g.ingest sample slow).records = g.refreshHealth.records := by
  obtain ⟨seen, seenEq, records, -, stats⟩ := ingest_eq g sample slow
  rw [seenEq]
  refine Dict.ext_get? fun k => ?_
  rw [get?_refreshHealth, get?_refreshHealth, records]
  exact congrArg (Option.map · (g.records.get? k)) (funext fun _ => marked_eq stats rfl)

/-- A sample whose services agree on every installed pup can be taken in in any order. -/
theorem orderFree_ingest (agree : ∀ k, (g.records.get? k).isSome → (g.stats.get? k).isSome →
    sample.AgreesOn slow k) : sample.OrderFree fun o => g.ingest o slow := by
  intro other order
  obtain ⟨records, allocator, -⟩ := foldl_observe_eq slow g sample
  obtain ⟨records', allocator', -⟩ := foldl_observe_eq slow g other
  have stats : (other.foldl (observe slow) g).stats = (sample.foldl (observe slow) g).stats := by
    refine Dict.ext_get? fun k => ?_
    rw [stats_foldl_about, stats_foldl_about]
    cases found : g.records.get? k with
    | none => rfl
    | some r =>
      cases tracked : g.stats.get? k with
      | none => rfl
      | some s =>
        have agreed : sample.AgreesOn slow k := agree k (by rw [found]; rfl) (by rw [tracked]; rfl)
        exact congrArg some (Stats.observeAll_perm (Sample.about_perm order k) agreed s)
  have same : other.foldl (observe slow) g = sample.foldl (observe slow) g :=
    calc other.foldl (observe slow) g
      _ = ⟨g.records, (other.foldl (observe slow) g).stats, g.allocator⟩ := by
        rw [← records', ← allocator']
      _ = ⟨g.records, (sample.foldl (observe slow) g).stats, g.allocator⟩ := by rw [stats]
      _ = sample.foldl (observe slow) g := by rw [← records, ← allocator]
  exact congrArg refreshHealth same

end Registry

/-- **The order of a sample shows exactly where services of one pup disagree.** A manager in any state
takes in a sample, in which a pup can have any number of services. For an installed pup,

* the status is the same in any order of the sample exactly if its services agree whether they run;
* status and series are the same in any order exactly if its services agree (`Vitals.Agrees`): on whether
  they run and, in a sample of the slow kind, on each value that is measured;
* the notes are the same in any order exactly if the services of each selected provider that is installed
  and enabled agree whether they run.

The records with their flags are the same in any order of any sample. All that the manager holds and sends
is the same in any order exactly if the services of every installed pup agree, and so it is if the sample
has one entry on each pup, for its container. -/
theorem sample_order_shows (m : Manager) (sample : Sample) (slow : Bool) :
    (∀ k r s, m.registry.records.get? k = some r → m.registry.stats.get? k = some s →
      ((sample.OrderFree fun o => (m.ingest o slow).registry.statusOf k) ↔
        sample.AgreesOn false k) ∧
      ((sample.OrderFree fun o => ((m.ingest o slow).registry.stats.get? k).map Stats.traces) ↔
        sample.AgreesOn slow k) ∧
      ((sample.OrderFree fun o => ((m.ingest o slow).registry.stats.get? k).map (·.depsNotRunning)) ↔
        ∀ d ∈ r.manifest.dependencies, ∀ p q, r.providers.get? d.interface = some p →
          m.registry.records.get? p = some q → (m.registry.stats.get? p).isSome → q.enabled = true →
            sample.AgreesOn false p)) ∧
    (sample.OrderFree fun o => (m.ingest o slow).registry.records) ∧
    ((sample.OrderFree fun o => m.ingest o slow) ↔ ∀ k, (m.registry.records.get? k).isSome →
      (m.registry.stats.get? k).isSome → sample.AgreesOn slow k) ∧
    ((sample.map (·.1)).Nodup → (∀ o ∈ sample, o.1 = .container o.1.pup) →
      sample.OrderFree fun o => m.ingest o slow) := by
  have traces : ∀ k r s, m.registry.records.get? k = some r → m.registry.stats.get? k = some s →
      ((sample.OrderFree fun o => ((m.ingest o slow).registry.stats.get? k).map Stats.traces) ↔
        sample.AgreesOn slow k) := fun k r s found tracked =>
    Registry.orderFree_view_iff (Stats.settles_traces r.enabled slow) found tracked
  have whole : (∀ k, (m.registry.records.get? k).isSome → (m.registry.stats.get? k).isSome →
      sample.AgreesOn slow k) → sample.OrderFree fun o => m.ingest o slow := by
    intro agree other order
    have same := Registry.orderFree_ingest agree other order
    simp only [Manager.ingest, same]
  refine ⟨fun k r s found tracked => ⟨Registry.orderFree_statusOf_iff found tracked,
    traces k r s found tracked, Registry.orderFree_notes_iff found (tracked ▸ rfl)⟩, ?_, ⟨?_, whole⟩, ?_⟩
  · intro other _
    simp only [Manager.ingest, Registry.records_ingest]
  · intro same k installed tracked
    obtain ⟨r, found⟩ := Option.isSome_iff_exists.1 installed
    obtain ⟨s, tracked⟩ := Option.isSome_iff_exists.1 tracked
    exact (traces k r s found tracked).1 fun other order =>
      congrArg (fun m : Manager => (m.registry.stats.get? k).map Stats.traces) (same other order)
  · exact fun distinct containers => whole fun k _ _ =>
      Sample.agreesOn_of_containers distinct containers slow k

/-- A sample in which two services of a pup run and use different shares of the processor. -/
def unitedSample : Sample :=
  [(.container "0", { cpuPercent := 1.5, running := true }),
    (⟨"0", "sidecar"⟩, { cpuPercent := 2.5, running := true })]

/-- Where only the statuses are of interest, services that use different shares agree. -/
theorem sample_order_shows_united :
    (∀ k, unitedSample.AgreesOn false k) ∧
      unitedSample.OrderFree fun o => (bareManager.rewatch.after enabledPup).ingest o false := by
  have run : ∀ k, ∀ v ∈ unitedSample.about k, v.running = true := by
    intro k v member
    obtain ⟨o, onPup, rfl⟩ := List.mem_map.1 member
    obtain ⟨sampled, -⟩ := List.mem_filter.1 onPup
    rcases List.mem_pair.1 sampled with rfl | rfl <;> rfl
  have agree : ∀ k, unitedSample.AgreesOn false k := fun k v hv w hw =>
    Vitals.agrees_false_iff.2 ((run k v hv).trans (run k w hw).symm)
  obtain ⟨-, -, whole, -⟩ := sample_order_shows (bareManager.rewatch.after enabledPup) unitedSample false
  exact ⟨agree, whole.2 fun k _ _ => agree k⟩

/-- A sample in which the container of a pup runs and another service of it does not. -/
def dividedSample : Sample := [(.container "0", { running := true }), (⟨"0", "sidecar"⟩, {})]

/-- Of an enabled pup whose services are divided the last one in the sample settles the status. -/
theorem dividedSample_statuses :
    (dividedSample.map (·.1)).Nodup ∧ dividedSample.Perm dividedSample.reverse ∧
      ((bareManager.rewatch.after enabledPup).ingest dividedSample false).registry.statusOf "0" =
        some .starting ∧
      ((bareManager.rewatch.after enabledPup).ingest dividedSample.reverse false).registry.statusOf "0" =
        some .running :=
  ⟨by decide, (List.reverse_perm _).symm, by decide +kernel, by decide +kernel⟩

end Kennel
