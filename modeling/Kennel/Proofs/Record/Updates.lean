import Kennel.Proofs.Data.Dict
import Kennel.Record.Update
import Mathlib.Data.List.Basic

/-!
# Lists of updates

Updates are applied one after another, each to the record that the ones before it made, and so the
kinds of change are found by comparing with that record and not with the first one
(`Update.produced`). A pup that is enabled and disabled again was changed twice.

Of the kinds that are produced **the queue has each one once, in the order in which they first came**
(`Update.Queues`). A part of the record that only updates of one kind change is the same after updates
that did not produce the kind (`Update.view_applyAll`).

What is configured after updates and who is selected is told by look-ups: the latest value given for a
key counts, and for a provider nothing that was selected before the last replacement of all.
-/

namespace Kennel.Update

/-! ## The record and the kinds -/

/-- The kinds of change that updates make one after another, each to the record before it. -/
def produced : List Update → Record → List NoticeKind
  | [], _ => []
  | u :: updates, r => (u.kind? r).toList ++ produced updates (u.applyTo r)

/-- The record is changed by the updates alone, and the queue is filled with what they produce. -/
theorem applyAll_eq (updates : List Update) (r : Record) :
    applyAll updates r = (updates.foldl (fun r u => u.applyTo r) r,
      (produced updates r).foldl (fun queue k => enqueue queue (some k)) []) := by
  have key : ∀ (updates : List Update) (r : Record) (queue : List NoticeKind),
      updates.foldl (fun state u => u.apply state) (r, queue) =
        (updates.foldl (fun r u => u.applyTo r) r,
          (produced updates r).foldl (fun queue k => enqueue queue (some k)) queue) := by
    intro updates
    induction updates with
    | nil => exact fun _ _ => rfl
    | cons u updates ih =>
      intro r queue
      rw [List.foldl_cons, List.foldl_cons, produced, List.foldl_append]
      refine (ih _ _).trans ?_
      cases u.kind? r <;> rfl
  exact key updates r []

/-- An update that produces no kind leaves alone the part of the record that the kind tells of. -/
theorem kept_of_kind? (u : Update) (r : Record) :
    (u.kind? r ≠ some .installationChanged → (u.applyTo r).phase = r.phase) ∧
      (u.kind? r ≠ some .enabledChanged → (u.applyTo r).enabled = r.enabled) ∧
      (u.kind? r ≠ some .configChanged → (u.applyTo r).config = r.config) ∧
      (u.kind? r ≠ some .providersChanged → (u.applyTo r).providers = r.providers) := by
  cases u <;> simp [kind?, applyTo, eq_comm]

/-- A part of a record that no update changes without producing a kind is the same after updates that
did not produce it. -/
theorem view_applyAll {β : Type} {view : Record → β} {k : NoticeKind}
    (seen : ∀ (u : Update) r, u.kind? r ≠ some k → view (u.applyTo r) = view r)
    {updates : List Update} {r : Record} (absent : k ∉ produced updates r) :
    view (applyAll updates r).1 = view r := by
  rw [applyAll_eq]
  induction updates generalizing r with
  | nil => rfl
  | cons u updates ih =>
    rw [produced, List.mem_append, not_or, Option.mem_toList] at absent
    exact (ih absent.2).trans (seen u r absent.1)

/-! ## The queue -/

/-- The queue has the kinds that were produced, in the order in which they first were. -/
structure Queues (produced queue : List NoticeKind) : Prop where
  mem_iff : ∀ k, k ∈ queue ↔ k ∈ produced
  ordered : queue.Pairwise fun a b => produced.idxOf a < produced.idxOf b

namespace Queues

variable {before queue : List NoticeKind}

/-- No kind is queued twice: it was first produced only once. -/
theorem nodup (h : Queues before queue) : queue.Nodup :=
  h.ordered.imp fun earlier same => absurd earlier (by rw [same]; exact Nat.lt_irrefl _)

/-- **One more kind** is put at the end of the queue, unless it was produced before. -/
theorem enqueue (h : Queues before queue) (k : NoticeKind) :
    Queues (before ++ [k]) (enqueue queue (some k)) := by
  -- The first places of the kinds that were produced before stay.
  have stays : ∀ {a}, a ∈ queue → (before ++ [k]).idxOf a = before.idxOf a := fun ha =>
    List.idxOf_append_of_mem ((h.mem_iff _).1 ha)
  have ordered : queue.Pairwise fun a b => (before ++ [k]).idxOf a < (before ++ [k]).idxOf b :=
    h.ordered.imp_of_mem fun ha hb earlier => by rwa [stays ha, stays hb]
  rw [Update.enqueue]
  split
  · next queued =>
    have known : k ∈ before := (h.mem_iff k).1 (List.contains_iff_mem.1 queued)
    refine ⟨fun j => ?_, ordered⟩
    rw [h.mem_iff, List.mem_append, List.mem_singleton]
    exact ⟨.inl, fun either => either.elim id fun same => same ▸ known⟩
  · next new =>
    have unknown : k ∉ before := fun known => new (List.contains_iff_mem.2 ((h.mem_iff k).2 known))
    refine ⟨fun j => by rw [List.mem_append, List.mem_append, h.mem_iff], ?_⟩
    refine List.pairwise_append.2 ⟨ordered, List.pairwise_singleton _ k, fun a ha b hb => ?_⟩
    obtain rfl := List.mem_singleton.1 hb
    rw [stays ha, List.idxOf_append_of_notMem unknown]
    exact Nat.lt_of_lt_of_le (List.idxOf_lt_length_of_mem ((h.mem_iff a).1 ha))
      (Nat.le_add_right _ _)

/-- More kinds, one after another. -/
theorem foldl (h : Queues before queue) (kinds : List NoticeKind) :
    Queues (before ++ kinds) (kinds.foldl (fun queue k => Update.enqueue queue (some k)) queue) := by
  induction kinds generalizing before queue with
  | nil => rwa [List.append_nil]
  | cons k kinds ih =>
    have next := ih (h.enqueue k)
    rwa [List.append_assoc] at next

end Queues

/-- **The queue after updates** has the kinds that they produced. -/
theorem queues_applyAll (updates : List Update) (r : Record) :
    Queues (produced updates r) (applyAll updates r).2 := by
  have empty : Queues [] [] := ⟨fun _ => Iff.rfl, .nil⟩
  rw [applyAll_eq]
  exact empty.foldl (produced updates r)

/-- An update tells of no adoption and of no purge. -/
theorem tellable_applyAll {updates : List Update} {r : Record} :
    ∀ k ∈ (applyAll updates r).2, k ≠ .adopted ∧ k ≠ .purged := by
  have one (u : Update) (r : Record) : ∀ k ∈ u.kind? r, k ≠ .adopted ∧ k ≠ .purged := by
    cases u <;> simp [kind?]
  have all : ∀ k ∈ produced updates r, k ≠ .adopted ∧ k ≠ .purged := by
    induction updates generalizing r with
    | nil => simp [produced]
    | cons u updates ih =>
      intro k member
      rcases List.mem_append.1 member with here | later
      · exact one u r k (Option.mem_toList.1 here)
      · exact ih k later
  exact fun k queued => all k (((queues_applyAll updates r).mem_iff k).1 queued)

/-! ## What is configured and who is selected -/

/-- The values that an update puts over those that are configured. -/
def merged? : Update → Option (Dict String)
  | mergeConfig values => some values
  | _ => none

/-- The interface and the provider that an update selects. -/
def selected? : Update → Option (String × String)
  | setProvider interface provider => some (interface, provider)
  | _ => none

/-- The update replaces all selected providers. -/
def replacesProviders : Update → Bool
  | setProviders _ => true
  | _ => false

/-- **The latest value that was given for a field counts**, and without one the field stays as it
was. -/
theorem get?_config_applyAll (updates : List Update) (r : Record) (field : String) :
    (applyAll updates r).1.config.get? field =
      ((updates.filterMap merged?).reverse.findSome? (·.get? field)).or (r.config.get? field) := by
  rw [applyAll_eq]
  induction updates generalizing r with
  | nil => rfl
  | cons u updates ih =>
    rw [List.foldl_cons]
    refine (ih (u.applyTo r)).trans ?_
    cases u with
    | mergeConfig values =>
      simp only [applyTo, Dict.get?_overlay, List.filterMap_cons, merged?, List.reverse_cons,
        List.findSome?_append, List.findSome?_singleton, Option.or_assoc]
    | _ => rfl

/-- While nothing replaces them all, the latest selection for an interface counts, and without one the
provider stays. -/
theorem get?_providers_applyAll {updates : List Update}
    (amended : ∀ u ∈ updates, u.replacesProviders = false) (r : Record) (interface : String) :
    (applyAll updates r).1.providers.get? interface =
      ((updates.filterMap selected?).reverse.lookup interface).or (r.providers.get? interface) := by
  have key : (updates.foldl (fun r u => u.applyTo r) r).providers =
      (updates.filterMap selected?).foldl (fun d e => d.insert e.1 e.2) r.providers := by
    induction updates generalizing r with
    | nil => rfl
    | cons u updates ih =>
      rw [List.foldl_cons, ih (fun u later => amended u (List.mem_cons_of_mem _ later))]
      have kept := amended u List.mem_cons_self
      cases u with
      | setProviders => cases kept
      | _ => rfl
  rw [applyAll_eq, key, Dict.get?_foldl_insert]

/-- **Nothing that was selected before a replacement of all providers counts.** -/
theorem get?_providers_applyAll_replaced {later : List Update}
    (amended : ∀ u ∈ later, u.replacesProviders = false) (before : List Update)
    (providers : Dict String) (r : Record) (interface : String) :
    (applyAll (before ++ setProviders providers :: later) r).1.providers.get? interface =
      ((later.filterMap selected?).reverse.lookup interface).or (providers.get? interface) := by
  rw [applyAll_eq, List.foldl_append, List.foldl_cons]
  generalize before.foldl (fun r u => u.applyTo r) r = r'
  have rest := get?_providers_applyAll amended ((setProviders providers).applyTo r') interface
  rwa [applyAll_eq] at rest

end Kennel.Update
