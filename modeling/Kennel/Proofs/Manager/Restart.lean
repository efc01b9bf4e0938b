import Kennel.Proofs.Manager.Reload
import Kennel.Proofs.Manager.Unique

/-!
# What a restart brings back

A purge takes a pup out of the registry and leaves its stored record, which is deleted apart from
that. Until it is, a restart brings the pup back; and since its ports and its package were free from
the purge on, another pup can have them by then (`purged_pup_clashes`).

So the store is more than the registry. What it holds is the **ledger** of the calls: of each pup,
the last record that an adoption or an update was answered with. The invariant between two calls
(`Registry.Entered`) is that every record of the registry is in the ledger, and that the other ones
are of pups that were purged. **A restart brings back the ledger** (`Store.Holds.load`), so of two
records that clash after it one is of a purged pup (`clash_only_with_purged`).
-/

namespace Kennel

/-- Two records bind one port of the host, or they are of one package. -/
def Record.Clash (a b : Record) : Prop :=
  (∃ p, p ∈ a.boundHostPorts ∧ p ∈ b.boundHostPorts) ∨ a.isSamePackage b.manifest b.source = true

namespace Record

/-- Clashing is symmetric. -/
theorem Clash.symm {a b : Record} : a.Clash b → b.Clash a
  | .inl ⟨p, ha, hb⟩ => .inl ⟨p, hb, ha⟩
  | .inr package => .inr ((isSamePackage_comm b a).trans package)

/-- Records that share nothing do not clash. -/
theorem Apart.not_clash {a b : Record} (h : a.Apart b) : ¬ a.Clash b
  | .inl ⟨_, ha, hb⟩ => h.ports ha hb
  | .inr package => by
    rw [h.package] at package
    cases package

end Record

/-! ## The ledger -/

namespace Call

/-- The ledger after one more call: the record that an adoption or an update was answered with is
entered in place of the older one. -/
def enter (ledger : Dict Record) : Call → Except ManagerError Answer → Dict Record
  | adopt _ _ _ _, .ok (.record r) => ledger.insert r.id r
  | update _ _ _, .ok (.record r) => ledger.insert r.id r
  | _, _ => ledger

/-- The ledger of calls that were answered like this. -/
def ledger (calls : List Call) (answers : List (Except ManagerError Answer)) : Dict Record :=
  (calls.zip answers).foldl (fun ledger e => e.1.enter ledger e.2) ∅

/-- A call that failed enters nothing. -/
theorem enter_error (ledger : Dict Record) (c : Call) (e : ManagerError) :
    c.enter ledger (.error e) = ledger := by
  cases c <;> rfl

/-- Only a change enters something. -/
theorem enter_idle (ledger : Dict Record) {c : Call} (idle : c.isChange = false)
    (answer : Except ManagerError Answer) : c.enter ledger answer = ledger := by
  cases c with
  | adopt | update | purge => cases idle
  | _ => rfl

end Call

/-! ## Between two calls -/

namespace Registry

/-- The store, whose directory is at `l`, holds the ledger. The records of the registry are entered
in it, up to their flags, and what else is entered is of pups that are `gone`. -/
structure Entered (g : Registry) (s : Store) (d : Disk) (l : Location) (mode : Mode)
    (gone : String → Prop) (ledger : Dict Record) : Prop where
  separate : g.Separate
  holds : s.Holds d l mode ledger
  keyed : ∀ k r, ledger.get? k = some r → r.id = k
  entered : ∀ k r, g.records.get? k = some r → (ledger.get? k).map Record.bare = some r.bare
  known : ∀ k, (ledger.get? k).isSome → (g.records.get? k).isSome ∨ gone k

namespace Entered

variable {g g' : Registry} {s : Store} {d d' : Disk} {l : Location} {mode : Mode}
  {gone : String → Prop} {ledger : Dict Record}

/-- A registry with other flags is entered as well. -/
theorem congr (h : g.Entered s d l mode gone ledger) (separate : g'.Separate)
    (same : ∀ k, (g'.records.get? k).map Record.bare = (g.records.get? k).map Record.bare) :
    g'.Entered s d l mode gone ledger := by
  refine ⟨separate, h.holds, h.keyed, fun k r' found => ?_, fun k entered => ?_⟩
  · have bare := same k
    rw [found, Option.map_some] at bare
    obtain ⟨r, hr, flags⟩ := Option.map_eq_some_iff.1 bare.symm
    rw [h.entered k r hr, flags]
  · have installed := congrArg Option.isSome (same k)
    rw [Option.isSome_map, Option.isSome_map] at installed
    rw [installed]
    exact h.known k entered

/-- A record that is stored and put into the registry is entered. -/
theorem save (h : g.Entered s d l mode gone ledger) {r : Record} (noSlash : '/' ∉ r.id.toList)
    {breakdown : Option Disk.Breakdown} (saved : Disk.run (s.save r breakdown) d = (.ok (), d'))
    (separate : g'.Separate)
    (same : ∀ k, (g'.records.get? k).map Record.bare =
      ((g.records.insert r.id r).get? k).map Record.bare) :
    g'.Entered s d' l mode gone (ledger.insert r.id r) := by
  refine ⟨separate, h.holds.save noSlash saved, fun k s hs => ?_, fun k r' found => ?_,
    fun k entered => ?_⟩
  · rw [Dict.get?_insert] at hs
    split at hs
    · next hk => rw [← Option.some.inj hs, hk]
    · exact h.keyed k s hs
  · have bare := same k
    rw [found, Option.map_some] at bare
    obtain ⟨old, there, flags⟩ := Option.map_eq_some_iff.1 bare.symm
    rcases get?_insert_cases there with ⟨rfl, rfl⟩ | ⟨other, there⟩
    · rw [Dict.get?_insert, if_pos rfl, Option.map_some, flags]
    · rw [Dict.get?_insert, if_neg other, h.entered k old there, flags]
  · have installed := congrArg Option.isSome (same k)
    rw [Option.isSome_map, Option.isSome_map] at installed
    rw [installed]
    rw [Dict.get?_insert] at entered ⊢
    split
    · exact .inl rfl
    · next other =>
      rw [if_neg other] at entered
      exact h.known k entered

/-- A pup that is purged is gone, and its record stays in the ledger. -/
theorem purge (h : g.Entered s d l mode gone ledger) {id : String} (goes : gone id)
    (separate : g'.Separate)
    (same : ∀ k, (g'.records.get? k).map Record.bare =
      ((g.records.erase id).get? k).map Record.bare) :
    g'.Entered s d l mode gone ledger := by
  refine ⟨separate, h.holds, h.keyed, fun k r' found => ?_, fun k entered => ?_⟩
  · have bare := same k
    rw [found, Option.map_some, Dict.get?_erase] at bare
    split at bare
    · cases bare
    · obtain ⟨r, hr, flags⟩ := Option.map_eq_some_iff.1 bare.symm
      rw [h.entered k r hr, flags]
  · have installed := congrArg Option.isSome (same k)
    rw [Option.isSome_map, Option.isSome_map, Dict.get?_erase] at installed
    rw [installed]
    split
    · next hk => exact .inr (hk ▸ goes)
    · exact h.known k entered

/-- **Every call keeps the registry entered in the ledger**, with the call itself. -/
theorem step {m m' : Manager} (h : m.registry.Entered m.store d l mode gone ledger) {c : Call}
    (picks : c.PicksNoSlash) (goes : ∀ id, c = .purge id → gone id)
    {answer : Except ManagerError Answer} (outcome : Call.Outcome m d c answer m' d') :
    m'.registry.Entered m'.store d' l mode gone (c.enter ledger answer) := by
  have separate := h.separate.step outcome.effect
  rw [outcome.settings.2]
  cases outcome with
  | refused c e =>
    rw [Call.enter_error]
    exact h
  | unsaved c e stopped =>
    rw [Call.enter_error, Store.eq_of_save_error h.holds.sorted stopped]
    exact h
  | adopted planned saved =>
    obtain ⟨-, -, address, ports, -, -, rfl⟩ := planAdoption_ok planned
    exact h.save (picks m.registry.records.keys) saved separate (bare_refreshHealth _)
  | @updated id updates breakdown r kinds d' planned saved =>
    rw [Manager.registry_announceKinds] at separate ⊢
    obtain ⟨old, found, kept⟩ := kept_planUpdate planned
    have sameId : r.id = id := kept.id.trans (h.separate.keyed id old found)
    obtain ⟨file, stored, -⟩ := Option.map_eq_some_iff.1 (h.entered id old found)
    have noSlash : '/' ∉ r.id.toList := sameId ▸ (h.holds.stored id file stored).1.noSlash
    exact h.save noSlash saved separate (bare_refreshHealth _)
  | @purged id g purged =>
    obtain ⟨-, rfl⟩ := purge_ok purged
    exact h.purge (goes id rfl) separate (bare_refreshHealth _)
  | ingested sample slow =>
    obtain ⟨seen, seenEq, records, -⟩ := ingest_eq m.registry sample slow
    have same : (m.ingest sample slow).registry = seen.refreshHealth := seenEq
    exact h.congr separate fun k => by rw [same, bare_refreshHealth, records]
  | recorded recorded =>
    obtain ⟨records, -⟩ := recordMetrics_ok recorded
    exact h.congr separate fun k => by rw [records]
  | attended idle =>
    rw [Call.enter_idle _ idle]
    exact h

/-- **Every sequence of calls keeps the registry entered in the ledger.** -/
theorem steps {m : Manager} (h : m.registry.Entered m.store d l mode gone ledger)
    (calls : List Call) (picks : ∀ c ∈ calls, c.PicksNoSlash)
    (goes : ∀ id, Call.purge id ∈ calls → gone id) :
    (Call.runAll m d calls).2.1.registry.Entered m.store (Call.runAll m d calls).2.2 l mode gone
      ((calls.zip (Call.runAll m d calls).1).foldl (fun ledger e => e.1.enter ledger e.2)
        ledger) := by
  induction calls generalizing m d ledger with
  | nil => exact h
  | cons c calls ih =>
    have outcome := c.outcome m d
    have next := h.step (picks c List.mem_cons_self)
      (fun id hc => goes id (hc ▸ List.mem_cons_self)) outcome
    have rest := ih next (fun c hc => picks c (List.mem_cons_of_mem _ hc))
      fun id hid => goes id (List.mem_cons_of_mem _ hid)
    rw [outcome.settings.2] at rest
    exact rest

/-- Nothing is entered when a manager starts on a directory without records. -/
theorem start (holds : s.Holds d l mode ∅) (settings : ManagerSettings) (catalogs : CatalogSource)
    (monitor : Option Monitor) :
    ∃ m, Manager.load settings s catalogs monitor d = .ok m ∧ m.store = s ∧
      ∀ gone, m.registry.Entered s d l mode gone ∅ := by
  obtain ⟨m, loaded, -, hs, indexed, -, same⟩ :=
    holds.load (fun k r found => by cases found) settings catalogs monitor
  have none : ∀ k, m.registry.records.get? k = none := fun k =>
    Option.map_eq_none_iff.1 (same k)
  have absent : ∀ {P : Prop} {k r}, m.registry.records.get? k = some r → P := fun {P k r} found => by
    rw [none] at found
    cases found
  refine ⟨m, loaded, hs, fun gone => ⟨⟨indexed, fun k j a b ha => absent ha,
    fun k r hr => absent hr, fun k r hr => absent hr⟩, holds, fun k r found => (nomatch found),
    fun k r hr => absent hr, fun k entered => (nomatch entered)⟩⟩

/-- After a restart a record of a pup that is not gone holds what it held before. -/
theorem kept (h : g.Entered s d l mode gone ledger)
    (same : ∀ k, (g'.records.get? k).map Record.bare = (ledger.get? k).map Record.bare) {k : String}
    {r' : Record} (found : g'.records.get? k = some r') :
    gone k ∧ g.records.get? k = none ∨ ∃ r, g.records.get? k = some r ∧ r.Kept r' := by
  have bare := same k
  rw [found, Option.map_some] at bare
  cases hr : g.records.get? k with
  | some r =>
    rw [h.entered k r hr] at bare
    exact .inr ⟨r, rfl, .of_bare (Option.some.inj bare).symm⟩
  | none =>
    refine .inl ⟨(h.known k ?_).resolve_left (by simp [hr]), rfl⟩
    rw [← Option.isSome_map (f := Record.bare), ← bare]
    rfl

end Entered

end Registry

/-- **Only a purged pup clashes after a restart.** A manager that starts on a directory without
records takes any calls, of which any can fail. Whoever loads from the same directory afterwards finds
every pup that is installed, with a record that differs in its flags at most; and of two pups whose
records clash, one was purged by a call and is not installed any more. -/
theorem clash_only_with_purged (settings : ManagerSettings) (store : Store)
    (catalogs : CatalogSource) (monitor : Option Monitor) {d : Disk} (sorted : d.Sorted)
    {entries : List (String × Disk)}
    (listed : (Disk.run (Disk.readDir store.dir) d).1 = .ok entries)
    (unnamed : ∀ e ∈ entries, Store.isRecordName e.1 = false) :
    ∃ m, Manager.load settings store catalogs monitor d = .ok m ∧
      ∀ calls : List Call, (∀ c ∈ calls, c.PicksNoSlash) →
        ∀ (settings' : ManagerSettings) (catalogs' : CatalogSource) (monitor' : Option Monitor),
          ∃ m', Manager.load settings' store catalogs' monitor' (Call.runAll m d calls).2.2 = .ok m' ∧
            (∀ r ∈ (Call.runAll m d calls).2.1.registry.list,
              ∃ r' ∈ m'.registry.list, r'.bare = r.bare) ∧
            m'.registry.list.Pairwise fun a b => a.Clash b → ∃ r, (r = a ∨ r = b) ∧
              Call.purge r.id ∈ calls ∧
              (Call.runAll m d calls).2.1.registry.records.get? r.id = none := by
  obtain ⟨l, mode, holds⟩ := Store.holds_empty sorted listed unnamed
  obtain ⟨m, started, rfl, start⟩ := Registry.Entered.start holds settings catalogs monitor
  refine ⟨m, started, fun calls picks settings' catalogs' monitor' => ?_⟩
  have last := (start fun id => Call.purge id ∈ calls).steps calls picks fun _ purged => purged
  obtain ⟨m', loaded, -, -, indexed, -, same⟩ :=
    last.holds.load last.keyed settings' catalogs' monitor'
  refine ⟨m', loaded, fun r hr => ?_, ?_⟩
  · obtain ⟨k, hk⟩ := Dict.mem_values_iff.1 (List.mem_mergeSort.1 hr)
    obtain ⟨r', hr', flags⟩ := Option.map_eq_some_iff.1 ((same k).trans (last.entered k r hk))
    exact ⟨r', List.mem_mergeSort.2 (Dict.mem_values_iff.2 ⟨k, hr'⟩), flags⟩
  · refine ((List.mergeSort_perm _ _).pairwise_iff fun {a b} hab clash => ?_).2
      (Dict.pairwise_values fun k j a b ha hb hne clash => ?_)
    · obtain ⟨r, which, purged⟩ := hab clash.symm
      exact ⟨r, which.symm, purged⟩
    · have keyA := indexed.keyed k a ha
      have keyB := indexed.keyed j b hb
      rcases last.kept same ha with purged | ⟨oldA, hA, keptA⟩
      · exact ⟨a, .inl rfl, by rw [keyA]; exact purged⟩
      · rcases last.kept same hb with purged | ⟨oldB, hB, keptB⟩
        · exact ⟨b, .inr rfl, by rw [keyB]; exact purged⟩
        · -- Both are installed still, so they do not clash.
          have apart := (last.separate.apart k j oldA oldB hA hB hne).kept keptA keptB
          exact absurd clash apart.not_clash

/-- A package that binds a port of the host. -/
def listeningNode : Manifest :=
  { identity := ⟨"node", "1.0.0", ""⟩, container := ⟨[], [⟨"p2p", .tcp, 9000, false, true⟩]⟩ }

/-- The record of this package under an ID and an address. -/
def listeningPup (id : String) (last : UInt8) : Record where
  id
  phase := .installing
  enabled := false
  config := ∅
  address := .ofOctets 10 69 0 last
  webUis := []
  providers := ∅
  manifest := listeningNode
  source := ⟨"main", "/srv"⟩
  needsConf := false
  needsDeps := false

/-- A pup is purged, and its package is adopted once more. -/
def adoptedAgain : List Call :=
  [.adopt (.numbersFrom 0) listeningNode ⟨"main", "/srv"⟩ none, .purge "0",
    .adopt (.numbersFrom 1) listeningNode ⟨"main", "/srv"⟩ none]

theorem picks_adoptedAgain : ∀ c ∈ adoptedAgain, c.PicksNoSlash := by
  simp [adoptedAgain, Call.PicksNoSlash, IdSource.noSlash_numbersFrom]

/-- The pup of the second adoption is installed, and what is left of the first one clashes with it
after a restart. -/
theorem clash_only_with_purged_adoptedAgain :
    bareDisk.Sorted ∧ (Disk.run (Disk.readDir bareManager.store.dir) bareDisk).1 = .ok [] ∧
      ∃ m', Manager.load bareManager.settings bareManager.store default none
          (Call.runAll bareManager.rewatch bareDisk adoptedAgain).2.2 = .ok m' ∧
        (∃ r' ∈ m'.registry.list, r'.bare = listeningPup "1" 3) ∧
        m'.registry.list.Pairwise fun a b => a.Clash b → a.id = "0" ∨ b.id = "0" := by
  obtain ⟨m, loaded, after⟩ := clash_only_with_purged bareManager.settings bareManager.store default
    bareManager.monitor sorted_bareDisk readDir_bareDisk (by simp)
  obtain rfl : bareManager.rewatch = m := Except.ok.inj (load_bareDisk.symm.trans loaded)
  obtain ⟨m', reloaded, installed, clash⟩ :=
    after adoptedAgain picks_adoptedAgain bareManager.settings default none
  have listed : (Call.runAll bareManager.rewatch bareDisk adoptedAgain).2.1.registry.list =
      [listeningPup "1" 3] := by decide +kernel
  refine ⟨sorted_bareDisk, readDir_bareDisk, m', reloaded,
    installed (listeningPup "1" 3) (by simp [listed]), clash.imp fun {a b} h hab => ?_⟩
  obtain ⟨r, which, purged, -⟩ := h hab
  have zero : r.id = "0" := by simpa [adoptedAgain] using purged
  rcases which with rfl | rfl
  · exact .inl zero
  · exact .inr zero

/-- **A purge frees what the stored record still holds.** From an empty store, after an adoption, the
purge of the pup and another adoption of its package, a restart finds two pups that bind one port and
are of one package. -/
theorem purged_pup_clashes :
    Manager.load bareManager.settings bareManager.store default bareManager.monitor bareDisk =
        .ok bareManager.rewatch ∧
      ∃ m', Manager.load bareManager.settings bareManager.store default none
          (Call.runAll bareManager.rewatch bareDisk adoptedAgain).2.2 = .ok m' ∧
        ∃ a ∈ m'.registry.list, ∃ b ∈ m'.registry.list, a.id ≠ b.id ∧
          9000 ∈ a.boundHostPorts ∧ 9000 ∈ b.boundHostPorts ∧
          a.isSamePackage b.manifest b.source = true := by
  obtain ⟨l, mode, holds⟩ := Store.holds_empty sorted_bareDisk readDir_bareDisk (by simp)
  obtain ⟨m, loaded, -, start⟩ :=
    Registry.Entered.start holds bareManager.settings default bareManager.monitor
  obtain rfl : bareManager.rewatch = m := Except.ok.inj (load_bareDisk.symm.trans loaded)
  have last := (start fun _ => True).steps adoptedAgain picks_adoptedAgain fun _ _ => trivial
  obtain ⟨m', reloaded, -, -, -, -, same⟩ := last.holds.load last.keyed bareManager.settings default none
  -- Both adoptions are in the ledger.
  have first : (Call.ledger adoptedAgain
      (Call.runAll bareManager.rewatch bareDisk adoptedAgain).1).get? "0" =
        some (listeningPup "0" 2) := by decide +kernel
  have second : (Call.ledger adoptedAgain
      (Call.runAll bareManager.rewatch bareDisk adoptedAgain).1).get? "1" =
        some (listeningPup "1" 3) := by decide +kernel
  obtain ⟨a, ha, bareA⟩ :=
    Option.map_eq_some_iff.1 ((same "0").trans (congrArg (Option.map Record.bare) first))
  obtain ⟨b, hb, bareB⟩ :=
    Option.map_eq_some_iff.1 ((same "1").trans (congrArg (Option.map Record.bare) second))
  have keptA := Record.Kept.of_bare bareA.symm
  have keptB := Record.Kept.of_bare bareB.symm
  refine ⟨load_bareDisk, m', reloaded, a, List.mem_mergeSort.2 (Dict.mem_values_iff.2 ⟨_, ha⟩),
    b, List.mem_mergeSort.2 (Dict.mem_values_iff.2 ⟨_, hb⟩), ?_, ?_, ?_, ?_⟩
  · rw [keptA.id, keptB.id]
    decide
  · rw [keptA.boundHostPorts]
    decide
  · rw [keptB.boundHostPorts]
    decide
  · rw [keptA.isSamePackage, keptB.manifest, keptB.source]
    decide

end Kennel
