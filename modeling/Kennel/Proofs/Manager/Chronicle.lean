import Kennel.Proofs.Manager.Follower
import Kennel.Proofs.Manager.Installation
import Kennel.Proofs.Record.Updates

/-!
# What is told of each pup

Subscribers are told of all pups by one feed. The notices of one pup, taken out of it, tell one life:
that the pup was adopted, unless it was there when the manager was loaded; then its changes; and in the
end, if at all, that it was purged (`Chronicle`). All records in them agree in what was settled when the
pup was adopted. This holds as long as each new pup gets an ID that nobody had before (`NewIds`); an ID
that is used again begins another life.

Which life a pup is in follows from what was told of it and from whether it is installed
(`Notice.Life`). Every call takes each life one step further (`Chronicled.step`), and a pup that is not
installed can only be adopted, which `NewIds` rules out for one that lived before.

A record is cloned before it is put into the registry, and the health of all pups is found anew before
subscribers are told. **The record that is told is the one that is kept at that moment**
(`Call.Outcome.true_to_registry`), since the look at the health does not change it: it was marked when
it was planned, an update leaves the same pups installed, and a new pup has selected no providers yet.
-/

namespace Kennel

open Traffic

/-! ## Lives -/

namespace Notice

/-- What is told of this pup, from the record that it was loaded with or its adoptions up to the record
that is kept of it now. -/
inductive Life (id : String) : Option Record → List Record → List Notice → Option Record → Prop where
  | unknown : Life id none [] [] none
  | loaded (r : Record) : Life id (some r) [] [] (some r)
  | adopted (r : Record) : Life id none [r] [.ofRecord .adopted r] (some r)
  | changed {start : Option Record} {adopted : List Record} {told : List Notice} {r r' : Record}
    {kinds : List NoticeKind} (before : Life id start adopted told (some r)) (kept : r.Kept r')
    (tellable : ∀ k ∈ kinds, k ≠ .adopted ∧ k ≠ .purged) :
    Life id start adopted (told ++ kinds.map (Notice.ofRecord · r')) (some r')
  | purged {start : Option Record} {adopted : List Record} {told : List Notice} {r : Record}
    (before : Life id start adopted told (some r)) :
    Life id start adopted (told ++ [.purged id]) none

/-- What can be told of a pup after it was loaded or adopted: changes of it, and in the end, if at all,
that it was purged. -/
def Continues (id : String) (told : List Notice) : Prop :=
  ∃ changes last, told = changes ++ last ∧ (∀ n ∈ changes, n.kind ≠ .adopted ∧ n.kind ≠ .purged) ∧
    (last = [] ∨ last = [.purged id])

namespace Life

variable {id : String} {start now : Option Record} {adopted : List Record} {told : List Notice}

/-- Who was neither loaded nor adopted is not installed, and nothing is told of it. -/
theorem unborn (h : Life id start adopted told now) (unloaded : start = none)
    (unadopted : adopted = []) : told = [] ∧ now = none := by
  induction h with
  | unknown => exact ⟨rfl, rfl⟩
  | loaded r => cases unloaded
  | adopted r => cases unadopted
  | changed before kept changes ih => cases (ih unloaded unadopted).2
  | purged before ih => cases (ih unloaded unadopted).2

/-- A record that changes in its flags at most leads the same life. -/
theorem still (h : Life id start adopted told now) {now' : Option Record}
    (same : now'.map Record.bare = now.map Record.bare) : Life id start adopted told now' := by
  cases now with
  | none =>
    obtain rfl := Option.map_eq_none_iff.1 same
    exact h
  | some r =>
    obtain ⟨r', rfl, bare⟩ := Option.map_eq_some_iff.1 same
    have next : Life id start adopted (told ++ [].map (Notice.ofRecord · r')) (some r') :=
      h.changed (.of_bare bare.symm) (by simp)
    rwa [List.map_nil, List.append_nil] at next

/-- **The word of a life**: the adoptions, then changes, and a purge if the pup is not installed any
more. -/
theorem word (h : Life id start adopted told now) :
    ∃ changes last, told = adopted.map (Notice.ofRecord .adopted) ++ (changes ++ last) ∧
      (∀ n ∈ changes, n.kind ≠ .adopted ∧ n.kind ≠ .purged) ∧
      (last = [] ∨ now = none ∧ last = [.purged id]) := by
  induction h with
  | unknown | loaded r | adopted r => exact ⟨[], [], rfl, by simp, .inl rfl⟩
  | @changed start adopted told r r' kinds before kept tellable ih =>
    obtain ⟨changes, last, rfl, ok, rfl | ⟨gone, -⟩⟩ := ih
    · refine ⟨changes ++ kinds.map (Notice.ofRecord · r'), [], by simp, fun n member => ?_, .inl rfl⟩
      rcases List.mem_append.1 member with old | new
      · exact ok n old
      · obtain ⟨k, known, rfl⟩ := List.mem_map.1 new
        exact tellable k known
    · cases gone
  | purged before ih =>
    obtain ⟨changes, last, rfl, ok, rfl | ⟨gone, -⟩⟩ := ih
    · exact ⟨changes, [.purged id], by simp, ok, .inr ⟨rfl, rfl⟩⟩
    · cases gone

/-- A life whose pup was not adopted goes on from the loading. -/
theorem continues (h : Life id start [] told now) : Continues id told := by
  obtain ⟨changes, last, rfl, ok, ends⟩ := h.word
  exact ⟨changes, last, rfl, ok, ends.imp_right And.right⟩

/-- A life whose pup was adopted begins with that, and goes on from it. -/
theorem begins {r : Record} (h : Life id start [r] told now) :
    ∃ rest, told = .ofRecord .adopted r :: rest ∧ Continues id rest := by
  obtain ⟨changes, last, rfl, ok, ends⟩ := h.word
  exact ⟨changes ++ last, rfl, changes, last, rfl, ok, ends.imp_right And.right⟩

/-- Only the notice of a purge has no record. -/
theorem carried (h : Life id start adopted told now) :
    ∀ n ∈ told, n.kind = .purged ↔ n.record = none := by
  induction h with
  | unknown | loaded r => simp
  | adopted r => simp [Notice.ofRecord]
  | @changed start adopted told r r' kinds before kept tellable ih =>
    intro n member
    rcases List.mem_append.1 member with old | new
    · exact ih n old
    · obtain ⟨k, known, rfl⟩ := List.mem_map.1 new
      simp [Notice.ofRecord, (tellable k known).2]
  | purged before ih =>
    intro n member
    rcases List.mem_append.1 member with old | new
    · exact ih n old
    · obtain rfl := List.mem_singleton.1 new
      simp [Notice.purged]

/-- **All records of a life agree** in what was settled when the pup was adopted. -/
theorem agree (h : Life id start adopted told now) :
    ∃ first : Record, (∀ n ∈ told, ∀ r, n.record = some r → first.Kept r) ∧
      (∀ r, start = some r → first.Kept r) ∧ ∀ r, now = some r → first.Kept r := by
  induction h with
  | unknown => exact ⟨default, by simp, by simp, by simp⟩
  | loaded r => exact ⟨r, by simp, by simp [Record.Kept.refl], by simp [Record.Kept.refl]⟩
  | adopted r => exact ⟨r, by simp [Notice.ofRecord, Record.Kept.refl], by simp, by simp [Record.Kept.refl]⟩
  | @changed start adopted told r r' kinds before kept tellable ih =>
    obtain ⟨first, all, loaded, last⟩ := ih
    have next := (last r rfl).trans kept
    refine ⟨first, fun n member s record => ?_, loaded, fun s same => Option.some.inj same ▸ next⟩
    rcases List.mem_append.1 member with old | new
    · exact all n old s record
    · obtain ⟨k, -, rfl⟩ := List.mem_map.1 new
      exact Option.some.inj record ▸ next
  | purged before ih =>
    obtain ⟨first, all, loaded, -⟩ := ih
    refine ⟨first, fun n member s record => ?_, loaded, by simp⟩
    rcases List.mem_append.1 member with old | new
    · exact all n old s record
    · obtain rfl := List.mem_singleton.1 new
      cases record

end Life

end Notice

/-! ## The lives of all pups -/

/-- Each of these pups got an ID that nobody had before: no pup that was loaded, and no other of them. -/
structure NewIds (start : Dict Record) (adopted : List Record) : Prop where
  unloaded : ∀ r ∈ adopted, start.get? r.id = none
  once : (adopted.map (·.id)).Nodup

/-- What was told tells the lives of all pups up to the registry as it is. -/
def Chronicled (start : Dict Record) (adopted : List Record) (told : List Notice) (g : Registry) :
    Prop :=
  ∀ id, Notice.Life id (start.get? id) (adopted.filter (·.id = id)) (told.filter (·.id = id))
    (g.records.get? id)

/-- What is told of pups that were loaded or adopted, taken by pups. -/
structure Chronicle (start : Dict Record) (adoptions : List Record) (told : List Notice) : Prop where
  /-- Of a pup that was adopted it is told first that it was, and then how it went on. -/
  adopted : ∀ r ∈ adoptions, ∃ rest,
    told.filter (·.id = r.id) = .ofRecord .adopted r :: rest ∧ Notice.Continues r.id rest
  /-- Of a pup that was loaded it is told how it went on. -/
  loaded : ∀ id, (start.get? id).isSome → Notice.Continues id (told.filter (·.id = id))
  /-- Of others nothing is told. -/
  others : ∀ id, start.get? id = none → (∀ r ∈ adoptions, r.id ≠ id) →
    told.filter (·.id = id) = []
  carried : ∀ n ∈ told, n.kind = .purged ↔ n.record = none
  /-- The records of one pup agree in what was settled at adoption. -/
  agree : ∀ n ∈ told, ∀ n' ∈ told, n'.id = n.id → ∀ r r', n.record = some r → n'.record = some r' →
    r.Kept r'

/-- None of these records has this ID. -/
theorem filter_id_eq_nil {records : List Record} {id : String} (unused : id ∉ records.map (·.id)) :
    records.filter (·.id = id) = [] :=
  List.filter_eq_nil_iff.2 fun r member same =>
    unused (List.mem_map.2 ⟨r, member, of_decide_eq_true same⟩)

namespace NewIds

variable {start : Dict Record} {adopted before later : List Record} {r : Record}

theorem of_append (h : NewIds start (before ++ later)) : NewIds start before where
  unloaded r member := h.unloaded r (List.mem_append_left later member)
  once := by
    have once := h.once
    rw [List.map_append] at once
    exact once.of_append_left

/-- Who comes has an ID of its own. -/
theorem unused (h : NewIds start (before ++ r :: later)) :
    before.filter (·.id = r.id) = [] ∧ later.filter (·.id = r.id) = [] := by
  have once := h.once
  rw [List.map_append, List.map_cons, List.nodup_middle, List.nodup_cons, List.mem_append, not_or]
    at once
  exact ⟨filter_id_eq_nil once.1.1, filter_id_eq_nil once.1.2⟩

/-- With new IDs each pup is adopted once. -/
theorem filter_eq (h : NewIds start adopted) (member : r ∈ adopted) :
    adopted.filter (·.id = r.id) = [r] := by
  obtain ⟨before, later, rfl⟩ := List.append_of_mem member
  rw [List.filter_append, h.unused.1, List.nil_append, List.filter_cons, if_pos (decide_eq_true rfl),
    h.unused.2]

end NewIds

namespace Chronicled

variable {start : Dict Record} {adopted : List Record} {told : List Notice} {g g' : Registry}

/-- Before anything is told, all that are installed were loaded. -/
theorem nothing_told (g : Registry) : Chronicled g.records [] [] g := by
  intro id
  cases g.records.get? id with
  | none => exact .unknown
  | some r => exact .loaded r

/-- **Lives with new IDs are a chronicle.** -/
theorem chronicle (h : Chronicled start adopted told g) (new : NewIds start adopted) :
    Chronicle start adopted told where
  adopted r member := by
    have life := h r.id
    rw [new.filter_eq member] at life
    exact life.begins
  loaded id there := by
    have life := h id
    have unadopted : adopted.filter (·.id = id) = [] := filter_id_eq_nil fun used => by
      obtain ⟨r, member, rfl⟩ := List.mem_map.1 used
      rw [new.unloaded r member] at there
      cases there
    rw [unadopted] at life
    exact life.continues
  others id unloaded unadopted :=
    ((h id).unborn unloaded (filter_id_eq_nil fun used => by
      obtain ⟨r, member, same⟩ := List.mem_map.1 used
      exact unadopted r member same)).1
  carried n member := (h n.id).carried n (List.mem_filter.2 ⟨member, decide_eq_true rfl⟩)
  agree n member n' member' same r r' record record' := by
    obtain ⟨first, all, -⟩ := (h n.id).agree
    exact (all n (List.mem_filter.2 ⟨member, decide_eq_true rfl⟩) r record).symm.trans
      (all n' (List.mem_filter.2 ⟨member', decide_eq_true same⟩) r' record')

/-- Something happens to one pup, and the records of the others change in their flags at most. -/
theorem one (h : Chronicled start adopted told g) (k : String) (newcomers : List Record)
    (news : List Notice) (newcomer : ∀ r ∈ newcomers, r.id = k) (about : ∀ n ∈ news, n.id = k)
    (others : ∀ id, id ≠ k →
      (g'.records.get? id).map Record.bare = (g.records.get? id).map Record.bare)
    (here : Notice.Life k (start.get? k) (adopted.filter (·.id = k) ++ newcomers)
      (told.filter (·.id = k) ++ news) (g'.records.get? k)) :
    Chronicled start (adopted ++ newcomers) (told ++ news) g' := by
  intro id
  rw [List.filter_append, List.filter_append]
  by_cases same : id = k
  · subst same
    rwa [List.filter_eq_self.2 fun r member => decide_eq_true (newcomer r member),
      List.filter_eq_self.2 fun n member => decide_eq_true (about n member)]
  · have apart {α : Type} {ids : α → String} {l : List α} (all : ∀ x ∈ l, ids x = k) :
        l.filter (ids · = id) = [] :=
      List.filter_eq_nil_iff.2 fun x member hit =>
        same ((of_decide_eq_true hit).symm.trans (all x member))
    rw [apart newcomer, apart about, List.append_nil, List.append_nil]
    exact (h id).still (others id same)

/-- A pup with a new ID is adopted. -/
theorem commitAdoption (h : Chronicled start adopted told g) {r : Record}
    (new : NewIds start (adopted ++ [r])) (bufferSize : Nat) :
    Chronicled start (adopted ++ [r]) (told ++ [.ofRecord .adopted r])
      (g.commitAdoption bufferSize r) := by
  have after (k : String) : ((g.commitAdoption bufferSize r).records.get? k).map Record.bare =
      ((g.records.insert r.id r).get? k).map Record.bare := Registry.bare_refreshHealth _ k
  have unused : adopted.filter (·.id = r.id) = [] := new.unused.1
  have unloaded := new.unloaded r (List.mem_append_right _ (List.mem_singleton_self r))
  refine h.one r.id [r] [.ofRecord .adopted r] (by simp) (by simp [Notice.ofRecord])
    (fun id other => ?_) ?_
  · rw [after, Dict.get?_insert, if_neg other]
  · rw [((h r.id).unborn unloaded unused).1, unused, unloaded]
    refine (Notice.Life.adopted r).still ?_
    rw [after, Dict.get?_insert, if_pos rfl]

/-- A pup is changed, or the change is not told. -/
theorem commitUpdate (h : Chronicled start adopted told g) {old r : Record} {kinds : List NoticeKind}
    (found : g.records.get? r.id = some old) (kept : old.Kept r)
    (tellable : ∀ k ∈ kinds, k ≠ .adopted ∧ k ≠ .purged) :
    Chronicled start adopted (told ++ kinds.map (Notice.ofRecord · r)) (g.commitUpdate r) := by
  have after (k : String) : ((g.commitUpdate r).records.get? k).map Record.bare =
      ((g.records.insert r.id r).get? k).map Record.bare := Registry.bare_refreshHealth _ k
  rw [← List.append_nil adopted]
  refine h.one r.id [] (kinds.map (Notice.ofRecord · r)) (by simp) (by simp [Notice.ofRecord])
    (fun k other => ?_) ?_
  · rw [after, Dict.get?_insert, if_neg other]
  · have life := h r.id
    rw [found] at life
    rw [List.append_nil]
    refine (life.changed kept tellable).still ?_
    rw [after, Dict.get?_insert, if_pos rfl]

/-- A pup is purged. -/
theorem purge (h : Chronicled start adopted told g) {id : String} (purged : g.purge id = .ok g') :
    Chronicled start adopted (told ++ [.purged id]) g' := by
  obtain ⟨installed, rfl⟩ := Registry.purge_ok purged
  obtain ⟨r, found⟩ := Option.isSome_iff_exists.1 installed
  have after (k : String) := Registry.bare_refreshHealth
    { g with records := g.records.erase id, stats := g.stats.erase id } k
  rw [← List.append_nil adopted]
  refine h.one id [] [.purged id] (by simp) (by simp [Notice.purged]) (fun k other => ?_) ?_
  · refine (after k).trans ?_
    rw [Dict.get?_erase, if_neg other]
  · have life := h id
    rw [found] at life
    rw [List.append_nil]
    refine life.purged.still ((after id).trans ?_)
    rw [Dict.get?_erase, if_pos rfl]

end Chronicled

/-! ## One call -/

section

variable {m m' : Manager} {d d' : Disk} {c : Call} {answer : Except ManagerError Answer}

/-- **The record that is told is the one that is kept then**, and none is kept of a pup that was
purged. -/
theorem Call.Outcome.true_to_registry (h : Call.Outcome m d c answer m' d') :
    ∀ n ∈ c.notices m answer, n.record = m'.registry.records.get? n.id := by
  cases h with
  | refused | unsaved =>
    rw [Call.notices_error]
    exact fun n member => by cases member
  | @adopted ids manifest source breakdown r d' planned saved =>
    intro n member
    obtain rfl := List.mem_singleton.1 member
    have plan : (Call.adopt ids manifest source breakdown).plan? m.registry =
        some (.ok (.adoption r)) := by
      rw [Call.plan?, planned]
      rfl
    exact (Plan.get?_commit plan).symm
  | @updated id updates breakdown r kinds d' planned saved =>
    intro n member
    obtain ⟨k, -, rfl⟩ := List.mem_map.1 member
    have plan : (Call.update id updates breakdown).plan? m.registry = some (.ok (.update r kinds)) := by
      rw [Call.plan?, planned]
      rfl
    rw [Manager.registry_announceKinds]
    exact (Plan.get?_commit plan).symm
  | @purged id g purged =>
    intro n member
    obtain rfl := List.mem_singleton.1 member
    obtain ⟨-, rfl⟩ := Registry.purge_ok purged
    refine Eq.symm ((Registry.get?_refreshHealth _ id).trans ?_)
    rw [Dict.get?_erase, if_pos rfl]
    rfl
  | ingested | recorded => exact fun n member => by cases member
  | attended idle =>
    rw [Call.notices_idle idle]
    exact fun n member => by cases member

/-- **Every call takes each life a step further.** -/
theorem Chronicled.step {start : Dict Record} {adopted : List Record} {told : List Notice}
    (h : Chronicled start adopted told m.registry) (indexed : m.registry.Indexed)
    (outcome : Call.Outcome m d c answer m' d')
    (new : NewIds start (adopted ++ (c.adoptee answer).toList)) :
    Chronicled start (adopted ++ (c.adoptee answer).toList) (told ++ c.notices m answer)
      m'.registry := by
  have others (unadopted : c.adoptee answer = none)
      (lives : Chronicled start adopted (told ++ c.notices m answer) m'.registry) :
      Chronicled start (adopted ++ (c.adoptee answer).toList) (told ++ c.notices m answer)
        m'.registry := by
    rw [unadopted, Option.toList_none, List.append_nil]
    exact lives
  -- Where nobody is adopted and nothing is told, flags change at most, and lives go on as they are.
  have idle (silent : c.notices m answer = []) (unadopted : c.adoptee answer = none)
      (same : ∀ k, (m'.registry.records.get? k).map Record.bare =
        (m.registry.records.get? k).map Record.bare) :
      Chronicled start (adopted ++ (c.adoptee answer).toList) (told ++ c.notices m answer)
        m'.registry := by
    refine others unadopted ?_
    rw [silent, List.append_nil]
    exact fun id => (h id).still (same id)
  cases outcome with
  | refused | unsaved => exact idle (Call.notices_error _ _ _) (Call.adoptee_error _ _) fun _ => rfl
  | attended quiet => exact idle (Call.notices_idle quiet _ _) (Call.adoptee_idle quiet _) fun _ => rfl
  | recorded recorded =>
    exact idle rfl rfl fun k => by
      rw [show _ = m.registry.records from (Registry.recordMetrics_ok recorded).1]
  | ingested sample slow =>
    obtain ⟨seen, seenEq, records, -⟩ := Registry.ingest_eq m.registry sample slow
    refine idle rfl rfl fun k => ?_
    rw [show (m.ingest sample slow).registry = seen.refreshHealth from seenEq,
      Registry.bare_refreshHealth, records]
  | adopted planned saved => exact h.commitAdoption new m.settings.bufferSize
  | @updated id updates breakdown r kinds d' planned saved =>
    obtain ⟨old, found, -, made⟩ := Registry.planUpdate_eq_ok planned
    obtain ⟨old', found', kept⟩ := Registry.kept_planUpdate planned
    cases found.symm.trans found'
    refine others rfl ?_
    rw [Manager.registry_announceKinds, Call.notices, found, Option.elim_some, ← made]
    rw [← indexed.keyed id old found, ← kept.id] at found
    exact h.commitUpdate found kept (made ▸ Update.tellable_applyAll)
  | purged purged => exact others rfl (h.purge purged)

end

/-! ## Calls in a row -/

namespace Manager

variable {m : Manager}

/-- What happens at the feed of notices by these calls. -/
def noticeEvents (m : Manager) : List (Call × Disk) → List (Feed.Event Notice)
  | [] => []
  | c :: calls => Channel.notices.events m c.2 (.call c.1) ++ noticeEvents (c.1.run m c.2).2.1 calls

/-- The records that these calls adopt, in their order. -/
def adoptions (m : Manager) : List (Call × Disk) → List Record
  | [] => []
  | c :: calls => (c.1.adoptee (c.1.run m c.2).1).toList ++ adoptions (c.1.run m c.2).2.1 calls

theorem noticeFeed_after (m : Manager) (calls : List (Call × Disk)) :
    (m.after calls).noticeFeed = m.noticeFeed.play (m.noticeEvents calls) := by
  induction calls generalizing m with
  | nil => rfl
  | cons c calls ih =>
    rw [noticeEvents, Feed.play_append]
    exact (ih _).trans (congrArg (Feed.play · _) (Channel.lawful_notices.feed_run m c.2 (.call c.1)))

/-- What one more call adds. -/
theorem noticeEvents_concat (m : Manager) (calls : List (Call × Disk)) (c : Call × Disk) :
    m.noticeEvents (calls ++ [c]) =
      m.noticeEvents calls ++ Channel.notices.events (m.after calls) c.2 (.call c.1) := by
  induction calls generalizing m with
  | nil => exact List.append_nil _
  | cons b calls ih =>
    rw [List.cons_append, noticeEvents, ih, noticeEvents, List.append_assoc]
    rfl

end Manager

/-- **Calls take all lives further.** -/
theorem Chronicled.after {start : Dict Record} {adopted : List Record} {told : List Notice}
    {m : Manager} (h : Chronicled start adopted told m.registry) (indexed : m.registry.Indexed)
    (calls : List (Call × Disk)) (new : NewIds start (adopted ++ m.adoptions calls)) :
    Chronicled start (adopted ++ m.adoptions calls) (told ++ Feed.emitted (m.noticeEvents calls))
      (m.after calls).registry := by
  induction calls generalizing m adopted told with
  | nil => simpa [Manager.adoptions, Manager.noticeEvents, Feed.emitted, Manager.after] using h
  | cons c calls ih =>
    rw [Manager.adoptions, ← List.append_assoc] at new ⊢
    rw [Manager.noticeEvents, Feed.emitted_append, ← List.append_assoc,
      Channel.detached_notices.emitted_events]
    have outcome := c.1.outcome m c.2
    exact ih (h.step indexed outcome new.of_append) (outcome.effect.indexed indexed) new

/-- The feed of a manager is what these events have made of it since the manager was loaded, and they tell
the lives of all pups, if those that were adopted since then got IDs that nobody had before. -/
structure Manager.Recounts (loaded : Manager) (events : List (Feed.Event Notice))
    (adoptions : List Record) (now : Manager) : Prop where
  feed : now.noticeFeed = loaded.noticeFeed.play events
  chronicle : NewIds loaded.registry.records adoptions →
    Chronicle loaded.registry.records adoptions (Feed.emitted events)

/-- Since then more was told, each notice with the record that a look at its pup gives now, or with none if
the pup is not installed. -/
def Registry.Confirms (g : Registry) (told more : List Notice) : Prop :=
  ∃ news, more = told ++ news ∧ ∀ n ∈ news, n.record = (g.get n.id).toOption

/-- **A request tells what is kept after it.** -/
theorem Traffic.Request.confirms (request : Request) (m : Manager) (d : Disk) :
    ∀ n ∈ Feed.emitted (Channel.notices.events m d request),
      n.record = ((request.run m d).2.1.registry.get n.id).toOption := by
  intro n member
  rw [Registry.toOption_get]
  cases request with
  | query q => cases member
  | call c =>
    rw [Channel.detached_notices.emitted_events] at member
    exact (c.outcome m d).true_to_registry n member

/-! ## Requests at once -/

namespace Traffic

/-- The record that a request adopts, by its reply. -/
def Request.adoptee : Request → Except ManagerError Reply → Option Record
  | .call (.adopt _ _ _ _), .ok (.answer (.record r)) => some r
  | _, _ => none

/-- The calls among requests in a row, each with the disk that it meets. -/
def Request.calls (m : Manager) (d : Disk) : List Request → List (Call × Disk)
  | [] => []
  | .call c :: requests => (c, d) :: calls (c.run m d).2.1 (c.run m d).2.2 requests
  | .query _ :: requests => calls m d requests

theorem Request.adoptee_map (c : Call) (answer : Except ManagerError Answer) :
    Request.adoptee (.call c) (answer.map .answer) = c.adoptee answer := by
  cases c with
  | adopt =>
    cases answer with
    | error e => rfl
    | ok a => cases a <;> rfl
  | _ => rfl

/-- **Requests in a row are their calls.** -/
theorem Request.after_calls {m m' : Manager} {d d' : Disk} {requests : List Request}
    {replies : List (Except ManagerError Reply)} (ran : runAll m d requests = (replies, m', d')) :
    m.after (calls m d requests) = m' ∧
      m.noticeEvents (calls m d requests) = Channel.notices.history m d requests ∧
      m.adoptions (calls m d requests) =
        (requests.zip replies).filterMap fun e => e.1.adoptee e.2 := by
  induction requests generalizing m d replies with
  | nil =>
    obtain ⟨rfl, rfl, rfl⟩ : [] = replies ∧ m = m' ∧ d = d' := by simpa [runAll] using ran
    exact ⟨rfl, rfl, rfl⟩
  | cons request requests ih =>
    simp only [runAll, Prod.mk.injEq] at ran
    obtain ⟨rfl, rfl, rfl⟩ := ran
    obtain ⟨after, events, adoptions⟩ := ih rfl
    cases request with
    | query q => exact ⟨after, events, adoptions⟩
    | call c =>
      refine ⟨after, congrArg (Channel.notices.events m d (.call c) ++ ·) events, ?_⟩
      have here : Request.adoptee (.call c) (Request.run m d (.call c)).1 =
          c.adoptee (c.run m d).1 := adoptee_map c _
      rw [calls, Manager.adoptions, List.zip_cons_cons, List.filterMap_cons, here, ← adoptions]
      cases c.adoptee (c.run m d).1 <;> rfl

/-- The records that requests adopted, in the order in which they took effect. -/
def adoptions (requests : Nat → Request) (s : Traffic) : List Record :=
  s.log.filterMap fun e => (requests e.1).adoptee e.2

namespace Serial

variable {requests : Nat → Request} {m : Manager} {d : Disk} {s : Traffic}

/-- A manager that is asked by many recounts what requests in a row tell. -/
theorem recounts (h : s.Serial requests m d) (indexed : m.registry.Indexed) :
    m.Recounts (Channel.notices.history m d (s.served requests)) (s.adoptions requests) s.manager := by
  obtain ⟨m', d', ran, here, -⟩ := h.in_a_row
  have ran : Request.runAll m d (s.served requests) = _ := ran
  obtain ⟨-, events, adopted⟩ := Request.after_calls ran
  replace adopted : m.adoptions (Request.calls m d (s.served requests)) = s.adoptions requests := by
    rw [adopted, served, List.zip_map', List.filterMap_map]
    rfl
  refine ⟨(h.channel Channel.lawful_notices).1, fun new => ?_⟩
  have lives := (Chronicled.nothing_told m.registry).after indexed
    (Request.calls m d (s.served requests)) (adopted.symm ▸ new)
  rw [adopted, events] at lives
  exact lives.chronicle new

/-- **What a step tells is what is kept after it.** -/
theorem confirms (h : s.Serial requests m d) (t : Nat) :
    (s.step requests t).manager.registry.Confirms
      (Feed.emitted (Channel.notices.history m d (s.served requests)))
      (Feed.emitted (Channel.notices.history m d ((s.step requests t).served requests))) := by
  rcases log_step requests s t with same | ⟨reply, logged⟩
  · have unserved : (s.step requests t).served requests = s.served requests := by
      simp only [served, same]
    rw [unserved]
    exact ⟨[], (List.append_nil _).symm, fun n member => by cases member⟩
  · obtain ⟨m₁, d₁, m₂, d₂, m', d', first, now, last, registry⟩ := (h.step t).split logged
    obtain rfl : m₂ = m' := congrArg (fun ran => ran.2.1) last
    refine ⟨Feed.emitted (Channel.notices.events m₁ d₁ (requests t)), ?_, fun n member => ?_⟩
    · rw [served, logged, List.map_append, List.map_cons, Channel.history_split _ first now,
        Feed.emitted_append]
      simp [Channel.history, served]
    · have kept := (requests t).confirms m₁ d₁ n member
      rwa [now, registry] at kept

end Serial

end Traffic

/-- **What is told of each pup is one life.** A manager is loaded from any store, and anything is called
on it, on any disks. If those that are adopted get IDs that nobody had before, then the notices of each
pup begin with its adoption if it was adopted, and otherwise it was loaded; there is no other notice of
an adoption; changes follow, and after the notice that it was purged there is none. Only that notice has
no record, and the records of one pup agree in its address, its web interfaces, its manifest and its
source. And whatever the IDs are, each notice comes with the record that a look at the pup gives at that
moment.

When many ask at once, it is the same at every moment. -/
theorem notices_tell_lives {settings : ManagerSettings} {store : Store} {catalogs : CatalogSource}
    {monitor : Option Monitor} {m : Manager} {d : Disk}
    (loaded : Manager.load settings store catalogs monitor d = .ok m) :
    (∀ calls : List (Call × Disk),
      m.Recounts (m.noticeEvents calls) (m.adoptions calls) (m.after calls) ∧
        ∀ c, (m.after (calls ++ [c])).registry.Confirms (Feed.emitted (m.noticeEvents calls))
          (Feed.emitted (m.noticeEvents (calls ++ [c])))) ∧
      ∀ (requests : Nat → Request) (schedule : List Nat) (s : Traffic),
        Traffic.run requests { manager := m, disk := d } schedule = s →
          m.Recounts (Channel.notices.history m d (s.served requests)) (s.adoptions requests)
              s.manager ∧
            ∀ t, (s.step requests t).manager.registry.Confirms
              (Feed.emitted (Channel.notices.history m d (s.served requests)))
              (Feed.emitted (Channel.notices.history m d ((s.step requests t).served requests))) := by
  obtain ⟨indexed, -⟩ := Manager.current_load loaded
  refine ⟨fun calls => ⟨⟨m.noticeFeed_after calls, fun new => ?_⟩, fun c => ?_⟩,
    fun requests schedule s ran => ?_⟩
  · exact ((Chronicled.nothing_told m.registry).after indexed calls new).chronicle new
  · refine ⟨_, by rw [m.noticeEvents_concat, Feed.emitted_append], fun n member => ?_⟩
    have kept := Request.confirms (.call c.1) (m.after calls) c.2 n member
    rwa [Manager.after, List.foldl_append]
  · have serial := ran ▸ (Serial.start loaded requests).run schedule
    exact ⟨serial.recounts indexed, serial.confirms⟩

/-- A pup is adopted, changed in two ways and purged, while another one is adopted; and it cannot be
changed any more. -/
def shortLife : Nat → Request
  | 0 => .call (.adopt (.numbersFrom 0) { identity := ⟨"node", "1.0.0", ""⟩ } ⟨"main", "/srv"⟩ none)
  | 1 => .call (.update "0" [.setEnabled true, .setPhase .ready] none)
  | 2 => .call (.purge "0")
  | 3 => .call (.adopt (.numbersFrom 1) { identity := ⟨"wallet", "1.0.0", ""⟩ } ⟨"main", "/srv"⟩ none)
  | _ => .call (.update "0" [.setEnabled false] none)

/-- The notices of the two pups, taken by pups. -/
theorem notices_tell_lives_shortLife :
    Manager.load bareManager.settings bareManager.store default bareManager.monitor bareDisk =
        .ok bareManager.rewatch ∧
      ∃ s told, Traffic.run shortLife { manager := bareManager.rewatch, disk := bareDisk }
          [0, 0, 0, 0, 1, 1, 1, 1, 3, 3, 3, 3, 2, 2, 4] = s ∧
        Feed.emitted (Channel.notices.history bareManager.rewatch bareDisk
          (s.served shortLife)) = told ∧
        NewIds bareManager.rewatch.registry.records (s.adoptions shortLife) ∧
        Chronicle bareManager.rewatch.registry.records (s.adoptions shortLife) told ∧
        (told.filter (·.id = "0")).map Notice.kind =
          [.adopted, .enabledChanged, .installationChanged, .purged] ∧
        (told.filter (·.id = "1")).map Notice.kind = [.adopted] := by
  obtain ⟨recounts, -⟩ := (notices_tell_lives load_bareDisk).2 shortLife
    [0, 0, 0, 0, 1, 1, 1, 1, 3, 3, 3, 3, 2, 2, 4] _ rfl
  have new : NewIds bareManager.rewatch.registry.records
      ((Traffic.run shortLife { manager := bareManager.rewatch, disk := bareDisk }
        [0, 0, 0, 0, 1, 1, 1, 1, 3, 3, 3, 3, 2, 2, 4]).adoptions shortLife) :=
    ⟨fun r _ => rfl, by decide +kernel⟩
  exact ⟨load_bareDisk, _, _, rfl, rfl, new, recounts.chronicle new, by decide +kernel,
    by decide +kernel⟩

end Kennel
