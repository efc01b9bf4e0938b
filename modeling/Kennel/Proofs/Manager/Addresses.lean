import Kennel.Proofs.Manager.Installation

/-!
# Addresses over the life of an installation

The mark of the allocator is kept in memory only, and a restart makes it anew from the records that
are stored. It lies above every address under which a pup is installed or stored at any time
(`Ranked.bounds`), whatever was purged, deleted or restarted before. So each adoption gets an
address above those of all pups that are there, and **pups are listed in the order in which they
were adopted** (`listed_in_order_of_adoption`).

An address that nobody holds can be handed out again: the mark falls when the manager is loaded anew
after the record with the highest address was deleted. **That is the only way in which an address
comes back** (`address_again_after_deletion`).
-/

namespace Kennel

theorem Address.lt_of_le_of_lt {a b c : Address} (hab : a ≤ b) (hbc : b < c) : a < c :=
  lt_iff.2 (Nat.lt_of_le_of_lt (le_iff.1 hab) (lt_iff.1 hbc))

theorem Address.le_of_lt {a b : Address} (h : a < b) : a ≤ b :=
  le_iff.2 (Nat.le_of_lt (lt_iff.1 h))

theorem Address.ne_of_lt {a b : Address} (h : a < b) : a ≠ b := fun same =>
  Nat.lt_irrefl _ (lt_iff.1 (same ▸ h))

/-! ## Who holds an address -/

/-- The address of a record in a dictionary. -/
def addressIn (records : Dict Record) (id : String) : Option Address :=
  (records.get? id).map (·.address)

theorem addressIn_insert (records : Dict Record) (r : Record) (k : String) :
    addressIn (records.insert r.id r) k =
      if k = r.id then some r.address else addressIn records k := by
  rw [addressIn, Dict.get?_insert]
  split <;> rfl

theorem addressIn_erase (records : Dict Record) (id k : String) :
    addressIn (records.erase id) k = if k = id then none else addressIn records k := by
  rw [addressIn, Dict.get?_erase]
  split <;> rfl

/-- Records that agree but for their flags have the same addresses. -/
theorem addressIn_eq_of_bare {records records' : Dict Record} {k : String}
    (same : (records'.get? k).map Record.bare = (records.get? k).map Record.bare) :
    addressIn records' k = addressIn records k := by
  have := congrArg (Option.map Record.address) same
  rwa [Option.map_map, Option.map_map] at this

theorem addressIn_refreshHealth (g : Registry) (k : String) :
    addressIn g.refreshHealth.records k = addressIn g.records k :=
  addressIn_eq_of_bare (g.bare_refreshHealth k)

/-- A pup is installed or stored with this address. -/
def Held (g : Registry) (stored : Dict Record) (id : String) (a : Address) : Prop :=
  addressIn g.records id = some a ∨ addressIn stored id = some a

/-- Who is listed holds the address that is listed. -/
theorem held_of_mem_list {g : Registry} (indexed : g.Indexed) {r : Record} (listed : r ∈ g.list)
    (stored : Dict Record) : Held g stored r.id r.address :=
  .inl (by rw [addressIn, indexed.mem_list_iff.1 listed]; rfl)

/-- Who is adopted holds its address and no other one; what the others hold they held before. -/
theorem held_commitAdoption {g : Registry} {stored : Dict Record} {r : Record} {bufferSize : Nat}
    {k : String} {a : Address}
    (h : Held (g.commitAdoption bufferSize r) (stored.insert r.id r) k a) :
    (k = r.id ∧ a = r.address) ∨ (k ≠ r.id ∧ Held g stored k a) := by
  have installed : addressIn (g.commitAdoption bufferSize r).records k =
      if k = r.id then some r.address else addressIn g.records k :=
    (addressIn_refreshHealth _ k).trans (addressIn_insert g.records r k)
  rw [Held, installed, addressIn_insert] at h
  by_cases hk : k = r.id
  · simp only [hk, if_true, or_self, Option.some.injEq] at h
    exact .inl ⟨hk, h.symm⟩
  · simp only [hk, if_false] at h
    exact .inr ⟨hk, h⟩

/-- The order in which pups were adopted last, each with its address, when one more is adopted. -/
def adoptLast (order : List (String × Address)) (r : Record) : List (String × Address) :=
  order.filter (·.1 ≠ r.id) ++ [(r.id, r.address)]

/-- The pups in the order in which they were adopted last, each with its address. -/
def inOrder (adoptions : List Record) : List (String × Address) := adoptions.foldl adoptLast []

theorem mem_adoptLast {order : List (String × Address)} {r : Record} {e : String × Address} :
    e ∈ adoptLast order r ↔ (e ∈ order ∧ e.1 ≠ r.id) ∨ e = (r.id, r.address) := by
  simp [adoptLast]

theorem nodup_adoptLast {order : List (String × Address)} (single : (order.map (·.1)).Nodup)
    (r : Record) : ((adoptLast order r).map (·.1)).Nodup := by
  rw [adoptLast, List.map_append, List.nodup_append]
  refine ⟨single.sublist (List.filter_sublist.map _), by simp, fun k hk j hj => ?_⟩
  obtain ⟨e, he, rfl⟩ := List.mem_map.1 hk
  obtain rfl : j = r.id := by simpa using hj
  simpa using (List.mem_filter.1 he).2

/-- Who was adopted later has the greater address, of all that are installed or stored; and the mark
lies above all of them. -/
structure Ranked (range : AllocationRange) (g : Registry) (stored : Dict Record)
    (order : List (String × Address)) : Prop where
  single : (order.map (·.1)).Nodup
  known : ∀ k a, Held g stored k a → (k, a) ∈ order
  ascending : order.Pairwise fun x y => Held g stored x.1 x.2 → Held g stored y.1 y.2 → x.2 < y.2
  base : range.base ≤ g.allocator.mark
  bounds : ∀ k a, Held g stored k a → range.base < a ∧ a ≤ range.ceiling ∧ a ≤ g.allocator.mark

namespace Ranked

variable {range : AllocationRange} {g g' : Registry} {stored stored' : Dict Record}
  {order : List (String × Address)}

/-- Nobody has two addresses. -/
theorem eq_of_held (h : Ranked range g stored order) {k : String} {a b : Address}
    (ha : Held g stored k a) (hb : Held g stored k b) : a = b := by
  have := List.inj_on_of_nodup_map h.single (h.known k a ha) (h.known k b hb) rfl
  exact congrArg Prod.snd this

/-- Where nobody comes in the order stays, if the mark still lies above all. -/
theorem of_held (h : Ranked range g stored order)
    (fewer : ∀ k a, Held g' stored' k a → Held g stored k a)
    (base : range.base ≤ g'.allocator.mark)
    (below : ∀ k a, Held g' stored' k a → a ≤ g'.allocator.mark) :
    Ranked range g' stored' order where
  single := h.single
  known k a held := h.known k a (fewer k a held)
  ascending := h.ascending.imp fun less hx hy => less (fewer _ _ hx) (fewer _ _ hy)
  base := base
  bounds k a held :=
    ⟨(h.bounds k a (fewer k a held)).1, (h.bounds k a (fewer k a held)).2.1, below k a held⟩

theorem of_held_of_mark (h : Ranked range g stored order)
    (fewer : ∀ k a, Held g' stored' k a → Held g stored k a)
    (mark : g'.allocator.mark = g.allocator.mark) : Ranked range g' stored' order :=
  h.of_held fewer (mark ▸ h.base) fun k a held => mark ▸ (h.bounds k a (fewer k a held)).2.2

/-- **Who is adopted comes last in the order.** -/
theorem adopt (h : Ranked range g stored order) (allocator : g.allocator.range = range)
    {ids : IdSource} {manifest : Manifest} {source : Source} {r : Record} (bufferSize : Nat)
    (planned : g.planAdoption ids manifest source = .ok r) :
    Ranked range (g.commitAdoption bufferSize r) (stored.insert r.id r) (adoptLast order r) := by
  obtain ⟨-, -, address, ports, next, -, hr⟩ := Registry.planAdoption_ok planned
  have hnext : g.allocator.nextAddress = .ok r.address := by
    rw [hr]
    exact next
  have above := Allocator.lt_of_nextAddress hnext
  have ceiling : r.address ≤ range.ceiling := allocator ▸ Allocator.le_ceiling_of_nextAddress hnext
  have mark : (g.commitAdoption bufferSize r).allocator.mark = g.allocator.mark.max r.address := rfl
  have held {k : String} {a : Address}
      (h : Held (g.commitAdoption bufferSize r) (stored.insert r.id r) k a) := held_commitAdoption h
  have old {x : String × Address} (hx : x ∈ order.filter (·.1 ≠ r.id))
      (hxh : Held (g.commitAdoption bufferSize r) (stored.insert r.id r) x.1 x.2) :
      Held g stored x.1 x.2 := ((held hxh).resolve_left fun e => by simp [e.1] at hx).2
  refine ⟨nodup_adoptLast h.single r, fun k a hka => mem_adoptLast.2 ?_, ?_, ?_, fun k a hka => ?_⟩
  · rcases held hka with ⟨rfl, rfl⟩ | ⟨hk, hka⟩
    · exact .inr rfl
    · exact .inl ⟨h.known k a hka, hk⟩
  · rw [adoptLast, List.pairwise_append]
    refine ⟨?_, List.pairwise_singleton _ _, fun x hx y hy hxh _ => ?_⟩
    · exact (h.ascending.filter _).imp_of_mem fun hx hy less hxh hyh =>
        less (old hx hxh) (old hy hyh)
    · obtain rfl : y = (r.id, r.address) := by simpa using hy
      exact Address.lt_of_le_of_lt (h.bounds _ _ (old hx hxh)).2.2 above
  · rw [mark]
    exact Address.le_trans h.base (Address.le_max_left _ _)
  · rw [mark]
    rcases held hka with ⟨rfl, rfl⟩ | ⟨-, hka⟩
    · exact ⟨Address.lt_of_le_of_lt h.base above, ceiling, Address.le_max_right _ _⟩
    · obtain ⟨low, high, below⟩ := h.bounds k a hka
      exact ⟨low, high, Address.le_trans below (Address.le_max_left _ _)⟩

/-! ### The list -/

/-- What is listed, and the installed pups of the order, are the same pups with the same
addresses. -/
theorem perm_list (h : Ranked range g stored order) (indexed : g.Indexed) :
    (g.list.map fun r => (r.id, r.address)).Perm
      (order.filter fun e => (g.records.get? e.1).isSome) := by
  have once : (g.list.map fun r => (r.id, r.address)).Nodup := by
    refine ((List.mergeSort_perm g.records.values _).map _).nodup_iff.2 (List.pairwise_map.2 ?_)
    refine Dict.pairwise_values fun k j a b ha hb differ same => differ ?_
    exact (indexed.keyed k a ha).symm.trans ((congrArg Prod.fst same).trans (indexed.keyed j b hb))
  refine (List.perm_ext_iff_of_nodup once ((List.Nodup.of_map _ h.single).filter _)).2 fun e => ?_
  simp only [List.mem_map, List.mem_filter]
  constructor
  · rintro ⟨r, listed, rfl⟩
    exact ⟨h.known _ _ (held_of_mem_list indexed listed stored), by
      rw [indexed.mem_list_iff.1 listed]; rfl⟩
  · rintro ⟨member, installed⟩
    obtain ⟨r, found⟩ := Option.isSome_iff_exists.1 installed
    have sameId := indexed.keyed _ r found
    have listed : r ∈ g.list := indexed.mem_list_iff.2 (sameId ▸ found)
    have known := h.known _ _ (held_of_mem_list indexed listed stored)
    exact ⟨r, listed, List.inj_on_of_nodup_map h.single known member sameId⟩

/-- The installed pups of the order have ascending addresses. -/
theorem ascending_installed (h : Ranked range g stored order) (indexed : g.Indexed) :
    (order.filter fun e => (g.records.get? e.1).isSome).Pairwise fun x y => x.2 < y.2 := by
  have held {e : String × Address} (he : e ∈ order.filter fun e => (g.records.get? e.1).isSome) :
      Held g stored e.1 e.2 := by
    obtain ⟨r, listed, rfl⟩ := List.mem_map.1 ((h.perm_list indexed).mem_iff.2 he)
    exact held_of_mem_list indexed listed stored
  exact (h.ascending.filter _).imp_of_mem fun hx hy less => less (held hx) (held hy)

/-- The listed pups have ascending addresses. -/
theorem ascending_list (h : Ranked range g stored order) (indexed : g.Indexed) :
    g.list.Pairwise fun a b => a.address < b.address := by
  have distinct : (g.list.map fun r => (r.id, r.address)).Pairwise fun x y => x.2 ≠ y.2 :=
    ((h.perm_list indexed).pairwise_iff Ne.symm).2
      ((h.ascending_installed indexed).imp Address.ne_of_lt)
  refine (Record.pairwise_sortByAddress _).imp₂ (fun {a b} below differ => ?_)
    (List.pairwise_map.1 distinct)
  exact Nat.lt_of_le_of_ne below fun same =>
    differ (congrArg Address.mk (UInt32.toNat_inj.1 same))

/-- **The pups are listed in the order in which they were adopted.** -/
theorem list_eq (h : Ranked range g stored order) (indexed : g.Indexed) :
    (g.list.map fun r => (r.id, r.address)) =
      order.filter fun e => (g.records.get? e.1).isSome :=
  (h.perm_list indexed).eq_of_pairwise
    (fun _ _ _ _ less more => absurd (Nat.lt_trans less more) (Nat.lt_irrefl _))
    (List.pairwise_map.2 (h.ascending_list indexed)) (h.ascending_installed indexed)

end Ranked

/-! ## One step -/

namespace Step.Effect

variable {range : AllocationRange} {g g' : Registry} {stored stored' : Dict Record}
  {order : List (String × Address)} {s : Step} {r : Option Record}

/-- The record of an update has the address of the old one. -/
theorem address_of_planUpdate {id : String} {updates : List Update} {r : Record}
    {kinds : List NoticeKind} (indexed : g.Indexed)
    (planned : g.planUpdate id updates = .ok (r, kinds)) :
    addressIn g.records r.id = some r.address := by
  obtain ⟨old, found, kept⟩ := Registry.kept_planUpdate planned
  rw [addressIn, kept.id, indexed.keyed id old found, found, kept.address]
  rfl

/-- What a step leaves held was held before, if nobody was adopted. -/
theorem held (effect : s.Effect g stored none g' stored') (indexed : g.Indexed) {k : String}
    {a : Address} (h : Held g' stored' k a) : Held g stored k a := by
  cases effect with
  | idle => exact h
  | @updated _ _ _ r _ planned =>
    have same := address_of_planUpdate indexed planned
    have installed : addressIn (g.commitUpdate r).records k =
        if k = r.id then some r.address else addressIn g.records k :=
      (addressIn_refreshHealth _ k).trans (addressIn_insert g.records r k)
    rw [Held, installed, addressIn_insert] at h
    by_cases hk : k = r.id
    · simp only [hk, if_true, or_self] at h
      exact .inl (hk ▸ same.trans h)
    · simp only [hk, if_false] at h
      exact h
  | purged purged =>
    obtain ⟨-, rfl⟩ := Registry.purge_ok purged
    refine h.imp_left fun h => ?_
    rw [addressIn_refreshHealth, addressIn_erase] at h
    split at h
    · cases h
    · exact h
  | observed same =>
    exact h.imp_left fun h => (addressIn_eq_of_bare (same k)).symm.trans h
  | deleted id =>
    refine h.imp_right fun h => ?_
    rw [addressIn_erase] at h
    split at h
    · cases h
    · exact h
  | restarted same =>
    exact .inr (h.elim (fun h => (addressIn_eq_of_bare (same k)).symm.trans h) id)

/-- Unless somebody is adopted the allocator stays as it is, or a restart makes it anew, with a mark
above all addresses that are held then. -/
theorem allocator_cases (effect : s.Effect g stored none g' stored') :
    g'.allocator = g.allocator ∨
      (∃ anew, s = .restart anew) ∧ g.allocator.range.base ≤ g'.allocator.mark ∧
        ∀ k a, Held g' stored' k a → a ≤ g'.allocator.mark := by
  cases effect with
  | purged purged =>
    obtain ⟨-, rfl⟩ := Registry.purge_ok purged
    exact .inl rfl
  | observed same allocator => exact .inl allocator
  | restarted same range base below =>
    refine .inr ⟨⟨_, rfl⟩, base, fun k a h => ?_⟩
    have installed : addressIn g'.records k = some a :=
      h.elim id fun h => (addressIn_eq_of_bare (same k)).trans h
    obtain ⟨r, found, rfl⟩ := Option.map_eq_some_iff.1 installed
    exact below k r found
  | idle | updated | deleted => exact .inl rfl

/-- **The mark falls in a restart only.** -/
theorem mark_le (effect : s.Effect g stored r g' stored') :
    g.allocator.mark ≤ g'.allocator.mark ∨ ∃ anew, s = .restart anew := by
  cases r with
  | some r =>
    cases effect
    exact .inl (Address.le_max_left _ _)
  | none =>
    rcases effect.allocator_cases with same | ⟨restart, -⟩
    · exact .inl (same ▸ Address.le_iff.2 (Nat.le_refl _))
    · exact .inr restart

/-- Who is adopted gets an address above the mark, and is stored with it. -/
theorem lt_address {r : Record} (effect : s.Effect g stored (some r) g' stored') :
    g.allocator.mark < r.address ∧ addressIn stored' r.id = some r.address := by
  cases effect with
  | adopted bufferSize planned =>
    obtain ⟨-, -, address, ports, handed, -, hr⟩ := Registry.planAdoption_ok planned
    refine ⟨?_, ?_⟩
    · rw [hr]
      exact Allocator.lt_of_nextAddress handed
    · rw [addressIn_insert, if_pos rfl]

/-- **Every step keeps the pups ranked.** -/
theorem ranked (effect : s.Effect g stored r g' stored') (indexed : g.Indexed)
    (allocator : g.allocator.range = range) (h : Ranked range g stored order) :
    Ranked range g' stored' (r.toList.foldl adoptLast order) := by
  cases r with
  | some r =>
    cases effect with
    | adopted bufferSize planned => exact h.adopt allocator bufferSize planned
  | none =>
    rcases effect.allocator_cases with same | ⟨-, base, below⟩
    · exact h.of_held_of_mark (fun k a => effect.held indexed) (congrArg Allocator.mark same)
    · exact h.of_held (fun k a => effect.held indexed) (allocator ▸ base) below

/-- A stored record keeps its address or gets a greater one, unless it is deleted. -/
theorem address_le (effect : s.Effect g stored r g' stored') (indexed : g.Indexed)
    (h : Ranked range g stored order) {k : String} {a : Address}
    (there : addressIn stored k = some a) (kept : s ≠ .delete k) :
    ∃ b, addressIn stored' k = some b ∧ a ≤ b := by
  have self : a ≤ a := Address.le_iff.2 (Nat.le_refl _)
  cases effect with
  | @adopted _ _ _ _ _ r planned =>
    rw [addressIn_insert]
    split
    · next same =>
      obtain ⟨-, -, address, ports, next, -, hr⟩ := Registry.planAdoption_ok planned
      have above := Allocator.lt_of_nextAddress next
      refine ⟨r.address, rfl, Address.le_of_lt ?_⟩
      rw [hr]
      exact Address.lt_of_le_of_lt (h.bounds k a (.inr there)).2.2 above
    · exact ⟨a, there, self⟩
  | @updated _ _ _ r _ planned =>
    rw [addressIn_insert]
    split
    · next same =>
      have old := address_of_planUpdate indexed planned
      exact ⟨r.address, rfl, h.eq_of_held (.inr there) (.inl (same ▸ old)) ▸ self⟩
    · exact ⟨a, there, self⟩
  | deleted id =>
    rw [addressIn_erase, if_neg fun e => kept (by rw [e])]
    exact ⟨a, there, self⟩
  | idle | purged | observed | restarted => exact ⟨a, there, self⟩

end Step.Effect

/-! ## Any steps -/

namespace Installation

/-- The store holds the stored records, and the pups are ranked. -/
structure Orderly (i : Installation) (range : AllocationRange) (l : Location) (mode : Mode)
    (stored : Dict Record) (order : List (String × Address)) : Prop
    extends i.Sound range l mode stored where
  ranked : Ranked range i.registry stored order

namespace Orderly

variable {i : Installation} {range : AllocationRange} {l : Location} {mode : Mode}
  {stored : Dict Record} {order : List (String × Address)}

theorem step (h : i.Orderly range l mode stored order) (s : Step) :
    ∃ stored', s.Effect i.registry stored (i.adopted s) (i.step s).registry stored' ∧
      (i.step s).Orderly range l mode stored' ((i.adopted s).toList.foldl adoptLast order) := by
  obtain ⟨stored', effect, sound⟩ := h.toSound.step s
  exact ⟨stored', effect, sound, effect.ranked h.indexed h.allocator h.ranked⟩

/-- **Every sequence of steps keeps the pups ranked.** -/
theorem steps (h : i.Orderly range l mode stored order) (steps : List Step) :
    ∃ stored', (i.after steps).Orderly range l mode stored'
      ((i.adoptions steps).foldl adoptLast order) := by
  induction steps generalizing i stored order with
  | nil => exact ⟨stored, h⟩
  | cons s steps ih =>
    obtain ⟨stored', -, next⟩ := h.step s
    rw [adoptions, List.foldl_append]
    exact ih next

/-- An adoption gives an address above the mark, and the record is stored under it. -/
theorem adopt (h : i.Orderly range l mode stored order) {s : Step} {r : Record}
    (adopted : i.adopted s = some r) :
    i.registry.allocator.mark < r.address ∧ ∃ stored', addressIn stored' r.id = some r.address ∧
      (i.step s).Orderly range l mode stored' (adoptLast order r) := by
  obtain ⟨stored', effect, next⟩ := h.step s
  rw [adopted] at effect next
  obtain ⟨above, there⟩ := effect.lt_address
  exact ⟨above, stored', there, next⟩

/-- The mark stays above an address for as long as a record is not deleted that was stored with this
address or a greater one. -/
theorem le_mark (h : i.Orderly range l mode stored order) {id : String} {a b : Address}
    (there : addressIn stored id = some b) (below : a ≤ b) (steps : List Step)
    (kept : .delete id ∉ steps) : a ≤ (i.after steps).registry.allocator.mark := by
  induction steps generalizing i stored order b with
  | nil => exact Address.le_trans below (h.ranked.bounds id b (.inr there)).2.2
  | cons s steps ih =>
    obtain ⟨other, kept⟩ := not_or.1 (mt List.mem_cons.2 kept)
    obtain ⟨stored', effect, next⟩ := h.step s
    obtain ⟨b', there', more⟩ := effect.address_le h.indexed h.ranked there (Ne.symm other)
    exact ih next there' (Address.le_trans below more) kept

/-- Where the mark has fallen below an address, there was a restart after which it lay below. -/
theorem exists_restart (h : i.Orderly range l mode stored order) {a : Address}
    (above : a ≤ i.registry.allocator.mark) (steps : List Step)
    (fallen : (i.after steps).registry.allocator.mark < a) :
    ∃ later anew rest, steps = later ++ .restart anew :: rest ∧
      (i.after (later ++ [.restart anew])).registry.allocator.mark < a := by
  induction steps generalizing i stored order with
  | nil => exact absurd fallen (Nat.not_lt.2 above)
  | cons s steps ih =>
    obtain ⟨stored', effect, next⟩ := h.step s
    by_cases still : a ≤ (i.step s).registry.allocator.mark
    · obtain ⟨later, anew, rest, rfl, low⟩ := ih next still fallen
      exact ⟨s :: later, anew, rest, rfl, low⟩
    · rcases effect.mark_le with more | ⟨anew, rfl⟩
      · exact absurd (Address.le_trans above more) still
      · exact ⟨[], anew, steps, rfl, Nat.not_le.1 still⟩

/-- Between two adoptions that give one address, the record of the first pup was deleted, and later
on there was a restart that found lower addresses only. -/
theorem exists_deletion (h : i.Orderly range l mode stored order) {s s' : Step} {middle : List Step}
    {r r' : Record} (first : i.adopted s = some r)
    (second : (i.after (s :: middle)).adopted s' = some r') (same : r'.address = r.address) :
    ∃ early later anew rest, middle = early ++ .delete r.id :: (later ++ .restart anew :: rest) ∧
      ∀ q ∈ (i.after (s :: (early ++ .delete r.id :: (later ++ [.restart anew])))).registry.list,
        q.address < r.address := by
  obtain ⟨-, stored₁, there, adopted⟩ := h.adopt first
  have self : r.address ≤ r.address := Address.le_iff.2 (Nat.le_refl _)
  obtain ⟨_, last⟩ := adopted.steps middle
  obtain ⟨fallen, -⟩ := last.adopt second
  rw [same] at fallen
  have deleted : .delete r.id ∈ middle := by
    by_contra kept
    exact Nat.not_lt.2 (adopted.le_mark there self middle kept) fallen
  obtain ⟨early, others, rfl, kept⟩ := List.eq_append_cons_of_mem deleted
  -- Up to the deletion the mark lies above the address, and the deletion leaves it there.
  have above := adopted.le_mark there self early kept
  obtain ⟨_, before⟩ := adopted.steps early
  obtain ⟨_, -, after⟩ := before.step (.delete r.id)
  have split (steps : List Step) : (i.step s).after (early ++ .delete r.id :: steps) =
      (((i.step s).after early).step (.delete r.id)).after steps := after_append _ _ _
  rw [split] at fallen
  obtain ⟨later, anew, rest, rfl, low⟩ := after.exists_restart above others fallen
  refine ⟨early, later, anew, rest, rfl, fun q listed => ?_⟩
  rw [show i.after (s :: _) = (i.step s).after _ from rfl, split] at listed
  obtain ⟨stored, reloaded⟩ := after.steps (later ++ [.restart anew])
  have held := held_of_mem_list reloaded.indexed listed stored
  exact Address.lt_of_le_of_lt (reloaded.ranked.bounds _ _ held).2.2 low

/-- A manager that starts on a directory in which nothing is named like a record. -/
theorem start (settings : ManagerSettings) {store : Store} {d : Disk} (sorted : d.Sorted)
    {entries : List (String × Disk)}
    (listed : (Disk.run (Disk.readDir store.dir) d).1 = .ok entries)
    (unnamed : ∀ e ∈ entries, e.1.startsWith "pup_" = false) (catalogs : CatalogSource)
    (monitor : Option Monitor) :
    ∃ m l mode, Manager.load settings store catalogs monitor d = .ok m ∧
      Orderly ⟨m, d⟩ settings.range l mode ∅ [] := by
  obtain ⟨l, mode, holds⟩ := Store.holds_empty sorted listed fun e he => by
    rw [Store.isRecordName, unnamed e he]
    rfl
  have none : ∀ k r, (∅ : Dict Record).get? k ≠ some r := fun k r found => by cases found
  have files : Store.OnlyFiles d l := by
    intro name n start there
    obtain ⟨entries', hd⟩ := holds.directory
    obtain rfl : entries' = entries :=
      Except.ok.inj ((congrArg Prod.fst (holds.run_readDir hd)).symm.trans listed)
    rw [Node.get?_append_singleton hd] at there
    obtain ⟨before, later, rfl, -⟩ := List.lookup_eq_some_iff.1 there
    have other := unnamed (name, n) (by simp)
    rw [start] at other
    cases other
  obtain ⟨m, loaded, hs, rfl, indexed, -, same⟩ :=
    holds.load (fun k r found => absurd found (none k r)) settings catalogs monitor
  obtain ⟨range, base, -⟩ := Manager.le_mark_of_load loaded
  have nobody : ∀ k a, ¬ Held m.registry ∅ k a := by
    intro k a held
    rw [Held, addressIn_eq_of_bare (same k), or_self] at held
    obtain ⟨r, found, -⟩ := Option.map_eq_some_iff.1 held
    exact none k r found
  refine ⟨m, l, mode, loaded, ⟨indexed, holds, fun k r found => absurd found (none k r), files,
    congrArg _ hs, range⟩, ?_⟩
  exact ⟨.nil, fun k a held => absurd held (nobody k a), .nil, base,
    fun k a held => absurd held (nobody k a)⟩

end Orderly

end Installation

/-- **Pups are listed in the order in which they were adopted**, with ascending addresses of the
range, after any calls, deletions of stored records and restarts. -/
theorem listed_in_order_of_adoption (settings : ManagerSettings) (store : Store)
    (catalogs : CatalogSource) (monitor : Option Monitor) {d : Disk} (sorted : d.Sorted)
    {entries : List (String × Disk)}
    (listed : (Disk.run (Disk.readDir store.dir) d).1 = .ok entries)
    (unnamed : ∀ e ∈ entries, e.1.startsWith "pup_" = false) :
    ∃ m, Manager.load settings store catalogs monitor d = .ok m ∧ ∀ steps : List Step,
      let g := ((⟨m, d⟩ : Installation).after steps).registry
      g.list.map (fun r => (r.id, r.address)) =
          (inOrder ((⟨m, d⟩ : Installation).adoptions steps)).filter
            (fun e => (g.records.get? e.1).isSome) ∧
        (g.list.Pairwise fun a b => a.address < b.address) ∧
        ∀ r ∈ g.list, settings.range.base < r.address ∧ r.address ≤ settings.range.ceiling := by
  obtain ⟨m, l, mode, loaded, start⟩ :=
    Installation.Orderly.start settings sorted listed unnamed catalogs monitor
  refine ⟨m, loaded, fun steps => ?_⟩
  obtain ⟨stored, last⟩ := start.steps steps
  refine ⟨last.ranked.list_eq last.indexed, last.ranked.ascending_list last.indexed,
    fun r hr => ?_⟩
  obtain ⟨above, below, -⟩ := last.ranked.bounds _ _ (held_of_mem_list last.indexed hr stored)
  exact ⟨above, below⟩

/-- An installation whose store is empty. -/
def bareInstallation : Installation := ⟨bareManager.rewatch, bareDisk⟩

/-- A package of this name is adopted, under the next free number. -/
def adoptPackage (first : Nat) (name : String) : Step :=
  .call (.adopt (.numbersFrom first) { identity := ⟨name, "1.0.0", ""⟩ } ⟨"main", "/srv"⟩ none)

/-- A pup is adopted before another one, purged, and adopted again under its old ID. -/
def rejoined : List Step :=
  [adoptPackage 0 "node", adoptPackage 0 "wallet", .call (.purge "0"), adoptPackage 0 "node"]

/-- The pup that joined again is listed last. -/
theorem listed_in_order_of_adoption_rejoined :
    Manager.load bareManager.settings bareManager.store default bareManager.monitor bareDisk =
        .ok bareManager.rewatch ∧
      (bareInstallation.adoptions rejoined).map (fun r => (r.id, r.address)) =
        [("0", .ofOctets 10 69 0 2), ("1", .ofOctets 10 69 0 3), ("0", .ofOctets 10 69 0 4)] ∧
      (bareInstallation.after rejoined).registry.list.map (fun r => (r.id, r.address)) =
        [("1", .ofOctets 10 69 0 3), ("0", .ofOctets 10 69 0 4)] := by
  obtain ⟨m, loaded, after⟩ := listed_in_order_of_adoption bareManager.settings bareManager.store
    default bareManager.monitor sorted_bareDisk readDir_bareDisk (by simp)
  obtain rfl : bareManager.rewatch = m := Except.ok.inj (load_bareDisk.symm.trans loaded)
  refine ⟨load_bareDisk, by decide +kernel, (after rejoined).1.trans ?_⟩
  decide +kernel

/-- **An address comes back only after a deletion and a restart.** If two adoptions of one run give
the same address, then in between the record of the first pup was deleted, and later the manager was
loaded anew and found only pups with lower addresses. -/
theorem address_again_after_deletion (settings : ManagerSettings) (store : Store)
    (catalogs : CatalogSource) (monitor : Option Monitor) {d : Disk} (sorted : d.Sorted)
    {entries : List (String × Disk)}
    (listed : (Disk.run (Disk.readDir store.dir) d).1 = .ok entries)
    (unnamed : ∀ e ∈ entries, e.1.startsWith "pup_" = false) :
    ∃ m, Manager.load settings store catalogs monitor d = .ok m ∧
      ∀ (before : List Step) (s : Step) (middle : List Step) (s' : Step) (r r' : Record),
        ((⟨m, d⟩ : Installation).after before).adopted s = some r →
        ((⟨m, d⟩ : Installation).after (before ++ s :: middle)).adopted s' = some r' →
        r'.address = r.address →
        ∃ early later anew rest,
          middle = early ++ .delete r.id :: (later ++ .restart anew :: rest) ∧
          ∀ q ∈ ((⟨m, d⟩ : Installation).after
              (before ++ s :: (early ++ .delete r.id :: (later ++ [.restart anew])))).registry.list,
            q.address < r.address := by
  obtain ⟨m, l, mode, loaded, start⟩ :=
    Installation.Orderly.start settings sorted listed unnamed catalogs monitor
  refine ⟨m, loaded, fun before s middle s' r r' first second same => ?_⟩
  obtain ⟨_, orderly⟩ := start.steps before
  simp only [Installation.after_append] at second ⊢
  exact orderly.exists_deletion first second same

/-- A pup is purged and its record is deleted, and the manager is loaded anew. -/
def forgotten : List Step := [.call (.purge "0"), .delete "0", .restart ⟨4, 2, default, none⟩]

/-- From an empty store, two adoptions of one run give the same address. -/
theorem address_given_twice :
    Manager.load bareManager.settings bareManager.store default bareManager.monitor bareDisk =
        .ok bareManager.rewatch ∧
      (bareInstallation.adoptions
          (adoptPackage 0 "node" :: (forgotten ++ [adoptPackage 1 "wallet"]))).map
        (fun r => (r.id, r.address)) =
          [("0", .ofOctets 10 69 0 2), ("1", .ofOctets 10 69 0 2)] :=
  ⟨load_bareDisk, by decide +kernel⟩

/-- The pup whose address came back had been deleted before the restart. -/
theorem address_again_after_deletion_forgotten :
    ∃ r r', bareInstallation.adopted (adoptPackage 0 "node") = some r ∧
      (bareInstallation.after (adoptPackage 0 "node" :: forgotten)).adopted
        (adoptPackage 1 "wallet") = some r' ∧ r'.address = r.address ∧
      ∃ early later anew rest,
        forgotten = early ++ .delete r.id :: (later ++ .restart anew :: rest) ∧
        ∀ q ∈ (bareInstallation.after (adoptPackage 0 "node" ::
            (early ++ .delete r.id :: (later ++ [.restart anew])))).registry.list,
          q.address < r.address := by
  obtain ⟨m, loaded, again⟩ := address_again_after_deletion bareManager.settings bareManager.store
    default bareManager.monitor sorted_bareDisk readDir_bareDisk (by simp)
  obtain rfl : bareManager.rewatch = m := Except.ok.inj (load_bareDisk.symm.trans loaded)
  have first : (bareInstallation.adopted (adoptPackage 0 "node")).map (·.address) =
      some (.ofOctets 10 69 0 2) := by decide +kernel
  have second : ((bareInstallation.after (adoptPackage 0 "node" :: forgotten)).adopted
      (adoptPackage 1 "wallet")).map (·.address) = some (.ofOctets 10 69 0 2) := by decide +kernel
  obtain ⟨r, hr, address⟩ := Option.map_eq_some_iff.1 first
  obtain ⟨r', hr', address'⟩ := Option.map_eq_some_iff.1 second
  have same : r'.address = r.address := address'.trans address.symm
  exact ⟨r, r', hr, hr', same, again [] _ forgotten _ r r' hr hr' same⟩

end Kennel
