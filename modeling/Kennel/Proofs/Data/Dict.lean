import Kennel.Data.Dict

/-!
# Dictionaries by their look-ups

What the operations on dictionaries do to look-ups, and what the lists of keys and values say about
look-ups. A relation between the values of a dictionary is stated by their keys: values under
different keys stand in it (`pairwise_values`), so that it can be shown for an insertion without
knowing where in the list the new value is.
-/

namespace Kennel.Dict

variable {α β : Type}

theorem get?_mapWithKey (f : String → α → β) (d : Dict α) (k : String) :
    (d.mapWithKey f).get? k = (d.get? k).map (f k) := by
  have key : ∀ l : List (String × α),
      (l.map fun e => (e.1, f e.1 e.2)).lookup k = (l.lookup k).map (f k) := by
    intro l
    induction l with
    | nil => rfl
    | cons e l ih =>
      rw [List.map_cons, List.lookup_cons, List.lookup_cons]
      by_cases hk : k = e.1
      · subst hk
        simp
      · have he : (k == e.1) = false := by simpa using hk
        rw [he]
        exact ih
  exact key d.entries

theorem get?_modify (d : Dict α) (k : String) (f : α → α) (j : String) :
    (d.modify k f).get? j = (d.get? j).map fun v => if j = k then f v else v :=
  get?_mapWithKey _ d j

theorem mem_values_iff {d : Dict α} {v : α} : v ∈ d.values ↔ ∃ k, d.get? k = some v := by
  simp only [get?_eq_some_iff, values, List.mem_map]
  exact ⟨fun ⟨e, he, h⟩ => ⟨e.1, h ▸ he⟩, fun ⟨k, h⟩ => ⟨(k, v), h, rfl⟩⟩

theorem mem_keys_iff {d : Dict α} {k : String} : k ∈ d.keys ↔ (d.get? k).isSome := by
  rw [Option.isSome_iff_exists]
  simp only [get?_eq_some_iff, keys, List.mem_map]
  exact ⟨fun ⟨e, he, h⟩ => ⟨e.2, h ▸ he⟩, fun ⟨v, h⟩ => ⟨(k, v), h, rfl⟩⟩

theorem contains_eq (d : Dict α) (k : String) : d.contains k = (d.get? k).isSome := by
  rw [Bool.eq_iff_iff, ← mem_keys_iff]
  simp [contains, keys]

/-- The keys stand in strictly ascending order. -/
theorem pairwise_keys (d : Dict α) : d.keys.Pairwise fun a b => a < b := by
  rw [keys, List.pairwise_map]
  exact d.ascending

theorem nodup_keys (d : Dict α) : d.keys.Nodup :=
  d.pairwise_keys.imp fun {a b} (hab : a < b) (e : a = b) => String.lt_irrefl b (e ▸ hab)

/-- Dictionaries with values under the same keys have the same list of keys. -/
theorem keys_eq_of_isSome_eq {d : Dict α} {e : Dict β}
    (h : ∀ k, (d.get? k).isSome = (e.get? k).isSome) : d.keys = e.keys := by
  refine List.Perm.eq_of_pairwise (fun a b _ _ hab hba =>
    absurd (String.lt_trans hab hba) (String.lt_irrefl a)) d.pairwise_keys e.pairwise_keys ?_
  exact (List.perm_ext_iff_of_nodup d.nodup_keys e.nodup_keys).2 fun k => by
    rw [mem_keys_iff, mem_keys_iff, h k]

/-- A relation holds between the values in their order if it holds between values under different
keys. -/
theorem pairwise_values {R : α → α → Prop} {d : Dict α}
    (h : ∀ k j a b, d.get? k = some a → d.get? j = some b → k ≠ j → R a b) :
    d.values.Pairwise R := by
  rw [values, List.pairwise_map]
  refine d.ascending.imp_of_mem fun {a b} ha hb hab => h a.1 b.1 a.2 b.2 ?_ ?_ ?_
  · exact get?_eq_some_iff.2 ha
  · exact get?_eq_some_iff.2 hb
  · exact fun e => String.lt_irrefl _ (e ▸ hab)

/-- The map of entries that agree under each key holds exactly these entries. -/
theorem get?_ofList_eq_some_iff {l : List (String × α)}
    (agree : ∀ a ∈ l, ∀ b ∈ l, a.1 = b.1 → a = b) {k : String} {v : α} :
    (ofList l).get? k = some v ↔ (k, v) ∈ l := by
  -- The entries that are still to come agree with those that were put in.
  have key : ∀ (l : List (String × α)) (d : Dict α), (∀ a ∈ l, ∀ b ∈ l, a.1 = b.1 → a = b) →
      (∀ e ∈ l, ∀ w, d.get? e.1 = some w → w = e.2) →
      ((l.foldl (fun d e => d.insert e.1 e.2) d).get? k = some v ↔
        (k, v) ∈ l ∨ d.get? k = some v) := by
    intro l
    induction l with
    | nil => simp
    | cons e l ih =>
      intro d agree there
      have agree' : ∀ a ∈ l, ∀ b ∈ l, a.1 = b.1 → a = b := fun a ha b hb =>
        agree a (List.mem_cons_of_mem _ ha) b (List.mem_cons_of_mem _ hb)
      have there' : ∀ x ∈ l, ∀ w, (d.insert e.1 e.2).get? x.1 = some w → w = x.2 := by
        intro x hx w h
        rw [get?_insert] at h
        split at h
        · next same =>
          rw [agree x (List.mem_cons_of_mem _ hx) e List.mem_cons_self same]
          exact (Option.some.inj h).symm
        · exact there x (List.mem_cons_of_mem _ hx) w h
      rw [List.foldl_cons, ih _ agree' there', get?_insert, List.mem_cons]
      by_cases hk : k = e.1
      · subst hk
        constructor
        · rintro (h | h)
          · exact .inl (.inr h)
          · rw [if_pos rfl] at h
            exact .inl (.inl (Prod.ext rfl (Option.some.inj h).symm))
        · rintro ((h | h) | h)
          · rw [if_pos rfl, ← congrArg Prod.snd h]
            exact .inr rfl
          · exact .inl h
          · rw [if_pos rfl, there e List.mem_cons_self v h]
            exact .inr rfl
      · rw [if_neg hk]
        have other : (k, v) ≠ e := fun h => hk (congrArg Prod.fst h)
        simp [other]
  rw [ofList, key l empty agree fun _ _ _ h => (by rw [get?_empty] at h; cases h), get?_empty]
  simp

/-- The map of entries holds something under the keys of these entries, and only what they say. -/
theorem ofList_sound (l : List (String × α)) (k : String) :
    ((ofList l).get? k).isSome = l.any (·.1 == k) ∧ ∀ v, (ofList l).get? k = some v → (k, v) ∈ l := by
  have key : ∀ (l : List (String × α)) (d : Dict α),
      ((l.foldl (fun d e => d.insert e.1 e.2) d).get? k).isSome =
          (l.any (·.1 == k) || (d.get? k).isSome) ∧
        ∀ v, (l.foldl (fun d e => d.insert e.1 e.2) d).get? k = some v →
          (k, v) ∈ l ∨ d.get? k = some v := by
    intro l
    induction l with
    | nil => simp
    | cons e l ih =>
      intro d
      obtain ⟨there, said⟩ := ih (d.insert e.1 e.2)
      rw [get?_insert] at there said
      by_cases hk : k = e.1
      · subst hk
        refine ⟨by simpa using there, fun v found => ?_⟩
        rcases said v found with h | h
        · exact .inl (List.mem_cons_of_mem _ h)
        · rw [if_pos rfl] at h
          rw [← Option.some.inj h]
          exact .inl List.mem_cons_self
      · have other : (e.1 == k) = false := by simpa using fun h : e.1 = k => hk h.symm
        rw [if_neg hk] at there said
        refine ⟨by simpa [other] using there, fun v found => ?_⟩
        exact (said v found).imp_left (List.mem_cons_of_mem _)
  obtain ⟨there, said⟩ := key l empty
  refine ⟨by simpa [ofList] using there, fun v found => ?_⟩
  rcases said v found with h | h
  · exact h
  · cases h

/-- The map of changed values finds the changed values. -/
theorem get?_ofList_map (f : α → β) (l : List (String × α)) (k : String) :
    (ofList (l.map fun e => (e.1, f e.2))).get? k = ((ofList l).get? k).map f := by
  have key : ∀ (l : List (String × α)) (d : Dict α) (d' : Dict β),
      d'.get? k = (d.get? k).map f →
        ((l.map fun e => (e.1, f e.2)).foldl (fun d e => d.insert e.1 e.2) d').get? k =
          ((l.foldl (fun d e => d.insert e.1 e.2) d).get? k).map f := by
    intro l
    induction l with
    | nil => exact fun d d' same => same
    | cons e l ih =>
      intro d d' same
      refine ih _ _ ?_
      rw [get?_insert, get?_insert]
      split
      · rfl
      · exact same
  exact key l empty empty rfl

/-- The map of one value under each of some keys. -/
theorem get?_ofList_const (keys : List String) (v : α) (k : String) :
    (ofList (keys.map (·, v))).get? k = if k ∈ keys then some v else none := by
  obtain ⟨there, said⟩ := ofList_sound (keys.map (·, v)) k
  have any : (keys.map (·, v)).any (·.1 == k) = decide (k ∈ keys) := by
    rw [Bool.eq_iff_iff]
    simp
  rw [any] at there
  split
  · next member =>
    rw [decide_eq_true member] at there
    obtain ⟨w, found⟩ := Option.isSome_iff_exists.1 there
    obtain ⟨key, -, same⟩ := List.mem_map.1 (said w found)
    rw [found, (Prod.mk.inj same).2]
  · next absent =>
    rw [decide_eq_false absent] at there
    exact Option.not_isSome_iff_eq_none.1 (by rw [there]; decide)

/-- A map is the map of its entries, in whatever order they come. -/
theorem ofList_of_perm {l : List (String × α)} {d : Dict α} (order : l.Perm d.entries) :
    ofList l = d := by
  refine ext_get? fun k => Option.ext fun v => ?_
  rw [get?_ofList_eq_some_iff, order.mem_iff, get?_eq_some_iff]
  intro a ha b hb same
  have found := get?_eq_some_iff.2 (show (a.1, a.2) ∈ d.entries from order.mem_iff.1 ha)
  rw [same, get?_eq_some_iff.2 (show (b.1, b.2) ∈ d.entries from order.mem_iff.1 hb)] at found
  exact Prod.ext same (Option.some.inj found).symm

/-- Maps that find the same up to a function have the same values up to it. -/
theorem map_values_eq (f : α → β) {d e : Dict α}
    (same : ∀ k, (d.get? k).map f = (e.get? k).map f) : d.values.map f = e.values.map f := by
  have values : ∀ d : Dict α, (d.mapWithKey fun _ => f).values = d.values.map f := fun d => by
    simp only [Dict.values, mapWithKey, List.map_map, Function.comp_def]
  rw [← values, ← values]
  refine congrArg Dict.values (ext_get? fun k => ?_)
  rw [get?_mapWithKey, get?_mapWithKey, same]

/-- A value under a new key comes in between the others, which stay in order. -/
theorem values_insert {d : Dict α} {k : String} (new : d.get? k = none) (v : α) :
    ∃ low high, d.values = low ++ high ∧ (d.insert k v).values = low ++ v :: high := by
  have back : (d.insert k v).erase k = d := by
    refine ext_get? fun j => ?_
    rw [get?_erase, get?_insert]
    split
    · next same => rw [same, new]
    · rfl
  have low : (d.entries.filter (·.1 < k)).filter (·.1 != k) = d.entries.filter (·.1 < k) :=
    List.filter_eq_self.2 fun e he => by
      have below : e.1 < k := by simpa using (List.mem_filter.1 he).2
      simpa using fun same : e.1 = k => String.lt_irrefl k (same ▸ below)
  have high : (d.entries.filter (k < ·.1)).filter (·.1 != k) = d.entries.filter (k < ·.1) :=
    List.filter_eq_self.2 fun e he => by
      have above : k < e.1 := by simpa using (List.mem_filter.1 he).2
      simpa using fun same : e.1 = k => String.lt_irrefl k (same ▸ above)
  have apart : d.entries = d.entries.filter (·.1 < k) ++ d.entries.filter (k < ·.1) :=
    calc d.entries = ((d.insert k v).erase k).entries := by rw [back]
      _ = (d.entries.filter (·.1 < k) ++ (k, v) :: d.entries.filter (k < ·.1)).filter (·.1 != k) :=
        rfl
      _ = _ := by rw [List.filter_append, List.filter_cons_of_neg (by simp), low, high]
  refine ⟨(d.entries.filter (·.1 < k)).map (·.2), (d.entries.filter (k < ·.1)).map (·.2), ?_, ?_⟩
  · rw [← List.map_append, ← apart]
    rfl
  · rw [values, insert, List.map_append, List.map_cons]

/-- Of entries that are put in one after another the last one under a key counts. -/
theorem get?_foldl_insert (l : List (String × α)) (d : Dict α) (k : String) :
    (l.foldl (fun d e => d.insert e.1 e.2) d).get? k = (l.reverse.lookup k).or (d.get? k) := by
  induction l generalizing d with
  | nil => rfl
  | cons e l ih =>
    rw [List.foldl_cons, ih, get?_insert, List.reverse_cons, List.lookup_append, Option.or_assoc]
    by_cases same : k = e.1
    · rw [if_pos same, same, List.lookup_cons_self, Option.some_or]
    · rw [if_neg same, List.lookup_cons, beq_false_of_ne same, List.lookup_nil, Option.none_or]

/-- In a map that was put over another the entries that were put over it count first. -/
theorem get?_overlay (d new : Dict α) (k : String) :
    (d.overlay new).get? k = (new.get? k).or (d.get? k) := by
  have latest : new.entries.reverse.lookup k = new.get? k :=
    calc new.entries.reverse.lookup k = (ofList new.entries).get? k := by
          rw [ofList, get?_foldl_insert, get?_empty, Option.or_none]
      _ = new.get? k := by rw [ofList_of_perm (List.Perm.refl _)]
  rw [overlay, get?_foldl_insert, latest]

end Kennel.Dict
