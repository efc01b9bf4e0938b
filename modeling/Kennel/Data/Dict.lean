/-!
# Dictionaries with text keys

A `Dict α` is a finite map from strings to `α`, kept as a list of entries in strictly ascending
order of the keys. The order is part of the type, so a dictionary has exactly one representation:
two dictionaries that answer every look-up alike are equal (`Dict.ext_get?`), whatever the order
in which their entries arrived.

Look-ups are the view through which the operations are known: `get?_insert` and `get?_erase` say
what each of them does to it, and `get?_eq_some_iff` ties it to the entries.
-/

namespace Kennel

/-- A finite map from strings, its entries in strictly ascending key order. -/
structure Dict (α : Type) where
  entries : List (String × α)
  ascending : entries.Pairwise (fun a b => a.1 < b.1)

namespace Dict

variable {α β : Type}

/-- The map without entries. -/
def empty : Dict α := ⟨[], List.Pairwise.nil⟩

instance : EmptyCollection (Dict α) := ⟨empty⟩

instance : Inhabited (Dict α) := ⟨empty⟩

instance [DecidableEq α] : DecidableEq (Dict α) := fun a b =>
  decidable_of_iff (a.entries = b.entries) (by cases a; cases b; simp)

/-- The keys, ascending. -/
def keys (d : Dict α) : List String := d.entries.map (·.1)

/-- The values, in the order of their keys. -/
def values (d : Dict α) : List α := d.entries.map (·.2)

def size (d : Dict α) : Nat := d.entries.length

/-- The value under `k`, if there is one. -/
def get? (d : Dict α) (k : String) : Option α := d.entries.lookup k

/-- Whether there is a value under `k`. -/
def contains (d : Dict α) (k : String) : Bool := d.entries.any (·.1 == k)

/-- The map with `v` under `k`, in place of what stood there. -/
def insert (d : Dict α) (k : String) (v : α) : Dict α where
  entries := d.entries.filter (·.1 < k) ++ (k, v) :: d.entries.filter (k < ·.1)
  ascending := by
    refine List.pairwise_append.2 ⟨d.ascending.filter _, List.pairwise_cons.2 ⟨?_, d.ascending.filter _⟩, ?_⟩
    · intro e he
      simpa using (List.mem_filter.1 he).2
    · intro a ha b hb
      have hak : a.1 < k := by simpa using (List.mem_filter.1 ha).2
      rcases List.mem_cons.1 hb with rfl | hb
      · exact hak
      · have hkb : k < b.1 := by simpa using (List.mem_filter.1 hb).2
        exact String.lt_trans hak hkb

/-- The map without the entry under `k`. -/
def erase (d : Dict α) (k : String) : Dict α where
  entries := d.entries.filter (·.1 != k)
  ascending := d.ascending.filter _

/-- The map of these entries; of two under one key the later stays. -/
def ofList (l : List (String × α)) : Dict α := l.foldl (fun d e => d.insert e.1 e.2) empty

/-- The first map with every entry of the second put over it. -/
def overlay (d new : Dict α) : Dict α := new.entries.foldl (fun d e => d.insert e.1 e.2) d

/-- The map with every value replaced by a function of its key and itself. -/
def mapWithKey (f : String → α → β) (d : Dict α) : Dict β where
  entries := d.entries.map fun e => (e.1, f e.1 e.2)
  ascending := by
    rw [List.pairwise_map]
    exact d.ascending

/-- The value under `k` replaced by a function of itself; an absent key stays absent. -/
def modify (d : Dict α) (k : String) (f : α → α) : Dict α :=
  d.mapWithKey fun key v => if key = k then f v else v

@[simp] theorem entries_empty : (empty : Dict α).entries = [] := rfl

@[simp] theorem get?_empty (k : String) : (empty : Dict α).get? k = none := rfl

theorem lookup_eq_none_of_forall {k : String} {l : List (String × α)} (h : ∀ e ∈ l, e.1 ≠ k) :
    l.lookup k = none := by
  induction l with
  | nil => rfl
  | cons e l ih =>
    have he : (k == e.1) = false := by simpa using (h e (by simp)).symm
    rw [List.lookup_cons, he]
    exact ih fun x hx => h x (by simp [hx])

theorem lookup_filter_of_forall {p : String × α → Bool} {k : String} {l : List (String × α)}
    (h : ∀ e ∈ l, e.1 = k → p e = true) : (l.filter p).lookup k = l.lookup k := by
  induction l with
  | nil => rfl
  | cons e l ih =>
    have ih := ih fun x hx => h x (by simp [hx])
    by_cases hp : p e = true
    · rw [List.filter_cons_of_pos hp, List.lookup_cons, List.lookup_cons, ih]
    · have he : (k == e.1) = false := by
        simpa using fun hk : k = e.1 => hp (h e (by simp) hk.symm)
      rw [List.filter_cons_of_neg hp, List.lookup_cons, he, ih]

/-- What look-ups find in a list after an entry was put between the smaller and the greater keys. -/
theorem lookup_insert (l : List (String × α)) (k : String) (v : α) (j : String) :
    (l.filter (·.1 < k) ++ (k, v) :: l.filter (k < ·.1)).lookup j =
      if j = k then some v else l.lookup j := by
  have low : ∀ e ∈ l.filter (fun e => decide (e.1 < k)), e.1 < k := fun e he => by
    simpa using (List.mem_filter.1 he).2
  have high : ∀ e ∈ l.filter (fun e => decide (k < e.1)), k < e.1 := fun e he => by
    simpa using (List.mem_filter.1 he).2
  rw [List.lookup_append, List.lookup_cons]
  by_cases hjk : j = k
  · subst hjk
    rw [lookup_eq_none_of_forall fun e he h => String.lt_irrefl _ (h ▸ low e he)]
    simp
  · have hne : (j == k) = false := by simpa using hjk
    rw [hne, if_neg hjk]
    by_cases h : j < k
    · rw [lookup_filter_of_forall (fun e _ he => by simpa [he] using h)]
      have none : (l.filter fun e => decide (k < e.1)).lookup j = none :=
        lookup_eq_none_of_forall fun e he hk =>
          String.lt_irrefl _ (String.lt_trans h (by simpa [hk] using high e he))
      rw [none]
      simp
    · have h : k < j := Std.lt_of_le_of_ne (Std.not_lt.1 h) (Ne.symm hjk)
      have none : (l.filter fun e => decide (e.1 < k)).lookup j = none :=
        lookup_eq_none_of_forall fun e he hk =>
          String.lt_irrefl _ (String.lt_trans h (by simpa [hk] using low e he))
      rw [none]
      rw [lookup_filter_of_forall (fun e _ he => by simpa [he] using h)]
      simp

/-- What look-ups find in a list after the entries under a key were left out. -/
theorem lookup_erase (l : List (String × α)) (k j : String) :
    (l.filter (·.1 != k)).lookup j = if j = k then none else l.lookup j := by
  by_cases hjk : j = k
  · subst hjk
    rw [if_pos rfl]
    exact lookup_eq_none_of_forall fun e he => by simpa using (List.mem_filter.1 he).2
  · rw [if_neg hjk]
    exact lookup_filter_of_forall fun e _ he => by simpa [he] using hjk

theorem get?_insert (d : Dict α) (k : String) (v : α) (j : String) :
    (d.insert k v).get? j = if j = k then some v else d.get? j :=
  lookup_insert d.entries k v j

theorem get?_erase (d : Dict α) (k j : String) :
    (d.erase k).get? j = if j = k then none else d.get? j :=
  lookup_erase d.entries k j

theorem get?_eq_some_iff {d : Dict α} {k : String} {v : α} :
    d.get? k = some v ↔ (k, v) ∈ d.entries := by
  have key : ∀ l : List (String × α), l.Pairwise (fun a b => a.1 < b.1) →
      (l.lookup k = some v ↔ (k, v) ∈ l) := by
    intro l hl
    induction l with
    | nil => simp
    | cons e l ih =>
      obtain ⟨hlt, hl⟩ := List.pairwise_cons.1 hl
      rw [List.lookup_cons]
      by_cases hk : k = e.1
      · subst hk
        have : ∀ w, (e.1, w) ∉ l := fun w hw => String.lt_irrefl _ (hlt (e.1, w) hw)
        simp [this, Prod.ext_iff, eq_comm]
      · have he : (k == e.1) = false := by simpa using hk
        simp [he, ih hl, Prod.ext_iff, hk]
  exact key d.entries d.ascending

/-- Two maps that answer every look-up alike are the same map. -/
theorem ext_get? {d e : Dict α} (h : ∀ k, d.get? k = e.get? k) : d = e := by
  have mem : ∀ x, x ∈ d.entries ↔ x ∈ e.entries := fun ⟨k, v⟩ => by
    rw [← get?_eq_some_iff, ← get?_eq_some_iff, h]
  have key : ∀ a b : List (String × α), a.Pairwise (fun x y => x.1 < y.1) →
      b.Pairwise (fun x y => x.1 < y.1) → (∀ x, x ∈ a ↔ x ∈ b) → a = b := by
    intro a
    induction a with
    | nil =>
      intro b _ _ hm
      cases b with
      | nil => rfl
      | cons y b => simpa using (hm y).2 (by simp)
    | cons x a ih =>
      intro b ha hb hm
      cases b with
      | nil => simpa using (hm x).1 (by simp)
      | cons y b =>
        obtain ⟨hxa, ha⟩ := List.pairwise_cons.1 ha
        obtain ⟨hyb, hb'⟩ := List.pairwise_cons.1 hb
        have hxy : x = y := by
          rcases List.mem_cons.1 ((hm x).1 (by simp)) with h1 | h1
          · exact h1
          · rcases List.mem_cons.1 ((hm y).2 (by simp)) with h2 | h2
            · exact h2.symm
            · exact absurd (String.lt_trans (hyb _ h1) (hxa _ h2)) (String.lt_irrefl _)
        subst hxy
        congr 1
        refine ih b ha hb' fun z => ⟨fun hz => ?_, fun hz => ?_⟩
        · rcases List.mem_cons.1 ((hm z).1 (by simp [hz])) with rfl | h1
          · exact absurd (hxa _ hz) (String.lt_irrefl _)
          · exact h1
        · rcases List.mem_cons.1 ((hm z).2 (by simp [hz])) with rfl | h1
          · exact absurd (hyb _ hz) (String.lt_irrefl _)
          · exact h1
  cases d; cases e
  congr 1
  exact key _ _ ‹_› ‹_› mem

end Dict

end Kennel
