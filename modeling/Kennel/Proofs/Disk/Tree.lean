import Kennel.Data.Dict
import Kennel.Disk.Node

/-!
# Trees that differ at one location

What an operation on a disk leaves alone is said by one relation: `SameBeside l n m` holds when
the trees `n` and `m` differ at most at the location `l` and below it. Every node elsewhere is the
same, and the directories above `l` keep their permissions. `set` and `erase` change a tree at
their location only (`sameBeside_set`, `sameBeside_erase`), and the relation composes, so what an
operation of many changes leaves alone follows from where its changes are.

A tree is `Sorted` when the entries of each of its directories stand in strictly ascending order of
their names; that makes the tree a function of what its look-ups find. So a sorted tree that was
changed at a location, and holds there again what it held before, is the old tree
(`eq_of_sameBeside`): the way in which undoing a change is proved.
-/

namespace Kennel.Node

/-! ## Look-ups -/

theorem lookup_putEntry (name : String) (x : Node) (entries : List (String × Node)) (k : String) :
    (putEntry name x entries).lookup k = if k = name then some x else entries.lookup k :=
  Dict.lookup_insert entries name x k

theorem lookup_dropEntry (name : String) (entries : List (String × Node)) (k : String) :
    (dropEntry name entries).lookup k = if k = name then none else entries.lookup k :=
  Dict.lookup_erase entries name k

@[simp] theorem get?_nil (n : Node) : n.get? [] = some n := by
  cases n <;> rfl

theorem get?_dir_cons (mode : Mode) (entries : List (String × Node)) (name : String)
    (l : Location) :
    (dir mode entries).get? (name :: l) = (entries.lookup name).bind (·.get? l) := by
  rw [get?]
  cases entries.lookup name <;> rfl

/-- A look-up along a location is a look-up along its first part and then along the rest. -/
theorem get?_append (n : Node) (k l : Location) :
    n.get? (k ++ l) = (n.get? k).bind (·.get? l) := by
  induction k generalizing n with
  | nil => rw [List.nil_append, get?_nil, Option.bind_some]
  | cons name k ih =>
    cases n with
    | dir mode entries =>
      rw [List.cons_append, get?_dir_cons, get?_dir_cons]
      cases entries.lookup name with
      | none => rfl
      | some child => exact ih child
    | file _ _ => rfl
    | link _ => rfl

/-- Nothing is found below a location at which nothing is found. -/
theorem get?_eq_none_below {n : Node} {k l : Location} (absent : n.get? k = none)
    (below : k <+: l) : n.get? l = none := by
  obtain ⟨rest, rfl⟩ := below
  rw [get?_append, absent, Option.bind_none]

/-- A location at which there is no directory is not above one at which there is. -/
theorem not_prefix_of_get?_eq_dir {n : Node} {f l : Location} {mode : Mode}
    {entries : List (String × Node)} (hl : n.get? l = some (dir mode entries))
    (noDir : ∀ mode entries, n.get? f ≠ some (dir mode entries)) : ¬ f <+: l := by
  rintro ⟨rest, rfl⟩
  rw [get?_append] at hl
  obtain ⟨node, hf, hrest⟩ := Option.bind_eq_some_iff.1 hl
  cases node with
  | dir mode entries => exact noDir mode entries hf
  | file _ _ => cases rest <;> cases hrest
  | link _ => cases rest <;> cases hrest

/-- An entry is not above its directory. -/
theorem entry_not_above (l : Location) (name : String) : ¬ l ++ [name] <+: l := by
  intro h
  have longer := h.length_le
  rw [List.length_append, List.length_singleton] at longer
  omega

/-- No entry of a directory is above another one. -/
theorem entries_apart (l : Location) {a b : String} (ne : a ≠ b) : ¬ l ++ [a] <+: l ++ [b] := by
  intro h
  have same := (List.prefix_append_right_inj l).1 h
  simp only [List.cons_prefix_cons, List.nil_prefix, and_true] at same
  exact ne same

/-- What is found just below a directory is its entry. -/
theorem get?_append_singleton {n : Node} {l : Location} {mode : Mode}
    {entries : List (String × Node)} (h : n.get? l = some (dir mode entries)) (name : String) :
    n.get? (l ++ [name]) = entries.lookup name := by
  rw [get?_append, h, Option.bind_some, get?_dir_cons]
  cases entries.lookup name with
  | none => rfl
  | some child => exact get?_nil child

/-! ## What a change leaves alone -/

/-- What a path that comes by sees of a node: a directory without its entries. -/
def shell : Node → Node
  | dir mode _ => dir mode []
  | n => n

@[simp] theorem isDir_shell (n : Node) : n.shell.isDir = n.isDir := by
  cases n <;> rfl

/-- Two trees that differ at most at a location and below it: every node elsewhere is the same, and
the directories above the location keep their permissions. -/
structure SameBeside (l : Location) (n m : Node) : Prop where
  elsewhere : ∀ k, ¬ l <+: k → ¬ k <+: l → m.get? k = n.get? k
  above : ∀ k, k <+: l → k ≠ l → (m.get? k).map shell = (n.get? k).map shell

namespace SameBeside

variable {l : Location} {n m o : Node}

theorem refl (l : Location) (n : Node) : SameBeside l n n :=
  ⟨fun _ _ _ => rfl, fun _ _ _ => rfl⟩

theorem symm (h : SameBeside l n m) : SameBeside l m n :=
  ⟨fun k hl hk => (h.elsewhere k hl hk).symm, fun k hk hl => (h.above k hk hl).symm⟩

theorem trans (h : SameBeside l n m) (h' : SameBeside l m o) : SameBeside l n o :=
  ⟨fun k hl hk => (h'.elsewhere k hl hk).trans (h.elsewhere k hl hk),
    fun k hk hl => (h'.above k hk hl).trans (h.above k hk hl)⟩

/-- A change of an entry leaves the other entries of the directory alone. -/
theorem other_entry {l : Location} {name name' : String} (h : SameBeside (l ++ [name]) n m)
    (ne : name' ≠ name) : m.get? (l ++ [name']) = n.get? (l ++ [name']) :=
  h.elsewhere _ (entries_apart l ne.symm) (entries_apart l ne)

/-- A change below a location is a change at it. -/
theorem widen {k : Location} (h : SameBeside (l ++ k) n m) : SameBeside l n m := by
  refine ⟨fun j hl hj => h.elsewhere j ?_ ?_, fun j hj hl => h.above j ?_ ?_⟩
  · exact fun hp => hl ((List.prefix_append l k).trans hp)
  · intro hp
    rcases List.prefix_or_prefix_of_prefix hp (List.prefix_append l k) with h1 | h1
    · exact hj h1
    · exact hl h1
  · exact hj.trans (List.prefix_append l k)
  · rintro rfl
    exact hl (hj.eq_of_length_le (by simp))

/-- At every location that is not at or below the changed one, a path sees the same. -/
theorem map_shell (h : SameBeside l n m) {k : Location} (hk : ¬ l <+: k) :
    (m.get? k).map shell = (n.get? k).map shell := by
  by_cases hl : k <+: l
  · exact h.above k hl fun e => hk (e ▸ List.prefix_rfl)
  · rw [h.elsewhere k hk hl]

/-- A directory that is not at or below the changed location is still one, with the same
permissions. -/
theorem get?_eq_dir (h : SameBeside l n m) {k : Location} (hk : ¬ l <+: k) {mode : Mode}
    {entries : List (String × Node)} (hd : n.get? k = some (dir mode entries)) :
    ∃ entries', m.get? k = some (dir mode entries') := by
  have hs := h.map_shell hk
  rw [hd] at hs
  obtain ⟨x, hx, hxs⟩ := Option.map_eq_some_iff.1 hs
  cases x with
  | dir mode' entries' =>
    simp only [shell, dir.injEq] at hxs
    exact ⟨entries', by rw [hx, hxs.1]⟩
  | file _ _ => simp [shell] at hxs
  | link _ => simp [shell] at hxs

/-- Directories that agree under all names but one, and under that name differ at most at `l`,
differ at most at `l` under that name. -/
theorem of_entries (mode : Mode) {name : String} {es fs : List (String × Node)}
    (other : ∀ a, a ≠ name → fs.lookup a = es.lookup a)
    (child : l = [] ∨ (fs.lookup name = none ∧ es.lookup name = none) ∨
      ∃ x y, es.lookup name = some x ∧ fs.lookup name = some y ∧ SameBeside l x y) :
    SameBeside (name :: l) (dir mode es) (dir mode fs) := by
  constructor
  · intro k hl hk
    cases k with
    | nil => exact absurd List.nil_prefix hk
    | cons a k =>
      rw [get?_dir_cons, get?_dir_cons]
      by_cases ha : a = name
      · subst ha
        rcases child with rfl | ⟨hf, he⟩ | ⟨x, y, he, hf, hxy⟩
        · exact absurd (List.cons_prefix_cons.2 ⟨rfl, List.nil_prefix⟩) hl
        · rw [hf, he]
        · rw [hf, he]
          exact hxy.elsewhere k (fun hp => hl (List.cons_prefix_cons.2 ⟨rfl, hp⟩))
            (fun hp => hk (List.cons_prefix_cons.2 ⟨rfl, hp⟩))
      · rw [other a ha]
  · intro k hk hl
    cases k with
    | nil => rw [get?_nil, get?_nil]; rfl
    | cons a k =>
      obtain ⟨rfl, below⟩ := List.cons_prefix_cons.1 hk
      rw [get?_dir_cons, get?_dir_cons]
      rcases child with rfl | ⟨hf, he⟩ | ⟨x, y, he, hf, hxy⟩
      · exact absurd (congrArg (a :: ·) (List.prefix_nil.1 below)) hl
      · rw [hf, he]
      · rw [hf, he]
        exact hxy.above k below fun e => hl (e ▸ rfl)

end SameBeside

/-- Any two trees differ at most at the top. -/
theorem SameBeside.top (n m : Node) : SameBeside [] n m :=
  ⟨fun _ hl _ => absurd List.nil_prefix hl, fun _ hk hl => absurd (List.prefix_nil.1 hk) hl⟩

/-- The tree that `set` changes differs from the old one at the location only. -/
theorem sameBeside_set (n : Node) (l : Location) (new : Node) : SameBeside l n (n.set l new) := by
  induction l generalizing n with
  | nil => exact .top _ _
  | cons name l ih =>
    cases n with
    | file _ _ => cases l <;> exact .refl _ _
    | link _ => cases l <;> exact .refl _ _
    | dir mode entries =>
      cases l with
      | nil =>
        exact .of_entries mode (fun a ha => by rw [lookup_putEntry, if_neg ha]) (.inl rfl)
      | cons b l =>
        rw [set]
        · cases hc : entries.lookup name with
          | none => exact .refl _ _
          | some child =>
            refine .of_entries mode (fun a ha => by rw [lookup_putEntry, if_neg ha]) (.inr (.inr ?_))
            exact ⟨child, child.set (b :: l) new, hc, by rw [lookup_putEntry, if_pos rfl], ih child⟩
        · simp

/-- The tree that `erase` changes differs from the old one at the location only. -/
theorem sameBeside_erase (n : Node) (l : Location) : SameBeside l n (n.erase l) := by
  induction l generalizing n with
  | nil => exact .top _ _
  | cons name l ih =>
    cases n with
    | file _ _ => cases l <;> exact .refl _ _
    | link _ => cases l <;> exact .refl _ _
    | dir mode entries =>
      cases l with
      | nil =>
        exact .of_entries mode (fun a ha => by rw [lookup_dropEntry, if_neg ha]) (.inl rfl)
      | cons b l =>
        rw [erase]
        · cases hc : entries.lookup name with
          | none => exact .refl _ _
          | some child =>
            refine .of_entries mode (fun a ha => by rw [lookup_putEntry, if_neg ha]) (.inr (.inr ?_))
            exact ⟨child, child.erase (b :: l), hc, by rw [lookup_putEntry, if_pos rfl], ih child⟩
        · simp

/-! ## What a change brings about -/

/-- The node that was set in a directory is found there. -/
theorem get?_set_self {n : Node} {l : Location} {mode : Mode} {entries : List (String × Node)}
    (h : n.get? l = some (dir mode entries)) (name : String) (new : Node) :
    (n.set (l ++ [name]) new).get? (l ++ [name]) = some new := by
  induction l generalizing n with
  | nil =>
    rw [get?_nil, Option.some.injEq] at h
    subst h
    rw [List.nil_append, set, get?_dir_cons, lookup_putEntry, if_pos rfl, Option.bind_some, get?_nil]
  | cons a l ih =>
    cases n with
    | file _ _ => cases h
    | link _ => cases h
    | dir mode' es =>
      rw [get?_dir_cons] at h
      obtain ⟨child, hc, hd⟩ := Option.bind_eq_some_iff.1 h
      rw [List.cons_append, set]
      · rw [hc]
        simp only
        rw [get?_dir_cons, lookup_putEntry, if_pos rfl, Option.bind_some]
        exact ih hd
      · simp

/-- Nothing is found at a location below the top that was erased. -/
theorem get?_erase_self (n : Node) {l : Location} (hl : l ≠ []) : (n.erase l).get? l = none := by
  induction l generalizing n with
  | nil => exact absurd rfl hl
  | cons a l ih =>
    cases n with
    | file _ _ => cases l <;> rfl
    | link _ => cases l <;> rfl
    | dir mode entries =>
      cases l with
      | nil => rw [erase, get?_dir_cons, lookup_dropEntry, if_pos rfl, Option.bind_none]
      | cons b l =>
        rw [erase]
        · cases hc : entries.lookup a with
          | none => rw [get?_dir_cons, hc, Option.bind_none]
          | some child =>
            rw [get?_dir_cons, lookup_putEntry, if_pos rfl, Option.bind_some]
            exact ih child (List.cons_ne_nil b l)
        · simp

/-- What a directory above an erased location has become. -/
theorem get?_erase_append (n : Node) (k : Location) {l : Location} (hl : l ≠ []) :
    (n.erase (k ++ l)).get? k = (n.get? k).map (·.erase l) := by
  induction k generalizing n with
  | nil => rw [List.nil_append, get?_nil, get?_nil, Option.map_some]
  | cons a k ih =>
    cases n with
    | file _ _ => cases h : k ++ l <;> rw [List.cons_append, h] <;> rfl
    | link _ => cases h : k ++ l <;> rw [List.cons_append, h] <;> rfl
    | dir mode entries =>
      rw [List.cons_append, erase]
      · cases hc : entries.lookup a with
        | none => rw [get?_dir_cons, hc]; rfl
        | some child =>
          rw [get?_dir_cons, get?_dir_cons, lookup_putEntry, if_pos rfl, hc, Option.bind_some,
            Option.bind_some]
          exact ih child
      · simpa using fun _ => hl

/-- What a directory above a location at which a node was set has become. -/
theorem get?_set_append (n : Node) (k : Location) {l : Location} (hl : l ≠ []) (new : Node) :
    (n.set (k ++ l) new).get? k = (n.get? k).map (·.set l new) := by
  induction k generalizing n with
  | nil => rw [List.nil_append, get?_nil, get?_nil, Option.map_some]
  | cons a k ih =>
    cases n with
    | file _ _ => cases h : k ++ l <;> rw [List.cons_append, h] <;> rfl
    | link _ => cases h : k ++ l <;> rw [List.cons_append, h] <;> rfl
    | dir mode entries =>
      rw [List.cons_append, set]
      · cases hc : entries.lookup a with
        | none => rw [get?_dir_cons, hc]; rfl
        | some child =>
          rw [get?_dir_cons, get?_dir_cons, lookup_putEntry, if_pos rfl, hc, Option.bind_some,
            Option.bind_some]
          exact ih child
      · simpa using fun _ => hl

/-- What is put under a name takes the place of what was put there before. -/
theorem putEntry_putEntry (name : String) (x y : Node) (entries : List (String × Node)) :
    putEntry name y (putEntry name x entries) = putEntry name y entries := by
  have twice (p : String × Node → Bool) : (entries.filter p).filter p = entries.filter p := by
    simp [List.filter_filter]
  have none_less : (entries.filter (name < ·.1)).filter (·.1 < name) = [] :=
    List.filter_eq_nil_iff.2 fun e he less => String.lt_irrefl name
      (String.lt_trans (of_decide_eq_true (List.mem_filter.1 he).2) (of_decide_eq_true less))
  have none_more : (entries.filter (·.1 < name)).filter (name < ·.1) = [] :=
    List.filter_eq_nil_iff.2 fun e he more => String.lt_irrefl name
      (String.lt_trans (of_decide_eq_true more) (of_decide_eq_true (List.mem_filter.1 he).2))
  unfold putEntry
  simp only [List.filter_append, List.filter_cons, String.lt_irrefl, twice, none_less, none_more]
  simp

/-- Names in strictly ascending order. -/
abbrev Ascending (entries : List (String × Node)) : Prop := (entries.map Prod.fst).Pairwise (· < ·)

/-- An entry whose name comes between those of others is put between them. -/
theorem putEntry_between {name : String} {front back : List (String × Node)} {n : Node}
    (order : Ascending (front ++ (name, n) :: back)) (x : Node) :
    putEntry name x (front ++ back) = front ++ (name, x) :: back := by
  simp only [Ascending, List.map_append, List.map_cons, List.pairwise_append, List.pairwise_cons,
    List.mem_map, List.mem_cons] at order
  obtain ⟨-, ⟨after, -⟩, before⟩ := order
  have before : ∀ e ∈ front, e.1 < name := fun e he => before e.1 ⟨e, he, rfl⟩ name (.inl rfl)
  have after : ∀ e ∈ back, name < e.1 := fun e he => after e.1 ⟨e, he, rfl⟩
  have notBefore : ∀ e ∈ back, ¬e.1 < name := fun e he less =>
    String.lt_irrefl _ (String.lt_trans less (after e he))
  have notAfter : ∀ e ∈ front, ¬name < e.1 := fun e he more =>
    String.lt_irrefl _ (String.lt_trans more (before e he))
  have less : (front ++ back).filter (·.1 < name) = front := by
    rw [List.filter_append, List.filter_eq_self.2 (by simpa using before),
      List.filter_eq_nil_iff.2 (by simpa using notBefore), List.append_nil]
  have more : (front ++ back).filter (name < ·.1) = back := by
    rw [List.filter_append, List.filter_eq_nil_iff.2 (by simpa using notAfter),
      List.filter_eq_self.2 (by simpa using after), List.nil_append]
  rw [putEntry, less, more]

theorem set_singleton (mode : Mode) (entries : List (String × Node)) (name : String) (new : Node) :
    (dir mode entries).set [name] new = dir mode (putEntry name new entries) := by
  rw [set]

/-- A node is set further down in the entry on the way, if there is one. -/
theorem set_cons (mode : Mode) (entries : List (String × Node)) (name : String) {l : Location}
    (further : l ≠ []) (new : Node) :
    (dir mode entries).set (name :: l) new =
      (entries.lookup name).elim (dir mode entries) fun child =>
        dir mode (putEntry name (child.set l new) entries) := by
  rw [set]
  · cases entries.lookup name <;> rfl
  · exact further

/-- A node that was set is changed like any other. -/
theorem set_append (n : Node) (l : Location) (new : Node) (k : Location) (x : Node) :
    (n.set l new).set (l ++ k) x = n.set l (new.set k x) := by
  induction l generalizing n with
  | nil => rfl
  | cons name l ih =>
    cases n with
    | file _ _ => simp [set]
    | link _ => simp [set]
    | dir mode entries =>
      cases l with
      | nil =>
        rw [List.singleton_append, set_singleton, set_singleton]
        cases k with
        | nil => rw [set_singleton, putEntry_putEntry, set]
        | cons b k =>
          rw [set_cons _ _ _ (List.cons_ne_nil b k), lookup_putEntry, if_pos rfl, Option.elim_some,
            putEntry_putEntry]
      | cons b l =>
        have further : b :: l ≠ [] := List.cons_ne_nil b l
        rw [List.cons_append, set_cons _ _ _ further, set_cons _ _ _ further]
        cases hc : entries.lookup name with
        | none => rw [Option.elim_none, Option.elim_none, set_cons _ _ _ (by simp), hc, Option.elim_none]
        | some child =>
          rw [Option.elim_some, Option.elim_some, set_cons _ _ _ (by simp), lookup_putEntry, if_pos rfl,
            Option.elim_some, putEntry_putEntry, ih child]

/-- What is set at a location takes the place of what was set there before. -/
theorem set_set (n : Node) (l : Location) (new x : Node) : (n.set l new).set l x = n.set l x := by
  have h := set_append n l new [] x
  rwa [List.append_nil, set] at h

/-- An entry that is not there is erased without a change. -/
theorem erase_absent {n : Node} {name : String} (absent : n.get? [name] = none) :
    n.erase [name] = n := by
  cases n with
  | file _ _ => rfl
  | link _ => rfl
  | dir mode entries =>
    rw [get?_dir_cons] at absent
    have none : entries.lookup name = none := by
      cases h : entries.lookup name with
      | none => rfl
      | some child =>
        rw [h, Option.bind_some, get?_nil] at absent
        cases absent
    rw [erase, dropEntry, List.filter_eq_self.2 fun e he => by
      rw [bne_comm]
      exact List.lookup_eq_none_iff.1 none e he]

/-- Trees that differ at most at `l` still do when a location beside `l` is erased in both. -/
theorem SameBeside.erase {l k : Location} {n m : Node} (h : SameBeside l n m) (hlk : ¬ l <+: k)
    (hkl : ¬ k <+: l) : SameBeside l (n.erase k) (m.erase k) := by
  have hk : k ≠ [] := fun e => hkl (e ▸ List.nil_prefix)
  have gone : ∀ o : Node, ∀ j, k <+: j → (o.erase k).get? j = none := fun o j hj =>
    get?_eq_none_below (get?_erase_self o hk) hj
  constructor
  · intro j hlj hjl
    by_cases hkj : k <+: j
    · rw [gone m j hkj, gone n j hkj]
    · by_cases hjk : j <+: k
      · obtain ⟨rest, rfl⟩ := hjk
        have hr : rest ≠ [] := fun e => hkj (by simp [e])
        rw [get?_erase_append m j hr, get?_erase_append n j hr, h.elsewhere j hlj hjl]
      · rw [(sameBeside_erase m k).elsewhere j hkj hjk, (sameBeside_erase n k).elsewhere j hkj hjk]
        exact h.elsewhere j hlj hjl
  · intro j hj hjl
    have hkj : ¬ k <+: j := fun hp => hkl (hp.trans hj)
    rw [(sameBeside_erase m k).map_shell hkj, (sameBeside_erase n k).map_shell hkj]
    exact h.above j hj hjl

/-! ## Sorted trees -/

/-- In every directory of the tree the entries stand in strictly ascending order of their names. -/
def Sorted (n : Node) : Prop :=
  ∀ l mode entries, n.get? l = some (dir mode entries) → entries.Pairwise fun a b => a.1 < b.1

/-- Sorted entries are determined by what look-ups find in them. -/
theorem entries_ext {es fs : List (String × Node)} (he : es.Pairwise fun a b => a.1 < b.1)
    (hf : fs.Pairwise fun a b => a.1 < b.1) (h : ∀ k, es.lookup k = fs.lookup k) : es = fs :=
  congrArg Dict.entries (Dict.ext_get? (d := ⟨es, he⟩) (e := ⟨fs, hf⟩) h)

theorem pairwise_putEntry {entries : List (String × Node)}
    (h : entries.Pairwise fun a b => a.1 < b.1) (name : String) (x : Node) :
    (putEntry name x entries).Pairwise fun a b => a.1 < b.1 :=
  (Dict.insert ⟨entries, h⟩ name x).ascending

theorem sorted_file (bytes : ByteArray) (mode : Mode) : (file bytes mode).Sorted := by
  intro l m es h
  cases l <;> cases h

theorem sorted_link (target : String) : (link target).Sorted := by
  intro l m es h
  cases l <;> cases h

/-- A directory is sorted when its entries are in order and each of them is sorted. -/
theorem sorted_dir_iff {mode : Mode} {entries : List (String × Node)} :
    (dir mode entries).Sorted ↔ (entries.Pairwise fun a b => a.1 < b.1) ∧
      ∀ name x, entries.lookup name = some x → x.Sorted := by
  constructor
  · intro h
    refine ⟨h [] mode entries (get?_nil _), fun name x hx l m es hl => h (name :: l) m es ?_⟩
    rw [get?_dir_cons, hx, Option.bind_some, hl]
  · rintro ⟨own, child⟩ l m es hl
    cases l with
    | nil =>
      rw [get?_nil, Option.some.injEq, dir.injEq] at hl
      exact hl.2 ▸ own
    | cons name l =>
      rw [get?_dir_cons] at hl
      obtain ⟨x, hx, hl⟩ := Option.bind_eq_some_iff.1 hl
      exact child name x hx l m es hl

/-- A directory is sorted if its entries are in order and all of them are sorted. -/
theorem sorted_dir {mode : Mode} {entries : List (String × Node)}
    (own : entries.Pairwise fun a b => a.1 < b.1) (each : ∀ e ∈ entries, e.2.Sorted) :
    (dir mode entries).Sorted := by
  refine sorted_dir_iff.2 ⟨own, fun name x hx => ?_⟩
  obtain ⟨front, back, rfl, -⟩ := List.lookup_eq_some_iff.1 hx
  exact each (name, x) (by simp)

theorem sorted_emptyDir : emptyDir.Sorted :=
  sorted_dir .nil fun _ h => by cases h

/-- A node in a sorted tree is sorted. -/
theorem Sorted.get? {n x : Node} (h : n.Sorted) {l : Location} (hx : n.get? l = some x) :
    x.Sorted := fun k mode entries hk =>
  h (l ++ k) mode entries (by rw [get?_append, hx, Option.bind_some, hk])

/-- Setting a sorted node keeps a tree sorted. -/
theorem Sorted.set {n new : Node} (h : n.Sorted) (hnew : new.Sorted) (l : Location) :
    (n.set l new).Sorted := by
  induction l generalizing n with
  | nil => exact hnew
  | cons name l ih =>
    cases n with
    | file _ _ => cases l <;> exact h
    | link _ => cases l <;> exact h
    | dir mode entries =>
      obtain ⟨own, child⟩ := sorted_dir_iff.1 h
      have put : ∀ x : Node, x.Sorted → (dir mode (putEntry name x entries)).Sorted := by
        refine fun x hx => sorted_dir_iff.2 ⟨pairwise_putEntry own name x, fun a y hy => ?_⟩
        rw [lookup_putEntry] at hy
        split at hy
        · exact Option.some.inj hy ▸ hx
        · exact child a y hy
      cases l with
      | nil => exact put new hnew
      | cons b l =>
        rw [Node.set]
        · cases hc : entries.lookup name with
          | none => exact h
          | some x => exact put _ (ih (child name x hc))
        · simp

/-- Erasing keeps a tree sorted. -/
theorem Sorted.erase {n : Node} (h : n.Sorted) (l : Location) : (n.erase l).Sorted := by
  induction l generalizing n with
  | nil => cases n <;> exact h
  | cons name l ih =>
    cases n with
    | file _ _ => cases l <;> exact h
    | link _ => cases l <;> exact h
    | dir mode entries =>
      obtain ⟨own, child⟩ := sorted_dir_iff.1 h
      cases l with
      | nil =>
        refine sorted_dir_iff.2 ⟨own.filter _, fun a y hy => ?_⟩
        rw [lookup_dropEntry] at hy
        split at hy
        · cases hy
        · exact child a y hy
      | cons b l =>
        rw [Node.erase]
        · cases hc : entries.lookup name with
          | none => exact h
          | some x =>
            refine sorted_dir_iff.2 ⟨pairwise_putEntry own name _, fun a y hy => ?_⟩
            rw [lookup_putEntry] at hy
            split at hy
            · exact Option.some.inj hy ▸ ih (child name x hc)
            · exact child a y hy
        · simp

/-- Entries found under one name differ at most where the directories do. -/
theorem SameBeside.child {mode mode' : Mode} {name : String} {l : Location}
    {es fs : List (String × Node)} {x y : Node}
    (h : SameBeside (name :: l) (dir mode es) (dir mode' fs)) (hx : es.lookup name = some x)
    (hy : fs.lookup name = some y) : SameBeside l x y := by
  have found : ∀ k, (dir mode es).get? (name :: k) = x.get? k ∧
      (dir mode' fs).get? (name :: k) = y.get? k := fun k => by
    rw [get?_dir_cons, get?_dir_cons, hx, hy, Option.bind_some, Option.bind_some]
    exact ⟨rfl, rfl⟩
  constructor
  · intro k hl hk
    rw [← (found k).1, ← (found k).2]
    exact h.elsewhere (name :: k) (fun hp => hl (List.cons_prefix_cons.1 hp).2)
      (fun hp => hk (List.cons_prefix_cons.1 hp).2)
  · intro k hk hl
    rw [← (found k).1, ← (found k).2]
    exact h.above (name :: k) (List.cons_prefix_cons.2 ⟨rfl, hk⟩) fun e => hl (List.cons.inj e).2

/-- **A change that is undone leaves no trace.** Sorted trees that differ at most at a location are
equal when they hold the same there. -/
theorem eq_of_sameBeside {n m : Node} {l : Location} (hn : n.Sorted) (hm : m.Sorted)
    (beside : SameBeside l n m) (at_l : m.get? l = n.get? l) : m = n := by
  induction l generalizing n m with
  | nil =>
    rw [get?_nil, get?_nil] at at_l
    exact Option.some.inj at_l
  | cons name l ih =>
    have top := beside.above [] List.nil_prefix (List.cons_ne_nil name l).symm
    rw [get?_nil, get?_nil, Option.map_some, Option.map_some, Option.some.injEq] at top
    cases n with
    | file _ _ => cases m <;> simp_all [shell]
    | link _ => cases m <;> simp_all [shell]
    | dir mode es =>
      cases m with
      | file _ _ => simp [shell] at top
      | link _ => simp [shell] at top
      | dir mode' fs =>
        simp only [shell, dir.injEq, and_true] at top
        subst top
        obtain ⟨own, child⟩ := sorted_dir_iff.1 hn
        obtain ⟨own', child'⟩ := sorted_dir_iff.1 hm
        have entry : ∀ a (gs : List (String × Node)),
            (dir mode' gs).get? [a] = gs.lookup a := fun a gs =>
          get?_append_singleton (get?_nil (dir mode' gs)) a
        refine congrArg _ (entries_ext own' own fun a => ?_)
        by_cases ha : a = name
        · subst ha
          cases l with
          | nil => rw [← entry, ← entry, at_l]
          | cons b l =>
            have hs := beside.above [a] (by simp) (by simp)
            rw [entry, entry] at hs
            cases hx : es.lookup a with
            | none =>
              rw [hx, Option.map_none, Option.map_eq_none_iff] at hs
              exact hs
            | some x =>
              rw [hx, Option.map_some] at hs
              obtain ⟨y, hy, -⟩ := Option.map_eq_some_iff.1 hs
              rw [get?_dir_cons, get?_dir_cons, hx, hy, Option.bind_some, Option.bind_some] at at_l
              rw [hy, ih (child a x hx) (child' a y hy) (beside.child hx hy) at_l]
        · rw [← entry, ← entry]
          exact beside.elsewhere [a] (fun hp => ha (List.cons_prefix_cons.1 hp).1.symm)
            (fun hp => ha (List.cons_prefix_cons.1 hp).1)

/-- Sorted trees that differ at most at a location are equal without what is there. -/
theorem erase_eq_erase {n m : Node} {l : Location} (hn : n.Sorted) (hm : m.Sorted) (hl : l ≠ [])
    (beside : SameBeside l n m) : m.erase l = n.erase l := by
  refine eq_of_sameBeside (hn.erase l) (hm.erase l)
    (((sameBeside_erase n l).symm.trans beside).trans (sameBeside_erase m l)) ?_
  rw [get?_erase_self m hl, get?_erase_self n hl]

end Kennel.Node
