import Kennel.Proofs.Disk.Copied
import Kennel.Proofs.Disk.Fills

/-!
# The loop of a copy

`copyDir` walks through one tree and builds another, one access to the device after the other, and each of
them can be refused. **A copy that ends well has put `Node.copied` where it was made, and a copy that
breaks off has changed nothing else** (`copyDir_cases`).

While the walk goes on, the directories that were made have the permissions of new ones (`Node.draft`),
and those they are to get wait in a list (`Node.pending`), which is worked off from its end. The first
half says that the walk comes to the draft and the list, the second that the list takes the draft to the
copy.

What both halves work on is one directory at one location, and `Fills` says what is made of it. What is
copied lies beside it (`Separate`), so it is found there whatever is made of the directory (`Original`).
-/

namespace Kennel

namespace Node

mutual

/-- What stands for a node in a copy of which the directories have not got their permissions yet. -/
def draft (around : Mode) : Node → Node
  | file bytes mode => file bytes (mode.afterWriting bytes)
  | link target => link target
  | dir _ entries => dir (Mode.newDirIn around) (draftAll (Mode.newDirIn around) entries)
termination_by structural n => n

def draftAll (around : Mode) : List (String × Node) → List (String × Node)
  | [] => []
  | (name, n) :: rest => (name, n.draft around) :: draftAll around rest
termination_by structural l => l

end

mutual

/-- The directories in a copy at a path, each with the permissions it is to get, as a walk meets them. -/
def pending (path : String) : Node → List (String × Mode)
  | file _ _ => []
  | link _ => []
  | dir mode entries => (path, mode) :: pendingAll path entries
termination_by structural n => n

def pendingAll (path : String) : List (String × Node) → List (String × Mode)
  | [] => []
  | (name, n) :: rest => n.pending (Path.join path name) ++ pendingAll path rest
termination_by structural l => l

end

mutual

/-- Every name in a node can be a step of a path. -/
def Named : Node → Prop
  | file _ _ => True
  | link _ => True
  | dir _ entries => NamedAll entries
termination_by structural n => n

def NamedAll : List (String × Node) → Prop
  | [] => True
  | (name, n) :: rest =>
    (Path.Plain name ∧ name.utf8ByteSize ≤ Disk.maxName) ∧ n.Named ∧ NamedAll rest
termination_by structural l => l

end

@[simp] theorem names_draftAll (around : Mode) (entries : List (String × Node)) :
    (draftAll around entries).map Prod.fst = entries.map Prod.fst := by
  induction entries with
  | nil => rfl
  | cons e rest ih => rw [draftAll, List.map_cons, List.map_cons, ih]

namespace Ascending

variable {front back : List (String × Node)} {name : String} {n : Node}

/-- A name between others is not among them. -/
theorem lookup_eq_none (order : Ascending (front ++ (name, n) :: back)) :
    (front ++ back).lookup name = none := by
  simp only [Ascending, List.map_append, List.map_cons, List.pairwise_append, List.pairwise_cons,
    List.mem_map, List.mem_cons] at order
  obtain ⟨-, ⟨after, -⟩, before⟩ := order
  refine Dict.lookup_eq_none_of_forall fun e he same => String.lt_irrefl name ?_
  rcases List.mem_append.1 he with he | he
  · exact same ▸ before e.1 ⟨e, he, rfl⟩ name (.inl rfl)
  · exact same ▸ after e.1 ⟨e, he, rfl⟩

/-- The entries up to one of them. -/
theorem upTo (order : Ascending (front ++ (name, n) :: back)) : Ascending (front ++ [(name, n)]) :=
  List.Pairwise.sublist (((List.Sublist.cons_cons _ (List.nil_sublist _)).append_left front).map _) order

/-- The order is that of the names. -/
theorem of_names {entries other : List (String × Node)} (order : Ascending entries)
    (same : other.map Prod.fst = entries.map Prod.fst) : Ascending other := by
  rwa [Ascending, same]

end Ascending

end Node

namespace Disk

open Node Path

/-! ## Two locations -/

/-- Neither location is at or below the other one. -/
structure Separate (k l : Location) : Prop where
  notAbove : ¬ k <+: l
  notBelow : ¬ l <+: k

theorem Separate.symm {k l : Location} (h : Separate k l) : Separate l k := ⟨h.notBelow, h.notAbove⟩

/-- What is in directories beside each other is beside each other. -/
theorem Separate.entry {k l : Location} (h : Separate k l) (a b : String) :
    Separate (k ++ [a]) (l ++ [b]) := by
  have apart {k l : Location} (h : Separate k l) : ¬ k ++ [a] <+: l ++ [b] := fun below => by
    have above := (List.prefix_append k [a]).trans below
    rcases List.prefix_concat_iff.1 above with e | e
    · exact h.notBelow (e ▸ List.prefix_append l [b])
    · exact h.notAbove e
  have apart' {k l : Location} (h : Separate k l) : ¬ k ++ [b] <+: l ++ [a] := fun below => by
    have above := (List.prefix_append k [b]).trans below
    rcases List.prefix_concat_iff.1 above with e | e
    · exact h.notBelow (e ▸ List.prefix_append l [a])
    · exact h.notAbove e
  exact ⟨apart h, apart' h.symm⟩

/-- A path leads to a node that is to be copied. -/
structure Original (d : Disk) (path : String) (k : Location) (n : Node) : Prop where
  named : path ≠ ""
  reaches : Reaches d true path k
  there : d.get? k = some n

namespace Original

variable {d : Disk} {path name : String} {k l : Location} {n : Node} {mode : Mode}
  {entries : List (String × Node)}

/-- It does so whatever is made where nothing was beside it. -/
theorem beside (source : Original d path k n) (absent : d.get? l = none) (apart : Separate k l)
    (new : Node) : Original (d.set l new) path k n := by
  have beside := sameBeside_set d l new
  refine ⟨source.named, ?_, by rw [beside.elsewhere k apart.notBelow apart.notAbove, source.there]⟩
  exact source.reaches.frame beside (by simp [absent]) (by simp [absent]) fun _ => apart.notBelow

/-- The path into a directory leads to the entry. -/
theorem entry (source : Original d path k (.dir mode entries)) (found : entries.lookup name = some n)
    (noLink : ∀ target, n ≠ .link target) (plain : Plain name) (search : mode.canSearch = true)
    (short : name.utf8ByteSize ≤ maxName) : Original d (join path name) (k ++ [name]) n := by
  have there := get?_append_singleton source.there name
  rw [found] at there
  exact ⟨join_ne_empty source.named plain,
    source.reaches.join source.named plain source.there (by simpa [there] using noLink) search short,
    there⟩

/-- Whatever the path finds is the node. -/
theorem finds (source : Original d path k n) (noLink : ∀ target, n ≠ .link target) {j : Location}
    {x : Option Node} (led : Finds d true path j x) : x = some n := by
  have there : ∀ target, d.get? k ≠ some (.link target) := by simpa [source.there] using noLink
  obtain rfl := source.reaches.eq_of_finds (fun _ => there) led
  exact (finds_iff.1 led).2.2.trans source.there

/-- Whatever the path into the directory finds is the entry. -/
theorem finds_entry (source : Original d path k (.dir mode entries)) (found : entries.lookup name = some n)
    (plain : Plain name) {follow : Bool} (stay : follow = true → ∀ target, n ≠ .link target)
    {j : Location} {x : Option Node} (led : Finds d follow (join path name) j x) :
    mode.canSearch = true ∧ x = some n := by
  have there := get?_append_singleton source.there name
  rw [found] at there
  obtain ⟨search, -, -, hx⟩ := source.reaches.finds_join source.named plain source.there
    (fun follows => by simpa [there] using stay follows) led
  exact ⟨search, hx.trans there⟩

end Original

/-! ## What the walk reads -/

section Reading

variable {d : Disk} {path : String}

/-- The permissions are those of what the path leads to. -/
theorem modeAt_cases (path : String) (faults : Faults) (d : Disk) :
    (∃ l n, Finds d false path l (some n) ∧ run (modeAt path faults) d = (.ok n.mode, d)) ∨
      ∃ e, run (modeAt path faults) d = (.error e, d) := by
  unfold modeAt
  rw [run_bind, run_place_eq]
  cases h : (run (place false path) d).1 with
  | error e => exact .inr ⟨e, rfl⟩
  | ok p =>
    obtain ⟨l, x⟩ := p
    cases x with
    | none => exact .inr ⟨_, rfl⟩
    | some n =>
      simp only [run_bind]
      rcases pass_cases faults (.look path) d with hp | ⟨e, -, hp⟩
      · exact .inl ⟨l, n, h, by rw [hp]; rfl⟩
      · exact .inr ⟨_, by rw [hp]⟩

/-- The target is that of the link that the path leads to. -/
theorem readLink_cases (path : String) (faults : Faults) (d : Disk) :
    (∃ l target, Finds d false path l (some (.link target)) ∧
        run (readLink path faults) d = (.ok target, d)) ∨
      ∃ e, run (readLink path faults) d = (.error e, d) := by
  unfold readLink
  rw [run_bind, run_place_eq]
  cases h : (run (place false path) d).1 with
  | error e => exact .inr ⟨e, rfl⟩
  | ok p =>
    obtain ⟨l, x⟩ := p
    cases x with
    | none => exact .inr ⟨_, rfl⟩
    | some n =>
      cases n with
      | file _ _ => exact .inr ⟨_, rfl⟩
      | dir _ _ => exact .inr ⟨_, rfl⟩
      | link target =>
        simp only [run_bind]
        rcases pass_cases faults (.read path) d with hp | ⟨e, -, hp⟩
        · exact .inl ⟨l, target, h, by rw [hp]; rfl⟩
        · exact .inr ⟨_, by rw [hp]⟩

theorem plain_of_isName {name : String} (h : isName name = true) : Plain name := by
  simp only [isName, Bool.and_eq_true, Bool.not_eq_true', decide_eq_true_eq] at h
  obtain ⟨⟨⟨nonempty, noSlash⟩, notDot⟩, notDots⟩ := h
  exact ⟨nonempty, fun member => by simp [member] at noSlash, notDot, notDots⟩

/-- What is listed are the entries of the directory that the path leads to, and their names are plain. -/
theorem listDir_cases (path : String) (faults : Faults) (d : Disk) :
    (∃ l mode entries, Finds d true path l (some (.dir mode entries)) ∧
        (∀ e ∈ entries, Plain e.1) ∧ run (listDir path faults) d = (.ok entries, d)) ∨
      ∃ e, run (listDir path faults) d = (.error e, d) := by
  unfold listDir readDir
  simp only [run_bind]
  rcases look_cases path d with ⟨l, n, found, hl⟩ | ⟨e, hl⟩
  · rw [hl]
    cases n with
    | file _ _ => exact .inr ⟨_, rfl⟩
    | link _ => exact .inr ⟨_, rfl⟩
    | dir mode entries =>
      simp only [run_ite, run_pure, run_refuse]
      cases mode.canRead with
      | false => exact .inr ⟨_, rfl⟩
      | true =>
        simp only [if_true]
        rcases pass_cases faults (.list path) d with hp | ⟨e, -, hp⟩
        · rw [hp]
          simp only
          split
          · next names =>
            exact .inl ⟨l, mode, entries, found,
              fun e he => plain_of_isName (List.all_eq_true.1 names e he), rfl⟩
          · exact .inr ⟨_, rfl⟩
        · exact .inr ⟨.system e, by simp only [hp]⟩
  · rw [hl]
    exact .inr ⟨e, rfl⟩

end Reading

/-! ## The walk -/

/-- What a walk through a directory makes of a new one: the draft, and the list of what is to be done. -/
def Copies (within : String → String → DiskM (List (String × Mode))) : Prop :=
  ∀ {d : Disk} {src dst : String} {k l : Location} {mode m : Mode} {entries : List (String × Node)},
    Original d src k (.dir mode entries) → (dir mode entries).Sorted → Vacant d dst l → Separate k l →
    m.canSearch = true →
      Fills d l (.dir m []) (within src dst) fun modes y =>
        y = .dir m (draftAll m entries) ∧ modes = pendingAll dst entries ∧ NamedAll entries

section Walk

variable {within : String → String → DiskM (List (String × Mode))} {d : Disk} {src dst name : String}
  {k l : Location} {mode m : Mode} {entries front : List (String × Node)} {n : Node}

/-- **One entry is copied**: its draft stands in the directory, and its directories are in the list. -/
theorem fills_copyNode (copies : Copies within) (source : Original d src k (.dir mode entries))
    (found : entries.lookup name = some n) (sorted : n.Sorted) (plain : Plain name)
    (vacant : Vacant d dst l) (new : front.lookup name = none) (apart : Separate k l)
    (search : m.canSearch = true) (faults : Faults) :
    Fills d l (.dir m front) (copyNode faults within (join src name) (join dst name) n) fun modes y =>
      y = .dir m (putEntry name (n.draft m) front) ∧ modes = n.pending (join dst name) ∧
        name.utf8ByteSize ≤ maxName ∧ n.Named := by
  have source' (new : Node) := source.beside vacant.absent apart new
  unfold copyNode
  cases n with
  | file bytes mode' =>
    have read (j : Location) (x : Option Node)
        (led : Finds (d.set l (.dir m front)) true (join src name) j x) : x = some (.file bytes mode') :=
      ((source' _).finds_entry found plain (by simp) led).2
    refine (fills_copyFile vacant new plain read faults).bind fun _ y ⟨short, made⟩ => ?_
    exact .pure (made ▸ rfl) ⟨made, rfl, short, trivial⟩
  | link target =>
    have read : Fills d l (.dir m front) (readLink (join src name) faults) fun text y =>
        text = target ∧ y = .dir m front := by
      rcases readLink_cases (join src name) faults (d.set l (.dir m front)) with
        ⟨j, text, led, h⟩ | ⟨e, h⟩
      · have same := ((source' _).finds_entry found plain (fun h => by cases h) led).2
        cases same
        exact .ok rfl h ⟨rfl, rfl⟩
      · exact .error rfl h
    refine read.bind fun text y ⟨same, unchanged⟩ => ?_
    subst same unchanged
    refine (fills_makeLink vacant new plain text faults).bind fun _ y ⟨short, made⟩ => ?_
    exact .pure (made ▸ rfl) ⟨made, rfl, short, trivial⟩
  | dir mode' inner =>
    refine (fills_makeDirs vacant new plain faults).bind fun _ y ⟨short, made⟩ => ?_
    subst made
    have looked : Fills d l (.dir m (putEntry name (.dir (Mode.newDirIn m) []) front))
        (onWalk (join src name) true (modeAt (join src name) faults)) fun found y =>
          found = mode' ∧ mode.canSearch = true ∧
            y = .dir m (putEntry name (.dir (Mode.newDirIn m) []) front) := by
      rcases modeAt_cases (join src name) faults
        (d.set l (.dir m (putEntry name (.dir (Mode.newDirIn m) []) front))) with ⟨j, x, led, h⟩ | ⟨e, h⟩
      · obtain ⟨passed, same⟩ := (source' _).finds_entry found plain (fun h => by cases h) led
        cases same
        exact .ok rfl (by rw [run_onWalk, h]; rfl) ⟨rfl, passed, rfl⟩
      · exact .error rfl (by rw [run_onWalk, h]; rfl)
    refine looked.bind fun own y ⟨same, passed, unchanged⟩ => ?_
    subst same unchanged
    -- What is in the directory is copied on the disk that has all entries but this one.
    have below := copies ((source' (.dir m front)).entry found (by simp) plain passed short) sorted
      (vacant.entry new plain search short) (apart.entry name name) (Mode.canSearch_newDirIn m)
    refine below.within.bind fun modes y ⟨x, ⟨drafted, listed, named⟩, made⟩ => ?_
    subst drafted listed
    exact .pure (made ▸ rfl) ⟨made, rfl, short, named⟩

/-- **The entries are copied in order**, each behind those that are copied already. -/
theorem fills_copyEntries (copies : Copies within) (source : Original d src k (.dir mode entries))
    (vacant : Vacant d dst l) (apart : Separate k l) (search : m.canSearch = true) (faults : Faults) :
    ∀ {rest front : List (String × Node)}, (∀ e ∈ rest, entries.lookup e.1 = some e.2) →
      (∀ e ∈ rest, e.2.Sorted) → (∀ e ∈ rest, Plain e.1) → Ascending (front ++ rest) →
      Fills d l (.dir m front) (copyEntries faults within src dst rest) fun modes y =>
        y = .dir m (front ++ draftAll m rest) ∧ modes = pendingAll dst rest ∧ NamedAll rest
  | [], front, _, _, _, _ => .pure rfl ⟨by rw [draftAll, List.append_nil], rfl, trivial⟩
  | (name, n) :: rest, front, found, sorted, plain, order => by
    obtain ⟨found_n, found⟩ := List.forall_mem_cons.1 found
    obtain ⟨sorted_n, sorted⟩ := List.forall_mem_cons.1 sorted
    obtain ⟨plain_n, plain⟩ := List.forall_mem_cons.1 plain
    have new := order.upTo.lookup_eq_none
    have last := putEntry_between order.upTo (n.draft m)
    rw [List.append_nil] at new last
    refine (fills_copyNode copies source found_n sorted_n plain_n vacant new apart search faults).bind
      fun own y ⟨drafted, listed, short, named⟩ => ?_
    rw [last] at drafted
    subst drafted listed
    have order : Ascending (front ++ [(name, n.draft m)] ++ rest) := order.of_names (by simp)
    refine (fills_copyEntries copies source vacant apart search faults found sorted plain order).bind
      fun later y ⟨drafted, listed, named'⟩ => ?_
    subst drafted listed
    refine .pure rfl ⟨?_, rfl, ⟨plain_n, short⟩, named, named'⟩
    rw [List.append_assoc, List.singleton_append, draftAll]

/-- **The walk comes to the draft and the list**, however deep it may go. -/
theorem copies_copyWithin (faults : Faults) (fuel : Nat) : Copies (copyWithin faults fuel) := by
  induction fuel with
  | zero =>
    intro d src dst k l mode m entries source sorted vacant apart search
    exact .error (y := .dir m []) rfl rfl
  | succ fuel ih =>
    intro d src dst k l mode m entries source sorted vacant apart search
    have source' := source.beside vacant.absent apart (.dir m [])
    obtain ⟨order, children⟩ := sorted_dir_iff.1 sorted
    have listed : Fills d l (.dir m []) (onWalk src false (listDir src faults)) fun found y =>
        found = entries ∧ (∀ e ∈ entries, Plain e.1) ∧ y = .dir m [] := by
      rcases listDir_cases src faults (d.set l (.dir m [])) with ⟨j, mode', es, led, plain, h⟩ | ⟨e, h⟩
      · have same := source'.finds (by simp) led
        cases same
        exact .ok rfl (by rw [run_onWalk, h]; rfl) ⟨rfl, plain, rfl⟩
      · exact .error rfl (by rw [run_onWalk, h]; rfl)
    unfold copyWithin
    refine listed.bind fun found y ⟨same, plain, unchanged⟩ => ?_
    subst unchanged
    rw [same]
    have lookup : ∀ e ∈ entries, entries.lookup e.1 = some e.2 := fun e he =>
      (Dict.get?_eq_some_iff (d := ⟨entries, order⟩)).2 he
    refine (fills_copyEntries ih source vacant apart search faults lookup (fun e he => ?_) plain
      (List.pairwise_map.2 order))
    exact children e.1 e.2 (lookup e he)

end Walk

/-! ## The permissions -/

/-- Permissions are changed where a path leads, or nothing is changed. -/
theorem chmod_cases (mode : Mode) (path : String) (faults : Faults) (d : Disk) :
    (∃ l n, Finds d true path l (some n) ∧
        run (chmod mode path faults) d = (.ok (), d.set l (n.withMode mode))) ∨
      ∃ e, run (chmod mode path faults) d = (.error e, d) := by
  unfold chmod
  rw [run_bind, run_place_eq]
  cases h : (run (place true path) d).1 with
  | error e => exact .inr ⟨e, rfl⟩
  | ok p =>
    obtain ⟨l, x⟩ := p
    cases x with
    | none => exact .inr ⟨_, rfl⟩
    | some n =>
      simp only [run_bind]
      rcases pass_cases faults (.chmod path) d with hp | ⟨e, -, hp⟩
      · exact .inl ⟨l, n, h, by rw [hp]; rfl⟩
      · exact .inr ⟨.system e, by rw [hp]⟩

/-- Permissions are set in order. -/
theorem run_setModes_append (faults : Faults) (some_modes more : List (String × Mode)) (d : Disk) :
    run (setModes faults (some_modes ++ more)) d =
      run (do setModes faults some_modes; setModes faults more) d := by
  induction some_modes generalizing d with
  | nil => rfl
  | cons e some_modes ih =>
    rw [List.cons_append, setModes, run_bind, run_bind, setModes, run_bind]
    rcases run (chmod e.2 e.1 faults) d with ⟨err | ⟨⟩, after⟩
    · rfl
    · simp only [ih, run_bind]

section Permissions

variable {d : Disk} {path : String} {l : Location} {m : Mode} {entries : List (String × Node)}

theorem fills_chmod (vacant : Vacant d path l) (mode : Mode) (faults : Faults) :
    Fills d l (.dir m entries) (chmod mode path faults) fun _ y => y = .dir mode entries := by
  rcases chmod_cases mode path faults (d.set l (.dir m entries)) with ⟨j, n, led, h⟩ | ⟨e, h⟩
  · have here := vacant.get?_set (.dir m entries)
    obtain rfl := (vacant.reaches_set m entries).eq_of_finds (fun _ => by simp [here]) led
    have same := (finds_iff.1 led).2.2
    rw [here] at same
    cases same
    exact .ok rfl (by rw [h, set_set]; rfl) rfl
  · exact .error rfl h

theorem Fills.setModes_append {faults : Faults} {some_modes more : List (String × Mode)} {n : Node}
    {mid post : Unit → Node → Prop} (h : Fills d l n (setModes faults some_modes) mid)
    (hn : ∀ y, mid () y → Fills d l y (setModes faults more) post) :
    Fills d l n (setModes faults (some_modes ++ more)) post := by
  obtain ⟨r, y, hr, rest⟩ := h.bind fun _ => hn
  exact ⟨r, y, (run_setModes_append _ _ _ _).trans hr, rest⟩

mutual

/-- **The list takes the draft of a directory to its copy**, from the last permissions to the first. -/
theorem fills_setModes (faults : Faults) {d : Disk} {path : String} {l : Location} (around : Mode)
    (vacant : Vacant d path l) : ∀ {n : Node}, n.isDir = true → n.Named → n.Sorted →
      Fills d l (n.draft around) (setModes faults (n.pending path).reverse) fun _ y => y = n.copied
  | .file _ _, directory, _, _ => by cases directory
  | .link _, directory, _, _ => by cases directory
  | .dir mode entries, _, named, sorted => by
    obtain ⟨order, children⟩ := sorted_dir_iff.1 sorted
    have sorted : ∀ e ∈ entries, e.2.Sorted := fun e he =>
      children e.1 e.2 ((Dict.get?_eq_some_iff (d := ⟨entries, order⟩)).2 he)
    rw [pending, List.reverse_cons]
    have order : Ascending ([] ++ entries) := List.pairwise_map.2 order
    have inside := fills_setModesAll faults vacant (Mode.canSearch_newDirIn around) named sorted order
    refine inside.setModes_append fun y inner => ?_
    subst inner
    refine (fills_chmod vacant mode faults).bind fun _ y own => ?_
    exact .pure (own ▸ rfl) own

theorem fills_setModesAll (faults : Faults) {d : Disk} {path : String} {l : Location} {m : Mode}
    (vacant : Vacant d path l) (search : m.canSearch = true) :
    ∀ {rest front : List (String × Node)}, NamedAll rest → (∀ e ∈ rest, e.2.Sorted) →
      Ascending (front ++ rest) →
      Fills d l (.dir m (front ++ draftAll m rest)) (setModes faults (pendingAll path rest).reverse)
        fun _ y => y = .dir m (front ++ copiedAll rest)
  | [], front, _, _, _ => .pure rfl rfl
  | (name, n) :: rest, front, ⟨⟨plain, short⟩, named, others⟩, sorted, order => by
    obtain ⟨sorted_n, sorted⟩ := List.forall_mem_cons.1 sorted
    have order' : Ascending (front ++ [(name, n.draft m)] ++ rest) := order.of_names (by simp)
    have later := fills_setModesAll faults vacant search others sorted order'
    rw [pendingAll, List.reverse_append]
    rw [List.append_assoc, List.append_assoc, List.singleton_append, List.singleton_append] at later
    refine later.setModes_append fun y done => ?_
    subst done
    have between : Ascending (front ++ (name, n) :: copiedAll rest) := order.of_names (by simp)
    cases directory : n.isDir with
    | false =>
      -- Only a directory gets its permissions afterwards.
      cases n with
      | file _ _ => exact .pure rfl rfl
      | link _ => exact .pure rfl rfl
      | dir _ _ => cases directory
    | true =>
      have inner := fills_setModes faults m
        (vacant.entry between.lookup_eq_none plain search short) directory named sorted_n
      rw [← putEntry_between between (n.draft m)]
      refine inner.within.mono fun _ y ⟨x, copied, made⟩ => ?_
      rw [made, copied, putEntry_between between, copiedAll]

end

end Permissions

/-! ## The copy -/

/-- Once there is a new directory, it is filled and gets its permissions. -/
theorem fills_copy {d : Disk} {src dst : String} {k l : Location} {mode : Mode}
    {entries : List (String × Node)} (sorted : (dir mode entries).Sorted) (apart : Separate k l)
    (source : ∀ j x, Finds (d.set l (newDir d l)) true src j x → Original d src k (.dir mode entries))
    (vacant : Vacant d dst l) (faults : Faults) :
    Fills d l (newDir d l)
      (do
        let top ← look src
        let modes ← if top.isDir then copyWithin faults maxPath src dst else Pure.pure []
        setModes faults ((dst, top.mode) :: modes).reverse)
      fun _ y => y = (dir mode entries).copied := by
  have looked : Fills d l (newDir d l) (look src) fun top y =>
      top = .dir mode entries ∧ Original d src k (.dir mode entries) ∧ y = newDir d l := by
    rcases look_cases src (d.set l (newDir d l)) with ⟨j, n, led, h⟩ | ⟨e, h⟩
    · have source := source j _ led
      have same := (source.beside vacant.absent apart (newDir d l)).finds (by simp) led
      cases same
      exact .ok rfl h ⟨rfl, source, rfl⟩
    · exact .error rfl h
  refine looked.bind fun top y ⟨same, source, unchanged⟩ => ?_
  subst same unchanged
  refine (copies_copyWithin faults maxPath source sorted vacant apart
    (Mode.canSearch_newDirIn _)).bind fun modes y ⟨drafted, listed, named⟩ => ?_
  subst drafted listed
  exact fills_setModes faults _ (n := .dir mode entries) vacant rfl named sorted

/-- **A complete copy is exact, and a copy that breaks off has changed nothing but the location it is
made at**, whatever the device refuses. The location is empty before, and what is copied is a directory
beside it, if its path is found at all. -/
theorem copyDir_cases {d : Disk} {src dst : String} {k l : Location} {mode : Mode}
    {entries : List (String × Node)} (sorted : (dir mode entries).Sorted) (apart : Separate k l)
    (source : ∀ j x, Finds (d.set l (newDir d l)) true src j x → Original d src k (.dir mode entries))
    {faults : Faults}
    (made : (Vacant d dst l ∧ run (makeDirs dst faults) d = (.ok (), d.set l (newDir d l))) ∨
      ∃ e, run (makeDirs dst faults) d = (.error e, d)) :
    (Vacant d dst l ∧
        run (copyDir src dst faults) d = (.ok (), d.set l (dir mode entries).copied)) ∨
      ∃ e after, SameBeside l d after ∧ (after = d ∨ Cleared after l) ∧
        run (copyDir src dst faults) d = (.error e, after) := by
  rcases made with ⟨vacant, h⟩ | ⟨e, h⟩
  · obtain ⟨r, y, hr, directory, complete⟩ := fills_copy sorted apart source vacant faults
    have whole : run (copyDir src dst faults) d = (r, d.set l y) := by
      rw [copyDir, run_bind, h]
      exact hr
    cases r with
    | ok u => exact .inl ⟨vacant, by rw [whole, complete u rfl]⟩
    | error e =>
      exact .inr ⟨e, _, sameBeside_set d l y, .inr (.set vacant.below_top directory), whole⟩
  · refine .inr ⟨e, d, .refl l d, .inl rfl, ?_⟩
    rw [copyDir, run_bind, h]

end Disk

end Kennel
