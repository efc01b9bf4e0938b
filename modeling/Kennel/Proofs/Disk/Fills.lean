import Kennel.Proofs.Disk.Directory

/-!
# Operations that fill one directory

A new directory is filled with one access to the device after the other, and each of them can be refused.
`Fills` says of an operation that it changes nothing but this directory, however it ends, and what has
become of the directory if it ends well. That the rest is left alone is in the definition, so it is
inherited by whatever is composed of such operations (`Fills.bind`), and by the directories around
(`Fills.within`).
-/

namespace Kennel

namespace Disk

open Node Path

namespace Vacant

variable {d : Disk} {path name : String} {l : Location} {mode : Mode} {front : List (String × Node)}

/-- What is set there is found. -/
theorem get?_set (vacant : Vacant d path l) (new : Node) : (d.set l new).get? l = some new :=
  vacant.housed.get?_set vacant.below_top new

/-- The path leads to the directory that is made there. -/
theorem reaches_set (vacant : Vacant d path l) (mode : Mode) (entries : List (String × Node)) :
    Reaches (d.set l (.dir mode entries)) true path l :=
  vacant.reaches.frame_of_noLink (sameBeside_set d l _) (by simp [vacant.absent])
    (by simp [vacant.absent]) fun _ _ target => by simp [vacant.get?_set]

theorem get?_entry (vacant : Vacant d path l) (mode : Mode) (new : front.lookup name = none) :
    (d.set l (.dir mode front)).get? (l ++ [name]) = none := by
  rw [get?_append_singleton (vacant.get?_set _), new]

/-- Where no entry is in the directory, one can be made. -/
theorem entry (vacant : Vacant d path l) (new : front.lookup name = none) (plain : Plain name)
    (search : mode.canSearch = true) (short : name.utf8ByteSize ≤ maxName) :
    Vacant (d.set l (.dir mode front)) (join path name) (l ++ [name]) := by
  have absent := vacant.get?_entry mode new
  refine ⟨join_ne_empty vacant.named plain, ⟨mode, front, ?_⟩, absent, ?_⟩
  · rw [List.dropLast_concat, vacant.get?_set]
  · exact (vacant.reaches_set mode front).join vacant.named plain (vacant.get?_set _) (by simp [absent])
      search short

/-- Whatever a path into the directory finds, nothing is there. -/
theorem finds_entry (vacant : Vacant d path l) (new : front.lookup name = none) (plain : Plain name)
    {follow : Bool} {j : Location} {x : Option Node}
    (found : Finds (d.set l (.dir mode front)) follow (join path name) j x) :
    name.utf8ByteSize ≤ maxName ∧ j = l ++ [name] ∧ x = none := by
  have absent := vacant.get?_entry mode new
  obtain ⟨-, short, at_l, hx⟩ := (vacant.reaches_set mode front).finds_join vacant.named plain
    (vacant.get?_set _) (fun _ => by simp [absent]) found
  exact ⟨short, at_l, hx.trans absent⟩

end Vacant

/-! ## Operations on one directory -/

/-- What an operation does that is begun on the disk `d` with the directory `n` at `l`: it changes the
directory and nothing else, and if it ends well, the directory has become what `post` says. -/
def Fills {α : Type} (d : Disk) (l : Location) (n : Node) (op : DiskM α) (post : α → Node → Prop) :
    Prop :=
  ∃ r y, run op (d.set l n) = (r, d.set l y) ∧ y.isDir = true ∧ ∀ a, r = .ok a → post a y

namespace Fills

variable {α β : Type} {d : Disk} {l : Location} {n : Node} {op : DiskM α} {mid : α → Node → Prop}

theorem pure {a : α} {post : α → Node → Prop} (directory : n.isDir = true) (h : post a n) :
    Fills d l n (pure a) post :=
  ⟨.ok a, n, rfl, directory, fun _ e => Except.ok.inj e ▸ h⟩

/-- An operation that fails may leave any directory. -/
theorem error {post : α → Node → Prop} {e : DiskError} {y : Node} (directory : y.isDir = true)
    (h : run op (d.set l n) = (.error e, d.set l y)) : Fills d l n op post :=
  ⟨.error e, y, h, directory, fun _ e => by cases e⟩

theorem ok {post : α → Node → Prop} {a : α} {y : Node} (directory : y.isDir = true)
    (h : run op (d.set l n) = (.ok a, d.set l y)) (hy : post a y) : Fills d l n op post :=
  ⟨.ok a, y, h, directory, fun _ e => Except.ok.inj e ▸ hy⟩

/-- One operation after the other. -/
theorem bind {next : α → DiskM β} {post : β → Node → Prop} (h : Fills d l n op mid)
    (hn : ∀ a y, mid a y → Fills d l y (next a) post) : Fills d l n (op >>= next) post := by
  obtain ⟨r, y, hr, directory, hy⟩ := h
  cases r with
  | error e => exact .error directory (by rw [run_bind, hr])
  | ok a =>
    obtain ⟨r', y', hr', directory', hy'⟩ := hn a y (hy a rfl)
    exact ⟨r', y', by rw [run_bind, hr]; exact hr', directory', hy'⟩

theorem mono {post : α → Node → Prop} (h : Fills d l n op mid) (imp : ∀ a y, mid a y → post a y) :
    Fills d l n op post :=
  let ⟨r, y, hr, directory, hy⟩ := h
  ⟨r, y, hr, directory, fun a e => imp a y (hy a e)⟩

/-- What is done in a directory is done in the directory around it. -/
theorem within {mode : Mode} {entries : List (String × Node)} {name : String}
    (h : Fills (d.set l (.dir mode entries)) (l ++ [name]) n op mid) :
    Fills d l (.dir mode (putEntry name n entries)) op fun a y =>
      ∃ x, mid a x ∧ y = .dir mode (putEntry name x entries) := by
  obtain ⟨r, x, hr, -, hx⟩ := h
  rw [set_append, set_append, set_singleton, set_singleton] at hr
  exact ⟨r, _, hr, rfl, fun a e => ⟨x, hx a e, rfl⟩⟩

end Fills

section Building

variable {d : Disk} {path name : String} {l : Location} {mode : Mode} {front : List (String × Node)}

/-- An entry that is made in the directory stands between the others. -/
theorem set_entry (d : Disk) (l : Location) (mode : Mode) (front : List (String × Node)) (name : String)
    (x : Node) : (d.set l (.dir mode front)).set (l ++ [name]) x =
      d.set l (.dir mode (putEntry name x front)) := by
  rw [set_append, set_singleton]

theorem fills_makeDirs (vacant : Vacant d path l) (new : front.lookup name = none) (plain : Plain name)
    (faults : Faults) :
    Fills d l (.dir mode front) (makeDirs (join path name) faults) fun _ y =>
      name.utf8ByteSize ≤ maxName ∧
        y = .dir mode (putEntry name (.dir (Mode.newDirIn mode) []) front) := by
  have here := vacant.get?_set (.dir mode front)
  rcases makeDirs_entry (vacant.reaches_set mode front) vacant.named plain here
    (vacant.get?_entry mode new) faults with ⟨inner, h⟩ | ⟨e, h⟩
  · have made : newDir (d.set l (.dir mode front)) (l ++ [name]) = .dir (Mode.newDirIn mode) [] := by
      rw [newDir, List.dropLast_concat, here]
      rfl
    have walked := inner.reaches.walk_eq
    rw [← steps_join_eq_parts vacant.named plain] at walked
    obtain ⟨-, short, -⟩ := walk_join_ok (vacant.reaches_set mode front) vacant.named plain here
      (fun _ => by simp [inner.absent]) walked
    rw [made, set_entry] at h
    exact .ok rfl h ⟨short, rfl⟩
  · exact .error rfl h

/-- A link is made where nothing is, or nothing is changed. -/
theorem makeLink_cases (target path : String) (faults : Faults) (d : Disk) :
    (∃ l, Finds d false path l none ∧
        run (makeLink target path faults) d = (.ok (), d.set l (.link target))) ∨
      ∃ e, run (makeLink target path faults) d = (.error e, d) := by
  unfold makeLink
  rw [run_bind, run_place_eq]
  cases h : (run (place false path) d).1 with
  | error e => exact .inr ⟨e, rfl⟩
  | ok p =>
    obtain ⟨l, x⟩ := p
    cases x with
    | some n => exact .inr ⟨_, rfl⟩
    | none =>
      simp only [run_bind]
      rcases checkWritable_cases l d with ⟨-, hc⟩ | ⟨e, -, hc⟩
      · rw [hc]
        rcases pass_cases faults (.makeLink path) d with hp | ⟨e, -, hp⟩
        · exact .inl ⟨l, h, by simp only [hp, run_modify]⟩
        · exact .inr ⟨.system e, by simp only [hp]⟩
      · exact .inr ⟨.system e, by simp only [hc]⟩

theorem fills_makeLink (vacant : Vacant d path l) (new : front.lookup name = none) (plain : Plain name)
    (target : String) (faults : Faults) :
    Fills d l (.dir mode front) (makeLink target (join path name) faults) fun _ y =>
      name.utf8ByteSize ≤ maxName ∧ y = .dir mode (putEntry name (.link target) front) := by
  rcases makeLink_cases target (join path name) faults (d.set l (.dir mode front)) with
    ⟨j, found, h⟩ | ⟨e, h⟩
  · obtain ⟨short, rfl, -⟩ := vacant.finds_entry new plain found
    exact .ok rfl (by rw [h, set_entry]) ⟨short, rfl⟩
  · exact .error rfl h

/-- Where nothing is, a file is made empty, or nothing is changed. -/
theorem createFile_cases {path : String} {d : Disk} {l : Location}
    (vacant : ∀ j x, Finds d true path j x → j = l ∧ x = none) (mode : Mode) (faults : Faults) :
    ((∃ x, Finds d true path l x) ∧ run (createFile mode path faults) d =
        (.ok (l, mode), d.set l (.file .empty mode))) ∨
      ∃ e, run (createFile mode path faults) d = (.error e, d) := by
  unfold createFile
  rw [run_bind, run_place_eq]
  cases h : (run (place true path) d).1 with
  | error e => exact .inr ⟨e, rfl⟩
  | ok p =>
    obtain ⟨j, x⟩ := p
    obtain ⟨rfl, rfl⟩ := vacant j x h
    simp only [run_bind]
    rcases checkWritable_cases j d with ⟨-, hc⟩ | ⟨e, -, hc⟩
    · rw [hc]
      rcases pass_cases faults (.create path) d with hp | ⟨e, -, hp⟩
      · exact .inl ⟨⟨none, h⟩, by simp only [hp, run_modify, run_pure]⟩
      · exact .inr ⟨.system e, by simp only [hp]⟩
    · exact .inr ⟨.system e, by simp only [hc]⟩

/-- A file is written where nothing is. If that breaks off, nothing else is changed. -/
theorem writeCopy_cases {dst : String} {d : Disk} {l : Location}
    (vacant : ∀ j x, Finds d true dst j x → j = l ∧ x = none) (bytes : ByteArray) (mode : Mode)
    (faults : Faults) :
    ((∃ x, Finds d true dst l x) ∧ run (writeCopy bytes mode dst faults) d =
        (.ok (), d.set l (.file bytes (mode.afterWriting bytes)))) ∨
      ∃ e after, (after = d ∨ ∃ y, after = d.set l y) ∧
        run (writeCopy bytes mode dst faults) d = (.error e, after) := by
  unfold writeCopy
  rw [run_bind]
  rcases createFile_cases vacant (mode.without Mode.masked) faults with ⟨led, hc⟩ | ⟨e, hc⟩
  · rw [hc]
    simp only [run_bind]
    rcases pass_cases faults (.chmod dst) (d.set l (.file .empty (mode.without Mode.masked))) with
      hp | ⟨e, -, hp⟩
    · rw [hp]
      simp only
      split
      · exact .inl ⟨led, by rw [run_modify, set_set]⟩
      · exact .inr ⟨_, _, .inr ⟨_, set_set _ _ _ _⟩, rfl⟩
    · rw [hp]
      exact .inr ⟨_, _, .inr ⟨_, rfl⟩, rfl⟩
  · rw [hc]
    exact .inr ⟨e, d, .inl rfl, rfl⟩

/-- A file is copied to where nothing is. If the copy breaks off, nothing else is changed. -/
theorem copyFile_cases {src dst : String} {d : Disk} {l : Location} {bytes : ByteArray} {mode : Mode}
    (source : ∀ j x, Finds d true src j x → x = some (.file bytes mode))
    (vacant : ∀ j x, Finds d true dst j x → j = l ∧ x = none) (faults : Faults) :
    ((∃ x, Finds d true dst l x) ∧ run (copyFile src dst faults) d =
        (.ok (), d.set l (.file bytes (mode.afterWriting bytes)))) ∨
      ∃ e after, (after = d ∨ ∃ y, after = d.set l y) ∧
        run (copyFile src dst faults) d = (.error e, after) := by
  unfold copyFile
  rw [run_bind]
  rcases look_cases src d with ⟨j, n, found, hl⟩ | ⟨e, hl⟩
  · obtain rfl := Option.some.inj (source j _ found)
    simp only [hl]
    split
    · exact .inr ⟨_, d, .inl rfl, rfl⟩
    simp only [run_bind]
    rcases pass_cases faults (.read src) d with hp | ⟨e, -, hp⟩
    · rw [hp]
      exact writeCopy_cases vacant bytes mode faults
    · rw [hp]
      exact .inr ⟨_, d, .inl rfl, rfl⟩
  · rw [hl]
    exact .inr ⟨e, d, .inl rfl, rfl⟩

theorem fills_copyFile (vacant : Vacant d path l) (new : front.lookup name = none) (plain : Plain name)
    {src : String} {bytes : ByteArray} {m : Mode}
    (source : ∀ j x, Finds (d.set l (.dir mode front)) true src j x → x = some (.file bytes m))
    (faults : Faults) :
    Fills d l (.dir mode front) (copyFile src (join path name) faults) fun _ y =>
      name.utf8ByteSize ≤ maxName ∧
        y = .dir mode (putEntry name (.file bytes (m.afterWriting bytes)) front) := by
  rcases copyFile_cases source (fun j x found => (vacant.finds_entry new plain found).2) faults with
    ⟨⟨x, found⟩, h⟩ | ⟨e, after, shape, h⟩
  · exact .ok rfl (by rw [h, set_entry]) ⟨(vacant.finds_entry new plain found).1, rfl⟩
  · rcases shape with rfl | ⟨y, rfl⟩
    · exact .error rfl h
    · exact .error rfl (by rw [h, set_entry])

end Building

end Disk

end Kennel
