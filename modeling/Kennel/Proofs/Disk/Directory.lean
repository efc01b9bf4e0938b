import Kennel.Disk.Copy
import Kennel.Proofs.Disk.File

/-!
# Directories

What making and removing directories can end with. `makeDirs_vacant` and `removeDirs_cases` say that
**nothing changes beside the location that the path leads to**, and what is there if they end well.
-/

namespace Kennel

namespace Node

mutual

/-- A node is never kept from being removed by what is missing. -/
theorem clear_error {faults : Disk.Faults} : ∀ {path : String} {n left : Node} {e : SystemError},
    n.clear faults path = some (e, left) → e ≠ .notFound
  | _, file _ _, _, _, h => by cases h
  | _, link _, _, _, h => by cases h
  | path, dir mode entries, left, e, h => by
    rw [clear] at h
    split at h
    · cases h
      decide
    · split at h
      · cases h
        simp
      · obtain ⟨⟨e', left'⟩, hc, he⟩ := Option.map_eq_some_iff.1 h
        cases he
        exact clearAll_error hc

theorem clearAll_error {faults : Disk.Faults} {path : String} {writable searchable : Bool} :
    ∀ {entries left : List (String × Node)} {e : SystemError},
      clearAll faults path writable searchable entries = some (e, left) → e ≠ .notFound
  | [], _, _, h => by cases h
  | (name, n) :: rest, left, e, h => by
    unfold clearAll at h
    simp only at h
    split at h
    · cases h
      decide
    · split at h
      · next e' left' hn =>
        cases h
        exact clear_error hn
      · split at h
        · exact clearAll_error h
        · next e' refused =>
          cases h
          split at refused
          · obtain ⟨_, -, rfl⟩ := Option.map_eq_some_iff.1 refused
            simp
          · cases refused
            decide

end

/-- What is left of a directory that was not removed is a directory. -/
theorem isDir_of_clear {faults : Disk.Faults} {path : String} {mode : Mode}
    {entries : List (String × Node)} {left : Node} {e : SystemError}
    (h : (dir mode entries).clear faults path = some (e, left)) : left.isDir = true := by
  rw [clear] at h
  split at h
  · cases h
    rfl
  · split at h
    · cases h
      rfl
    · obtain ⟨_, -, same⟩ := Option.map_eq_some_iff.1 h
      cases same
      rfl

end Node

namespace Disk

open Node Path

/-! ## What is where something was set -/

/-- What is found at a location is in a directory. -/
theorem Housed.of_get? {d : Disk} {l : Location} {x : Node} (hl : l ≠ []) (h : d.get? l = some x) :
    Housed d l := by
  obtain ⟨front, name, rfl⟩ := (List.eq_nil_or_concat l).resolve_left hl
  rw [List.concat_eq_append, get?_append] at h
  obtain ⟨around, found, entry⟩ := Option.bind_eq_some_iff.1 h
  rw [Housed, List.concat_eq_append, List.dropLast_concat, found]
  cases around with
  | dir mode entries => exact ⟨mode, entries, rfl⟩
  | file _ _ => cases entry
  | link _ => cases entry

/-- What is found where a node was set is that node. -/
theorem eq_of_get?_set {d : Disk} {l : Location} {new x : Node} (hl : l ≠ [])
    (h : (d.set l new).get? l = some x) : x = new := by
  obtain ⟨mode, entries, hd⟩ := Housed.of_get? hl h
  have apart : ¬ l <+: l.dropLast := fun below => by
    have := below.length_le
    have := List.length_pos_iff.2 hl
    rw [List.length_dropLast] at *
    omega
  obtain ⟨entries', hd⟩ := (sameBeside_set d l new).symm.get?_eq_dir apart hd
  rw [Housed.get?_set ⟨mode, entries', hd⟩ hl] at h
  exact (Option.some.inj h).symm

/-- There is a directory at the location, or nothing. -/
def Cleared (d : Disk) (l : Location) : Prop := ∀ n, d.get? l = some n → n.isDir = true

theorem Cleared.of_dir {d : Disk} {l : Location} {mode : Mode} {entries : List (String × Node)}
    (h : d.get? l = some (.dir mode entries)) : Cleared d l := fun _ there =>
  Option.some.inj (h.symm.trans there) ▸ rfl

theorem Cleared.cases {d : Disk} {l : Location} (h : Cleared d l) :
    (∃ mode entries, d.get? l = some (.dir mode entries)) ∨ d.get? l = none := by
  cases there : d.get? l with
  | none => exact .inr rfl
  | some n =>
    have directory := h n there
    cases n with
    | file | link => cases directory
    | dir mode entries => exact .inl ⟨mode, entries, rfl⟩

theorem Cleared.set {d : Disk} {l : Location} {new : Node} (hl : l ≠ []) (directory : new.isDir = true) :
    Cleared (d.set l new) l := fun _ h => eq_of_get?_set hl h ▸ directory

/-! ## Making directories -/

/-- A directory is made where there is nothing, or nothing is changed. -/
theorem makeDir_cases (path : String) (faults : Faults) (d : Disk) :
    (∃ l, Finds d false (withoutEndSlashes path) l none ∧ Housed d l ∧
        run (makeDir path faults) d = (.ok (), d.set l (newDir d l))) ∨
      ∃ e, (e = .system .notFound → (run (place false (withoutEndSlashes path)) d).1 = .error e) ∧
        run (makeDir path faults) d = (.error e, d) := by
  unfold makeDir
  rw [run_bind, run_place_eq]
  cases h : (run (place false (withoutEndSlashes path)) d).1 with
  | error e => exact .inr ⟨e, fun _ => rfl, rfl⟩
  | ok p =>
    obtain ⟨l, x⟩ := p
    cases x with
    | some n => exact .inr ⟨_, fun e => by simp at e, rfl⟩
    | none =>
      simp only [run_bind]
      rcases checkWritable_cases l d with ⟨writable, hc⟩ | ⟨e, he, hc⟩
      · rw [hc]
        rcases pass_cases faults (.makeDir path) d with hp | ⟨e, he, hp⟩
        · exact .inl ⟨l, h, writable.housed, by simp only [hp, run_modify]⟩
        · exact .inr ⟨_, fun e' => absurd (DiskError.system.inj e') he, by simp only [hp]⟩
      · exact .inr ⟨_, fun e' => absurd (DiskError.system.inj e') he, by simp only [hc]⟩

/-- A directory is made, or nothing is changed; a refusal is passed over if it is there. -/
theorem run_ensureDir (path : String) (faults : Faults) (d : Disk) :
    run (ensureDir path faults) d =
      match run (makeDir path faults) d with
      | (.ok (), after) => (.ok (), after)
      | (.error e, _) => (if isDir d path then .ok () else .error e, d) := by
  unfold ensureDir
  rw [run_bind, run_get]
  simp only
  rcases run (makeDir path faults) d with ⟨e | ⟨⟩, after⟩
  · simp only [run_ite, run_pure, run_throw]
    split <;> rfl
  · rfl

/-- If no directory around is missing, the directory is made alone. -/
theorem run_makeDirs {path : String} (named : path ≠ "") (faults : Faults) {d : Disk}
    (around : (run (makeDir path) d).1 ≠ .error (.system .notFound)) :
    run (makeDirs path faults) d = run (ensureDir path faults) d := by
  have hne : path.isEmpty = false := by simpa using named
  have present : lacksParent d path = false := by
    unfold lacksParent
    split
    · next h => exact absurd h around
    · rfl
  have alone (first : DiskM Unit) :
      run (makeDirAfter faults first path) d = run (ensureDir path faults) d := by
    unfold makeDirAfter
    simp [hne, present]
  unfold makeDirs
  cases path.length with
  | zero => exact alone _
  | succ fuel => exact alone _

/-- A path that leads to a directory finds one. -/
theorem finds_of_isDir {d : Disk} {path : String} (h : isDir d path = true) :
    ∃ l n, Finds d true path l (some n) := by
  unfold isDir look at h
  rw [run_bind, run_place_eq] at h
  cases hp : (run (place true path) d).1 with
  | error e => simp [hp] at h
  | ok p =>
    obtain ⟨l, x⟩ := p
    cases x with
    | none => simp [hp] at h
    | some n => exact ⟨l, n, hp⟩

theorem withoutEndSlashes_ne_empty {path : String} (named : path ≠ "") :
    withoutEndSlashes path ≠ "" := by
  unfold withoutEndSlashes
  simp only
  split
  · exact named
  · next h =>
    intro e
    rw [String.ofList_eq_empty_iff] at e
    exact h (by rw [e]; rfl)

/-- What a path leads to without links decides whether a directory around it is missing. -/
theorem makeDir_ne_notFound {path : String} (named : path ≠ "") {d : Disk}
    (known : walk d false maxLinks [] (steps (withoutEndSlashes path)) ≠ .error .notFound) :
    (run (makeDir path) d).1 ≠ .error (.system .notFound) := by
  intro missing
  rcases makeDir_cases path {} d with ⟨l, -, -, h⟩ | ⟨e, he, h⟩
  · rw [h] at missing
    cases missing
  · rw [h] at missing
    obtain rfl : e = .system .notFound := Except.error.inj missing
    rcases place_error (he rfl) (withoutEndSlashes_ne_empty named) with e | e | ⟨s, e, walked⟩
    · cases e
    · cases e
    · cases e
      exact known walked

/-- Nothing is made where there is something already. -/
theorem makeDirs_present {path : String} {d : Disk} {l : Location}
    (leads : Leads d false maxLinks [] (steps (withoutEndSlashes path)) l) (present : d.get? l ≠ none)
    (faults : Faults) : (run (makeDirs path faults) d).2 = d := by
  by_cases named : path = ""
  · subst named
    rfl
  rw [run_makeDirs named faults (makeDir_ne_notFound named (by simp [leads.walk_eq])), run_ensureDir]
  rcases makeDir_cases path faults d with ⟨l', found, -, h⟩ | ⟨e, -, h⟩
  · obtain ⟨-, leads', hx⟩ := finds_iff.1 found
    have same := leads'.walk_eq.symm.trans leads.walk_eq
    rw [← hx] at same
    exact absurd (Prod.mk.inj (Except.ok.inj same)).2.symm present
  · rw [h]

/-- Where something is that is no directory, and no link to one, none is made. -/
theorem makeDirs_refused {path : String} (named : path ≠ "") {d : Disk} {l : Location}
    (leads : Leads d false maxLinks [] (steps (withoutEndSlashes path)) l) (present : d.get? l ≠ none)
    (noDir : isDir d path = false) (faults : Faults) :
    ∃ e, run (makeDirs path faults) d = (.error e, d) := by
  rw [run_makeDirs named faults (makeDir_ne_notFound named (by simp [leads.walk_eq])), run_ensureDir]
  rcases makeDir_cases path faults d with ⟨l', found, -, h⟩ | ⟨e, -, h⟩
  · obtain ⟨-, leads', hx⟩ := finds_iff.1 found
    have same := leads'.walk_eq.symm.trans leads.walk_eq
    rw [← hx] at same
    exact absurd (Prod.mk.inj (Except.ok.inj same)).2.symm present
  · exact ⟨e, by rw [h, noDir]; rfl⟩

/-- A path leads to where nothing is, inside a directory. -/
structure Vacant (d : Disk) (path : String) (l : Location) : Prop where
  named : path ≠ ""
  housed : Housed d l
  absent : d.get? l = none
  reaches : Reaches d true path l

theorem Vacant.below_top {d : Disk} {path : String} {l : Location} (vacant : Vacant d path l) : l ≠ [] := by
  rintro rfl
  have absent := vacant.absent
  rw [get?_nil] at absent
  cases absent

/-- Where nothing is, it does not matter whether links are followed, nor whether a slash ends the path. -/
theorem reaches_of_vacant {d : Disk} {path : String} {l : Location}
    (leads : Leads d false maxLinks [] (steps (withoutEndSlashes path)) l) (absent : d.get? l = none) :
    Reaches d true path l := by
  by_cases named : parts path = []
  · -- Such a path leads to the top, and that is there.
    rw [steps_eq, parts_withoutEndSlashes, named, List.map_nil, List.nil_append] at leads
    have top : l = [] := by
      split at leads
      · exact eq_of_leads_dot leads
      · cases leads
        rfl
    rw [top, get?_nil] at absent
    cases absent
  · rw [steps_withoutEndSlashes named] at leads
    exact leads.following (by simp [absent])

/-- **A directory is made at the location the path leads to, or nothing is changed**, if nothing is
there and no directory around it is missing. -/
theorem makeDirs_vacant {path : String} (named : path ≠ "") {d : Disk} {l : Location}
    (vacant : walk d false maxLinks [] (steps (withoutEndSlashes path)) = .ok (l, none) ∨
      ∃ e, e ≠ .notFound ∧ walk d false maxLinks [] (steps (withoutEndSlashes path)) = .error e)
    (absent : isDir d path = false) (faults : Faults) :
    (Vacant d path l ∧ run (makeDirs path faults) d = (.ok (), d.set l (newDir d l))) ∨
      ∃ e, run (makeDirs path faults) d = (.error e, d) := by
  have known : walk d false maxLinks [] (steps (withoutEndSlashes path)) ≠ .error .notFound := by
    rcases vacant with h | ⟨e, he, h⟩
    · simp [h]
    · simpa [h] using he
  rw [run_makeDirs named faults (makeDir_ne_notFound named known), run_ensureDir]
  rcases makeDir_cases path faults d with ⟨l', found, housed, h⟩ | ⟨e, -, h⟩
  · obtain ⟨-, leads, hx⟩ := finds_iff.1 found
    have same := leads.walk_eq
    rcases vacant with v | ⟨e, -, v⟩
    · rw [v] at same
      obtain rfl : l = l' := (Prod.mk.inj (Except.ok.inj same)).1
      exact .inl ⟨⟨named, housed, hx.symm, reaches_of_vacant leads hx.symm⟩, by rw [h]⟩
    · rw [v] at same
      cases same
  · refine .inr ⟨e, ?_⟩
    rw [h, absent]
    rfl

/-- **A directory is made in another one, or nothing is changed.** -/
theorem makeDirs_entry {d : Disk} {base name : String} {l : Location} {mode : Mode}
    {entries : List (String × Node)} (h : Reaches d true base l) (named : base ≠ "")
    (plain : Plain name) (hd : d.get? l = some (.dir mode entries))
    (absent : d.get? (l ++ [name]) = none) (faults : Faults) :
    (Vacant d (join base name) (l ++ [name]) ∧ run (makeDirs (join base name) faults) d =
        (.ok (), d.set (l ++ [name]) (newDir d (l ++ [name])))) ∨
      ∃ e, run (makeDirs (join base name) faults) d = (.error e, d) := by
  refine makeDirs_vacant (join_ne_empty named plain) ?_ ?_ faults
  · rw [withoutEndSlashes_join named plain, walk_join h named plain hd (fun h => by cases h), absent]
    split
    · exact .inr ⟨_, by decide, rfl⟩
    · split
      · exact .inr ⟨_, by decide, rfl⟩
      · exact .inl rfl
  · rw [Bool.eq_false_iff]
    intro there
    obtain ⟨j, n, found⟩ := finds_of_isDir there
    obtain ⟨-, -, -, hx⟩ := h.finds_join named plain hd (fun _ => by simp [absent]) found
    rw [absent] at hx
    cases hx

/-! ## Removing -/

/-- A removal that is refused for another cause has not found that nothing was there. -/
theorem not_gone {e : SystemError} (other : e ≠ .notFound) {r : Except DiskError Unit}
    (refused : r = .error (.system e)) : ¬ (r = .ok () ∨ r = .error (.system .notFound)) := by
  subst refused
  intro ended
  rcases ended with ended | ended
  · cases ended
  · cases ended
    exact other rfl

/-- What is at a location is taken away, or nothing is changed. -/
theorem erase_cases (l : Location) (faults : Faults) (a : Access) (d : Disk) :
    run (do checkWritable l; pass faults a; modify fun d => d.erase l) d = (.ok (), d.erase l) ∨
      ∃ e, e ≠ .notFound ∧
        run (do checkWritable l; pass faults a; modify fun d => d.erase l) d =
          (.error (.system e), d) := by
  simp only [run_bind]
  rcases checkWritable_cases l d with ⟨-, hc⟩ | ⟨e, he, hc⟩
  · rw [hc]
    rcases pass_cases faults a d with hp | ⟨e, he, hp⟩
    · exact .inl (by simp only [hp, run_modify])
    · exact .inr ⟨e, he, by simp only [hp]⟩
  · exact .inr ⟨e, he, by rw [hc]⟩

/-- **A removal changes nothing but the location of the directory**, and nothing is left there if it
ends well or finds that nothing was there; if it changes anything, at most a directory is left. -/
theorem removeDirs_cases {d : Disk} {path : String} {l : Location} (below_top : l ≠ [])
    (leads : ∀ j x, Finds d false path j x → j = l)
    (missing : (run (place false path) d).1 = .error (.system .notFound) → d.get? l = none)
    (faults : Faults) :
    SameBeside l d (run (removeDirs path faults) d).2 ∧
      ((run (removeDirs path faults) d).1 = .ok () ∨
          (run (removeDirs path faults) d).1 = .error (.system .notFound) →
        (run (removeDirs path faults) d).2.get? l = none) ∧
      ((run (removeDirs path faults) d).2 = d ∨ Cleared (run (removeDirs path faults) d).2 l) := by
  unfold removeDirs
  rw [run_bind, run_place_eq]
  cases h : (run (place false path) d).1 with
  | error e =>
    refine ⟨.refl l d, fun ended => ?_, .inl rfl⟩
    rcases ended with e' | e'
    · cases e'
    · cases e'
      exact missing h
  | ok p =>
    obtain ⟨j, x⟩ := p
    obtain rfl := leads _ _ h
    have hx := (finds_iff.1 h).2.2
    have gone (d' : Disk) : (d'.erase j).get? j = none := get?_erase_self d' below_top
    have erased (d' : Disk) (beside : SameBeside j d d') :
        SameBeside j d (d'.erase j) ∧ Cleared (d'.erase j) j :=
      ⟨beside.trans (sameBeside_erase d' j), fun n there => by rw [gone] at there; cases there⟩
    rcases x with _ | n
    · exact ⟨.refl j d, fun _ => hx.symm, .inl rfl⟩
    · cases n with
      | file _ _ => exact ⟨.refl j d, fun ended => absurd ended (not_gone (by decide) rfl), .inl rfl⟩
      | link target =>
        simp only
        rcases erase_cases j faults (.remove path) d with h | ⟨e, he, h⟩ <;> rw [h]
        · obtain ⟨beside, cleared⟩ := erased d (.refl j d)
          exact ⟨beside, fun _ => gone d, .inr cleared⟩
        · exact ⟨.refl j d, fun ended => absurd ended (not_gone he rfl), .inl rfl⟩
      | dir mode entries =>
        simp only
        split
        · next e left hc =>
          have other := clear_error hc
          exact ⟨sameBeside_set d j left, fun ended => absurd ended (not_gone other rfl),
            .inr (.set below_top (isDir_of_clear hc))⟩
        · rw [run_bind, run_modify]
          simp only
          have beside := sameBeside_set d j (.dir mode [])
          rcases erase_cases j faults (.remove path) (d.set j (.dir mode [])) with h | ⟨e, he, h⟩ <;>
            rw [h]
          · obtain ⟨beside, cleared⟩ := erased _ beside
            exact ⟨beside, fun _ => gone _, .inr cleared⟩
          · exact ⟨beside, fun ended => absurd ended (not_gone he rfl), .inr (.set below_top rfl)⟩

end Disk

end Kennel
