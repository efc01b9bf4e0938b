import Kennel.Disk.Copy
import Kennel.Proofs.Disk.Steps

/-!
# The place of a path

Every operation on a disk begins with finding the place of a path. `Finds d follow path l x` says
what it finds: a location, and what is there. It holds exactly if the path can be handed to the
system and its steps lead to the location (`finds_iff`).

A path that is handed on is put together from a directory and a name. **Where a path into a directory
leads is decided by the directory** (`walk_join`): if its path leads to a directory, the path into it
leads to the entry, or it is refused because the directory may not be passed or the name is too
long. In particular it is never refused as missing, so nothing is made on the way.
-/

namespace Kennel.Disk

open Node Path

/-! ## Running operations -/

section Run

variable {α β : Type}

@[simp] theorem run_pure (a : α) (d : Disk) : run (pure a) d = (.ok a, d) := rfl

@[simp] theorem run_throw (e : DiskError) (d : Disk) :
    run (throw e : DiskM α) d = (.error e, d) := rfl

@[simp] theorem run_refuse (e : SystemError) (d : Disk) :
    run (refuse e : DiskM α) d = (.error (.system e), d) := rfl

@[simp] theorem run_get (d : Disk) : run get d = (.ok d, d) := rfl

@[simp] theorem run_set (d e : Disk) : run (set e) d = (.ok (), e) := rfl

@[simp] theorem run_modify (f : Disk → Disk) (d : Disk) : run (modify f) d = (.ok (), f d) := rfl

/-- What follows an operation runs on the disk that the operation left. -/
@[simp] theorem run_bind (op : DiskM α) (next : α → DiskM β) (d : Disk) :
    run (op >>= next) d =
      match run op d with
      | (.ok a, after) => run (next a) after
      | (.error e, after) => (.error e, after) := by
  show (ExceptT.bindCont next (run op d).1) (run op d).2 = _
  rcases run op d with ⟨_ | a, after⟩ <;> rfl

@[simp] theorem run_ite (p : Prop) [Decidable p] (op other : DiskM α) (d : Disk) :
    run (if p then op else other) d = if p then run op d else run other d := by
  split <;> rfl

@[simp] theorem run_onWalk (path : String) (known : Bool) (op : DiskM α) (d : Disk) :
    run (onWalk path known op) d = ((run op d).1.mapError (DiskError.onWalk path known), (run op d).2) :=
  rfl

/-- A device that is asked changes nothing, and it does not answer that something is missing. -/
theorem pass_cases (faults : Faults) (a : Access) (d : Disk) :
    run (pass faults a) d = (.ok (), d) ∨
      ∃ e, e ≠ .notFound ∧ run (pass faults a) d = (.error (.system e), d) := by
  unfold pass
  cases faults.refuses a with
  | none => exact .inl rfl
  | some e => exact .inr ⟨.device e, by simp, rfl⟩

end Run

/-! ## Places -/

/-- A path that can be handed to the system. -/
structure Passed (path : String) : Prop where
  noZero : hasZero path = false
  nonempty : path ≠ ""
  short : path.utf8ByteSize < maxPath

/-- Where a path leads: a location, and what is there. -/
def Finds (d : Disk) (follow : Bool) (path : String) (l : Location) (x : Option Node) : Prop :=
  (run (place follow path) d).1 = .ok (l, x)

theorem run_place (d : Disk) (follow : Bool) (path : String) :
    run (place follow path) d =
      (if hasZero path then .error .zeroInPath
        else match resolve d follow path with
          | .ok p => .ok p
          | .error e => .error (.system e), d) := by
  unfold place
  cases hasZero path <;> cases h : resolve d follow path <;> simp [h]

/-- Finding the place of a path changes nothing. -/
theorem run_place_eq (d : Disk) (follow : Bool) (path : String) :
    run (place follow path) d = ((run (place follow path) d).1, d) := by
  rw [run_place]

/-- Looking sees what the path leads to. -/
theorem run_look {d : Disk} {path : String} {l : Location} {n : Node}
    (found : Finds d true path l (some n)) : run (look path) d = (.ok n, d) := by
  unfold look
  rw [run_bind, run_place_eq, show (run (place true path) d).1 = .ok (l, some n) from found]
  rfl

/-- Looking changes nothing. -/
theorem look_cases (path : String) (d : Disk) :
    (∃ l n, Finds d true path l (some n) ∧ run (look path) d = (.ok n, d)) ∨
      ∃ e, run (look path) d = (.error e, d) := by
  cases h : (run (place true path) d).1 with
  | error e =>
    refine .inr ⟨e, ?_⟩
    rw [look, run_bind, run_place_eq, h]
  | ok p =>
    obtain ⟨l, x⟩ := p
    cases x with
    | none =>
      refine .inr ⟨.system .notFound, ?_⟩
      rw [look, run_bind, run_place_eq, h]
      rfl
    | some n => exact .inl ⟨l, n, h, run_look h⟩

theorem finds_iff {d : Disk} {follow : Bool} {path : String} {l : Location} {x : Option Node} :
    Finds d follow path l x ↔
      Passed path ∧ Leads d follow maxLinks [] (steps path) l ∧ x = d.get? l := by
  unfold Finds
  rw [run_place]
  constructor
  · intro h
    cases hz : hasZero path with
    | true => simp [hz] at h
    | false =>
      simp only [hz, Bool.false_eq_true, if_false] at h
      unfold resolve at h
      split at h
      · next p hp =>
        split at hp
        · cases hp
        · next hne =>
          split at hp
          · cases hp
          · next hlt =>
            cases h
            exact ⟨⟨hz, by simpa using hne, Nat.lt_of_not_le hlt⟩, leads_of_walk hp⟩
      · cases h
  · rintro ⟨passed, leads, rfl⟩
    have hne : path.isEmpty = false := by simpa using passed.nonempty
    simp [passed.noZero, resolve, hne, Nat.not_le.2 passed.short, leads.walk_eq]

/-- A path that leads nowhere is refused as it is, or its walk failed. -/
theorem place_error {d : Disk} {follow : Bool} {path : String} {e : DiskError}
    (h : (run (place follow path) d).1 = .error e) (nonempty : path ≠ "") :
    e = .zeroInPath ∨ e = .system .nameTooLong ∨
      ∃ s, e = .system s ∧ walk d follow maxLinks [] (steps path) = .error s := by
  have hne : path.isEmpty = false := by simpa using nonempty
  rw [run_place] at h
  simp only [resolve, hne, Bool.false_eq_true, if_false] at h
  split at h
  · cases h
    exact .inl rfl
  · split at h
    · next p hp => cases h
    · next s hs =>
      cases h
      split at hs
      · cases hs
        exact .inr (.inl rfl)
      · exact .inr (.inr ⟨s, rfl, hs⟩)

/-! ## What is found beside a change

A change at a location at which there was nothing is seen by no path that leads elsewhere. -/

namespace Finds

variable {d d' : Disk} {follow : Bool} {path : String} {l f : Location}

/-- A path that leads to where nothing is still does. -/
theorem vacant_beside (found : Finds d follow path l none) (beside : SameBeside f d d')
    (gone : d.get? f = none) (vacant : d'.get? l = none) (ends : follow = true → ¬ f <+: l) :
    Finds d' follow path l none := by
  obtain ⟨passed, leads, -⟩ := finds_iff.1 found
  exact finds_iff.2 ⟨passed, leads.frame beside (by simp [gone]) (by simp [gone]) ends, vacant.symm⟩

/-- A path that leads to a directory still does. -/
theorem directory_beside {mode : Mode} {entries : List (String × Node)}
    (found : Finds d follow path l (some (.dir mode entries))) (beside : SameBeside f d d')
    (gone : d.get? f = none) (outside : ¬ f <+: l) :
    ∃ entries', Finds d' follow path l (some (.dir mode entries')) := by
  obtain ⟨passed, leads, there⟩ := finds_iff.1 found
  obtain ⟨entries', h⟩ := beside.get?_eq_dir outside there.symm
  exact ⟨entries', finds_iff.2 ⟨passed,
    leads.frame beside (by simp [gone]) (by simp [gone]) (fun _ => outside), h.symm⟩⟩

end Finds

/-! ## Paths that do not end with a slash

A slash at the end of a path makes it lead on into what it leads to. What a path leads to apart from
that is said of its parts. -/

/-- The parts of a path lead to a location. -/
def Reaches (d : Disk) (follow : Bool) (path : String) (l : Location) : Prop :=
  Leads d follow maxLinks [] ((parts path).map String.ofList) l

/-- A walk by a single dot ends where it begins. -/
theorem eq_of_leads_dot {d : Disk} {follow : Bool} {links : Nat} {here l : Location}
    (h : Leads d follow links here ["."] l) : l = here := by
  generalize e : ["."] = todo at h
  cases h with
  | stop => cases e
  | dot pass next =>
    cases e
    cases next
    rfl
  | up => simp at e
  | absent _ isName | unfollowed _ _ isName | through _ isName | into _ isName =>
    exact absurd (List.cons.inj e).1.symm isName.notDot

/-- Where a path leads as a whole, its parts lead. -/
theorem reaches_of_leads {d : Disk} {path : String} {l : Location}
    (h : Leads d true maxLinks [] (steps path) l) : Reaches d true path l := by
  refine h.dotless ?_
  rw [steps_eq]
  conv => rhs; rw [← List.append_nil ((parts path).map String.ofList)]
  refine Dotless.append_left _ ?_
  split
  · exact .drop .nil
  · exact .nil

namespace Reaches

variable {d : Disk} {path : String} {l l' : Location} {x : Option Node}

/-- A path that ends with a slash leads on into what its parts lead to, whether links are followed or
not. -/
theorem walk_slash (h : Reaches d true path l) (ends : path.endsWith "/" = true) (follow : Bool) :
    ∃ links, walk d follow maxLinks [] (steps path) = walk d follow links l ["."] := by
  rw [steps_eq, if_pos ends]
  exact Leads.walk_append h follow (List.cons_ne_nil "." [])

/-- So it finds nothing else. -/
theorem eq_of_finds_slash {follow : Bool} (h : Reaches d true path l) (ends : path.endsWith "/" = true)
    (found : Finds d follow path l' x) : l' = l := by
  obtain ⟨links, e⟩ := h.walk_slash ends follow
  have walked := (finds_iff.1 found).2.1.walk_eq
  rw [e] at walked
  exact eq_of_leads_dot (leads_of_walk walked).1

/-- And if it is refused as missing, nothing is there. -/
theorem get?_eq_none_slash {follow : Bool} (h : Reaches d true path l) (named : path ≠ "")
    (ends : path.endsWith "/" = true)
    (missing : (run (place follow path) d).1 = .error (.system .notFound)) : d.get? l = none := by
  rcases place_error missing named with e | e | ⟨s, e, walked⟩
  · cases e
  · cases e
  · cases e
    obtain ⟨links, e⟩ := h.walk_slash ends follow
    rw [e, walk_cons] at walked
    cases hl : d.get? l with
    | none => rfl
    | some n =>
      rw [hl] at walked
      cases n with
      | dir mode entries =>
        simp only at walked
        split at walked
        · cases walked
        · simp [walk_nil] at walked
      | file _ _ => cases walked
      | link _ => cases walked

/-- A path finds a location that its parts lead to; only a link there may take it elsewhere. -/
theorem eq_of_finds {follow : Bool} (h : Reaches d follow path l)
    (noLink : path.endsWith "/" = true → ∀ target, d.get? l ≠ some (.link target))
    (found : Finds d follow path l' x) : l' = l := by
  cases ends : path.endsWith "/" with
  | false =>
    have walked := (finds_iff.1 found).2.1.walk_eq
    simp only [steps_eq, ends, Bool.false_eq_true, if_false, List.append_nil] at walked
    rw [Leads.walk_eq h] at walked
    exact (Prod.mk.inj (Except.ok.inj walked)).1.symm
  | true =>
    cases follow with
    | true => exact h.eq_of_finds_slash ends found
    | false => exact eq_of_finds_slash (Leads.following h (noLink ends)) ends found

/-- Nothing is where the parts of a path lead if the path is refused as missing. -/
theorem get?_eq_none {follow : Bool} (h : Reaches d follow path l) (named : path ≠ "")
    (noLink : path.endsWith "/" = true → ∀ target, d.get? l ≠ some (.link target))
    (missing : (run (place follow path) d).1 = .error (.system .notFound)) : d.get? l = none := by
  cases ends : path.endsWith "/" with
  | false =>
    rcases place_error missing named with e | e | ⟨s, e, walked⟩
    · cases e
    · cases e
    · cases e
      simp only [steps_eq, ends, Bool.false_eq_true, if_false, List.append_nil] at walked
      rw [Leads.walk_eq h] at walked
      cases walked
  | true =>
    cases follow with
    | true => exact h.get?_eq_none_slash named ends missing
    | false => exact get?_eq_none_slash (Leads.following h (noLink ends)) named ends missing

end Reaches

/-! ## Paths into a directory -/

/-- **Where a path into a directory leads is decided by the directory.** It leads to the entry of the
name, unless the directory may not be passed or the name is too long. -/
theorem walk_join {d : Disk} {base name : String} {l : Location} {mode : Mode}
    {entries : List (String × Node)} (h : Reaches d true base l) (named : base ≠ "")
    (plain : Plain name) (hd : d.get? l = some (.dir mode entries)) {follow : Bool}
    (stay : follow = true → ∀ target, d.get? (l ++ [name]) ≠ some (.link target)) :
    walk d follow maxLinks [] (steps (join base name)) =
      if !mode.canSearch then .error .permissionDenied
      else if maxName < name.utf8ByteSize then .error .nameTooLong
      else .ok (l ++ [name], d.get? (l ++ [name])) := by
  obtain ⟨links, e⟩ := Leads.walk_append h follow (List.cons_ne_nil name [])
  rw [steps_join named plain, e]
  exact walk_last hd plain.notDot plain.notDots stay links

/-- A walk into a directory that ends well has come to the entry. -/
theorem walk_join_ok {d : Disk} {base name : String} {l j : Location} {mode : Mode}
    {entries : List (String × Node)} (h : Reaches d true base l) (named : base ≠ "")
    (plain : Plain name) (hd : d.get? l = some (.dir mode entries)) {follow : Bool}
    (stay : follow = true → ∀ target, d.get? (l ++ [name]) ≠ some (.link target)) {x : Option Node}
    (walked : walk d follow maxLinks [] (steps (join base name)) = .ok (j, x)) :
    mode.canSearch = true ∧ name.utf8ByteSize ≤ maxName ∧ j = l ++ [name] ∧
      x = d.get? (l ++ [name]) := by
  rw [walk_join h named plain hd stay] at walked
  split at walked
  · cases walked
  · next search =>
    split at walked
    · cases walked
    · next short =>
      obtain ⟨rfl, rfl⟩ := Prod.mk.inj (Except.ok.inj walked)
      exact ⟨by simpa using search, Nat.le_of_not_lt short, rfl, rfl⟩

/-- A path into a directory finds the entry. -/
theorem Reaches.finds_join {d : Disk} {base name : String} {l j : Location} {mode : Mode}
    {entries : List (String × Node)} (h : Reaches d true base l) (named : base ≠ "")
    (plain : Plain name) (hd : d.get? l = some (.dir mode entries)) {follow : Bool}
    (stay : follow = true → ∀ target, d.get? (l ++ [name]) ≠ some (.link target)) {x : Option Node}
    (found : Finds d follow (join base name) j x) :
    mode.canSearch = true ∧ name.utf8ByteSize ≤ maxName ∧ j = l ++ [name] ∧
      x = d.get? (l ++ [name]) := by
  obtain ⟨-, leads, rfl⟩ := finds_iff.1 found
  exact walk_join_ok h named plain hd stay leads.walk_eq

/-- The steps of a path into a directory are its parts. -/
theorem steps_join_eq_parts {base name : String} (named : base ≠ "") (plain : Plain name) :
    steps (join base name) = (parts (join base name)).map String.ofList := by
  rw [steps_join named plain, parts_join named plain, List.map_append]
  simp

/-- A path into a directory that lets its owner pass leads to the entry. -/
theorem Reaches.join {d : Disk} {base name : String} {l : Location} {mode : Mode}
    {entries : List (String × Node)} (h : Reaches d true base l) (named : base ≠ "")
    (plain : Plain name) (hd : d.get? l = some (.dir mode entries))
    (stay : ∀ target, d.get? (l ++ [name]) ≠ some (.link target)) (search : mode.canSearch = true)
    (short : name.utf8ByteSize ≤ maxName) : Reaches d true (Path.join base name) (l ++ [name]) := by
  have walked := walk_join h named plain hd fun _ : true = true => stay
  rw [search, Bool.not_true, if_neg (by simp), if_neg (Nat.not_lt.2 short),
    steps_join_eq_parts named plain] at walked
  exact (leads_of_walk walked).1

end Kennel.Disk
