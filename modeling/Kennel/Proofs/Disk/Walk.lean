import Kennel.Disk.Basic
import Kennel.Proofs.Disk.Tree

/-!
# Where a path leads

`walk` is a function of the whole tree, and its recursion is bounded by the links it may follow.
What a walk depends on is easier to see from a relation: `Leads top follow links here todo l` says
that the steps `todo`, taken from `here`, lead to `l`, and it has one rule for each way to take a
step. `walk_eq_ok_iff` ties the two.

**What a walk sees.** A walk passes through directories and links and looks at nothing else, so it
ends at the same location in any tree that is the same beside a location it has not passed through
(`Leads.frame_of_noLink`). A location at which there is nothing, or a file, is never passed through.

A walk that has come to a location goes on from there (`Leads.walk_append`), and the steps by a
single dot can be left out of it (`Leads.dotless`).
-/

namespace Kennel.Disk

open Node

/-- A directory that lets its owner pass. -/
def Passable (top : Disk) (here : Location) : Prop :=
  ∃ mode entries, top.get? here = some (.dir mode entries) ∧ mode.canSearch = true

/-- A step that goes to an entry of a directory. -/
structure IsName (name : String) : Prop where
  notDot : name ≠ "."
  notDots : name ≠ ".."
  fits : name.utf8ByteSize ≤ maxName

/-- The steps lead from one location to another. -/
inductive Leads (top : Disk) (follow : Bool) : Nat → Location → List String → Location → Prop
  | stop {links here} : Leads top follow links here [] here
  | dot {links here rest l} (pass : Passable top here) (next : Leads top follow links here rest l) :
      Leads top follow links here ("." :: rest) l
  | up {links here rest l} (pass : Passable top here)
      (next : Leads top follow links here.dropLast rest l) :
      Leads top follow links here (".." :: rest) l
  /-- The last step may lead to where there is nothing. -/
  | absent {links here name} (pass : Passable top here) (isName : IsName name)
      (there : top.get? (here ++ [name]) = none) :
      Leads top follow links here [name] (here ++ [name])
  /-- The last step may lead to a link that is not followed. -/
  | unfollowed {links here name target} (stay : follow = false) (pass : Passable top here)
      (isName : IsName name) (there : top.get? (here ++ [name]) = some (.link target)) :
      Leads top follow links here [name] (here ++ [name])
  | through {links here name target rest l} (pass : Passable top here) (isName : IsName name)
      (there : top.get? (here ++ [name]) = some (.link target)) (go : rest ≠ [] ∨ follow = true)
      (next : Leads top follow links (if target.startsWith "/" then [] else here)
        (steps target ++ rest) l) :
      Leads top follow (links + 1) here (name :: rest) l
  | into {links here name node rest l} (pass : Passable top here) (isName : IsName name)
      (there : top.get? (here ++ [name]) = some node) (noLink : ∀ target, node ≠ .link target)
      (next : Leads top follow links (here ++ [name]) rest l) :
      Leads top follow links here (name :: rest) l

/-- A walk that ends well was led, if it was led through each link. -/
theorem leads_of_walkUpTo {top : Disk} {follow : Bool} {links : Nat}
    {through : Location → List String → Except SystemError Place}
    (led : ∀ {here todo p}, through here todo = .ok p →
      ∃ n, links = n + 1 ∧ Leads top follow n here todo p.1 ∧ p.2 = top.get? p.1)
    {here : Location} {todo : List String} {p : Place}
    (h : walkUpTo top follow through here todo = .ok p) :
    Leads top follow links here todo p.1 ∧ p.2 = top.get? p.1 := by
  induction todo generalizing here with
  | nil =>
    cases h
    exact ⟨.stop, rfl⟩
  | cons name rest ih =>
    rw [walkUpTo] at h
    cases hd : top.get? here with
    | none => rw [hd] at h; cases h
    | some node =>
      cases node with
      | file _ _ => rw [hd] at h; cases h
      | link _ => rw [hd] at h; cases h
      | dir mode entries =>
        simp only [hd] at h
        split at h
        · cases h
        next search =>
        have pass : Passable top here := ⟨mode, entries, hd, by simpa using search⟩
        split at h
        · next dot =>
          subst dot
          exact ⟨.dot pass (ih h).1, (ih h).2⟩
        next dot =>
        split at h
        · next dots =>
          subst dots
          exact ⟨.up pass (ih h).1, (ih h).2⟩
        next dots =>
        split at h
        · cases h
        next fits =>
        have isName : IsName name := ⟨dot, dots, Nat.le_of_not_lt fits⟩
        have there := get?_append_singleton hd name
        split at h
        · next none_there =>
          rw [none_there] at there
          split at h
          · next last =>
            cases h
            subst last
            exact ⟨.absent pass isName there, there.symm⟩
          · cases h
        · next target link_there =>
          rw [link_there] at there
          split at h
          · next last =>
            cases h
            obtain ⟨rfl, stay⟩ := last
            exact ⟨.unfollowed (by simpa using stay) pass isName there, there.symm⟩
          · next go =>
            obtain ⟨n, rfl, leads, found⟩ := led h
            have go : rest ≠ [] ∨ follow = true := by
              by_cases hr : rest = []
              · exact .inr (by simpa [hr] using go)
              · exact .inl hr
            exact ⟨.through pass isName there go leads, found⟩
        · next node noLink node_there =>
          rw [node_there] at there
          exact ⟨.into pass isName there noLink (ih h).1, (ih h).2⟩

/-- A walk that ends well was led. -/
theorem leads_of_walk {top : Disk} {follow : Bool} {links : Nat} {here : Location}
    {todo : List String} {p : Place} (h : walk top follow links here todo = .ok p) :
    Leads top follow links here todo p.1 ∧ p.2 = top.get? p.1 := by
  induction links generalizing here todo p with
  | zero => exact leads_of_walkUpTo (fun h => by cases h) h
  | succ links ih => exact leads_of_walkUpTo (fun h => ⟨links, rfl, ih h⟩) h

/-- Where a walk ends its steps lead, whatever it finds there. -/
theorem leads_of_map_walk {top : Disk} {follow : Bool} {links : Nat} {here : Location}
    {todo : List String} {l : Location}
    (h : (walk top follow links here todo).map (·.1) = .ok l) : Leads top follow links here todo l := by
  cases walked : walk top follow links here todo with
  | error e =>
    rw [walked] at h
    cases h
  | ok p =>
    rw [walked] at h
    obtain rfl := Except.ok.inj h
    exact (leads_of_walk walked).1

/-! ## Single steps -/

theorem walk_nil (top : Disk) (follow : Bool) (links : Nat) (here : Location) :
    walk top follow links here [] = .ok (here, top.get? here) := by
  cases links <;> rfl

/-- What the first step of a walk does. -/
theorem walk_cons (top : Disk) (follow : Bool) (links : Nat) (here : Location) (name : String)
    (rest : List String) :
    walk top follow links here (name :: rest) =
      match top.get? here with
      | some (.dir mode entries) =>
        if !mode.canSearch then .error .permissionDenied
        else if name = "." then walk top follow links here rest
        else if name = ".." then walk top follow links here.dropLast rest
        else if maxName < name.utf8ByteSize then .error .nameTooLong
        else
          match entries.lookup name with
          | none => if rest = [] then .ok (here ++ [name], none) else .error .notFound
          | some (.link target) =>
            if rest = [] ∧ !follow then .ok (here ++ [name], some (.link target))
            else
              match links with
              | 0 => .error .tooManyLinks
              | links + 1 =>
                walk top follow links (if target.startsWith "/" then [] else here)
                  (steps target ++ rest)
          | some _ => walk top follow links (here ++ [name]) rest
      | some _ => .error .notADirectory
      | none => .error .notFound := by
  cases links <;> rfl

/-- A step by a single dot stays. -/
theorem walk_dot {top : Disk} {here : Location} (pass : Passable top here) (follow : Bool)
    (links : Nat) (rest : List String) :
    walk top follow links here ("." :: rest) = walk top follow links here rest := by
  obtain ⟨mode, entries, hd, search⟩ := pass
  rw [walk_cons]
  simp [hd, search]

/-- A step by two dots goes back. -/
theorem walk_up {top : Disk} {here : Location} (pass : Passable top here) (follow : Bool)
    (links : Nat) (rest : List String) :
    walk top follow links here (".." :: rest) = walk top follow links here.dropLast rest := by
  obtain ⟨mode, entries, hd, search⟩ := pass
  rw [walk_cons]
  simp [hd, search]

/-- A step by a name depends on what is found there. -/
theorem walk_name {top : Disk} {here : Location} {name : String} (pass : Passable top here)
    (isName : IsName name) (follow : Bool) (links : Nat) (rest : List String) :
    walk top follow links here (name :: rest) =
      match top.get? (here ++ [name]) with
      | none => if rest = [] then .ok (here ++ [name], none) else .error .notFound
      | some (.link target) =>
        if rest = [] ∧ !follow then .ok (here ++ [name], some (.link target))
        else
          match links with
          | 0 => .error .tooManyLinks
          | links + 1 =>
            walk top follow links (if target.startsWith "/" then [] else here)
              (steps target ++ rest)
      | some _ => walk top follow links (here ++ [name]) rest := by
  obtain ⟨mode, entries, hd, search⟩ := pass
  have fits := Nat.not_lt.2 isName.fits
  rw [walk_cons, get?_append_singleton hd]
  simp only [hd, search, Bool.not_true, Bool.false_eq_true, if_false, isName.notDot,
    isName.notDots, fits]

/-- The last step of a walk, unless it leads to a link that is followed. -/
theorem walk_last {top : Disk} {here : Location} {mode : Mode} {entries : List (String × Node)}
    (hd : top.get? here = some (.dir mode entries)) {name : String} (dot : name ≠ ".")
    (dots : name ≠ "..") {follow : Bool}
    (stay : follow = true → ∀ target, top.get? (here ++ [name]) ≠ some (.link target))
    (links : Nat) :
    walk top follow links here [name] =
      if !mode.canSearch then .error .permissionDenied
      else if maxName < name.utf8ByteSize then .error .nameTooLong
      else .ok (here ++ [name], top.get? (here ++ [name])) := by
  rw [get?_append_singleton hd] at stay
  rw [walk_cons, get?_append_singleton hd]
  simp only [hd, dot, dots, if_false]
  split
  · rfl
  · split
    · rfl
    · cases h : entries.lookup name with
      | none => simp
      | some node =>
        cases node with
        | link target =>
          cases follow with
          | false => simp
          | true => exact absurd h (stay rfl target)
        | file _ _ => simp [walk_nil, get?_append_singleton hd, h]
        | dir _ _ => simp [walk_nil, get?_append_singleton hd, h]

/-- A walk that is led ends well. -/
theorem Leads.walk_eq {top : Disk} {follow : Bool} {links : Nat} {here : Location}
    {todo : List String} {l : Location} (h : Leads top follow links here todo l) :
    walk top follow links here todo = .ok (l, top.get? l) := by
  induction h with
  | stop => rw [walk_nil]
  | dot pass next ih => rw [walk_dot pass, ih]
  | up pass next ih => rw [walk_up pass, ih]
  | absent pass isName there => rw [walk_name pass isName, there]; rfl
  | unfollowed stay pass isName there => rw [walk_name pass isName, there]; simp [stay]
  | through pass isName there go next ih =>
    rw [walk_name pass isName, there]
    simp only
    rw [if_neg, ih]
    rintro ⟨rfl, stay⟩
    simp_all
  | @into links here name node rest l pass isName there noLink next ih =>
    rw [walk_name pass isName, there]
    cases node with
    | link target => exact absurd rfl (noLink target)
    | file _ _ => exact ih
    | dir _ _ => exact ih

/-- A walk ends well exactly where its steps lead, and finds what is there. -/
theorem walk_eq_ok_iff {top : Disk} {follow : Bool} {links : Nat} {here : Location}
    {todo : List String} {l : Location} {x : Option Node} :
    walk top follow links here todo = .ok (l, x) ↔
      Leads top follow links here todo l ∧ x = top.get? l := by
  constructor
  · exact fun h => leads_of_walk h
  · rintro ⟨h, rfl⟩
    exact h.walk_eq

/-! ## What a walk passes through -/

/-- Nothing that is passed through is at or below a location at which there is no directory. -/
theorem Passable.not_below {top : Disk} {here f : Location} (pass : Passable top here)
    (noDir : ∀ mode entries, top.get? f ≠ some (.dir mode entries)) : ¬ f <+: here :=
  let ⟨_, _, hd, _⟩ := pass
  not_prefix_of_get?_eq_dir hd noDir

/-- A directory beside a change is as passable as before. -/
theorem Passable.beside {top top' : Disk} {here f : Location} (pass : Passable top here)
    (beside : SameBeside f top top') (apart : ¬ f <+: here) : Passable top' here := by
  obtain ⟨mode, entries, hd, search⟩ := pass
  obtain ⟨entries', hd'⟩ := beside.get?_eq_dir apart hd
  exact ⟨mode, entries', hd', search⟩

/-- The last step of a walk leads to where it points, unless there is a link that is followed. -/
theorem Leads.last {top : Disk} {follow : Bool} {links : Nat} {here : Location} {name : String}
    (pass : Passable top here) (isName : IsName name)
    (stay : follow = true → ∀ target, top.get? (here ++ [name]) ≠ some (.link target)) :
    Leads top follow links here [name] (here ++ [name]) := by
  cases h : top.get? (here ++ [name]) with
  | none => exact .absent pass isName h
  | some node =>
    cases node with
    | link target =>
      cases follow with
      | true => exact absurd h (stay rfl target)
      | false => exact .unfollowed rfl pass isName h
    | file _ _ => exact .into pass isName h (by simp) .stop
    | dir _ _ => exact .into pass isName h (by simp) .stop

/-- **A walk looks only at what it passes through.** Steps that lead somewhere in a tree lead to the
same location in a tree that differs from it at most at `f`, if at `f` there is nothing in the first
tree, or a file; and where a walk that follows links ends there, there is no link in the other tree. -/
theorem Leads.frame_of_noLink {top top' : Disk} {follow : Bool} {links : Nat} {here : Location}
    {todo : List String} {l f : Location} (h : Leads top follow links here todo l)
    (beside : SameBeside f top top') (noDir : ∀ mode entries, top.get? f ≠ some (.dir mode entries))
    (noLink : ∀ target, top.get? f ≠ some (.link target))
    (ends : follow = true → f <+: l → ∀ target, top'.get? f ≠ some (.link target)) :
    Leads top' follow links here todo l := by
  have keep {here : Location} (pass : Passable top here) : Passable top' here :=
    pass.beside beside (pass.not_below noDir)
  -- A step either leads to `f` itself or to where both trees look the same.
  have step {here : Location} (pass : Passable top here) (name : String) :
      f = here ++ [name] ∨ (top'.get? (here ++ [name])).map shell =
        (top.get? (here ++ [name])).map shell := by
    by_cases hf : f <+: here ++ [name]
    · rcases List.prefix_concat_iff.1 hf with e | e
      · exact .inl e
      · exact absurd e (pass.not_below noDir)
    · exact .inr (beside.map_shell hf)
  have link {k : Location} {target : String} (same : (top'.get? k).map shell = (top.get? k).map shell)
      (there : top.get? k = some (.link target)) : top'.get? k = some (.link target) := by
    rw [there] at same
    obtain ⟨node, hn, hs⟩ := Option.map_eq_some_iff.1 same
    cases node <;> simp_all [shell]
  induction h with
  | stop => exact .stop
  | dot pass next ih => exact .dot (keep pass) (ih ends)
  | up pass next ih => exact .up (keep pass) (ih ends)
  | @absent links here name pass isName there =>
    rcases step pass name with rfl | same
    · exact .last (keep pass) isName fun follows => ends follows List.prefix_rfl
    · rw [there, Option.map_none, Option.map_eq_none_iff] at same
      exact .absent (keep pass) isName same
  | @unfollowed links here name target stay pass isName there =>
    rcases step pass name with rfl | same
    · exact absurd there (noLink target)
    · exact .unfollowed stay (keep pass) isName (link same there)
  | @through links here name target rest l pass isName there go next ih =>
    rcases step pass name with rfl | same
    · exact absurd there (noLink target)
    · exact .through (keep pass) isName (link same there) go (ih ends)
  | @into links here name node rest l pass isName there notLink next ih =>
    rcases step pass name with rfl | same
    · -- At `f` there is a file, so the walk is over.
      cases next with
      | stop => exact .last (keep pass) isName fun follows => ends follows List.prefix_rfl
      | dot pass' | up pass' | absent pass' | unfollowed _ pass' | through pass' | into pass' =>
        exact absurd List.prefix_rfl (pass'.not_below noDir)
    · rw [there, Option.map_some] at same
      obtain ⟨node', hn, hs⟩ := Option.map_eq_some_iff.1 same
      refine .into (keep pass) isName hn (fun target e => ?_) (ih ends)
      subst e
      cases node with
      | link target' => exact notLink target' rfl
      | file _ _ => simp [shell] at hs
      | dir _ _ => simp [shell] at hs

/-- Steps that do not end at the location at which the trees differ, or do not follow links, lead where
they led. -/
theorem Leads.frame {top top' : Disk} {follow : Bool} {links : Nat} {here : Location}
    {todo : List String} {l f : Location} (h : Leads top follow links here todo l)
    (beside : SameBeside f top top') (noDir : ∀ mode entries, top.get? f ≠ some (.dir mode entries))
    (noLink : ∀ target, top.get? f ≠ some (.link target)) (ends : follow = true → ¬ f <+: l) :
    Leads top' follow links here todo l :=
  h.frame_of_noLink beside noDir noLink fun follows below => absurd below (ends follows)

/-! ## Longer and shorter walks -/

/-- A walk that does not follow links and does not end at one leads to the same location as one
that does. -/
theorem Leads.following {top : Disk} {links : Nat} {here : Location} {todo : List String}
    {l : Location} (h : Leads top false links here todo l)
    (noLink : ∀ target, top.get? l ≠ some (.link target)) : Leads top true links here todo l := by
  induction h with
  | stop => exact .stop
  | dot pass next ih => exact .dot pass (ih noLink)
  | up pass next ih => exact .up pass (ih noLink)
  | absent pass isName there => exact .absent pass isName there
  | unfollowed stay pass isName there => exact absurd there (noLink _)
  | through pass isName there go next ih => exact .through pass isName there (.inr rfl) (ih noLink)
  | into pass isName there notLink next ih => exact .into pass isName there notLink (ih noLink)

/-- A walk that follows links and finds something finds something without following the last one. -/
theorem Leads.unfollowing {top : Disk} {links : Nat} {here : Location} {todo : List String}
    {l : Location} (h : Leads top true links here todo l) (found : top.get? l ≠ none) :
    ∃ l', Leads top false links here todo l' ∧ top.get? l' ≠ none := by
  induction h with
  | stop => exact ⟨_, .stop, found⟩
  | dot pass next ih =>
    obtain ⟨l', leads, h⟩ := ih found
    exact ⟨l', .dot pass leads, h⟩
  | up pass next ih =>
    obtain ⟨l', leads, h⟩ := ih found
    exact ⟨l', .up pass leads, h⟩
  | absent pass isName there => exact absurd there found
  | unfollowed stay => cases stay
  | @through links here name target rest l pass isName there go next ih =>
    by_cases last : rest = []
    · subst last
      exact ⟨here ++ [name], .unfollowed rfl pass isName there, by simp [there]⟩
    · obtain ⟨l', leads, h⟩ := ih found
      exact ⟨l', .through pass isName there (.inl last) leads, h⟩
  | into pass isName there notLink next ih =>
    obtain ⟨l', leads, h⟩ := ih found
    exact ⟨l', .into pass isName there notLink leads, h⟩

/-- **A walk goes on from where it has come to**, with fewer links to follow. -/
theorem Leads.walk_append {top : Disk} {links : Nat} {here : Location} {todo : List String}
    {l : Location} (h : Leads top true links here todo l) (follow : Bool) {rest : List String}
    (more : rest ≠ []) : ∃ links',
      walk top follow links here (todo ++ rest) = walk top follow links' l rest := by
  induction h with
  | stop => exact ⟨_, rfl⟩
  | dot pass next ih =>
    obtain ⟨links', e⟩ := ih
    exact ⟨links', by rw [List.cons_append, walk_dot pass, e]⟩
  | up pass next ih =>
    obtain ⟨links', e⟩ := ih
    exact ⟨links', by rw [List.cons_append, walk_up pass, e]⟩
  | @absent links here name pass isName there =>
    refine ⟨links, ?_⟩
    rw [List.cons_append, walk_name pass isName, there]
    cases rest with
    | nil => exact absurd rfl more
    | cons next rest =>
      rw [walk_cons, there]
      simp
  | unfollowed stay => cases stay
  | through pass isName there go next ih =>
    obtain ⟨links', e⟩ := ih
    refine ⟨links', ?_⟩
    rw [List.cons_append, walk_name pass isName, there]
    simp only
    rw [if_neg, ← List.append_assoc, e]
    exact fun both => more (List.append_eq_nil_iff.1 both.1).2
  | @into links here name node rest' l pass isName there notLink next ih =>
    obtain ⟨links', e⟩ := ih
    refine ⟨links', ?_⟩
    rw [List.cons_append, walk_name pass isName, there]
    cases node with
    | link target => exact absurd rfl (notLink target)
    | file _ _ => exact e
    | dir _ _ => exact e

/-- A walk from something to where there is nothing passes through the directory around that. -/
theorem Leads.passable_around {top : Disk} {follow : Bool} {links : Nat} {here : Location}
    {todo : List String} {l : Location} (h : Leads top follow links here todo l)
    (begins : top.get? here ≠ none) (absent : top.get? l = none) : Passable top l.dropLast := by
  induction h with
  | stop => exact absurd absent begins
  | dot pass next ih => exact ih begins absent
  | up pass next ih =>
    exact ih (fun gone => begins (get?_eq_none_below gone (List.dropLast_prefix _))) absent
  | absent pass isName there => rwa [List.dropLast_concat]
  | unfollowed stay pass isName there =>
    rw [there] at absent
    cases absent
  | through pass isName there go next ih =>
    refine ih ?_ absent
    split
    · rw [get?_nil]
      exact Option.some_ne_none _
    · exact begins
  | into pass isName there noLink next ih => exact ih (by rw [there]; exact Option.some_ne_none _) absent

/-- Steps of which some by a single dot were left out. -/
inductive Dotless : List String → List String → Prop
  | nil : Dotless [] []
  | keep (name : String) {todo less : List String} : Dotless todo less →
      Dotless (name :: todo) (name :: less)
  | drop {todo less : List String} : Dotless todo less → Dotless ("." :: todo) less

namespace Dotless

variable {todo less rest : List String}

theorem refl : ∀ todo, Dotless todo todo
  | [] => .nil
  | name :: todo => .keep name (refl todo)

theorem append_left (front : List String) (h : Dotless todo less) :
    Dotless (front ++ todo) (front ++ less) := by
  induction front with
  | nil => exact h
  | cons name front ih => exact .keep name ih

/-- A step that is not by a single dot stays. -/
theorem of_cons {name : String} (notDot : name ≠ ".") (h : Dotless (name :: todo) less) :
    ∃ less', less = name :: less' ∧ Dotless todo less' := by
  generalize e : name :: todo = steps at h
  cases h with
  | nil => cases e
  | keep _ h =>
    cases e
    exact ⟨_, rfl, h⟩
  | drop => exact absurd (List.cons.inj e).1 notDot

/-- All steps by a single dot can be left out. -/
theorem filter (todo : List String) : Dotless todo (todo.filter (· ≠ ".")) := by
  induction todo with
  | nil => exact .nil
  | cons name todo ih =>
    by_cases h : name = "."
    · subst h
      exact .drop ih
    · rw [List.filter_cons_of_pos (by simpa using h)]
      exact .keep name ih

end Dotless

/-- **Steps by a single dot lead nowhere.** Without them a walk that follows links leads to the same
location. -/
theorem Leads.dotless {top : Disk} {links : Nat} {here : Location} {todo less : List String}
    {l : Location} (h : Leads top true links here todo l) (drop : Dotless todo less) :
    Leads top true links here less l := by
  induction h generalizing less with
  | stop =>
    cases drop
    exact .stop
  | dot pass next ih =>
    cases drop with
    | keep _ drop => exact .dot pass (ih drop)
    | drop drop => exact ih drop
  | up pass next ih =>
    obtain ⟨less, rfl, drop'⟩ := drop.of_cons (by decide)
    exact .up pass (ih drop')
  | absent pass isName there =>
    obtain ⟨less, rfl, drop'⟩ := drop.of_cons isName.notDot
    cases drop'
    exact .absent pass isName there
  | unfollowed stay => cases stay
  | through pass isName there go next ih =>
    obtain ⟨less, rfl, drop'⟩ := drop.of_cons isName.notDot
    exact .through pass isName there (.inr rfl) (ih (drop'.append_left _))
  | into pass isName there notLink next ih =>
    obtain ⟨less, rfl, drop'⟩ := drop.of_cons isName.notDot
    exact .into pass isName there notLink (ih drop')

end Kennel.Disk
