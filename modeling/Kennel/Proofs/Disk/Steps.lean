import Mathlib.Data.List.TakeWhile
import Kennel.Proofs.Disk.Walk

/-!
# The steps of a path

A walk takes the steps of a path, and paths are put together and taken apart as texts. The steps of
a path inside a directory are those of the directory and one more (`steps_join`), and the path
around it has the steps of the directory again, up to single dots (`dotless_around`). Slashes at
the end of a path add no step by a name (`steps_withoutEndSlashes`).
-/

namespace Kennel

namespace Path

/-- A name that a path can lead to an entry by. -/
structure Plain (name : String) : Prop where
  nonempty : name ≠ ""
  noSlash : '/' ∉ name.toList
  notDot : name ≠ "."
  notDots : name ≠ ".."

/-- The parts of a path between its slashes, without the empty ones. -/
def parts (path : String) : List (List Char) := (split path.toList).filter (· ≠ [])

/-! ## Parts -/

theorem split_eq_splitOn (cs : List Char) : split cs = cs.splitOn '/' := by
  induction cs with
  | nil => rfl
  | cons c cs ih =>
    rw [List.splitOn_cons_eq_if_modifyHead]
    by_cases hc : c = '/'
    · subst hc
      rw [split, ih]
      rfl
    · rw [split, ih, if_neg (by simpa using hc)]
      · cases h : cs.splitOn '/' with
        | nil => exact absurd h (List.splitOn_ne_nil '/' cs)
        | cons part parts => rfl
      · exact hc

theorem split_append_slash (a b : List Char) : split (a ++ '/' :: b) = split a ++ split b := by
  simp only [split_eq_splitOn]
  exact List.splitOn_append_cons_self a b

theorem split_of_noSlash {a : List Char} (h : '/' ∉ a) : split a = [a] := by
  rw [split_eq_splitOn]
  exact List.splitOn_eq_singleton h

theorem split_ne_nil (cs : List Char) : split cs ≠ [] := by
  rw [split_eq_splitOn]
  exact List.splitOn_ne_nil '/' cs

/-- Parts that are joined by slashes are found again. -/
theorem split_intercalate {ps : List (List Char)} (hne : ps ≠ []) (h : ∀ p ∈ ps, '/' ∉ p) :
    split (['/'].intercalate ps) = ps := by
  rw [split_eq_splitOn]
  exact List.splitOn_intercalate '/' h hne

theorem noSlash_of_mem_split {p cs : List Char} (h : p ∈ split cs) : '/' ∉ p := by
  induction cs generalizing p with
  | nil => simp_all [split]
  | cons c cs ih =>
    by_cases hc : c = '/'
    · subst hc
      rw [split, List.mem_cons] at h
      rcases h with rfl | h
      · simp
      · exact ih h
    · rw [split] at h
      · cases hs : split cs with
        | nil => exact absurd hs (split_ne_nil cs)
        | cons part parts =>
          rw [hs] at h ih
          rcases List.mem_cons.1 h with rfl | h
          · simpa [Ne.symm hc] using ih List.mem_cons_self
          · exact ih (List.mem_cons_of_mem _ h)
      · exact hc

/-- A character other than a slash stands in one of the parts. -/
theorem exists_mem_split {c : Char} {cs : List Char} (h : c ∈ cs) (hc : c ≠ '/') :
    ∃ p ∈ split cs, c ∈ p := by
  induction cs with
  | nil => cases h
  | cons d cs ih =>
    by_cases hd : d = '/'
    · subst hd
      obtain ⟨p, hp, member⟩ := ih ((List.mem_cons.1 h).resolve_left hc)
      exact ⟨p, by rw [split]; exact List.mem_cons_of_mem _ hp, member⟩
    · rw [split]
      · cases hs : split cs with
        | nil => exact absurd hs (split_ne_nil cs)
        | cons part parts =>
          rw [hs] at ih
          rcases List.mem_cons.1 h with rfl | h
          · exact ⟨c :: part, List.mem_cons_self, List.mem_cons_self⟩
          · obtain ⟨p, hp, member⟩ := ih h
            rcases List.mem_cons.1 hp with rfl | hp
            · exact ⟨d :: p, List.mem_cons_self, List.mem_cons_of_mem _ member⟩
            · exact ⟨p, List.mem_cons_of_mem _ hp, member⟩
      · exact hd

/-- A path ends with a slash exactly if its last part is empty. -/
theorem endsWith_slash_iff (path : String) :
    path.endsWith "/" = true ↔ ∃ front, path.toList = front ++ ['/'] := by
  rw [← String.endsWith_toSlice, String.Slice.endsWith_string_iff]
  simp only [List.IsSuffix, String.copy_toSlice]
  exact ⟨fun ⟨t, h⟩ => ⟨t, h.symm⟩, fun ⟨t, h⟩ => ⟨t, h.symm⟩⟩

theorem startsWith_slash_iff (path : String) :
    path.startsWith "/" = true ↔ path.toList.head? = some '/' := by
  rw [String.startsWith_string_iff]
  cases path.toList with
  | nil => simp
  | cons c cs => simp [List.cons_prefix_cons, eq_comm]

/-- A path whose last part is not empty does not end with a slash. -/
theorem endsWith_slash_eq_false {path : String} (h : (split path.toList).getLast? ≠ some []) :
    path.endsWith "/" = false := by
  rw [Bool.eq_false_iff]
  intro ends
  obtain ⟨front, hf⟩ := (endsWith_slash_iff path).1 ends
  rw [hf, split_append_slash] at h
  exact h (by simp [split])

theorem nonempty_of_mem_parts {p : List Char} {path : String} (h : p ∈ parts path) : p ≠ [] := by
  simpa using (List.mem_filter.1 h).2

/-- The components of a path are its parts without single dots, after a sign of where it begins. -/
theorem components_eq (path : String) :
    components path = (if path.toList.head? = some '/' then [['/']]
      else if (split path.toList).head? = some ['.'] then [['.']] else [])
        ++ (parts path).filter (· ≠ ['.']) := by
  unfold components parts
  simp [List.filter_filter, Bool.and_comm]

/-! ## Paths into a directory -/

/-- A path into a directory is that of the directory without the slash at its end, a slash, and the
relative path that follows. -/
theorem toList_join_relative {base path : String} (named : base ≠ "")
    (relative : path.toList.head? ≠ some '/') :
    ∃ front, (join base path).toList = front ++ '/' :: path.toList ∧
      (base.toList = front ∨ base.toList = front ++ ['/']) := by
  have relative : path.startsWith "/" = false := by
    rwa [Bool.eq_false_iff, Ne, startsWith_slash_iff]
  unfold join
  rw [relative]
  simp only [Bool.false_eq_true, if_false]
  by_cases ends : base.endsWith "/" = true
  · obtain ⟨front, hf⟩ := (endsWith_slash_iff base).1 ends
    refine ⟨front, ?_, .inr hf⟩
    rw [if_pos (.inr ends), String.toList_append, hf, List.append_assoc]
    rfl
  · refine ⟨base.toList, ?_, .inl rfl⟩
    rw [if_neg (by simp [named, ends]), String.toList_append, String.toList_append,
      List.append_assoc]
    rfl

theorem parts_join_relative {base path : String} (named : base ≠ "")
    (relative : path.toList.head? ≠ some '/') :
    parts (join base path) = parts base ++ parts path := by
  obtain ⟨front, hj, hb⟩ := toList_join_relative named relative
  have front_eq : (split base.toList).filter (· ≠ []) = (split front).filter (· ≠ []) := by
    rcases hb with hb | hb
    · rw [hb]
    · rw [hb, split_append_slash, List.filter_append]
      simp [split]
  rw [parts, parts, parts, hj, split_append_slash, List.filter_append, front_eq]

theorem Plain.relative {name : String} (plain : Plain name) : name.toList.head? ≠ some '/' :=
  fun h => plain.noSlash (List.mem_of_mem_head? h)

theorem toList_join {base name : String} (named : base ≠ "") (plain : Plain name) :
    ∃ front, (join base name).toList = front ++ '/' :: name.toList ∧
      (base.toList = front ∨ base.toList = front ++ ['/']) :=
  toList_join_relative named plain.relative

theorem parts_join {base name : String} (named : base ≠ "") (plain : Plain name) :
    parts (join base name) = parts base ++ [name.toList] := by
  have single : parts name = [name.toList] := by
    rw [parts, split_of_noSlash plain.noSlash]
    simp [plain.nonempty]
  rw [parts_join_relative named plain.relative, single]

theorem components_join {base name : String} (named : base ≠ "") (plain : Plain name) :
    components (join base name) = components base ++ [name.toList] := by
  obtain ⟨front, hj, hb⟩ := toList_join named plain
  have hdot : name.toList ≠ ['.'] := fun h => plain.notDot (String.toList_inj.1 h)
  have first : (join base name).toList.head? = base.toList.head? := by
    rw [hj]
    rcases hb with hb | hb
    · cases front with
      | nil => exact absurd (String.toList_eq_nil_iff.1 hb) named
      | cons c front => rw [hb]; rfl
    · rw [hb]
      cases front <;> rfl
  have firstPart : (split (join base name).toList).head? = (split base.toList).head? := by
    have opening (more : List (List Char)) : (split front ++ more).head? = (split front).head? := by
      cases h : split front with
      | nil => exact absurd h (split_ne_nil front)
      | cons part parts => rfl
    rw [hj, split_append_slash, opening]
    rcases hb with hb | hb
    · rw [hb]
    · rw [hb, split_append_slash, opening]
  rw [components_eq, components_eq, first, firstPart, parts_join named plain, List.filter_append,
    List.append_assoc]
  simp [hdot]

/-- Around a path into a directory is the directory. -/
theorem parent?_join {base name : String} (named : base ≠ "") (plain : Plain name) :
    parent? (join base name) = some (ofComponents (components base)) := by
  unfold parent?
  rw [components_join named plain, List.reverse_append]
  simp only [List.reverse_singleton, List.cons_append, List.nil_append]
  split
  · next h => cases h
  · next h => exact absurd (by simp [(List.cons.inj h).1]) plain.noSlash
  · next h => rw [← (List.cons.inj h).2, List.reverse_reverse]

theorem components_ne_nil {path : String} (named : path ≠ "") : components path ≠ [] := by
  rw [components_eq]
  intro h
  obtain ⟨h1, h2⟩ := List.append_eq_nil_iff.1 h
  have relative : path.toList.head? ≠ some '/' := fun e => by simp [e] at h1
  have notDot : (split path.toList).head? ≠ some ['.'] := fun e => by simp [relative, e] at h1
  cases hp : path.toList with
  | nil => exact named (String.toList_eq_nil_iff.1 hp)
  | cons c cs =>
    rw [hp] at relative notDot
    have hc : c ≠ '/' := by simpa using relative
    -- The first part is not empty, so it stays.
    cases hs : split cs with
    | nil => exact split_ne_nil cs hs
    | cons part rest =>
      have hsplit : split (c :: cs) = (c :: part) :: rest := by
        rw [split, hs]
        exact hc
      rw [hsplit, List.head?_cons, Ne, Option.some.injEq] at notDot
      rw [parts, hp, hsplit, List.filter_cons_of_pos (by simp),
        List.filter_cons_of_pos (by simpa [imp_iff_not_or] using notDot)] at h2
      cases h2

end Path

namespace Disk

open Path

/-- The steps of a path are its parts; a slash at the end is a step by a single dot. -/
theorem steps_eq (path : String) :
    steps path = (parts path).map String.ofList ++ if path.endsWith "/" then ["."] else [] := by
  unfold steps parts
  rw [List.map_append]
  split <;> rfl

theorem join_not_endsWith {base name : String} (named : base ≠ "") (plain : Plain name) :
    (join base name).endsWith "/" = false := by
  obtain ⟨front, hj, -⟩ := toList_join named plain
  refine endsWith_slash_eq_false ?_
  rw [hj, split_append_slash, split_of_noSlash plain.noSlash, List.getLast?_concat]
  simpa using plain.nonempty

/-- The steps of a path into a directory. -/
theorem steps_join {base name : String} (named : base ≠ "") (plain : Plain name) :
    steps (join base name) = (parts base).map String.ofList ++ [name] := by
  rw [steps_eq, parts_join named plain, join_not_endsWith named plain, List.map_append]
  simp

theorem join_ne_empty {base name : String} (named : base ≠ "") (plain : Plain name) :
    join base name ≠ "" := fun e => by
  obtain ⟨front, hj, -⟩ := toList_join named plain
  rw [e] at hj
  simp at hj

/-- A path that does not end with a slash has none at its end. -/
theorem withoutEndSlashes_of_not_endsWith {path : String} (ends : path.endsWith "/" = false) :
    withoutEndSlashes path = path := by
  have same : (path.toList.reverse.dropWhile (· = '/')).reverse = path.toList := by
    cases h : path.toList.reverse with
    | nil => simpa using h.symm
    | cons c cs =>
      have hc : c ≠ '/' := by
        rintro rfl
        refine absurd ((endsWith_slash_iff path).2 ⟨cs.reverse, ?_⟩) (by simp [ends])
        rw [← List.reverse_reverse path.toList, h, List.reverse_cons]
      rw [List.dropWhile_cons_of_neg (by simpa using hc), ← h, List.reverse_reverse]
  unfold withoutEndSlashes
  rw [same]
  simp

/-- A path is its beginning up to the last character that is no slash, and slashes. -/
theorem exists_slashes (path : String) : ∃ n,
    path.toList = (path.toList.reverse.dropWhile (· = '/')).reverse ++ List.replicate n '/' := by
  refine ⟨(path.toList.reverse.takeWhile (· = '/')).length, ?_⟩
  have slashes : path.toList.reverse.takeWhile (· = '/') =
      List.replicate (path.toList.reverse.takeWhile (· = '/')).length '/' :=
    List.eq_replicate_of_mem fun c hc => by simpa using List.mem_takeWhile_imp hc
  calc path.toList
      = (path.toList.reverse.takeWhile (· = '/') ++
          path.toList.reverse.dropWhile (· = '/')).reverse := by
        rw [List.takeWhile_append_dropWhile, List.reverse_reverse]
    _ = _ := by
        rw [List.reverse_append]
        exact congrArg _ (by rw [slashes, List.reverse_replicate, List.length_replicate])

/-- Slashes at the end of a path add no part. -/
theorem filter_split_append_slashes (front : List Char) (n : Nat) :
    (split (front ++ List.replicate n '/')).filter (· ≠ []) = (split front).filter (· ≠ []) := by
  induction n generalizing front with
  | zero => rw [List.replicate_zero, List.append_nil]
  | succ n ih =>
    have none_in := ih []
    rw [List.nil_append] at none_in
    rw [List.replicate_succ, split_append_slash, List.filter_append, none_in]
    simp [split]

/-- **Slashes at the end of a path add no step by a name.** -/
theorem steps_withoutEndSlashes {path : String} (named : parts path ≠ []) :
    steps (withoutEndSlashes path) = (parts path).map String.ofList := by
  obtain ⟨n, hn⟩ := exists_slashes path
  generalize hf : (path.toList.reverse.dropWhile (· = '/')).reverse = front at hn
  have parts_eq : parts path = (split front).filter (· ≠ []) := by
    rw [parts, hn, filter_split_append_slashes]
  have some_front : front ≠ [] := by
    rintro rfl
    exact named (by rw [parts_eq]; simp [split])
  have trimmed : withoutEndSlashes path = String.ofList front := by
    unfold withoutEndSlashes
    simp [hf, some_front]
  have ends : (String.ofList front).endsWith "/" = false := by
    rw [Bool.eq_false_iff]
    intro ends
    obtain ⟨before, hb⟩ := (endsWith_slash_iff _).1 ends
    rw [String.toList_ofList] at hb
    rw [← hf, ← List.reverse_inj, List.reverse_reverse, List.reverse_append] at hb
    exact absurd (List.head?_dropWhile_not (· = '/') path.toList.reverse) (by rw [hb]; simp)
  rw [trimmed, steps_eq, ends, parts, String.toList_ofList, ← parts_eq]
  simp

/-- Slashes at the end of a path add no part. -/
theorem parts_withoutEndSlashes (path : String) : parts (withoutEndSlashes path) = parts path := by
  obtain ⟨n, hn⟩ := exists_slashes path
  unfold withoutEndSlashes
  simp only
  split
  · rfl
  · rw [parts, String.toList_ofList, parts, ← filter_split_append_slashes _ n, ← hn]

/-- A path into a directory has no slashes to leave out. -/
theorem withoutEndSlashes_join {base name : String} (named : base ≠ "") (plain : Plain name) :
    withoutEndSlashes (join base name) = join base name :=
  withoutEndSlashes_of_not_endsWith (join_not_endsWith named plain)

/-! ## The path around -/

/-- The text of components that are names: joined by slashes. -/
theorem toList_ofComponents {cs : List (List Char)} (relative : cs.head? ≠ some ['/']) :
    (ofComponents cs).toList = ['/'].intercalate cs := by
  unfold ofComponents
  split
  · next rest => simp at relative
  · rw [String.toList_intercalate, List.map_map]
    simp [Function.comp_def]

/-- The steps of a text that ends with parts that are not empty, and has only empty ones before
them. -/
theorem steps_of_split {path : String} {front ps : List (List Char)}
    (h : split path.toList = front ++ ps) (empty : front.filter (· ≠ []) = []) (some_part : ps ≠ [])
    (nonempty : ∀ p ∈ ps, p ≠ []) :
    steps path = ps.map String.ofList ∧ path.endsWith "/" = false := by
  have ends : path.endsWith "/" = false := by
    refine endsWith_slash_eq_false ?_
    rw [h, List.getLast?_append, List.getLast?_eq_some_getLast some_part]
    simpa using nonempty _ (List.getLast_mem some_part)
  have kept : ps.filter (· ≠ []) = ps := List.filter_eq_self.2 fun p hp => by simpa using nonempty p hp
  refine ⟨?_, ends⟩
  rw [steps_eq, ends, parts, h, List.filter_append, empty, kept]
  simp

/-- The root is a step by a single dot. -/
theorem steps_root : steps "/" = ["."] := by
  have ends : ("/" : String).endsWith "/" = true := (endsWith_slash_iff "/").2 ⟨[], rfl⟩
  rw [steps_eq, ends]
  rfl

/-- The parts without single dots are the steps without single dots. -/
theorem dotless_parts (ps : List (List Char)) :
    Dotless (ps.map String.ofList) ((ps.filter (· ≠ ['.'])).map String.ofList) := by
  have same : (fun x => decide (x ≠ ".")) ∘ String.ofList = fun p : List Char => decide (p ≠ ['.']) := by
    funext p
    rw [Function.comp_apply, decide_eq_decide, Ne, ← String.toList_inj, String.toList_ofList]
    rfl
  have h := Dotless.filter (ps.map String.ofList)
  rwa [List.filter_map, same] at h

/-- Parts that are all single dots lead where one single dot leads. -/
theorem dotless_dots {todo : List String} (some_step : todo ≠ []) (dots : ∀ name ∈ todo, name = ".") :
    Dotless todo ["."] := by
  induction todo with
  | nil => exact absurd rfl some_step
  | cons name todo ih =>
    obtain rfl := dots name List.mem_cons_self
    cases todo with
    | nil => exact .keep "." .nil
    | cons next todo => exact .drop (ih (by simp) fun n hn => dots n (List.mem_cons_of_mem _ hn))

/-- The parts of a path that are no single dots can be the steps of a path. -/
theorem clean_parts {base : String} {p : List Char} (hp : p ∈ (parts base).filter (· ≠ ['.'])) :
    p ≠ [] ∧ '/' ∉ p := by
  have member := (List.mem_filter.1 hp).1
  exact ⟨nonempty_of_mem_parts member, noSlash_of_mem_split (List.mem_filter.1 member).1⟩

/-- The path of an absolute path's components: the root, or the names after it. -/
theorem around_absolute {base : String} (named : parts base ≠ []) :
    Dotless ((parts base).map String.ofList)
        (steps (ofComponents ([['/']] ++ (parts base).filter (· ≠ ['.'])))) ∧
      withoutEndSlashes (ofComponents ([['/']] ++ (parts base).filter (· ≠ ['.']))) =
        ofComponents ([['/']] ++ (parts base).filter (· ≠ ['.'])) := by
  by_cases hc : (parts base).filter (· ≠ ['.']) = []
  · have root : ofComponents ([['/']] ++ (parts base).filter (· ≠ ['.'])) = "/" := by
      rw [hc]
      rfl
    rw [root, steps_root]
    refine ⟨dotless_dots (by simpa using named) fun name hname => ?_, rfl⟩
    obtain ⟨p, hp, rfl⟩ := List.mem_map.1 hname
    have dot := List.filter_eq_nil_iff.1 hc p hp
    rw [show p = ['.'] by simpa using dot]
  · have text : (ofComponents ([['/']] ++ (parts base).filter (· ≠ ['.']))).toList =
        '/' :: ['/'].intercalate ((parts base).filter (· ≠ ['.'])) := by
      simp [ofComponents, String.toList_intercalate, Function.comp_def]
    have hs : split (ofComponents ([['/']] ++ (parts base).filter (· ≠ ['.']))).toList =
        [[]] ++ (parts base).filter (· ≠ ['.']) := by
      rw [text, split, split_intercalate hc fun p hp => (clean_parts hp).2]
      rfl
    obtain ⟨he, ends⟩ := steps_of_split hs rfl hc fun p hp => (clean_parts hp).1
    rw [he]
    exact ⟨dotless_parts (parts base), withoutEndSlashes_of_not_endsWith ends⟩

/-- The steps of a path of components without a root are the components. -/
theorem steps_ofComponents {cs : List (List Char)} (some_component : cs ≠ [])
    (clean : ∀ p ∈ cs, p ≠ [] ∧ '/' ∉ p) :
    steps (ofComponents cs) = cs.map String.ofList ∧
      withoutEndSlashes (ofComponents cs) = ofComponents cs := by
  have text : (ofComponents cs).toList = ['/'].intercalate cs := by
    refine toList_ofComponents fun h => ?_
    exact absurd (clean _ (List.mem_of_mem_head? h)).2 (by simp)
  have hs : split (ofComponents cs).toList = [] ++ cs := by
    rw [text, split_intercalate some_component fun p hp => (clean p hp).2, List.nil_append]
  obtain ⟨he, ends⟩ := steps_of_split hs rfl some_component fun p hp => (clean p hp).1
  exact ⟨he, withoutEndSlashes_of_not_endsWith ends⟩

/-- **The path around leads where the directory is.** It has the steps of the directory, up to single
dots, and no slashes to leave out. -/
theorem around_eq {base : String} (named : parts base ≠ []) :
    Dotless ((parts base).map String.ofList) (steps (ofComponents (components base))) ∧
      withoutEndSlashes (ofComponents (components base)) = ofComponents (components base) := by
  have some_component := components_ne_nil fun e : base = "" => named (by rw [e]; rfl)
  rw [components_eq] at some_component ⊢
  split at some_component
  · next absolute =>
    rw [if_pos absolute]
    exact around_absolute named
  · next relative =>
    rw [if_neg relative]
    -- A single dot at the beginning of a relative path is kept.
    have clean : ∀ p ∈ (if (split base.toList).head? = some ['.'] then [['.']] else []) ++
        (parts base).filter (· ≠ ['.']), p ≠ [] ∧ '/' ∉ p := by
      intro p hp
      rcases List.mem_append.1 hp with hp | hp
      · split at hp
        · rw [List.mem_singleton.1 hp]
          simp
        · cases hp
      · exact clean_parts hp
    obtain ⟨he, whole⟩ := steps_ofComponents some_component clean
    refine ⟨?_, whole⟩
    rw [he]
    split
    · next dot =>
      obtain ⟨rest, hr⟩ := List.head?_eq_some_iff.1 dot
      have hp : parts base = ['.'] :: rest.filter (· ≠ []) := by
        rw [parts, hr, List.filter_cons_of_pos (by simp)]
      rw [hp, List.filter_cons_of_neg (by simp)]
      exact .keep "." (dotless_parts _)
    · exact dotless_parts (parts base)

end Disk

end Kennel
