import Kennel.Settings.Read
import Kennel.Proofs.Disk.Steps

/-!
# Snapshots and the live directory

Settings whose snapshots go to the live directory, or to a directory in it, are refused. Whether a
directory is inside another one is asked of the components of the two paths as they are written.

Here it is asked of the directories themselves. A path is resolved against a working directory:
dots are passed over, and two dots lead to the directory above (`Path.resolved`). **The check finds
what the resolved paths say exactly if both paths begin alike**, as long as neither goes up
(`Path.isWithin_iff_resolved`). So settings that write both directories in the same manner are accepted
exactly if the snapshots are outside and no other rule is broken (`Settings.snapshots_outside`).

## What the check misses

A directory of the working directory can be written with a dot in front of it, without one, or from
the root on. Two paths that begin differently are taken to be apart, whatever they lead to: a dot in
front of one of them is enough (`Path.isWithin_dotted`), and settings are accepted that put the
snapshots into the live directory (`Settings.snapshots_inside_unnoticed`). Nor are two dots resolved,
so of paths that go up the check says nothing that can be relied on.
-/

namespace Kennel

namespace Path

variable {cwd ps : List (List Char)} {a b : String}

/-! ## The directory that a path denotes -/

/-- The directory that one part of a path leads to; directories are the names from the root on. -/
def enter (dir : List (List Char)) (part : List Char) : List (List Char) :=
  if part = [] ∨ part = ['.'] then dir
  else if part = ['.', '.'] then dir.dropLast
  else dir ++ [part]

/-- The path begins at the root. -/
def IsAbsolute (path : String) : Prop := path.toList.head? = some '/'

instance (path : String) : Decidable (IsAbsolute path) :=
  inferInstanceAs (Decidable (path.toList.head? = some '/'))

/-- The directory that a path denotes, seen from a working directory. -/
def resolved (cwd : List (List Char)) (path : String) : List (List Char) :=
  (split path.toList).foldl enter (if IsAbsolute path then [] else cwd)

/-- The path never leads to the directory above. -/
def IsLevel (path : String) : Prop := ['.', '.'] ∉ split path.toList

instance (path : String) : Decidable (IsLevel path) :=
  inferInstanceAs (Decidable (['.', '.'] ∉ split path.toList))

/-! ## Components are an opening and names -/

/-- What the components of a path begin with, before its names: the root, a dot, or nothing. -/
def opening (path : String) : List (List Char) :=
  if IsAbsolute path then [['/']]
  else if (split path.toList).head? = some ['.'] then [['.']]
  else []

/-- The components of a path that are not its opening. -/
def names (path : String) : List (List Char) :=
  (split path.toList).filter fun p => p ≠ [] ∧ p ≠ ['.']

theorem components_eq_opening (path : String) : components path = opening path ++ names path := rfl

theorem opening_cases (path : String) :
    IsAbsolute path ∧ opening path = [['/']] ∨
      ¬ IsAbsolute path ∧ (opening path = [['.']] ∨ opening path = []) := by
  unfold opening
  split
  · exact .inl ⟨‹_›, rfl⟩
  · split <;> simp [*]

/-- Paths that begin alike are resolved from the same directory on. -/
theorem isAbsolute_congr (alike : opening a = opening b) : IsAbsolute a ↔ IsAbsolute b := by
  rcases opening_cases a with ⟨ha, oa⟩ | ⟨ha, oa | oa⟩ <;>
    rcases opening_cases b with ⟨hb, ob⟩ | ⟨hb, ob | ob⟩ <;> simp_all

/-- Names have no slash in them, and are not a dot. -/
theorem names_spec {name : List Char} (h : name ∈ names a) : '/' ∉ name ∧ name ≠ ['.'] := by
  obtain ⟨member, named⟩ := List.mem_filter.1 h
  exact ⟨noSlash_of_mem_split member, (of_decide_eq_true named).2⟩

/-! ## Comparing components -/

/-- How a path begins can be read off its first component. -/
theorem opening_of_head {first : List Char} (h : (components a).head? = some first) :
    opening a = if first = ['/'] ∨ first = ['.'] then [first] else [] := by
  rw [components_eq_opening] at h
  rcases opening_cases a with ⟨-, root⟩ | ⟨-, dot | bare⟩
  · rw [root, List.singleton_append, List.head?_cons, Option.some.injEq] at h
    rw [root, ← h, if_pos (.inl rfl)]
  · rw [dot, List.singleton_append, List.head?_cons, Option.some.injEq] at h
    rw [dot, ← h, if_pos (.inr rfl)]
  · rw [bare, List.nil_append] at h
    obtain ⟨slashless, undotted⟩ := names_spec (List.mem_of_head? h)
    rw [bare, if_neg]
    rintro (rfl | dot)
    · exact slashless List.mem_cons_self
    · exact undotted dot

/-- A path is only found inside one that begins alike. -/
theorem opening_eq_of_isWithin (written : b ≠ "") (within : isWithin a b = true) :
    opening a = opening b := by
  obtain ⟨rest, h⟩ := List.isPrefixOf_iff_prefix.1 within
  obtain ⟨first, more, hb⟩ := List.exists_cons_of_ne_nil (components_ne_nil written)
  have headB : (components b).head? = some first := by
    rw [hb]
    rfl
  have headA : (components a).head? = some first := by
    rw [← h, hb]
    rfl
  rw [opening_of_head headA, opening_of_head headB]

/-- A path that begins alike is found inside if its names begin with those of the other one. -/
theorem isWithin_iff_names (alike : opening a = opening b) :
    isWithin a b = true ↔ names b <+: names a := by
  rw [isWithin, List.isPrefixOf_iff_prefix, components_eq_opening,
    components_eq_opening, alike, List.prefix_append_right_inj]

/-- The parts of a level path lead from one directory to another below it. -/
theorem foldl_enter (level : ['.', '.'] ∉ ps) (dir : List (List Char)) :
    ps.foldl enter dir = dir ++ ps.filter fun p => p ≠ [] ∧ p ≠ ['.'] := by
  induction ps generalizing dir with
  | nil => simp
  | cons part ps ih =>
    rw [List.mem_cons, not_or] at level
    rw [List.foldl_cons, ih level.2, enter, List.filter_cons]
    by_cases passed : part = [] ∨ part = ['.']
    · rw [if_pos passed, if_neg (by simpa using fun filled => passed.resolve_left filled)]
    · rw [if_neg passed, if_neg fun up => level.1 up.symm, if_pos (by simpa using passed),
        List.append_assoc, List.singleton_append]

/-- A level path denotes its names, below the root or below the working directory. -/
theorem resolved_of_level (level : IsLevel a) :
    resolved cwd a = (if IsAbsolute a then [] else cwd) ++ names a :=
  foldl_enter level _

/-- **The check finds what is inside exactly if both paths begin alike**, for paths that do not go
up. -/
theorem isWithin_iff_resolved (cwd : List (List Char)) (written : b ≠ "") (levelA : IsLevel a)
    (levelB : IsLevel b) :
    isWithin a b = true ↔ opening a = opening b ∧ resolved cwd b <+: resolved cwd a := by
  have same (alike : opening a = opening b) :
      resolved cwd b <+: resolved cwd a ↔ isWithin a b = true := by
    simp only [resolved_of_level levelA, resolved_of_level levelB, isAbsolute_congr alike,
      List.prefix_append_right_inj, isWithin_iff_names alike]
  constructor
  · intro within
    have alike := opening_eq_of_isWithin written within
    exact ⟨alike, (same alike).2 within⟩
  · rintro ⟨alike, inside⟩
    exact (same alike).1 inside

/-- A path that goes up can come back to a directory in which it is not found. -/
example : isWithin "data/pups/../nix" "data/nix" = false ∧
    resolved [] "data/pups/../nix" = resolved [] "data/nix" := by decide +kernel

/-- A relative path with a dot in front denotes the same directory, and is taken to be apart from
every directory that is written without one. -/
theorem isWithin_dotted (relative : ¬ IsAbsolute a) (written : b ≠ "") (bare : opening b = []) :
    isWithin ("./" ++ a) b = false ∧ ∀ cwd, resolved cwd ("./" ++ a) = resolved cwd a := by
  have cut : split ("./" ++ a).toList = ['.'] :: split a.toList := by
    rw [String.toList_append]
    rfl
  have dotted : ¬ IsAbsolute ("./" ++ a) := by
    unfold IsAbsolute
    rw [String.toList_append]
    exact nofun
  constructor
  · rw [Bool.eq_false_iff]
    intro within
    have alike := opening_eq_of_isWithin written within
    rw [bare, opening, if_neg dotted, cut] at alike
    cases alike
  · intro cwd
    rw [resolved, resolved, if_neg dotted, if_neg relative, cut]
    rfl

end Path

namespace Settings

variable {text : String} {s : Settings}

/-- Settings are accepted exactly if the text holds them and they break no rule. -/
theorem read_eq_ok_iff :
    read text = .ok s ↔ (Toml.read? text).bind fields.decoder = some s ∧ s.problem? = none := by
  unfold read
  split
  · next undecoded => simp [undecoded]
  · next t decoded =>
    rw [decoded, Option.some.injEq]
    split
    · next problem broken =>
      refine ⟨nofun, ?_⟩
      rintro ⟨rfl, kept⟩
      rw [broken] at kept
      cases kept
    · next kept =>
      rw [Except.ok.injEq]
      exact ⟨fun same => ⟨same, same ▸ kept⟩, And.left⟩

theorem problem?_eq_none_iff : s.problem? = none ↔ ∀ rule ∈ s.rules, rule.2 = true := by
  simp [problem?, List.find?_eq_none]

/-- The settings break no rule but possibly the one on the directory of the snapshots. -/
def KeepsOtherRules (s : Settings) : Prop :=
  ∀ rule ∈ s.rules, rule.1 ≠ .snapshotInsideConfig → rule.2 = true

theorem mem_rules_snapshotInsideConfig {kept : Bool} : (.snapshotInsideConfig, kept) ∈ s.rules ↔
    kept = !Path.isWithin s.storage.snapshotDir s.storage.configDir := by
  simp [rules]

theorem problem?_eq_none_iff_outside : s.problem? = none ↔
    s.KeepsOtherRules ∧ Path.isWithin s.storage.snapshotDir s.storage.configDir = false := by
  rw [problem?_eq_none_iff]
  constructor
  · intro kept
    exact ⟨fun rule member _ => kept rule member,
      by simpa using kept _ (mem_rules_snapshotInsideConfig.2 rfl)⟩
  · rintro ⟨others, apart⟩ ⟨problem, kept⟩ member
    by_cases own : problem = .snapshotInsideConfig
    · subst own
      rw [mem_rules_snapshotInsideConfig.1 member, apart]
      rfl
    · exact others _ member own

theorem KeepsOtherRules.configDir_ne_empty (h : s.KeepsOtherRules) : s.storage.configDir ≠ "" :=
  of_decide_eq_true (h (.emptyConfigDir, decide (s.storage.configDir ≠ "")) (by simp [rules]) nofun)

/-- **Snapshots stay out of the live directory**, if both directories are written in the same manner.
Wherever the daemon works, the settings of a text are then accepted exactly if they break no other rule
and the directory of the snapshots is neither the live one nor a directory in it. -/
theorem snapshots_outside
    (alike : Path.opening s.storage.snapshotDir = Path.opening s.storage.configDir)
    (snapshotLevel : Path.IsLevel s.storage.snapshotDir)
    (configLevel : Path.IsLevel s.storage.configDir) (cwd : List (List Char)) :
    read text = .ok s ↔ (Toml.read? text).bind fields.decoder = some s ∧ s.KeepsOtherRules ∧
      ¬ Path.resolved cwd s.storage.configDir <+: Path.resolved cwd s.storage.snapshotDir := by
  rw [read_eq_ok_iff, problem?_eq_none_iff_outside]
  refine and_congr_right fun _ => and_congr_right fun kept => ?_
  have check := Path.isWithin_iff_resolved cwd kept.configDir_ne_empty snapshotLevel configLevel
  rw [and_iff_right alike] at check
  rw [← check, Bool.not_eq_true]

/-- A text is accepted if its settings break no rule. -/
theorem accepted_of_decoded {storage : Storage}
    (decoded : ((Toml.read? text).bind fields.decoder).map (fun s => (s.storage, s.problem?)) =
      some (storage, none)) :
    ∃ s, read text = .ok s ∧ s.storage = storage := by
  obtain ⟨s, decoded, parts⟩ := Option.map_eq_some_iff.1 decoded
  obtain ⟨same, kept⟩ := Prod.mk.inj parts
  exact ⟨s, read_eq_ok_iff.2 ⟨decoded, kept⟩, same⟩

/-- Settings with the snapshots beside the live directory. -/
def snapshotsBeside : String := "[server]
port = 8081
host = \"127.0.0.1\"
[storage]
pups_dir = \"data/pups\"
config_dir = \"data/nix\"
snapshot_dir = \"data/snapshots\"
[monitoring]
slow_interval_ms = 5000
fast_interval_ms = 1000
metric_buffer_size = 30
[publishing]
subscriber_capacity = 16
[rebuild]
command = [\"nixos-rebuild\", \"switch\"]
"

theorem decoded_snapshotsBeside :
    ((Toml.read? snapshotsBeside).bind fields.decoder).map (fun s => (s.storage, s.problem?)) =
      some (⟨"data/pups", "data/nix", "data/snapshots", none⟩, none) := by
  rw [snapshotsBeside, Toml.read?_ofList]
  decide +kernel

/-- The settings with two directories beside each other are accepted. -/
theorem snapshots_outside_beside :
    ∃ s, read snapshotsBeside = .ok s ∧
      s.storage = ⟨"data/pups", "data/nix", "data/snapshots", none⟩ ∧
      Path.opening s.storage.snapshotDir = Path.opening s.storage.configDir ∧
      Path.IsLevel s.storage.snapshotDir ∧ Path.IsLevel s.storage.configDir ∧
      ∀ cwd, ¬ Path.resolved cwd s.storage.configDir <+: Path.resolved cwd s.storage.snapshotDir := by
  obtain ⟨s, accepted, storage⟩ := accepted_of_decoded decoded_snapshotsBeside
  have alike : Path.opening s.storage.snapshotDir = Path.opening s.storage.configDir := by
    rw [storage]
    decide +kernel
  have snapshotLevel : Path.IsLevel s.storage.snapshotDir := by
    rw [storage]
    decide +kernel
  have configLevel : Path.IsLevel s.storage.configDir := by
    rw [storage]
    decide +kernel
  exact ⟨s, accepted, storage, alike, snapshotLevel, configLevel, fun cwd =>
    ((snapshots_outside alike snapshotLevel configLevel cwd).1 accepted).2.2⟩

/-- Settings with the snapshots in the live directory; a dot stands in front of only one of them. -/
def snapshotsInside : String := "[server]
port = 8081
host = \"127.0.0.1\"
[storage]
pups_dir = \"data/pups\"
config_dir = \"data/nix\"
snapshot_dir = \"./data/nix/snapshots\"
[monitoring]
slow_interval_ms = 5000
fast_interval_ms = 1000
metric_buffer_size = 30
[publishing]
subscriber_capacity = 16
[rebuild]
command = [\"nixos-rebuild\", \"switch\"]
"

theorem decoded_snapshotsInside :
    ((Toml.read? snapshotsInside).bind fields.decoder).map (fun s => (s.storage, s.problem?)) =
      some (⟨"data/pups", "data/nix", "./data/nix/snapshots", none⟩, none) := by
  rw [snapshotsInside, Toml.read?_ofList]
  decide +kernel

/-- **A dot is enough to put the snapshots into the live directory.** The settings are accepted, and
wherever the daemon works, the directory of the snapshots is in the live one. -/
theorem snapshots_inside_unnoticed :
    ∃ s, read snapshotsInside = .ok s ∧
      s.storage = ⟨"data/pups", "data/nix", "./data/nix/snapshots", none⟩ ∧
      ∀ cwd, Path.resolved cwd s.storage.configDir <+: Path.resolved cwd s.storage.snapshotDir := by
  obtain ⟨s, accepted, storage⟩ := accepted_of_decoded decoded_snapshotsInside
  refine ⟨s, accepted, storage, fun cwd => ?_⟩
  have config : Path.IsLevel "data/nix" := by decide +kernel
  have snapshots : Path.IsLevel "./data/nix/snapshots" := by decide +kernel
  rw [storage, Path.resolved_of_level config, Path.resolved_of_level snapshots,
    if_neg (by decide +kernel), if_neg (by decide +kernel), List.prefix_append_right_inj]
  decide +kernel

end Settings

end Kennel
