import Kennel.Monitoring.Observation
import Kennel.Proofs.Data.Dict

/-!
# What stats show

What is seen of a pup is one observation after another: a service of it was sampled, or values of its
metrics came in. Its stats are a function of these sightings in their order (`Stats.Shows`): the status
is the last one that was derived, and each series holds the last values of its kind, as many as there
is room for.

`Rolling.ofLast` says what a series holds after any values; one push leads from there to what it holds
after one value more (`Rolling.push_ofLast`). So one observation leads from stats that show what was
seen to stats that show it with the observation (`Stats.Shows.observe`, `Stats.Shows.recordMetrics`).
-/

namespace Kennel

/-! ## Series -/

/-- The series of the last of these values; it has room for `size` of them, and for one if that is
zero. -/
def Rolling.ofLast {α : Type} (size : Nat) (values : List α) : Rolling α :=
  ⟨max size 1, values.drop (values.length - max size 1)⟩

namespace Rolling

variable {α : Type}

theorem ofLast_nil (size : Nat) : ofLast size ([] : List α) = ofCapacity size := by
  rw [ofLast, List.drop_nil, ofCapacity]

/-- **A push onto the series of the last values gives the series of the last values.** -/
theorem push_ofLast (size : Nat) (values : List α) (v : α) :
    (ofLast size values).push v = ofLast size (values ++ [v]) := by
  have some : 1 ≤ max size 1 := Nat.le_max_right size 1
  unfold push ofLast
  generalize max size 1 = room at some
  simp only [List.length_drop, List.length_append, List.length_singleton, List.drop_drop]
  split
  · -- The series was full, so the oldest of its values goes.
    have next : values.length + 1 - room = values.length - room + 1 := by omega
    rw [next, List.drop_append_of_le_length (by omega)]
  · have none : values.length - room = 0 := by omega
    have still : values.length + 1 - room = 0 := by omega
    rw [none, still, List.drop_zero, List.drop_zero]

/-- A value that may not have been measured joins the series if it was. -/
theorem elim_push_ofLast (size : Nat) (values : List α) (v : Option α) :
    v.elim (ofLast size values) (ofLast size values).push = ofLast size (values ++ v.toList) := by
  cases v with
  | none => rw [Option.elim_none, Option.toList_none, List.append_nil]
  | some v => exact push_ofLast size values v

end Rolling

/-! ## Sightings -/

/-- What can be seen of a pup. -/
inductive Sighting where
  /-- A service of the pup was sampled, while its owner wanted it to run or not. -/
  | sampled (enabled slow : Bool) (v : Vitals)
  /-- Values of metrics came in. -/
  | metered (values : Dict Float)

namespace Sighting

/-- The status that follows from a sighting. -/
def status? : Sighting → Option Status
  | sampled enabled _ v => some (.derive enabled v.running)
  | metered _ => none

/-- What a sample of the slow kind measured. -/
def measured? : Sighting → Option Vitals
  | sampled _ true v => some v
  | _ => none

/-- The value of a metric that came in. -/
def metric? (name : String) : Sighting → Option Float
  | metered values => values.get? name
  | sampled _ _ _ => none

end Sighting

/-- The stats are what was seen of a pup with this manifest: the status is the last one that was
derived, and each series holds the last values of its kind. -/
structure Stats.Shows (s : Stats) (manifest : Manifest) (size : Nat) (seen : List Sighting) :
    Prop where
  status : s.status = (seen.filterMap Sighting.status?).getLast?.getD .stopped
  cpuPercent : s.cpuPercent = .ofLast size ((seen.filterMap Sighting.measured?).map (·.cpuPercent))
  memMb : s.memMb = .ofLast size ((seen.filterMap Sighting.measured?).map (·.memMb))
  memPercent : s.memPercent = .ofLast size ((seen.filterMap Sighting.measured?).map (·.memPercent))
  diskMb : s.diskMb = .ofLast size ((seen.filterMap Sighting.measured?).filterMap (·.diskMb))
  metrics : ∀ name, s.metrics.get? name =
    if name ∈ manifest.metrics.map (·.name) then
      some (.ofLast size (seen.filterMap (Sighting.metric? name)))
    else none

namespace Stats.Shows

variable {s : Stats} {manifest : Manifest} {size : Nat} {seen : List Sighting}

/-- Stats start with nothing seen. -/
theorem start (id : String) (manifest : Manifest) (size : Nat) :
    (Stats.start id manifest size).Shows manifest size [] where
  status := rfl
  cpuPercent := (Rolling.ofLast_nil size).symm
  memMb := (Rolling.ofLast_nil size).symm
  memPercent := (Rolling.ofLast_nil size).symm
  diskMb := (Rolling.ofLast_nil size).symm
  metrics name := by
    have declared : (Stats.start id manifest size).metrics =
        Dict.ofList ((manifest.metrics.map (·.name)).map (·, Rolling.ofCapacity size)) := by
      rw [List.map_map]
      rfl
    rw [declared, Dict.get?_ofList_const, List.filterMap_nil, Rolling.ofLast_nil]

/-- **An observation of a service joins what was seen.** -/
theorem observe (h : s.Shows manifest size seen) (enabled slow : Bool) (v : Vitals) :
    (s.observe enabled slow v).Shows manifest size (seen ++ [.sampled enabled slow v]) := by
  cases slow with
  | false =>
    constructor <;> simp only [Stats.observe, List.filterMap_append, List.filterMap_cons,
      List.filterMap_nil, Sighting.status?, Sighting.measured?, Sighting.metric?, List.append_nil]
    · simp
    · exact h.cpuPercent
    · exact h.memMb
    · exact h.memPercent
    · exact h.diskMb
    · exact h.metrics
  | true =>
    constructor <;> simp only [Stats.observe, Stats.measure, List.filterMap_append,
      List.filterMap_cons, List.filterMap_nil, Sighting.status?, Sighting.measured?,
      Sighting.metric?, List.append_nil, List.map_append]
    · simp
    · rw [h.cpuPercent, Rolling.push_ofLast]
      rfl
    · rw [h.memMb, Rolling.push_ofLast]
      rfl
    · rw [h.memPercent, Rolling.push_ofLast]
      rfl
    · rw [h.diskMb, Rolling.elim_push_ofLast]
      cases v.diskMb <;> rfl
    · exact h.metrics

/-- The observations of a sample join what was seen. -/
theorem foldl_observe (h : s.Shows manifest size seen) (enabled slow : Bool) (sample : Sample) :
    (sample.foldl (fun s o => s.observe enabled slow o.2) s).Shows manifest size
      (seen ++ sample.map fun o => .sampled enabled slow o.2) := by
  induction sample generalizing s seen with
  | nil => simpa using h
  | cons o sample ih => simpa using ih (h.observe enabled slow o.2)

/-- **Values of metrics join what was seen.** -/
theorem recordMetrics (h : s.Shows manifest size seen) (values : Dict Float) :
    (s.recordMetrics values).Shows manifest size (seen ++ [.metered values]) := by
  constructor <;> simp only [Stats.recordMetrics, List.filterMap_append, List.filterMap_cons,
    List.filterMap_nil, Sighting.status?, Sighting.measured?, Sighting.metric?, List.append_nil]
  · exact h.status
  · exact h.cpuPercent
  · exact h.memMb
  · exact h.memPercent
  · exact h.diskMb
  · intro name
    rw [Dict.get?_mapWithKey, h.metrics name]
    split
    · rw [Option.map_some, Rolling.elim_push_ofLast]
      cases values.get? name <;> rfl
    · rfl

end Stats.Shows

end Kennel
