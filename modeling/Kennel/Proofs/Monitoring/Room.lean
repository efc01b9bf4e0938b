import Kennel.Proofs.Json.Taken
import Kennel.Proofs.Monitoring.Series

/-!
# The room in a series

A series fits its room if there is room for a value in it and it holds no more values than there is
room for (`Rolling.Fits`). Whatever is pushed onto a series that fits, it holds the latest values
(`Rolling.pushAll_of_fits`). A series that does not fit is never exactly full again, so that no push
drops a value (`Rolling.pushAll_of_not_fits`). **So a series keeps to its room exactly if it fits**
(`Rolling.keepsLatest_iff_fits`).

A series that is made for some capacity fits. Of a series that is read from a text neither the
capacity nor the number of values is looked at, so it need not fit (`Rolling.takes`).
-/

namespace Kennel

open Json

namespace Rolling

variable {α : Type}

/-- The series after values were pushed onto it, one after another. -/
def pushAll (r : Rolling α) (pushed : List α) : Rolling α := pushed.foldl push r

/-- There is room for a value in the series, and it holds no more than there is room for. -/
structure Fits (r : Rolling α) : Prop where
  room : 1 ≤ r.capacity
  within : r.values.length ≤ r.capacity

/-- After one push or more the series holds no more values than there is room for, or one if there is
room for none; and they are the latest of those that it held and was given, the oldest first. -/
def KeepsLatest (r : Rolling α) : Prop :=
  ∀ pushed, pushed ≠ [] → (r.pushAll pushed).values.length ≤ max 1 r.capacity ∧
    (r.pushAll pushed).values = (ofLast r.capacity (r.values ++ pushed)).values

variable {r : Rolling α}

theorem fits_ofCapacity (n : Nat) : (ofCapacity n : Rolling α).Fits :=
  ⟨Nat.le_max_right n 1, Nat.zero_le _⟩

/-- Pushes onto the series of the last values give the series of the last values. -/
theorem pushAll_ofLast (size : Nat) (values pushed : List α) :
    (ofLast size values).pushAll pushed = ofLast size (values ++ pushed) := by
  unfold pushAll
  induction pushed generalizing values with
  | nil => rw [List.append_nil, List.foldl_nil]
  | cons v pushed ih => rw [List.foldl_cons, push_ofLast, ih, List.append_assoc, List.singleton_append]

/-- A series that fits is the series of the last of its values. -/
theorem Fits.eq_ofLast (h : r.Fits) : r = ofLast r.capacity r.values := by
  rw [ofLast, Nat.max_eq_left h.room, Nat.sub_eq_zero_of_le h.within, List.drop_zero]

/-- **A series that fits holds the latest values**, whatever is pushed onto it. -/
theorem pushAll_of_fits (h : r.Fits) (pushed : List α) :
    r.pushAll pushed = ofLast r.capacity (r.values ++ pushed) :=
  calc r.pushAll pushed = (ofLast r.capacity r.values).pushAll pushed := by rw [← h.eq_ofLast]
    _ = ofLast r.capacity (r.values ++ pushed) := pushAll_ofLast _ _ _

/-- A push onto a series that does not fit drops nothing, and the series does not fit after it. -/
theorem push_of_not_fits (h : ¬ r.Fits) (v : α) :
    r.push v = ⟨r.capacity, r.values ++ [v]⟩ ∧ ¬ (r.push v).Fits := by
  have kept : r.push v = ⟨r.capacity, r.values ++ [v]⟩ := by
    unfold push
    split
    · next full =>
      -- It is exactly full, so there is room for nothing, and nothing to drop.
      have empty : r.values.length = 0 := by
        by_contra some
        exact h ⟨by omega, Nat.le_of_eq full⟩
      rw [List.length_eq_zero_iff.1 empty]
      rfl
    · rfl
  refine ⟨kept, fun fits => h ⟨?_, ?_⟩⟩
  · rw [kept] at fits
    exact fits.room
  · have within := fits.within
    rw [kept, List.length_append] at within
    exact Nat.le_of_add_right_le within

/-- **A series that does not fit grows with every push.** -/
theorem pushAll_of_not_fits (h : ¬ r.Fits) (pushed : List α) :
    r.pushAll pushed = ⟨r.capacity, r.values ++ pushed⟩ := by
  unfold pushAll
  induction pushed generalizing r with
  | nil => rw [List.append_nil, List.foldl_nil]
  | cons v pushed ih =>
    obtain ⟨kept, still⟩ := push_of_not_fits h v
    rw [List.foldl_cons, ih still, kept, List.append_assoc, List.singleton_append]

/-- **A series keeps to its room exactly if it fits.** -/
theorem keepsLatest_iff_fits [Inhabited α] : r.KeepsLatest ↔ r.Fits := by
  refine ⟨fun keeps => ?_, fun fits pushed _ => ?_⟩
  · by_contra unfit
    -- Two pushes are too many also for a series that was empty and has no room.
    obtain ⟨few, -⟩ := keeps [default, default] (List.cons_ne_nil _ _)
    rw [pushAll_of_not_fits unfit, List.length_append] at few
    refine unfit ⟨?_, ?_⟩ <;> simp only [List.length_cons, List.length_nil] at few <;> omega
  · rw [pushAll_of_fits fits]
    refine ⟨?_, rfl⟩
    rw [ofLast, List.length_drop]
    omega

/-- The JSON shape of a series of whole numbers. -/
def shape (capacity : UInt64) (values : List UInt64) : Value := .object
  [("capacity", .nat capacity.toNat), ("values", .list (fun v => .nat v.toNat) values)]

/-- **A series is taken as it is written**, whatever its capacity and however many values it has. -/
theorem takes (capacity : UInt64) (values : List UInt64) :
    Rolling.fields.decoder.Takes (shape capacity values)
      ⟨capacity.toNat, values.map UInt64.toFloat⟩ :=
  Fields.Takes.pure Rolling.mk
    |>.field (.natural capacity.toNat_lt capacity.toNat_lt) (by simp)
    |>.field (.list_map .real values) (by simp)
    |>.decoder

end Rolling

/-- **A series keeps to its room exactly if it fits**: then it has the latest values, and one that does
not fit keeps every value that is pushed onto it. A series that is made for any capacity fits; but a text
can bring a series with any capacity and any number of values, whether it fits or not. -/
theorem series_keep_latest_iff (r : Rolling Float) :
    (r.KeepsLatest ↔ r.Fits) ∧
    (¬ r.Fits → ∀ pushed, r.pushAll pushed = ⟨r.capacity, r.values ++ pushed⟩) ∧
    (∀ n, (Rolling.ofCapacity n : Rolling Float).Fits) ∧
    ∀ capacity values, Json.decodeBytes Rolling.fields.decoder
        (Rolling.shape capacity values).pretty.toUTF8 =
      .ok ⟨capacity.toNat, values.map UInt64.toFloat⟩ :=
  ⟨Rolling.keepsLatest_iff_fits, Rolling.pushAll_of_not_fits, Rolling.fits_ofCapacity,
    fun capacity values => (Rolling.takes capacity values).decodeBytes⟩

/-- A series that is read with no room for a value holds both of two values that are pushed onto it. -/
theorem roomless_series_grows :
    ∃ r, Json.decodeText Rolling.fields.decoder "\x7b\"capacity\":0,\"values\":[]\x7d" = .ok r ∧
      (r.pushAll [1.0, 2.0]).values = [1.0, 2.0] ∧ ¬ r.KeepsLatest := by
  have read : (Json.decodeText Rolling.fields.decoder "\x7b\"capacity\":0,\"values\":[]\x7d").map
      (fun r => (r.capacity, r.values.length)) = .ok (0, 0) := by decide +kernel
  cases taken : Json.decodeText Rolling.fields.decoder "\x7b\"capacity\":0,\"values\":[]\x7d" with
  | error f =>
    rw [taken] at read
    cases read
  | ok r =>
    rw [taken] at read
    obtain ⟨none, empty⟩ := Prod.mk.inj (Except.ok.inj read)
    have unfit : ¬ r.Fits := fun fits => absurd fits.room (by omega)
    refine ⟨r, rfl, ?_, fun keeps => unfit (Rolling.keepsLatest_iff_fits.1 keeps)⟩
    rw [Rolling.pushAll_of_not_fits unfit, List.length_eq_zero_iff.1 empty, List.nil_append]

/-- A series of two values with room for three is read, and keeps to its room. -/
theorem series_keep_latest_iff_roomy :
    Json.decodeBytes Rolling.fields.decoder (Rolling.shape 3 [1, 2]).pretty.toUTF8 =
        .ok ⟨3, [UInt64.toFloat 1, UInt64.toFloat 2]⟩ ∧
      (⟨3, [UInt64.toFloat 1, UInt64.toFloat 2]⟩ : Rolling Float).KeepsLatest := by
  obtain ⟨kept, -, -, read⟩ := series_keep_latest_iff ⟨3, [UInt64.toFloat 1, UInt64.toFloat 2]⟩
  exact ⟨read 3 [1, 2], kept.2 ⟨by decide, by decide⟩⟩

end Kennel
