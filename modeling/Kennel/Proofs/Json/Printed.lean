import Mathlib.Data.List.Forall2
import Kennel.Proofs.Json.Text

/-!
# Printed values read back

The text of a value, in either layout and at any depth, is read as the value up to the first glyph
that does not belong to it. `Value.ReadAs` says that of one value, and there is one lemma for each
kind of value: a string, a natural number of 64 bits, a list and an object are read as what they are,
if their parts are.
-/

namespace Kennel.Json

open List (Forall₂)

/-! ## Blanks -/

/-- The character separates what stands around it and has no other meaning. -/
def IsBlank (c : Char) : Prop := c = ' ' ∨ c = '\n' ∨ c = '\t' ∨ c = '\r'

theorem skipBlanks_blanks {bs : List Char} (h : ∀ c ∈ bs, IsBlank c) (s : List Glyph) :
    skipBlanks (glyphs bs ++ s) = skipBlanks s := by
  induction bs with
  | nil => rfl
  | cons c bs ih =>
    rw [glyphs_cons, List.cons_append, skipBlanks]
    exact (if_pos (h c List.mem_cons_self)).trans (ih fun c hc => h c (List.mem_cons_of_mem _ hc))

theorem skipBlanks_of_not_blank {c : Char} (h : ¬ IsBlank c) (s : List Glyph) :
    skipBlanks (.char c :: s) = .char c :: s := by
  rw [skipBlanks]
  exact if_neg h

theorem skipBlanks_lineBreak (layout : Layout) (depth : Nat) (s : List Glyph) :
    skipBlanks (glyphs (layout.lineBreak depth) ++ s) = skipBlanks s := by
  refine skipBlanks_blanks (fun c hc => ?_) s
  cases layout with
  | compact => cases hc
  | pretty =>
    rcases List.mem_cons.1 hc with rfl | hc
    · exact .inr (.inl rfl)
    · exact .inl (List.eq_of_mem_replicate hc)

theorem skipBlanks_skipBlanks (s : List Glyph) : skipBlanks (skipBlanks s) = skipBlanks s := by
  induction s with
  | nil => rfl
  | cons g s ih =>
    cases g with
    | stray n => rfl
    | char c =>
      by_cases h : IsBlank c
      · have step : skipBlanks (.char c :: s) = skipBlanks s := by
          rw [skipBlanks]
          exact if_pos h
        rw [step, ih]
      · rw [skipBlanks_of_not_blank h, skipBlanks_of_not_blank h]

/-- A value is read after blanks as without them. -/
theorem readValue_congr {s t : List Glyph} (h : skipBlanks s = skipBlanks t) (fuel : Nat) :
    readValue fuel s = readValue fuel t := by
  cases fuel with
  | zero => rfl
  | succ fuel =>
    rw [readValue.eq_def, readValue.eq_def]
    simp only [h]

/-- A member is read after blanks as without them. -/
theorem readMember_congr {s t : List Glyph} (h : skipBlanks s = skipBlanks t) (fuel : Nat)
    (done : List (Key × Reading)) : readMember fuel done s = readMember fuel done t := by
  cases fuel with
  | zero => rfl
  | succ fuel =>
    rw [readMember.eq_def, readMember.eq_def]
    simp only [h]

/-! ## Single values -/

/-- The text of a value is read as `r`, in each layout and whatever can follow it. -/
structure Value.ReadAs (v : Value) (r : Reading) : Prop where
  starts : ∀ layout depth, ∃ c t, v.print layout depth = c :: t ∧ ¬ IsBlank c ∧ c ≠ ']'
  read : ∀ layout depth fuel rest, Ends rest → (v.print layout depth).length < fuel →
    readValue fuel (glyphs (v.print layout depth) ++ rest) = (r, rest)

namespace Value.ReadAs

theorem null : Value.null.ReadAs .null where
  starts _ _ := ⟨'n', _, rfl, by simp [IsBlank], by decide⟩
  read layout depth fuel rest _ h := by
    obtain ⟨fuel, rfl⟩ : ∃ n, fuel = n + 1 := ⟨fuel - 1, by omega⟩
    rfl

theorem bool (b : Bool) : (Value.bool b).ReadAs (.bool b) where
  starts _ _ := by
    cases b
    · exact ⟨'f', _, rfl, by simp [IsBlank], by decide⟩
    · exact ⟨'t', _, rfl, by simp [IsBlank], by decide⟩
  read layout depth fuel rest _ h := by
    obtain ⟨fuel, rfl⟩ : ∃ n, fuel = n + 1 := ⟨fuel - 1, by omega⟩
    cases b <;> rfl

theorem string (s : String) : (Value.string s).ReadAs (.string (.ok s)) where
  starts _ _ := ⟨'"', _, rfl, by simp [IsBlank], by decide⟩
  read layout depth fuel rest _ h := by
    obtain ⟨fuel, rfl⟩ : ∃ n, fuel = n + 1 := ⟨fuel - 1, by omega⟩
    have long := length_lt_quoted s.toList
    rw [Value.print] at h ⊢
    rw [quoted, List.cons_append, glyphs_cons, List.cons_append, readValue.eq_def]
    simp only [skipBlanks_of_not_blank (show ¬ IsBlank '"' by simp [IsBlank]), if_true]
    rw [readString_quoted s fuel (by omega)]

theorem nat {n : Nat} (h : n < Nat.pow 2 64) : (Value.nat n).ReadAs (.number (.ok (.int n))) := by
  have text : ∀ layout depth, (Value.nat n).print layout depth = Nat.toDigits 10 n := by
    intro layout depth
    simp [Value.nat, Value.print, Number.text, Number.intText, Number.digitsOf]
  obtain ⟨c, ds, hd⟩ := List.exists_cons_of_ne_nil (Nat.toDigits_ne_nil (n := n) (b := 10))
  have digit : c.isDigit = true :=
    Nat.isDigit_of_mem_toDigits (by decide) (by decide) (hd ▸ List.mem_cons_self)
  have bounds : '0' ≤ c ∧ c ≤ '9' := by
    simp only [Char.isDigit, Bool.and_eq_true, decide_eq_true_eq] at digit
    exact digit
  have other : ∀ e : Char, e.isDigit = false → c ≠ e := fun e he h => by
    rw [h, he] at digit
    cases digit
  have visible : ¬ IsBlank c := by
    rintro (h | h | h | h)
    all_goals exact other _ (by decide) h
  refine ⟨fun layout depth => ⟨c, ds, (text layout depth).trans hd, visible, other _ (by decide)⟩,
    fun layout depth fuel rest ends long => ?_⟩
  obtain ⟨fuel, rfl⟩ : ∃ n, fuel = n + 1 := ⟨fuel - 1, by omega⟩
  obtain ⟨l, read, taken⟩ := readNumber_digits h ends
  rw [hd, glyphs_cons, List.cons_append] at read
  rw [text, hd, glyphs_cons, List.cons_append, readValue.eq_def]
  simp only [skipBlanks_of_not_blank visible]
  rw [if_neg (other _ (by decide)), if_neg (other _ (by decide)), if_neg (other _ (by decide)),
    if_neg (other _ (by decide)), if_neg (other _ (by decide)), if_neg (other _ (by decide)),
    if_pos (.inr bounds), read]
  simp only [taken]

end Value.ReadAs

/-! ## Lists -/

theorem ends_lineBreak (layout : Layout) (depth : Nat) {c : Char} (h : c = ']' ∨ c = '}')
    (rest : List Glyph) : Ends (glyphs (layout.lineBreak depth ++ [c]) ++ rest) := by
  cases layout with
  | compact =>
    rcases h with rfl | rfl
    · simp [Ends, Layout.lineBreak]
    · simp [Ends, Layout.lineBreak]
  | pretty => simp [Ends, Layout.lineBreak]

/-- Further items are followed by nothing that could belong to the item before. -/
theorem ends_printItems (layout : Layout) (deep depth : Nat) (vs : List Value) (rest : List Glyph) :
    Ends (glyphs (Value.printItems layout deep vs ++ (layout.lineBreak depth ++ [']'])) ++ rest) := by
  cases vs with
  | nil => exact ends_lineBreak layout depth (.inl rfl) rest
  | cons v vs => simp [Ends, Value.printItems]

/-- Further items are read up to the end of the list. -/
theorem readItems_printItems {vs : List Value} {rs : List Reading}
    (h : Forall₂ Value.ReadAs vs rs) (layout : Layout) (deep depth fuel : Nat)
    (done : List Reading) (rest : List Glyph)
    (enough : (Value.printItems layout deep vs).length + 1 < fuel) :
    readItems fuel done
        (glyphs (Value.printItems layout deep vs ++ (layout.lineBreak depth ++ [']'])) ++ rest) =
      (.array (done.reverse ++ rs) .closed, rest) := by
  induction h generalizing fuel done with
  | nil =>
    obtain ⟨fuel, rfl⟩ : ∃ n, fuel = n + 1 := ⟨fuel - 1, by omega⟩
    rw [Value.printItems, List.nil_append, glyphs_append, List.append_assoc, readItems.eq_def]
    simp only [skipBlanks_lineBreak]
    simp [skipBlanks_of_not_blank (show ¬ IsBlank ']' by simp [IsBlank])]
  | @cons v r vs rs hv _ ih =>
    obtain ⟨fuel, rfl⟩ : ∃ n, fuel = n + 1 := ⟨fuel - 1, by omega⟩
    simp only [Value.printItems, List.length_append, List.length_cons] at enough
    have read := hv.read layout deep fuel
      (glyphs (Value.printItems layout deep vs ++ (layout.lineBreak depth ++ [']'])) ++ rest)
      (ends_printItems layout deep depth vs rest) (by omega)
    rw [← readValue_congr (skipBlanks_lineBreak layout deep _)] at read
    have split : glyphs (Value.printItems layout deep (v :: vs) ++
        (layout.lineBreak depth ++ [']'])) ++ rest =
        .char ',' :: (glyphs (layout.lineBreak deep) ++ (glyphs (v.print layout deep) ++
          (glyphs (Value.printItems layout deep vs ++ (layout.lineBreak depth ++ [']'])) ++ rest))) := by
      simp [Value.printItems]
    rw [split, readItems.eq_def]
    simp only [skipBlanks_of_not_blank (show ¬ IsBlank ',' by simp [IsBlank]), read]
    rw [ih fuel (r :: done) (by omega)]
    simp

/-- A bracket that is not closed at once opens a list with a first item. -/
theorem readValue_bracket {s t : List Glyph} {c : Char} (h : skipBlanks s = .char c :: t)
    (item : c ≠ ']') (fuel : Nat) :
    readValue (fuel + 1) (.char '[' :: s) =
      readItems fuel [(readValue fuel s).1] (readValue fuel s).2 := by
  have visible : skipBlanks (.char c :: t) = .char c :: t := by
    rw [← h, skipBlanks_skipBlanks]
  rw [readValue_congr (h.trans visible.symm), readValue.eq_def]
  simp only [skipBlanks_of_not_blank (show ¬ IsBlank '[' by simp [IsBlank])]
  rw [if_neg (by decide), if_pos trivial, h]
  split
  · next e => cases e
  · next e => exact absurd (Glyph.char.inj (List.cons.inj e).1) item
  · rfl

/-- **A list is read as the list of what its items are read as.** -/
theorem Value.ReadAs.array {vs : List Value} {rs : List Reading} (h : Forall₂ Value.ReadAs vs rs) :
    (Value.array vs).ReadAs (.array rs .closed) := by
  cases h with
  | nil =>
    refine ⟨fun _ _ => ⟨'[', _, rfl, by simp [IsBlank], by decide⟩, fun _ _ fuel rest _ h => ?_⟩
    obtain ⟨fuel, rfl⟩ : ∃ n, fuel = n + 1 := ⟨fuel - 1, by omega⟩
    rfl
  | @cons v r vs rs hv hvs =>
    refine ⟨fun _ _ => ⟨'[', _, rfl, by simp [IsBlank], by decide⟩,
      fun layout depth fuel rest _ h => ?_⟩
    obtain ⟨fuel, rfl⟩ : ∃ n, fuel = n + 1 := ⟨fuel - 1, by omega⟩
    simp only [Value.print, List.length_append, List.length_cons, List.length_nil] at h
    have read := hv.read layout (depth + 1) fuel
      (glyphs (Value.printItems layout (depth + 1) vs ++ (layout.lineBreak depth ++ [']'])) ++ rest)
      (ends_printItems layout (depth + 1) depth vs rest) (by omega)
    rw [← readValue_congr (skipBlanks_lineBreak layout (depth + 1) _)] at read
    have split : glyphs ((Value.array (v :: vs)).print layout depth) ++ rest =
        .char '[' :: (glyphs (layout.lineBreak (depth + 1)) ++
          (glyphs (v.print layout (depth + 1)) ++ (glyphs (Value.printItems layout (depth + 1) vs ++
            (layout.lineBreak depth ++ [']'])) ++ rest))) := by
      simp [Value.print]
    obtain ⟨c, t, text, visible, item⟩ := hv.starts layout (depth + 1)
    have first : skipBlanks (glyphs (layout.lineBreak (depth + 1)) ++
        (glyphs (v.print layout (depth + 1)) ++ (glyphs (Value.printItems layout (depth + 1) vs ++
          (layout.lineBreak depth ++ [']'])) ++ rest))) =
        .char c :: (glyphs t ++ (glyphs (Value.printItems layout (depth + 1) vs ++
          (layout.lineBreak depth ++ [']'])) ++ rest)) := by
      rw [skipBlanks_lineBreak, text, glyphs_cons, List.cons_append,
        skipBlanks_of_not_blank visible]
    rw [split, readValue_bracket first item, read,
      readItems_printItems hvs layout (depth + 1) depth fuel [r] rest (by omega)]
    rfl

/-! ## Objects -/

/-- Members and what they are read as. -/
def MembersReadAs (ms : List (String × Value)) (rs : List (String × Reading)) : Prop :=
  Forall₂ (fun m r => m.1 = r.1 ∧ m.2.ReadAs r.2) ms rs

/-- A member that was read under a key that is a text. -/
def textMember (r : String × Reading) : Key × Reading := (.text (.ok r.1), r.2)

/-- A key is read after blanks, and after it the value, up to what follows the value. -/
theorem readMember_member {v : Value} {r : Reading} (hv : v.ReadAs r) (k : String) (layout : Layout)
    (depth fuel : Nat) (done : List (Key × Reading)) {rest : List Glyph} (ends : Ends rest)
    (enough : (quoted k.toList).length + (v.print layout depth).length ≤ fuel) :
    readMember (fuel + 1) done (glyphs (layout.lineBreak depth) ++ (glyphs (quoted k.toList) ++
        (glyphs layout.colon ++ (glyphs (v.print layout depth) ++ rest)))) =
      readMembers fuel (textMember (k, r) :: done) rest := by
  have long := length_lt_quoted k.toList
  have colon : ∀ s : List Glyph, ∃ bs, (∀ c ∈ bs, IsBlank c) ∧
      glyphs layout.colon ++ s = .char ':' :: (glyphs bs ++ s) := by
    intro s
    cases layout with
    | compact => exact ⟨[], by simp, rfl⟩
    | pretty => exact ⟨[' '], by simp [IsBlank], rfl⟩
  obtain ⟨bs, blanks, colon⟩ := colon (glyphs (v.print layout depth) ++ rest)
  have read := hv.read layout depth fuel rest ends (by omega)
  rw [← readValue_congr (skipBlanks_blanks blanks _)] at read
  rw [readMember_congr (skipBlanks_lineBreak layout depth _), colon, quoted, List.cons_append,
    glyphs_cons, List.cons_append, readMember.eq_def]
  simp only [skipBlanks_of_not_blank (show ¬ IsBlank '"' by simp [IsBlank])]
  rw [readString_quoted k fuel (by omega)]
  simp only [skipBlanks_of_not_blank (show ¬ IsBlank ':' by simp [IsBlank]), read]
  rfl

/-- Further members are followed by nothing that could belong to the value before. -/
theorem ends_printMembers (layout : Layout) (deep depth : Nat) (ms : List (String × Value))
    (rest : List Glyph) :
    Ends (glyphs (Value.printMembers layout deep ms ++ (layout.lineBreak depth ++ ['}'])) ++ rest) := by
  cases ms with
  | nil => exact ends_lineBreak layout depth (.inr rfl) rest
  | cons m ms => simp [Ends, Value.printMembers]

/-- Further members are read up to the end of the object. -/
theorem readMembers_printMembers {ms : List (String × Value)} {rs : List (String × Reading)}
    (h : MembersReadAs ms rs) (layout : Layout) (deep depth fuel : Nat)
    (done : List (Key × Reading)) (rest : List Glyph)
    (enough : (Value.printMembers layout deep ms).length + 1 < fuel) :
    readMembers fuel done
        (glyphs (Value.printMembers layout deep ms ++ (layout.lineBreak depth ++ ['}'])) ++ rest) =
      (.object (done.reverse ++ rs.map textMember) .closed, rest) := by
  induction h generalizing fuel done with
  | nil =>
    obtain ⟨fuel, rfl⟩ : ∃ n, fuel = n + 1 := ⟨fuel - 1, by omega⟩
    rw [Value.printMembers, List.nil_append, glyphs_append, List.append_assoc, readMembers.eq_def]
    simp only [skipBlanks_lineBreak]
    simp [skipBlanks_of_not_blank (show ¬ IsBlank '}' by simp [IsBlank])]
  | @cons m r ms rs hm _ ih =>
    obtain ⟨k, v⟩ := m
    obtain ⟨_, r⟩ := r
    obtain ⟨rfl, hv⟩ := hm
    change v.ReadAs r at hv
    have long := length_lt_quoted k.toList
    simp only [Value.printMembers, List.length_append, List.length_cons] at enough
    obtain ⟨fuel, rfl⟩ : ∃ n, fuel = n + 2 := ⟨fuel - 2, by omega⟩
    have split : glyphs (Value.printMembers layout deep ((k, v) :: ms) ++
        (layout.lineBreak depth ++ ['}'])) ++ rest =
        .char ',' :: (glyphs (layout.lineBreak deep) ++ (glyphs (quoted k.toList) ++
          (glyphs layout.colon ++ (glyphs (v.print layout deep) ++ (glyphs (Value.printMembers layout
            deep ms ++ (layout.lineBreak depth ++ ['}'])) ++ rest))))) := by
      simp [Value.printMembers]
    rw [split, readMembers.eq_def]
    simp only [skipBlanks_of_not_blank (show ¬ IsBlank ',' by simp [IsBlank])]
    rw [readMember_member hv k layout deep fuel done (ends_printMembers layout deep depth ms rest)
      (by omega), ih fuel _ (by omega)]
    simp

/-- A brace that is not closed at once opens an object with a first member. -/
theorem readValue_brace {s t : List Glyph} (h : skipBlanks s = .char '"' :: t) (fuel : Nat) :
    readValue (fuel + 1) (.char '{' :: s) = readMember fuel [] s := by
  have visible : skipBlanks (.char '"' :: t) = .char '"' :: t := by
    rw [← h, skipBlanks_skipBlanks]
  rw [readMember_congr (h.trans visible.symm), readValue.eq_def]
  simp only [skipBlanks_of_not_blank (show ¬ IsBlank '{' by simp [IsBlank])]
  rw [if_neg (by decide), if_neg (by decide), if_pos trivial, h]
  rfl

/-- **An object is read as the object of what its members are read as.** -/
theorem Value.ReadAs.object {ms : List (String × Value)} {rs : List (String × Reading)}
    (h : MembersReadAs ms rs) : (Value.object ms).ReadAs (.object (rs.map textMember) .closed) := by
  cases h with
  | nil =>
    refine ⟨fun _ _ => ⟨'{', _, rfl, by simp [IsBlank], by decide⟩, fun _ _ fuel rest _ h => ?_⟩
    obtain ⟨fuel, rfl⟩ : ∃ n, fuel = n + 1 := ⟨fuel - 1, by omega⟩
    rfl
  | @cons m r ms rs hm hms =>
    obtain ⟨k, v⟩ := m
    obtain ⟨_, r⟩ := r
    obtain ⟨rfl, hv⟩ := hm
    change v.ReadAs r at hv
    refine ⟨fun _ _ => ⟨'{', _, rfl, by simp [IsBlank], by decide⟩,
      fun layout depth fuel rest _ h => ?_⟩
    have long := length_lt_quoted k.toList
    simp only [Value.print, List.length_append, List.length_cons, List.length_nil] at h
    obtain ⟨fuel, rfl⟩ : ∃ n, fuel = n + 2 := ⟨fuel - 2, by omega⟩
    have split : glyphs ((Value.object ((k, v) :: ms)).print layout depth) ++ rest =
        .char '{' :: (glyphs (layout.lineBreak (depth + 1)) ++ (glyphs (quoted k.toList) ++
          (glyphs layout.colon ++ (glyphs (v.print layout (depth + 1)) ++ (glyphs (Value.printMembers
            layout (depth + 1) ms ++ (layout.lineBreak depth ++ ['}'])) ++ rest))))) := by
      simp [Value.print]
    have first : ∃ t, skipBlanks (glyphs (layout.lineBreak (depth + 1)) ++ (glyphs (quoted k.toList) ++
        (glyphs layout.colon ++ (glyphs (v.print layout (depth + 1)) ++ (glyphs (Value.printMembers
          layout (depth + 1) ms ++ (layout.lineBreak depth ++ ['}'])) ++ rest))))) =
        .char '"' :: t := by
      rw [skipBlanks_lineBreak, quoted, List.cons_append, glyphs_cons, List.cons_append,
        skipBlanks_of_not_blank (by simp [IsBlank])]
      exact ⟨_, rfl⟩
    obtain ⟨t, first⟩ := first
    rw [split, readValue_brace first, readMember_member hv k layout (depth + 1) fuel []
      (ends_printMembers layout (depth + 1) depth ms rest) (by omega),
      readMembers_printMembers hms layout (depth + 1) depth fuel _ rest (by omega)]
    simp

end Kennel.Json
