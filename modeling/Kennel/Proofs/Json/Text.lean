import Kennel.Json.Decoder

/-!
# Strings and numbers read back

A string in quotes is read as the string, whatever it holds: each character is escaped so that one
step of the reading gives it back. The digits of a natural number are read as the number, up to the
first glyph that cannot belong to it.
-/

namespace Kennel.Json

/-- Characters as glyphs. -/
def glyphs (s : List Char) : List Glyph := s.map .char

@[simp] theorem glyphs_nil : glyphs [] = [] := rfl

@[simp] theorem glyphs_cons (c : Char) (s : List Char) : glyphs (c :: s) = .char c :: glyphs s := rfl

@[simp] theorem glyphs_append (s t : List Char) : glyphs (s ++ t) = glyphs s ++ glyphs t :=
  List.map_append

@[simp] theorem length_glyphs (s : List Char) : (glyphs s).length = s.length := List.length_map _

/-! ## Strings -/

theorem hexValue?_hexDigit (n : Nat) (h : n < 16) : hexValue? (hexDigit n) = some n := by
  have all : ∀ n < 16, hexValue? (hexDigit n) = some n := by decide
  exact all n h

theorem width_hexDigit (n : Nat) (h : n < 16) : (Glyph.char (hexDigit n)).width = 1 := by
  have all : ∀ n < 16, (Glyph.char (hexDigit n)).width = 1 := by decide
  exact all n h

/-- The four digits of a control character are read as its number. -/
theorem readHex_control (n : Nat) (h : n < 32) (rest : List Glyph) :
    readHex (glyphs ['0', '0', hexDigit (n / 16), hexDigit (n % 16)] ++ rest) = .ok (n, rest) := by
  have high : n / 16 < 16 := by omega
  have low : n % 16 < 16 := by omega
  have zero : hexValue? '0' = some 0 := by decide
  have width : (Glyph.char '0').width = 1 := by decide
  simp [readHex, hexValue?_hexDigit _ high, hexValue?_hexDigit _ low, zero, width,
    width_hexDigit _ high, width_hexDigit _ low]
  omega

/-- An escape by number is one step of the reading. -/
theorem readString_unicodeEscape {sofar next : StringSoFar} {s rest : List Glyph}
    (h : readUnicodeEscape sofar s = .ok (next, rest)) (fuel : Nat) :
    readString (fuel + 1) sofar (.char '\\' :: .char 'u' :: s) = readString fuel next rest := by
  rw [readString.eq_def]
  simp [h]

/-- **One step of the reading undoes one escape.** -/
theorem readString_escape (fuel : Nat) (sofar : StringSoFar) (c : Char) (rest : List Glyph) :
    readString (fuel + 1) sofar (glyphs (escape c) ++ rest) =
      readString fuel { sofar with chars := c :: sofar.chars } rest := by
  unfold escape
  -- The short escapes come first; what is no control character stands for itself.
  split
  · next h => subst h; rfl
  split
  · next h => subst h; rfl
  split
  · next h => subst h; rfl
  split
  · next h => subst h; rfl
  split
  · next h => subst h; rfl
  split
  · next h => subst h; rfl
  split
  · next h => subst h; rfl
  split
  · next control =>
    have hex := readHex_control c.toNat control rest
    have unpaired : ¬ (0xdc00 ≤ c.toNat ∧ c.toNat ≤ 0xdfff) := by omega
    have unpaired' : ¬ (0xd800 ≤ c.toNat ∧ c.toNat ≤ 0xdbff) := by omega
    have read : readUnicodeEscape sofar
        (glyphs ['0', '0', hexDigit (c.toNat / 16), hexDigit (c.toNat % 16)] ++ rest) =
          .ok ({ sofar with chars := c :: sofar.chars }, rest) := by
      rw [readUnicodeEscape, hex]
      simp only [bind, Except.bind, if_neg unpaired, if_neg unpaired', Char.ofNat_toNat]
      rfl
    exact readString_unicodeEscape read fuel
  · next quote backslash _ _ _ _ _ visible =>
    simp only [glyphs_cons, glyphs_nil, List.cons_append, List.nil_append]
    rw [readString.eq_def]
    simp only [if_neg quote, if_neg backslash, if_neg visible]

/-- What is in quotes is read up to the closing one. -/
theorem readString_escapes (s : List Char) (fuel : Nat) (h : s.length < fuel) (sofar : StringSoFar)
    (rest : List Glyph) :
    readString fuel sofar (glyphs (s.flatMap escape ++ ['"']) ++ rest) =
      .ok ({ sofar with chars := s.reverse ++ sofar.chars }.taken, rest) := by
  induction s generalizing fuel sofar with
  | nil =>
    obtain ⟨fuel, rfl⟩ : ∃ n, fuel = n + 1 := ⟨fuel - 1, by simp at h; omega⟩
    rfl
  | cons c s ih =>
    obtain ⟨fuel, rfl⟩ : ∃ n, fuel = n + 1 := ⟨fuel - 1, by omega⟩
    rw [List.flatMap_cons, List.append_assoc, glyphs_append, List.append_assoc, readString_escape]
    rw [ih fuel (by simpa using h)]
    simp

/-- **A string in quotes is read as the string.** -/
theorem readString_quoted (s : String) (fuel : Nat) (h : s.toList.length < fuel)
    (rest : List Glyph) :
    readString fuel {} (glyphs (s.toList.flatMap escape ++ ['"']) ++ rest) = .ok (.ok s, rest) := by
  rw [readString_escapes s.toList fuel h]
  simp [StringSoFar.taken]

/-- A string in quotes is longer than the string. -/
theorem length_lt_quoted (s : List Char) : s.length + 1 < (quoted s).length := by
  have key : s.length ≤ (s.flatMap escape).length := by
    induction s with
    | nil => simp
    | cons c s ih =>
      have one : 1 ≤ (escape c).length := by
        unfold escape
        repeat' split
        all_goals simp
      rw [List.flatMap_cons, List.length_append, List.length_cons]
      omega
  rw [quoted, List.length_append, List.length_cons, List.length_singleton]
  omega

/-! ## Numbers -/

/-- Nothing follows that could belong to a number. -/
def Ends (rest : List Glyph) : Prop :=
  ∀ g ∈ rest.head?, g = .char ',' ∨ g = .char ']' ∨ g = .char '}' ∨ g = .char '\n'

theorem ends_nil : Ends [] := by simp [Ends]

/-- The number of a decimal digit. -/
def digitNumber (c : Char) : Nat := c.toNat - 48

theorem digitValue?_digit {c : Char} (h : c.isDigit = true) :
    digitValue? (.char c) = some (digitNumber c) := by
  have bounds : '0' ≤ c ∧ c ≤ '9' := by
    simp only [Char.isDigit, Bool.and_eq_true, decide_eq_true_eq] at h
    exact h
  rw [digitValue?, if_pos bounds]
  rfl

/-- Digits are read up to the end of the number. -/
theorem readDigits_digits (ds : List Char) (digits : ∀ c ∈ ds, c.isDigit = true) (done : List Nat)
    {rest : List Glyph} (ends : Ends rest) :
    readDigits done (glyphs ds ++ rest) = (done.reverse ++ ds.map digitNumber, rest) := by
  induction ds generalizing done with
  | nil =>
    cases rest with
    | nil => simp [readDigits]
    | cons g rest =>
      have none : digitValue? g = none := by
        rcases ends g (by simp) with rfl | rfl | rfl | rfl <;> rfl
      simp [readDigits, none]
  | cons c ds ih =>
    have hc := digitValue?_digit (digits c List.mem_cons_self)
    simp only [glyphs_cons, List.cons_append, readDigits, hc]
    rw [ih (fun c h => digits c (List.mem_cons_of_mem _ h))]
    simp

/-- Digits are gathered into their number as long as that stays below the limit. -/
theorem accumulate_digits (limit : Nat) (ds : List Char) (s used : Nat)
    (h : Nat.ofDigitChars 10 ds s < limit) :
    Number.accumulate limit s used (ds.map digitNumber) =
      (Nat.ofDigitChars 10 ds s, used + ds.length, []) := by
  induction ds generalizing s used with
  | nil => rfl
  | cons c ds ih =>
    have grows : ∀ (ds : List Char) (s : Nat), s ≤ Nat.ofDigitChars 10 ds s := by
      intro ds
      induction ds with
      | nil => exact fun s => Nat.le_refl s
      | cons c ds ih =>
        intro s
        have := ih (10 * s + (c.toNat - '0'.toNat))
        rw [Nat.ofDigitChars_cons]
        omega
    rw [Nat.ofDigitChars_cons] at h ⊢
    have step : s * 10 + digitNumber c = 10 * s + (c.toNat - '0'.toNat) := by
      rw [Nat.mul_comm]
      rfl
    have below := grows ds (10 * s + (c.toNat - '0'.toNat))
    rw [List.map_cons, Number.accumulate, step, if_neg (by omega), ih _ _ h]
    simp
    omega

/-- The digits of a number that is not zero begin with another digit than zero. -/
theorem head_toDigits {n : Nat} (h : 0 < n) : ∃ c ds, Nat.toDigits 10 n = c :: ds ∧ c ≠ '0' := by
  induction n using Nat.strongRecOn with
  | ind n ih =>
    by_cases small : n < 10
    · have all : ∀ n < 10, 0 < n → n.digitChar ≠ '0' := by decide
      exact ⟨_, _, Nat.toDigits_of_lt_base small, all n small h⟩
    · obtain ⟨c, ds, hd, hc⟩ := ih (n / 10) (by omega) (by omega)
      rw [Nat.toDigits_of_base_le (by decide) (by omega), hd]
      exact ⟨c, _, rfl, hc⟩

/-- The digits of a number are no zero with further digits after it. -/
theorem toDigits_ne_zero_cons (n a : Nat) (l : List Nat) :
    (Nat.toDigits 10 n).map digitNumber ≠ 0 :: a :: l := by
  intro e
  rcases Nat.eq_zero_or_pos n with rfl | h
  · simp at e
  · obtain ⟨c, ds, hd, hc⟩ := head_toDigits h
    have digit : c.isDigit = true :=
      Nat.isDigit_of_mem_toDigits (by decide) (by decide) (hd ▸ List.mem_cons_self)
    rw [hd, List.map_cons] at e
    have zero : c.toNat - 48 = 0 := (List.cons.inj e).1
    have low : 48 ≤ c.toNat := by
      simp [Char.isDigit] at digit
      exact digit.1
    exact hc (Char.toNat_inj.1 (by simp; omega))

/-- **The digits of a natural number are read as the number.** -/
theorem readNumber_digits {n : Nat} (h : n < Nat.pow 2 64) {rest : List Glyph} (ends : Ends rest) :
    ∃ l, readNumber (glyphs (Nat.toDigits 10 n) ++ rest) = .ok (l, rest) ∧
      takenNumber l = .ok (.int n) := by
  have digits : ∀ c ∈ Nat.toDigits 10 n, c.isDigit = true := fun c hc =>
    Nat.isDigit_of_mem_toDigits (by decide) (by decide) hc
  have unsigned : ∀ t, glyphs (Nat.toDigits 10 n) ++ rest ≠ .char '-' :: t := by
    intro t e
    cases hd : Nat.toDigits 10 n with
    | nil => exact Nat.toDigits_ne_nil hd
    | cons c ds =>
      rw [hd] at e
      have := digits c (hd ▸ List.mem_cons_self)
      rw [Glyph.char.inj (List.cons.inj e).1] at this
      cases this
  have some_digit : (Nat.toDigits 10 n).map digitNumber ≠ [] := by simp
  have no_zero := toDigits_ne_zero_cons n
  have read := readDigits_digits (Nat.toDigits 10 n) digits [] ends
  rw [List.reverse_nil, List.nil_append] at read
  refine ⟨⟨false, (Nat.toDigits 10 n).map digitNumber, none, none⟩, ?_, ?_⟩
  · generalize (Nat.toDigits 10 n).map digitNumber = whole at *
    generalize glyphs (Nat.toDigits 10 n) ++ rest = s at *
    have point : ∀ t, rest ≠ .char '.' :: t := by
      rintro t rfl
      simpa using ends (.char '.')
    have small : ∀ t, rest ≠ .char 'e' :: t := by
      rintro t rfl
      simpa using ends (.char 'e')
    have capital : ∀ t, rest ≠ .char 'E' :: t := by
      rintro t rfl
      simpa using ends (.char 'E')
    unfold readNumber
    split
    next negative t sign =>
      split at sign
      · exact absurd rfl (unsigned _)
      · obtain ⟨rfl, rfl⟩ := Prod.mk.inj sign
        -- What is known of the digits and of the rest decides each choice of the reading.
        simp only [read, pure, Except.pure, bind, Except.bind]
  · have value : Nat.ofDigitChars 10 (Nat.toDigits 10 n) 0 = n := Nat.ofDigitChars_ten_toDigits
    have gathered := accumulate_digits (Nat.pow 2 64) (Nat.toDigits 10 n) 0 0 (by rw [value]; exact h)
    rw [value] at gathered
    unfold takenNumber Number.Literal.value
    simp only [gathered]
    rfl

end Kennel.Json
