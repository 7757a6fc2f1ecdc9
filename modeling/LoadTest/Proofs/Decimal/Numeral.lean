import Mathlib.Data.List.Basic
import LoadTest.Decimal.Numeral

/-!
# Numerals read back

A numeral is read back from its text, whatever follows the text, as long as that cannot go on the
numeral.

* `Numeral.Ended`          a text that does not go on a numeral
* `Numeral.exists_digits`  the digits of a number, and what they denote
* `Numeral.read_write`     reading a written numeral
* `Numeral.forall_mem_write`   the characters of a written numeral
-/

namespace LoadTest.Decimal.Numeral

/-! ## digits -/

theorem digit?_digitChar (d : Fin 10) : digit? (digitChar d) = some d := by
  revert d
  decide

theorem isDigit_digitChar (d : Fin 10) : (digitChar d).isDigit = true := by
  revert d
  decide

theorem digit?_eq_none {c : Char} (h : c.isDigit = false) : digit? c = none := by
  simp [digit?, h]

theorem ofDigitList_singleton (d : Fin 10) : ofDigitList [d] = d.val := by
  simp [ofDigitList]

theorem ofDigitList_concat (ds : List (Fin 10)) (d : Fin 10) :
    ofDigitList (ds ++ [d]) = 10 * ofDigitList ds + d.val := by
  rw [ofDigitList, List.foldl_append]
  rfl

/-- The digits of a number: they denote it, there is one, and only zero itself starts with zero. -/
theorem exists_digits (n : Nat) :
    ∃ ds : List (Fin 10), Text.digits n = ds.map digitChar ∧ ofDigitList ds = n ∧ ds ≠ [] ∧
      (ds.head? = some 0 → ds = [0]) := by
  induction n using Nat.strongRecOn with
  | ind n ih =>
    by_cases hn : n < 10
    · refine ⟨[⟨n, hn⟩], ?_, ?_, by simp, ?_⟩
      · rw [Text.digits, Nat.toDigits_of_lt_base hn]
        rfl
      · exact ofDigitList_singleton ⟨n, hn⟩
      · intro hzero
        exact congrArg (fun d => [d]) (Option.some.inj hzero)
    · have hn : 10 ≤ n := Nat.le_of_not_lt hn
      obtain ⟨ds, hdigits, hvalue, hne, hzero⟩ := ih (n / 10) (by omega)
      have hlast : n % 10 < 10 := Nat.mod_lt n (by decide)
      refine ⟨ds ++ [⟨n % 10, hlast⟩], ?_, ?_, by simp, ?_⟩
      · have hstep := Nat.toDigits_of_base_le (by decide : 1 < 10) hn
        rw [Text.digits, hstep, List.map_append]
        exact congrArg (· ++ _) hdigits
      · rw [ofDigitList_concat, hvalue]
        exact Nat.div_add_mod n 10
      · intro hhead
        rw [List.head?_append_of_ne_nil _ hne] at hhead
        rw [hzero hhead, ofDigitList_singleton] at hvalue
        have hquot : 0 = n / 10 := hvalue
        omega

/-! ## what follows a numeral -/

/-- no digit, no point and no exponent comes next -/
def Ended (rest : List Char) : Prop :=
  ∀ c ∈ rest.head?, c.isDigit = false ∧ c ≠ '.' ∧ c ≠ 'e' ∧ c ≠ 'E'

def NoDigit (rest : List Char) : Prop := ∀ c ∈ rest.head?, c.isDigit = false

theorem ended_nil : Ended [] := nofun

theorem ended_cons {c : Char} (s : List Char)
    (h : c.isDigit = false ∧ c ≠ '.' ∧ c ≠ 'e' ∧ c ≠ 'E') : Ended (c :: s) := by
  rintro _ ⟨⟩
  exact h

theorem Ended.noDigit {rest : List Char} (h : Ended rest) : NoDigit rest := fun c hc => (h c hc).1

theorem noDigit_writeExponent (e : Option Int) {rest : List Char} (h : Ended rest) :
    NoDigit (writeExponent e ++ rest) := by
  cases e with
  | none => exact h.noDigit
  | some e =>
    rintro _ ⟨⟩
    rfl

theorem noDigit_writeFraction (f : List (Fin 10)) {rest : List Char} (h : NoDigit rest) :
    NoDigit (writeFraction f ++ rest) := by
  cases f with
  | nil => exact h
  | cons d ds =>
    rintro _ ⟨⟩
    rfl

/-! ## reading the parts -/

theorem takeDigits_append (ds : List (Fin 10)) {rest : List Char} (h : NoDigit rest) :
    takeDigits (ds.map digitChar ++ rest) = (ds, rest) := by
  induction ds with
  | nil =>
    cases rest with
    | nil => rfl
    | cons c rest => simp [takeDigits, digit?_eq_none (h c rfl)]
  | cons d ds ih => simp [takeDigits, digit?_digitChar, ih]

theorem readWhole_digits (n : Nat) {rest : List Char} (h : NoDigit rest) :
    readWhole (Text.digits n ++ rest) = some (n, rest) := by
  obtain ⟨ds, hdigits, hvalue, hne, hzero⟩ := exists_digits n
  rw [hdigits, readWhole, takeDigits_append ds h]
  cases ds with
  | nil => exact absurd rfl hne
  | cons d ds =>
    cases ds with
    | nil => rw [← hvalue, ofDigitList_singleton]
    | cons e ds =>
      -- a number with more than one digit does not start with zero
      have hd : d ≠ 0 := fun hd => by
        have hone := hzero (congrArg some hd)
        cases hone
      simp only [if_neg hd, hvalue]

theorem readFraction_writeFraction (f : List (Fin 10)) {rest : List Char} (hdigit : NoDigit rest)
    (hpoint : rest.head? ≠ some '.') : readFraction (writeFraction f ++ rest) = some (f, rest) := by
  cases f with
  | nil =>
    show readFraction rest = some ([], rest)
    unfold readFraction
    split
    · exact absurd rfl hpoint
    · rfl
  | cons d ds =>
    show readFraction ('.' :: ((d :: ds).map digitChar ++ rest)) = _
    rw [readFraction, takeDigits_append (d :: ds) hdigit]

theorem readPower_digits (negative : Bool) (n : Nat) {rest : List Char} (h : NoDigit rest) :
    readPower negative (Text.digits n ++ rest) =
      some (some (if negative then -(n : Int) else n), rest) := by
  obtain ⟨ds, hdigits, hvalue, hne, -⟩ := exists_digits n
  rw [hdigits, readPower, takeDigits_append ds h]
  match ds, hne with
  | d :: ds, _ => simp only [hvalue]

theorem readExponent_writeExponent (e : Option Int) {rest : List Char} (h : Ended rest) :
    readExponent (writeExponent e ++ rest) = some (e, rest) := by
  cases e with
  | none =>
    cases rest with
    | nil => rfl
    | cons c rest =>
      obtain ⟨-, -, he, hE⟩ := h c rfl
      simp [writeExponent, readExponent, he, hE]
  | some e =>
    by_cases hneg : e < 0
    · have hread := readPower_digits true e.natAbs h.noDigit
      have habs : -(e.natAbs : Int) = e := by omega
      rw [if_pos rfl, habs] at hread
      simpa [writeExponent, readExponent, hneg] using hread
    · have hread := readPower_digits false e.natAbs h.noDigit
      have habs : (e.natAbs : Int) = e := by omega
      rw [if_neg Bool.false_ne_true, habs] at hread
      simpa [writeExponent, readExponent, hneg] using hread

/-! ## reading a whole numeral -/

theorem writeExponent_head? (e : Option Int) {rest : List Char} (h : Ended rest) :
    (writeExponent e ++ rest).head? ≠ some '.' := by
  cases e with
  | none =>
    intro hhead
    exact (h '.' hhead).2.1 rfl
  | some e => simp [writeExponent]

theorem readUnsigned_parts (n : Numeral) {rest : List Char} (h : Ended rest) :
    readUnsigned n.negative (Text.digits n.whole ++ (writeFraction n.fraction ++
      (writeExponent n.exponent ++ rest))) = some (n, rest) := by
  have hexp := noDigit_writeExponent n.exponent h
  have hwhole := readWhole_digits n.whole (noDigit_writeFraction n.fraction hexp)
  have hfraction := readFraction_writeFraction n.fraction hexp (writeExponent_head? n.exponent h)
  simp [readUnsigned, hwhole, hfraction, readExponent_writeExponent n.exponent h]

theorem exists_digits_cons (n : Nat) :
    ∃ (c : Char) (s : List Char), Text.digits n = c :: s ∧ c.isDigit = true := by
  obtain ⟨ds, hdigits, -, hne, -⟩ := exists_digits n
  match ds, hne with
  | d :: ds, _ => exact ⟨_, _, hdigits, isDigit_digitChar d⟩

/-- **A written numeral is read back.** -/
theorem read_write (n : Numeral) {rest : List Char} (h : Ended rest) :
    read (n.write ++ rest) = some (n, rest) := by
  have hparts := readUnsigned_parts n h
  unfold write
  cases hneg : n.negative with
  | true =>
    rw [hneg] at hparts
    simpa [read] using hparts
  | false =>
    rw [hneg] at hparts
    obtain ⟨c, s, hdigits, hc⟩ := exists_digits_cons n.whole
    have hsign : c ≠ '-' := by
      rintro rfl
      cases hc
    rw [hdigits] at hparts ⊢
    simpa [read, hsign] using hparts

/-! ## the characters of a numeral -/

def IsNumeralChar (c : Char) : Prop := c.isDigit = true ∨ c = '-' ∨ c = '+' ∨ c = '.' ∨ c = 'e'

theorem isNumeralChar_of_mem_digits {n : Nat} {c : Char} (h : c ∈ Text.digits n) :
    IsNumeralChar c := .inl (Nat.isDigit_of_mem_toDigits (by decide) (by decide) h)

theorem isNumeralChar_of_mem_writeFraction {f : List (Fin 10)} {c : Char}
    (h : c ∈ writeFraction f) : IsNumeralChar c := by
  cases f with
  | nil => cases h
  | cons d ds =>
    rcases List.mem_cons.1 h with rfl | hdigit
    · exact .inr (.inr (.inr (.inl rfl)))
    · obtain ⟨e, -, rfl⟩ := List.mem_map.1 hdigit
      exact .inl (isDigit_digitChar e)

theorem isNumeralChar_of_mem_writeExponent {e : Option Int} {c : Char}
    (h : c ∈ writeExponent e) : IsNumeralChar c := by
  cases e with
  | none => cases h
  | some e =>
    rcases List.mem_cons.1 h with rfl | h
    · exact .inr (.inr (.inr (.inr rfl)))
    rcases List.mem_cons.1 h with rfl | hdigit
    · split
      · exact .inr (.inl rfl)
      · exact .inr (.inr (.inl rfl))
    · exact isNumeralChar_of_mem_digits hdigit

theorem forall_mem_write (n : Numeral) : ∀ c ∈ n.write, IsNumeralChar c := by
  intro c hc
  rw [write, List.mem_append, List.mem_append, List.mem_append] at hc
  rcases hc with ((hsign | hwhole) | hfraction) | hexponent
  · split at hsign
    · exact .inr (.inl (List.mem_singleton.1 hsign))
    · cases hsign
  · exact isNumeralChar_of_mem_digits hwhole
  · exact isNumeralChar_of_mem_writeFraction hfraction
  · exact isNumeralChar_of_mem_writeExponent hexponent

theorem exists_write_cons (n : Numeral) :
    ∃ (c : Char) (s : List Char), n.write = c :: s ∧ (c.isDigit = true ∨ c = '-') := by
  obtain ⟨c, s, hdigits, hc⟩ := exists_digits_cons n.whole
  unfold write
  cases n.negative with
  | true => exact ⟨'-', _, rfl, .inr rfl⟩
  | false => exact ⟨c, _, by rw [hdigits]; rfl, .inl hc⟩

/-! ## counts -/

theorem natural?_ofNatural (n : UInt64) : (ofNatural n.toNat).natural? = some n := by
  have hlt : n.toNat < UInt64.size := n.toNat_lt
  simp [natural?, ofNatural, hlt]

end LoadTest.Decimal.Numeral
