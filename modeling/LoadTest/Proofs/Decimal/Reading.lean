import LoadTest.Proofs.Decimal.Numeral

/-!
# The text of a numeral that was read

A numeral is read from a text that starts with a digit or a sign, and the same text is read as the
same numeral in front of everything that cannot go on it.

* `takeDigits_eq`                   the digits that were taken
* `exists_readWhole`, `exists_readFraction`, `exists_readExponent`   the texts of the parts
* `exists_read`                     the text of the whole numeral
-/

namespace LoadTest.Decimal.Numeral


theorem digitChar_of_digit? {c : Char} {d : Fin 10} (h : digit? c = some d) : digitChar d = c := by
  rw [digit?] at h
  split at h
  · next hc =>
    obtain rfl := Option.some.inj h
    simp only [Char.isDigit, Bool.and_eq_true, decide_eq_true_eq] at hc
    obtain ⟨hlow, hhigh⟩ := hc
    have hlow : 48 ≤ c.toNat := hlow
    have hhigh : c.toNat ≤ 57 := hhigh
    have hvalue : (Fin.ofNat 10 (Text.digitValue c)).val = c.toNat - 48 :=
      Nat.mod_eq_of_lt (by omega : c.toNat - 48 < 10)
    refine Char.toNat_inj.1 ?_
    rw [digitChar, hvalue, Nat.toNat_digitChar_of_lt_ten (by omega)]
    omega
  · cases h

theorem takeDigits_eq {s rest : List Char} {ds : List (Fin 10)} (h : takeDigits s = (ds, rest)) :
    s = ds.map digitChar ++ rest := by
  induction s generalizing ds with
  | nil =>
    obtain ⟨rfl, rfl⟩ := Prod.mk.inj h
    rfl
  | cons c s ih =>
    rw [takeDigits] at h
    split at h
    · next d hd =>
      obtain ⟨rfl, rfl⟩ := Prod.mk.inj h
      rw [List.map_cons, List.cons_append, digitChar_of_digit? hd, ← ih rfl]
    · obtain ⟨rfl, rfl⟩ := Prod.mk.inj h
      rfl

/-- The digits of a whole part that was read; they are read in front of anything but a digit. -/
theorem exists_readWhole {s rest : List Char} {n : Nat} (h : readWhole s = some (n, rest)) :
    ∃ d ds, s = (d :: ds).map digitChar ++ rest ∧
      ∀ r, NoDigit r → readWhole ((d :: ds).map digitChar ++ r) = some (n, r) := by
  rw [readWhole] at h
  split at h
  · cases h
  · next d _ hdigits =>
    obtain ⟨rfl, rfl⟩ := Prod.mk.inj (Option.some.inj h)
    refine ⟨d, [], takeDigits_eq hdigits, fun r hr => ?_⟩
    rw [readWhole, takeDigits_append [d] hr]
  · next d ds _ hmore hdigits =>
    split at h
    · cases h
    · next hd =>
      obtain ⟨rfl, rfl⟩ := Prod.mk.inj (Option.some.inj h)
      refine ⟨d, ds, takeDigits_eq hdigits, fun r hr => ?_⟩
      rw [readWhole, takeDigits_append (d :: ds) hr]
      cases ds with
      | nil => exact absurd rfl hmore
      | cons e ds => exact if_neg hd

theorem exists_readPower {negative : Bool} {s rest : List Char} {e : Option Int}
    (h : readPower negative s = some (e, rest)) :
    ∃ d ds, s = (d :: ds).map digitChar ++ rest ∧
      ∀ r, NoDigit r → readPower negative ((d :: ds).map digitChar ++ r) = some (e, r) := by
  rw [readPower] at h
  split at h
  · cases h
  · next ds _ hne hdigits =>
    obtain ⟨rfl, rfl⟩ := Prod.mk.inj (Option.some.inj h)
    cases ds with
    | nil => exact absurd rfl hne
    | cons d ds =>
      refine ⟨d, ds, takeDigits_eq hdigits, fun r hr => ?_⟩
      rw [readPower, takeDigits_append (d :: ds) hr]

theorem exists_readFraction {s rest : List Char} {f : List (Fin 10)}
    (h : readFraction s = some (f, rest)) :
    ∃ u, s = u ++ rest ∧ (∀ c ∈ u.head?, c = '.') ∧
      ∀ r, NoDigit r → r.head? ≠ some '.' → readFraction (u ++ r) = some (f, r) := by
  rw [readFraction.eq_def] at h
  split at h
  · next s =>
    split at h
    · cases h
    · next ds _ hne hdigits =>
      obtain ⟨rfl, rfl⟩ := Prod.mk.inj (Option.some.inj h)
      refine ⟨'.' :: ds.map digitChar, congrArg _ (takeDigits_eq hdigits), ?_, fun r hr _ => ?_⟩
      · rintro c ⟨⟩
        rfl
      · rw [List.cons_append, readFraction, takeDigits_append ds hr]
        cases ds with
        | nil => exact absurd rfl hne
        | cons d ds => rfl
  · obtain ⟨rfl, rfl⟩ := Prod.mk.inj (Option.some.inj h)
    refine ⟨[], rfl, (fun c hc => by cases hc), fun r _ hpoint => ?_⟩
    rw [List.nil_append, readFraction.eq_def]
    split
    · exact absurd rfl hpoint
    · rfl

def IsPowerMark (c : Char) : Prop := c = 'e' ∨ c = 'E'

instance (c : Char) : Decidable (IsPowerMark c) := inferInstanceAs (Decidable (c = 'e' ∨ c = 'E'))

/-- The sign behind the letter, if there is one, belongs to the exponent. -/
theorem exists_sign {c : Char} (hc : IsPowerMark c) (s : List Char) :
    ∃ sign negative t, s = sign ++ t ∧ readExponent (c :: s) = readPower negative t ∧
      ∀ d t', readExponent (c :: (sign ++ digitChar d :: t')) =
        readPower negative (digitChar d :: t') := by
  have hc : c = 'e' ∨ c = 'E' := hc
  simp only [readExponent, hc, if_true]
  split
  · next t => exact ⟨['+'], false, t, rfl, rfl, fun d t' => rfl⟩
  · next t => exact ⟨['-'], true, t, rfl, rfl, fun d t' => rfl⟩
  · refine ⟨[], false, s, rfl, rfl, fun d t' => ?_⟩
    have hplus : digitChar d ≠ '+' := by
      revert d
      decide
    have hminus : digitChar d ≠ '-' := by
      revert d
      decide
    rw [List.nil_append]
    split
    · next heq => exact absurd (List.cons.inj heq).1 hplus
    · next heq => exact absurd (List.cons.inj heq).1 hminus
    · rfl

theorem exists_readExponent {s rest : List Char} {e : Option Int}
    (h : readExponent s = some (e, rest)) :
    ∃ u, s = u ++ rest ∧ (∀ c ∈ u.head?, IsPowerMark c) ∧
      ∀ r, Ended r → readExponent (u ++ r) = some (e, r) := by
  by_cases hmark : ∀ c ∈ s.head?, ¬ IsPowerMark c
  · have hempty : readExponent s = some (none, s) := by
      cases s with
      | nil => rfl
      | cons c s => exact if_neg (hmark c rfl)
    obtain ⟨rfl, rfl⟩ := Prod.mk.inj (Option.some.inj (hempty.symm.trans h))
    exact ⟨[], rfl, (fun c hc => by cases hc), fun r hr => readExponent_writeExponent none hr⟩
  · cases s with
    | nil => exact absurd (fun c hc => by cases hc) hmark
    | cons c s =>
      have hc : IsPowerMark c := Decidable.byContradiction fun hc => hmark fun x hx => by
        obtain rfl : c = x := Option.some.inj hx
        exact hc
      obtain ⟨sign, negative, t, rfl, hpower, hsign⟩ := exists_sign hc s
      obtain ⟨d, ds, rfl, hread⟩ := exists_readPower (hpower.symm.trans h)
      refine ⟨c :: (sign ++ (d :: ds).map digitChar), by simp, ?_, fun r hr => ?_⟩
      · rintro _ ⟨⟩
        exact hc
      · rw [List.cons_append, List.append_assoc, List.map_cons, List.cons_append, hsign]
        exact hread r hr.noDigit

theorem noDigit_append {u r : List Char} (hu : ∀ c ∈ u.head?, c.isDigit = false) (hr : NoDigit r) :
    NoDigit (u ++ r) := by
  cases u with
  | nil => exact hr
  | cons c u =>
    rintro _ ⟨⟩
    exact hu c rfl

theorem exists_readUnsigned {negative : Bool} {s rest : List Char} {n : Numeral}
    (h : readUnsigned negative s = some (n, rest)) :
    ∃ c u, s = c :: u ++ rest ∧ c.isDigit = true ∧
      ∀ r, Ended r → readUnsigned negative (c :: u ++ r) = some (n, r) := by
  rw [readUnsigned] at h
  obtain ⟨⟨whole, s₁⟩, hwhole, h⟩ := Option.bind_eq_some_iff.1 h
  obtain ⟨⟨fraction, s₂⟩, hfraction, h⟩ := Option.bind_eq_some_iff.1 h
  obtain ⟨⟨exponent, s₃⟩, hexponent, h⟩ := Option.bind_eq_some_iff.1 h
  obtain ⟨rfl, rfl⟩ := Prod.mk.inj (Option.some.inj h)
  obtain ⟨d, ds, rfl, whole_append⟩ := exists_readWhole hwhole
  obtain ⟨f, rfl, hpoint, fraction_append⟩ := exists_readFraction hfraction
  obtain ⟨x, rfl, hmark, exponent_append⟩ := exists_readExponent hexponent
  refine ⟨digitChar d, ds.map digitChar ++ (f ++ x), by simp, isDigit_digitChar d, fun r hr => ?_⟩
  have hx : NoDigit (x ++ r) := noDigit_append (fun c hc => by
    obtain rfl | rfl := hmark c hc <;> decide) hr.noDigit
  have hf : NoDigit (f ++ (x ++ r)) := noDigit_append (fun c hc => by
    obtain rfl := hpoint c hc
    decide) hx
  have hnopoint : (x ++ r).head? ≠ some '.' := by
    cases x with
    | nil => exact fun hhead => (hr '.' hhead).2.1 rfl
    | cons c x =>
      intro hhead
      obtain rfl := Option.some.inj hhead
      obtain hc | hc := hmark '.' rfl <;> cases hc
  have htext : digitChar d :: (ds.map digitChar ++ (f ++ x)) ++ r =
      (d :: ds).map digitChar ++ (f ++ (x ++ r)) := by simp
  rw [htext, readUnsigned, whole_append _ hf]
  simp only [Option.bind_eq_bind, Option.bind_some, fraction_append _ hx hnopoint,
    exponent_append r hr]
  rfl

/-- **The text of a numeral that was read** starts with a digit or a sign, and is read in front of
every text that does not go on it. -/
theorem exists_read {s rest : List Char} {n : Numeral} (h : read s = some (n, rest)) :
    ∃ c u, s = c :: u ++ rest ∧ (c.isDigit = true ∨ c = '-') ∧
      ∀ r, Ended r → read (c :: u ++ r) = some (n, r) := by
  rw [read.eq_def] at h
  split at h
  · obtain ⟨c, u, rfl, -, hread⟩ := exists_readUnsigned h
    exact ⟨'-', c :: u, rfl, .inr rfl, hread⟩
  · obtain ⟨c, u, rfl, hc, hread⟩ := exists_readUnsigned h
    refine ⟨c, u, rfl, .inl hc, fun r hr => ?_⟩
    have hsign : c ≠ '-' := by
      rintro rfl
      cases hc
    rw [List.cons_append, read.eq_def]
    split
    · next heq => exact absurd (List.cons.inj heq).1 hsign
    · exact hread r hr

end LoadTest.Decimal.Numeral
