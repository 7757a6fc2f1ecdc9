import Mathlib.Data.List.DropRight
import Mathlib.Data.Nat.Digits.Defs
import LoadTest.Text.Blank
import LoadTest.Text.Natural

/-!
# Numbers in text

What trimming leaves and what is read as a number, said without the readers.

* `Text.IsTrimmed`            a text with no blank at its ends
* `Text.trim_eq_iff`          trimmed is what stands between the blanks
* `Text.Denotes`              a text denotes a number: a plus sign or nothing, then digits
* `Text.natural?_eq_some_iff`, `Text.word64?_eq_some_iff`   what is read is what a text denotes
* `Text.denotes_digits`       the digits of a number denote it
-/

namespace LoadTest.Text

/-! ## blanks -/

def AllBlank (s : List Char) : Prop := ∀ c ∈ s, isBlank c = true

structure IsTrimmed (s : List Char) : Prop where
  head : ∀ c ∈ s.head?, isBlank c = false
  last : ∀ c ∈ s.getLast?, isBlank c = false

theorem trimStart_append {before : List Char} (h : AllBlank before) (s : List Char) :
    trimStart (before ++ s) = trimStart s := List.dropWhile_append_of_pos h

theorem trimEnd_append {after : List Char} (h : AllBlank after) (s : List Char) :
    trimEnd (s ++ after) = trimEnd s := by
  have hrev : AllBlank after.reverse := fun c hc => h c (List.mem_reverse.1 hc)
  have hdrop : (s ++ after).reverse.dropWhile isBlank = s.reverse.dropWhile isBlank := by
    rw [List.reverse_append]
    exact trimStart_append hrev s.reverse
  show ((s ++ after).reverse.dropWhile isBlank).reverse = _
  rw [hdrop]
  rfl

theorem trimStart_eq_self {s : List Char} (h : ∀ c ∈ s.head?, isBlank c = false) :
    trimStart s = s := by
  cases s with
  | nil => rfl
  | cons c s =>
    have hc : isBlank c = false := h c rfl
    rw [trimStart_cons, hc]
    rfl

theorem trimEnd_eq_self {s : List Char} (h : ∀ c ∈ s.getLast?, isBlank c = false) :
    trimEnd s = s := by
  have hrev : ∀ c ∈ s.reverse.head?, isBlank c = false := by
    rw [List.head?_reverse]
    exact h
  show (trimStart s.reverse).reverse = s
  rw [trimStart_eq_self hrev, List.reverse_reverse]

theorem exists_trimStart (s : List Char) :
    ∃ before, AllBlank before ∧ s = before ++ trimStart s :=
  ⟨s.takeWhile isBlank, fun _ hc => List.mem_takeWhile_imp hc,
    List.takeWhile_append_dropWhile.symm⟩

theorem exists_trimEnd (s : List Char) : ∃ after, AllBlank after ∧ s = trimEnd s ++ after :=
  ⟨s.rtakeWhile isBlank, fun _ hc => List.mem_rtakeWhile_imp hc,
    List.rdropWhile_append_rtakeWhile.symm⟩

theorem head?_trimStart (s : List Char) : ∀ c ∈ (trimStart s).head?, isBlank c = false := by
  intro c hc
  have hnot := List.head?_dropWhile_not isBlank s
  rw [show s.dropWhile isBlank = trimStart s from rfl, Option.mem_def.1 hc] at hnot
  simpa using hnot

theorem isTrimmed_trim (s : List Char) : IsTrimmed (trim s) where
  head := by
    intro c hc
    -- what trimming the end takes away does not touch the first character
    obtain ⟨after, -, hs⟩ := exists_trimEnd (trimStart s)
    refine head?_trimStart s c ?_
    rw [hs, List.head?_append, show trimEnd (trimStart s) = trim s from rfl, Option.mem_def.1 hc]
    rfl
  last := by
    intro c hc
    rw [← List.head?_reverse, trim, trimEnd, List.reverse_reverse] at hc
    exact head?_trimStart (trimStart s).reverse c hc

/-- Trimmed is what stands between the blanks. -/
theorem trim_eq_iff {s t : List Char} : trim s = t ↔
    IsTrimmed t ∧ ∃ before after, AllBlank before ∧ AllBlank after ∧ s = before ++ t ++ after := by
  constructor
  · rintro rfl
    obtain ⟨before, hbefore, hs⟩ := exists_trimStart s
    obtain ⟨after, hafter, ht⟩ := exists_trimEnd (trimStart s)
    refine ⟨isTrimmed_trim s, before, after, hbefore, hafter, ?_⟩
    rw [List.append_assoc, trim, ← ht]
    exact hs
  · rintro ⟨ht, before, after, hbefore, hafter, rfl⟩
    cases t with
    | nil =>
      have hblank : AllBlank (before ++ [] ++ after) := by
        intro c hc
        rw [List.append_nil] at hc
        exact (List.mem_append.1 hc).elim (hbefore c) (hafter c)
      have hnil := trimStart_append hblank []
      rw [List.append_nil] at hnil
      rw [trim, hnil]
      rfl
    | cons c t =>
      have hhead : ∀ d ∈ (c :: t ++ after).head?, isBlank d = false := ht.head
      rw [trim, List.append_assoc, trimStart_append hbefore, trimStart_eq_self hhead,
        trimEnd_append hafter, trimEnd_eq_self ht.last]

theorem IsTrimmed.trim_eq {s : List Char} (h : IsTrimmed s) : trim s = s := by
  rw [trim, trimStart_eq_self h.head, trimEnd_eq_self h.last]

theorem isTrimmed_of_forall {s : List Char} (h : ∀ c ∈ s, isBlank c = false) : IsTrimmed s :=
  ⟨fun c hc => h c (List.mem_of_head? hc), fun c hc => h c (List.mem_of_getLast? hc)⟩

theorem trim_concat {c : Char} (hc : isBlank c = true) (s : List Char) :
    trim (s ++ [c]) = trim s := by
  obtain ⟨htrimmed, before, after, hbefore, hafter, hs⟩ := trim_eq_iff.1 (rfl : trim s = trim s)
  refine trim_eq_iff.2 ⟨htrimmed, before, after ++ [c], hbefore, fun d hd => ?_, ?_⟩
  · rcases List.mem_append.1 hd with hd | hd
    · exact hafter d hd
    · rwa [List.mem_singleton.1 hd]
  · rw [← List.append_assoc, ← hs]

/-! ## digits -/

def digitsValue (s : List Char) : Nat := Nat.ofDigits 10 (s.map digitValue).reverse

theorem digitsValue_concat (s : List Char) (c : Char) :
    digitsValue (s ++ [c]) = 10 * digitsValue s + digitValue c := by
  simp only [digitsValue, List.map_append, List.reverse_append, List.map_cons, List.map_nil,
    List.reverse_singleton, List.singleton_append, Nat.ofDigits_cons]
  exact Nat.add_comm ..

theorem ofDigitChars_eq (s : List Char) : Nat.ofDigitChars 10 s 0 = digitsValue s := by
  induction s using List.reverseRecOn with
  | nil => rfl
  | append_singleton s c ih =>
    rw [Nat.ofDigitChars_append, ih, digitsValue_concat]
    rfl

/-- A text denotes a number in base ten: at most one plus sign, then one or more ASCII digits. -/
inductive Denotes : List Char → Nat → Prop where
  | unsigned {s : List Char} (hne : s ≠ []) (hdigits : ∀ c ∈ s, c.isDigit = true) :
      Denotes s (digitsValue s)
  | signed {s : List Char} (hne : s ≠ []) (hdigits : ∀ c ∈ s, c.isDigit = true) :
      Denotes ('+' :: s) (digitsValue s)

theorem ofDigits_eq_some_iff {s : List Char} {n : Nat} : ofDigits s = some n ↔
    s ≠ [] ∧ (∀ c ∈ s, c.isDigit = true) ∧ digitsValue s = n := by
  rw [ofDigits, ofDigitChars_eq]
  by_cases h : s ≠ [] ∧ s.all Char.isDigit
  · rw [if_pos h, Option.some_inj]
    exact ⟨fun hn => ⟨h.1, List.all_eq_true.1 h.2, hn⟩, fun hn => hn.2.2⟩
  · rw [if_neg h]
    simp only [reduceCtorEq, false_iff, not_and]
    intro hne hdigits
    exact absurd ⟨hne, List.all_eq_true.2 hdigits⟩ h

/-- what is read as a natural number is what the text denotes -/
theorem natural?_eq_some_iff {s : List Char} {n : Nat} : natural? s = some n ↔ Denotes s n := by
  constructor
  · intro h
    unfold natural? at h
    split at h
    · obtain ⟨hne, hdigits, rfl⟩ := ofDigits_eq_some_iff.1 h
      exact .signed hne hdigits
    · obtain ⟨hne, hdigits, rfl⟩ := ofDigits_eq_some_iff.1 h
      exact .unsigned hne hdigits
  · rintro (⟨hne, hdigits⟩ | ⟨hne, hdigits⟩)
    · have hplus : ∀ t, s ≠ '+' :: t := by
        rintro t rfl
        exact absurd (hdigits '+' List.mem_cons_self) (by decide)
      rw [natural?.eq_2 _ hplus]
      exact ofDigits_eq_some_iff.2 ⟨hne, hdigits, rfl⟩
    · exact ofDigits_eq_some_iff.2 ⟨hne, hdigits, rfl⟩

theorem Denotes.unique {s : List Char} {m n : Nat} (hm : Denotes s m) (hn : Denotes s n) : m = n :=
  Option.some.inj ((natural?_eq_some_iff.2 hm).symm.trans (natural?_eq_some_iff.2 hn))

theorem word64?_eq_some_iff {s : List Char} {v : UInt64} :
    word64? s = some v ↔ Denotes s v.toNat := by
  rw [← natural?_eq_some_iff, word64?]
  cases natural? s with
  | none => simp
  | some n =>
    rw [Option.bind_some, Option.some_inj]
    by_cases hn : n < UInt64.size
    · have hword : (UInt64.ofNat n).toNat = n := UInt64.toNat_ofNat_of_lt hn
      rw [if_pos hn, Option.some_inj, ← UInt64.toNat_inj, hword]
    · have hv : v.toNat < UInt64.size := v.toNat_lt
      rw [if_neg hn]
      simp only [reduceCtorEq, false_iff]
      omega

theorem Denotes.isTrimmed {s : List Char} {n : Nat} (h : Denotes s n) : IsTrimmed s := by
  have hdigit : ∀ c : Char, c.isDigit = true → isBlank c = false := by
    intro c hc
    have hcode : 48 ≤ c.toNat ∧ c.toNat ≤ 57 := Char.isDigit_iff_toNat.1 hc
    exact isBlank_eq_false (by omega) (by omega)
  refine isTrimmed_of_forall ?_
  cases h with
  | unsigned hne hdigits => exact fun c hc => hdigit c (hdigits c hc)
  | signed hne hdigits =>
    intro c hc
    rcases List.mem_cons.1 hc with rfl | hc
    · decide
    · exact hdigit c (hdigits c hc)

/-! ## written numbers -/

theorem isDigit_of_mem_digits {n : Nat} {c : Char} (h : c ∈ digits n) : c.isDigit = true :=
  Nat.isDigit_of_mem_toDigits (by decide) (by decide) h

theorem digitsValue_digits (n : Nat) : digitsValue (digits n) = n := by
  rw [← ofDigitChars_eq]
  exact Nat.ofDigitChars_ten_toDigits

theorem ofDigits_digits (n : Nat) : ofDigits (digits n) = some n :=
  ofDigits_eq_some_iff.2
    ⟨Nat.toDigits_ne_nil, fun _ => isDigit_of_mem_digits, digitsValue_digits n⟩

theorem head?_digits {n : Nat} (h : n ≠ 0) : (digits n).head? ≠ some '0' := by
  induction n using Nat.strongRecOn with
  | ind n ih =>
    by_cases hn : n < 10
    · have hdigit : ∀ n < 10, n ≠ 0 → some (Nat.digitChar n) ≠ some '0' := by decide
      rw [digits, Nat.toDigits_of_lt_base hn]
      exact hdigit n hn h
    · have hbase : 10 ≤ n := Nat.le_of_not_lt hn
      rw [digits, Nat.toDigits_of_base_le (by decide) hbase,
        List.head?_append_of_ne_nil _ Nat.toDigits_ne_nil]
      exact ih (n / 10) (by omega) (by omega)

theorem denotes_digits (n : Nat) : Denotes (digits n) n := by
  have hdenotes : Denotes (digits n) (digitsValue (digits n)) :=
    .unsigned Nat.toDigits_ne_nil fun _ => isDigit_of_mem_digits
  rwa [digitsValue_digits] at hdenotes

theorem digits_injective {m n : Nat} (h : digits m = digits n) : m = n :=
  (denotes_digits m).unique (h ▸ denotes_digits n)

theorem toList_decimal (n : Nat) : (decimal n).toList = digits n := String.toList_ofList

theorem decimal_injective {m n : Nat} (h : decimal m = decimal n) : m = n := by
  have hlist := congrArg String.toList h
  rw [toList_decimal, toList_decimal] at hlist
  exact digits_injective hlist

end LoadTest.Text
