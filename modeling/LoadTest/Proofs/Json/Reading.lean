import LoadTest.Proofs.Decimal.Numeral
import LoadTest.Proofs.Json.Strings

/-!
# JSON values read back

The text of a value is read back as that value, and nothing of what follows the text is taken.

* `value_write`, `items_write`, `members_write`   reading values, items and members
* `front_write`         reading the text of a value from its front
* `parse_write`         reading a whole text
* `forall_mem_write`    the text of a value holds no control character
-/

namespace LoadTest.Json

open Decimal (Numeral)
open Decimal.Numeral (Ended)

/-! ## how texts start -/

theorem skip_cons {c : Char} (h : isSpace c = false) (s : List Char) : skip (c :: s) = c :: s := by
  simp [skip, h]

/-- the text of an array or object with something in it, after the opening bracket -/
def writeFirst : List Json → List Char
  | [] => []
  | v :: vs => write v ++ writeItems vs

def writeFirstMember : List Member → List Char
  | [] => []
  | (k, v) :: ms => writeString k ++ ':' :: (write v ++ writeMembers ms)

theorem write_array_cons (v : Json) (vs : List Json) :
    write (.array (v :: vs)) = '[' :: writeFirst (v :: vs) := rfl

theorem write_object_cons (m : Member) (ms : List Member) :
    write (.object (m :: ms)) = '{' :: writeFirstMember (m :: ms) := by
  obtain ⟨k, v⟩ := m
  simp [write, writeFirstMember]

theorem writeItems_cons (v : Json) (vs : List Json) :
    writeItems (v :: vs) = ',' :: writeFirst (v :: vs) := rfl

theorem writeMembers_cons (m : Member) (ms : List Member) :
    writeMembers (m :: ms) = ',' :: writeFirstMember (m :: ms) := by
  obtain ⟨k, v⟩ := m
  simp [writeMembers, writeFirstMember]

theorem ended_writeItems (vs : List Json) (rest : List Char) : Ended (writeItems vs ++ rest) := by
  cases vs with
  | nil => exact Numeral.ended_cons _ (by decide)
  | cons v vs => exact Numeral.ended_cons _ (by decide)

theorem ended_writeMembers (ms : List Member) (rest : List Char) :
    Ended (writeMembers ms ++ rest) := by
  cases ms with
  | nil => exact Numeral.ended_cons _ (by decide)
  | cons m ms => exact Numeral.ended_cons _ (by decide)

theorem length_write_pos (v : Json) : 0 < (write v).length := by
  cases v with
  | null => exact Nat.succ_pos _
  | bool b => cases b <;> exact Nat.succ_pos _
  | number n =>
    obtain ⟨c, s, hwrite, -⟩ := n.exists_write_cons
    rw [write, hwrite]
    exact Nat.succ_pos _
  | text t =>
    rw [write, writeString_eq]
    exact Nat.succ_pos _
  | array vs => cases vs <;> exact Nat.succ_pos _
  | object ms => cases ms <;> exact Nat.succ_pos _

theorem length_writeItems_pos (vs : List Json) : 0 < (writeItems vs).length := by
  cases vs with
  | nil => exact Nat.zero_lt_one
  | cons v vs => exact Nat.succ_pos _

/-! ## one step of each reader -/

theorem value_of_numeralStart {c : Char} (hc : c.isDigit = true ∨ c = '-') (fuel : Nat)
    (s : List Char) :
    value (fuel + 1) (c :: s) = (Numeral.read (c :: s)).map fun p => (.number p.1, p.2) := by
  have hne : ∀ x : Char, x.isDigit = false → x ≠ '-' → c ≠ x := by
    rintro x hdigit hsign rfl
    rcases hc with hc | hc
    · rw [hdigit] at hc
      cases hc
    · exact hsign hc
  have hspace : isSpace c = false := by
    simp only [isSpace, Bool.or_eq_false_iff, decide_eq_false_iff_not]
    exact ⟨⟨⟨hne _ (by decide) (by decide), hne _ (by decide) (by decide)⟩,
      hne _ (by decide) (by decide)⟩, hne _ (by decide) (by decide)⟩
  rw [value, skip_cons hspace]
  split
  case h_7 => rfl
  -- every other case starts like something that is no numeral
  all_goals next heq => exact absurd (List.cons.inj heq).1 (hne _ (by decide) (by decide))

theorem value_numeral (n : Numeral) (fuel : Nat) {rest : List Char} (h : Ended rest) :
    value (fuel + 1) (n.write ++ rest) = some (.number n, rest) := by
  obtain ⟨c, s, hwrite, hc⟩ := n.exists_write_cons
  have hread := n.read_write h
  rw [hwrite, List.cons_append] at hread ⊢
  rw [value_of_numeralStart hc, hread]
  rfl

theorem value_text (t : Option String) (fuel : Nat) (rest : List Char) :
    value (fuel + 1) (writeString t ++ rest) = some (.text t, rest) := by
  rw [writeString_eq, List.cons_append, value, skip_cons (by decide)]
  simp only [string?_stringTail, Option.map_some]

theorem items_close (fuel : Nat) {s rest : List Char} (h : skip s = ']' :: rest) :
    items fuel s = none := by
  have hread : Numeral.read (']' :: rest) = none := rfl
  cases fuel with
  | zero => rfl
  | succ fuel =>
    cases fuel with
    | zero => rfl
    | succ fuel => simp [items, value, h, hread]

theorem value_array {fuel : Nat} {s rest : List Char} {vs : List Json}
    (h : items fuel s = some (vs, rest)) :
    value (fuel + 1) ('[' :: s) = some (.array vs, rest) := by
  simp only [value, skip_cons (by decide : isSpace '[' = false)]
  split
  · next hclose =>
    rw [items_close fuel hclose] at h
    cases h
  · rw [h]
    rfl

theorem value_object {fuel : Nat} {s rest : List Char} {ms : List Member}
    (h : members fuel s = some (ms, rest)) :
    value (fuel + 1) ('{' :: s) = some (.object ms, rest) := by
  simp only [value, skip_cons (by decide : isSpace '{' = false)]
  split
  · next hclose =>
    cases fuel with
    | zero => cases h
    | succ fuel =>
      rw [members, hclose] at h
      cases h
  · rw [h]
    rfl

theorem items_step {v : Json} {vs : List Json} {fuel : Nat} {rest : List Char}
    (hvalue : value fuel (write v ++ (writeItems vs ++ rest)) = some (v, writeItems vs ++ rest))
    (hitems : vs ≠ [] → items fuel (writeFirst vs ++ rest) = some (vs, rest)) :
    items (fuel + 1) (writeFirst (v :: vs) ++ rest) = some (v :: vs, rest) := by
  rw [writeFirst, List.append_assoc, items, hvalue]
  cases vs with
  | nil =>
    have hclose : writeItems [] ++ rest = ']' :: rest := rfl
    simp only [hclose, skip_cons (by decide : isSpace ']' = false)]
  | cons w ws =>
    have hitems := hitems (List.cons_ne_nil w ws)
    rw [writeItems_cons, List.cons_append]
    simp only [skip_cons (by decide : isSpace ',' = false), hitems, Option.map_some]

theorem members_step {k : Option String} {v : Json} {ms : List Member} {fuel : Nat}
    {rest : List Char}
    (hvalue : value fuel (write v ++ (writeMembers ms ++ rest)) =
      some (v, writeMembers ms ++ rest))
    (hmembers : ms ≠ [] → members fuel (writeFirstMember ms ++ rest) = some (ms, rest)) :
    members (fuel + 1) (writeFirstMember ((k, v) :: ms) ++ rest) = some ((k, v) :: ms, rest) := by
  rw [writeFirstMember, writeString_eq, List.cons_append, List.cons_append, members,
    skip_cons (by decide)]
  simp only [List.append_assoc, List.cons_append, string?_stringTail,
    skip_cons (by decide : isSpace ':' = false), hvalue]
  cases ms with
  | nil =>
    have hclose : writeMembers [] ++ rest = '}' :: rest := rfl
    simp only [hclose, skip_cons (by decide : isSpace '}' = false)]
  | cons m ms =>
    have hmembers := hmembers (List.cons_ne_nil m ms)
    rw [writeMembers_cons, List.cons_append]
    simp only [skip_cons (by decide : isSpace ',' = false), hmembers, Option.map_some]

/-! ## whole values -/

theorem length_writeFirst (v : Json) (vs : List Json) :
    (writeFirst (v :: vs)).length = (write v).length + (writeItems vs).length :=
  List.length_append

theorem length_writeFirstMember (k : Option String) (v : Json) (ms : List Member) :
    (write v).length + (writeMembers ms).length < (writeFirstMember ((k, v) :: ms)).length := by
  rw [writeFirstMember, List.length_append, List.length_cons, List.length_append]
  omega

/- Twice the length of a text pays for the descent into it: one step for a value, one for each item
or member of it. -/
mutual
theorem value_write : ∀ (v : Json) (fuel : Nat) (rest : List Char), 2 * (write v).length ≤ fuel →
    Ended rest → value fuel (write v ++ rest) = some (v, rest)
  | v, 0, rest, hfuel, _ => by
    have := length_write_pos v
    omega
  | .null, fuel + 1, rest, _, _ => by
    rw [write, List.cons_append, value, skip_cons (by decide)]
    rfl
  | .bool true, fuel + 1, rest, _, _ => by
    rw [write, List.cons_append, value, skip_cons (by decide)]
    rfl
  | .bool false, fuel + 1, rest, _, _ => by
    rw [write, List.cons_append, value, skip_cons (by decide)]
    rfl
  | .number n, fuel + 1, rest, _, hend => value_numeral n fuel hend
  | .text t, fuel + 1, rest, _, _ => value_text t fuel rest
  | .array [], fuel + 1, rest, _, _ => by
    rw [write, List.cons_append, value, skip_cons (by decide)]
    rfl
  | .array (v :: vs), fuel + 1, rest, hfuel, _ => by
    rw [write_array_cons, List.length_cons] at hfuel
    rw [write_array_cons, List.cons_append]
    exact value_array (items_write (v :: vs) fuel rest (List.cons_ne_nil v vs) (by omega))
  | .object [], fuel + 1, rest, _, _ => by
    rw [write, List.cons_append, value, skip_cons (by decide)]
    rfl
  | .object (m :: ms), fuel + 1, rest, hfuel, _ => by
    rw [write_object_cons, List.length_cons] at hfuel
    rw [write_object_cons, List.cons_append]
    exact value_object (members_write (m :: ms) fuel rest (List.cons_ne_nil m ms) (by omega))

theorem items_write : ∀ (vs : List Json) (fuel : Nat) (rest : List Char), vs ≠ [] →
    2 * (writeFirst vs).length ≤ fuel → items fuel (writeFirst vs ++ rest) = some (vs, rest)
  | [], _, _, hne, _ => absurd rfl hne
  | v :: vs, 0, rest, _, hfuel => by
    have := length_write_pos v
    rw [length_writeFirst] at hfuel
    omega
  | v :: vs, fuel + 1, rest, _, hfuel => by
    have := length_writeItems_pos vs
    rw [length_writeFirst] at hfuel
    refine items_step (value_write v fuel _ (by omega) (ended_writeItems vs rest)) fun hne => ?_
    refine items_write vs fuel rest hne ?_
    cases vs with
    | nil => exact absurd rfl hne
    | cons w ws =>
      rw [writeItems_cons, List.length_cons] at hfuel
      omega

theorem members_write : ∀ (ms : List Member) (fuel : Nat) (rest : List Char), ms ≠ [] →
    2 * (writeFirstMember ms).length ≤ fuel →
      members fuel (writeFirstMember ms ++ rest) = some (ms, rest)
  | [], _, _, hne, _ => absurd rfl hne
  | (k, v) :: ms, 0, rest, _, hfuel => by
    have := length_writeFirstMember k v ms
    omega
  | (k, v) :: ms, fuel + 1, rest, _, hfuel => by
    have := length_writeFirstMember k v ms
    refine members_step (value_write v fuel _ (by omega) (ended_writeMembers ms rest))
      fun hne => ?_
    refine members_write ms fuel rest hne ?_
    cases ms with
    | nil => exact absurd rfl hne
    | cons m ms =>
      rw [writeMembers_cons, List.length_cons] at this
      omega
end

/-- **The text of a value is read back from the front of a longer text.** -/
theorem front_write (v : Json) {rest : List Char} (h : Ended rest) :
    front (write v ++ rest) = some (v, rest) := by
  refine value_write v _ rest ?_ h
  rw [List.length_append]
  omega

/-- **Reading inverts writing**, for every value. -/
theorem parse_write (v : Json) : parse (write v) = some v := by
  refine parse_eq_some_iff.2 ⟨[], ?_, rfl⟩
  rw [← front_write v Numeral.ended_nil, List.append_nil]

/-! ## the characters of a text -/

theorem isPrintable_of_isNumeralChar {c : Char} (h : Numeral.IsNumeralChar c) : IsPrintable c := by
  rcases h with hdigit | rfl | rfl | rfl | rfl
  · have hlow : '0' ≤ c := by
      simp only [Char.isDigit, Bool.and_eq_true, decide_eq_true_eq] at hdigit
      exact hdigit.1
    have hnat : '0'.toNat ≤ c.toNat := hlow
    exact Nat.le_trans (by decide) hnat
  all_goals decide

section
variable {x : Char} (hx : IsPrintable x) {v : Json} (hv : ∀ c ∈ write v, IsPrintable c)
include hx hv

theorem forall_mem_cons_writeFirst {vs : List Json} (hvs : ∀ c ∈ writeItems vs, IsPrintable c) :
    ∀ c ∈ x :: writeFirst (v :: vs), IsPrintable c := by
  intro c hc
  rw [writeFirst, List.mem_cons, List.mem_append] at hc
  rcases hc with rfl | hc | hc
  · exact hx
  · exact hv c hc
  · exact hvs c hc

theorem forall_mem_cons_writeFirstMember (k : Option String) {ms : List Member}
    (hms : ∀ c ∈ writeMembers ms, IsPrintable c) :
    ∀ c ∈ x :: writeFirstMember ((k, v) :: ms), IsPrintable c := by
  intro c hc
  rw [writeFirstMember, List.mem_cons, List.mem_append, List.mem_cons, List.mem_append] at hc
  rcases hc with rfl | hc | rfl | hc | hc
  · exact hx
  · exact forall_mem_writeString k c hc
  · decide
  · exact hv c hc
  · exact hms c hc

end

mutual
theorem forall_mem_write : ∀ (v : Json), ∀ c ∈ write v, IsPrintable c
  | .null => forall_mem_of_all (by decide)
  | .bool true => forall_mem_of_all (by decide)
  | .bool false => forall_mem_of_all (by decide)
  | .number n => fun c hc => isPrintable_of_isNumeralChar (n.forall_mem_write c hc)
  | .text t => forall_mem_writeString t
  | .array [] => forall_mem_of_all (by decide)
  | .array (v :: vs) =>
    forall_mem_cons_writeFirst (by decide) (forall_mem_write v) (forall_mem_writeItems vs)
  | .object [] => forall_mem_of_all (by decide)
  | .object ((k, v) :: ms) => by
    rw [write_object_cons]
    exact forall_mem_cons_writeFirstMember (by decide) (forall_mem_write v) k
      (forall_mem_writeMembers ms)

theorem forall_mem_writeItems : ∀ (vs : List Json), ∀ c ∈ writeItems vs, IsPrintable c
  | [] => forall_mem_of_all (by decide)
  | v :: vs =>
    forall_mem_cons_writeFirst (by decide) (forall_mem_write v) (forall_mem_writeItems vs)

theorem forall_mem_writeMembers : ∀ (ms : List Member), ∀ c ∈ writeMembers ms, IsPrintable c
  | [] => forall_mem_of_all (by decide)
  | (k, v) :: ms => by
    rw [writeMembers_cons]
    exact forall_mem_cons_writeFirstMember (by decide) (forall_mem_write v) k
      (forall_mem_writeMembers ms)
end

theorem exists_writeMembers (ms : List Member) : ∃ body, writeMembers ms = body ++ ['\x7d'] := by
  induction ms with
  | nil => exact ⟨[], rfl⟩
  | cons m ms ih =>
    obtain ⟨k, v⟩ := m
    obtain ⟨body, hbody⟩ := ih
    refine ⟨',' :: writeString k ++ ':' :: write v ++ body, ?_⟩
    simp [writeMembers, hbody]

theorem exists_write_object (ms : List Member) :
    ∃ body, write (.object ms) = '\x7b' :: body ++ ['\x7d'] := by
  cases ms with
  | nil => exact ⟨[], rfl⟩
  | cons m ms =>
    obtain ⟨k, v⟩ := m
    obtain ⟨body, hbody⟩ := exists_writeMembers ms
    refine ⟨writeString k ++ ':' :: write v ++ body, ?_⟩
    simp [write, hbody]

end LoadTest.Json
