import Mathlib.Data.List.Basic
import LoadTest.Json.Parser
import LoadTest.Json.Printer

/-!
# Strings of JSON read back

Each character of a string is read back from its escape, and the first quote that is no escape ends
the string.

* `exists_piece`             the piece that an escape is read as
* `exists_pieces`            the pieces of a written text
* `string?_stringTail`       reading a written string
* `forall_mem_writeString`   a written string holds no control character
-/

namespace LoadTest.Json

/-! ## escapes -/

theorem hexUnit_digits {n : Nat} (h : n < 65536) :
    hexUnit (Nat.digitChar (n / 4096 % 16)) (Nat.digitChar (n / 256 % 16))
      (Nat.digitChar (n / 16 % 16)) (Nat.digitChar (n % 16)) = some n := by
  have hdigit : ∀ m, Text.hexValue (Nat.digitChar (m % 16)) = some (m % 16) := fun m =>
    Text.hexValue_digitChar (Nat.mod_lt m (by decide))
  have hvalue : (n / 4096 % 16 * 16 + n / 256 % 16) * 256 + (n / 16 % 16 * 16 + n % 16) = n := by
    omega
  simp [hexUnit, hdigit, hvalue]

theorem pieces_unicodeEscape {n : Nat} (h : n < 65536) (s : List Char) :
    pieces (unicodeEscape n ++ s) = (pieces s).map fun p => (.unit n :: p.1, p.2) := by
  have hunit := hexUnit_digits h
  simp only [unicodeEscape, List.map_cons, List.map_nil, List.cons_append, List.nil_append, pieces,
    hunit]
  cases pieces s <;> rfl

theorem pieces_plain {c : Char} (hquote : c ≠ '"') (hback : c ≠ '\\') (hcontrol : ¬ c.toNat < 0x20)
    (s : List Char) : pieces (c :: s) = (pieces s).map fun p => (.char c :: p.1, p.2) := by
  rw [pieces.eq_def]
  split
  · next h => cases h
  · next h => exact absurd (List.cons.inj h).1 hquote
  · next h => exact absurd (List.cons.inj h).1 hback
  · next h => exact absurd (List.cons.inj h).1 hback
  · next h =>
    obtain ⟨rfl, rfl⟩ := List.cons.inj h
    rw [if_neg hcontrol]
    cases pieces s <;> rfl

theorem pieces_simple {e c : Char} (he : e ≠ 'u') (hsimple : simpleEscape e = some c)
    (s : List Char) : pieces ('\\' :: e :: s) = (pieces s).map fun p => (.char c :: p.1, p.2) := by
  rw [pieces.eq_def]
  split
  · next h => cases h
  · next h => cases h
  · next h => exact absurd (List.cons.inj (List.cons.inj h).2).1 he
  · next h =>
    obtain ⟨rfl, rfl⟩ := List.cons.inj (List.cons.inj h).2
    rw [hsimple]
    cases pieces s <;> rfl
  · next hback h =>
    obtain ⟨rfl, rfl⟩ := List.cons.inj h
    exact absurd rfl (hback _ _ rfl)

theorem assemble_char (c : Char) (ps : List Piece) :
    assemble (.char c :: ps) = (assemble ps).map (c :: ·) := rfl

theorem assemble_unit {u : Nat} (h : u < 0xD800) (ps : List Piece) :
    assemble (.unit u :: ps) = (assemble ps).map (Char.ofNat u :: ·) := by
  have hlow : isLowHalf u = false := by simp [isLowHalf]; omega
  have hhigh : isHighHalf u = false := by simp [isHighHalf]; omega
  rw [assemble.eq_def]
  simp [hlow, hhigh]

/-- Every character is read back from its escape, as one piece. -/
theorem exists_piece (c : Char) : ∃ p : Piece,
    (∀ s, pieces (escape c ++ s) = (pieces s).map fun q => (p :: q.1, q.2)) ∧
      ∀ ps, assemble (p :: ps) = (assemble ps).map (c :: ·) := by
  have hshort : ∀ e x : Char, e ≠ 'u' → simpleEscape e = some x → ∃ p : Piece,
      (∀ s, pieces (['\\', e] ++ s) = (pieces s).map fun q => (p :: q.1, q.2)) ∧
        ∀ ps, assemble (p :: ps) = (assemble ps).map (x :: ·) := fun e x he hx =>
    ⟨.char x, fun s => pieces_simple he hx s, assemble_char x⟩
  unfold escape
  split_ifs with h1 h2 h3 h4 h5 h6 h7 h8
  · exact hshort '"' c (by decide) (by rw [h1]; decide)
  · exact hshort '\\' c (by decide) (by rw [h2]; decide)
  · exact hshort 'b' c (by decide) (by rw [h3]; decide)
  · exact hshort 'f' c (by decide) (by rw [h4]; decide)
  · exact hshort 'n' c (by decide) (by rw [h5]; decide)
  · exact hshort 'r' c (by decide) (by rw [h6]; decide)
  · exact hshort 't' c (by decide) (by rw [h7]; decide)
  · -- the other control characters
    refine ⟨.unit c.toNat, fun s => pieces_unicodeEscape (by omega) s, fun ps => ?_⟩
    rw [assemble_unit (by omega), Char.ofNat_toNat]
  · exact ⟨.char c, fun s => pieces_plain h1 h2 h8 s, assemble_char c⟩

/-! ## whole strings -/

theorem exists_pieces (s rest : List Char) : ∃ ps : List Piece,
    pieces (s.flatMap escape ++ '"' :: rest) = some (ps, rest) ∧ assemble ps = some s := by
  induction s with
  | nil => exact ⟨[], by simp [pieces], rfl⟩
  | cons c s ih =>
    obtain ⟨ps, hpieces, hassemble⟩ := ih
    obtain ⟨p, hp, happend⟩ := exists_piece c
    refine ⟨p :: ps, ?_, ?_⟩
    · rw [List.flatMap_cons, List.append_assoc, hp, hpieces]
      rfl
    · rw [happend, hassemble]
      rfl

/-- a string after its opening quote -/
def stringTail : Option String → List Char
  | some s => s.toList.flatMap escape ++ ['"']
  | none => unicodeEscape 0xD800 ++ ['"']

theorem writeString_eq (t : Option String) : writeString t = '"' :: stringTail t := by
  cases t <;> rfl

/-- **A written string is read back**, a lone half of a surrogate pair as well. -/
theorem string?_stringTail (t : Option String) (rest : List Char) :
    string? (stringTail t ++ rest) = some (t, rest) := by
  cases t with
  | some s =>
    obtain ⟨ps, hpieces, hassemble⟩ := exists_pieces s.toList rest
    simp [string?, stringTail, hpieces, hassemble]
  | none =>
    have hunit := pieces_unicodeEscape (by decide : 0xD800 < 65536) ('"' :: rest)
    have hend : pieces ('"' :: rest) = some ([], rest) := by simp [pieces]
    have halone : assemble [.unit 0xD800] = none := by decide
    rw [hend] at hunit
    simp [string?, stringTail, hunit, halone]

/-! ## no control characters -/

def IsPrintable (c : Char) : Prop := 0x20 ≤ c.toNat

instance (c : Char) : Decidable (IsPrintable c) := inferInstanceAs (Decidable (0x20 ≤ c.toNat))

theorem forall_mem_of_all {s : List Char} (h : s.all (fun c => IsPrintable c) = true) :
    ∀ c ∈ s, IsPrintable c := fun c hc => of_decide_eq_true (List.all_eq_true.1 h c hc)

theorem isPrintable_digitChar {n : Nat} (h : n < 16) : IsPrintable (Nat.digitChar n) := by
  revert n
  decide

theorem forall_mem_unicodeEscape (n : Nat) : ∀ c ∈ unicodeEscape n, IsPrintable c := by
  have hdigit : ∀ m, IsPrintable (Nat.digitChar (m % 16)) := fun m =>
    isPrintable_digitChar (Nat.mod_lt m (by decide))
  intro c hc
  simp only [unicodeEscape, List.map_cons, List.map_nil, List.mem_cons, List.not_mem_nil,
    or_false] at hc
  rcases hc with rfl | rfl | rfl | rfl | rfl | rfl
  · decide
  · decide
  all_goals exact hdigit _

theorem forall_mem_escape (c : Char) : ∀ x ∈ escape c, IsPrintable x := by
  have hshort : ∀ e : Char, IsPrintable e → ∀ x ∈ ['\\', e], IsPrintable x := by
    intro e he x hx
    simp only [List.mem_cons, List.not_mem_nil, or_false] at hx
    rcases hx with rfl | rfl
    · decide
    · exact he
  unfold escape
  split_ifs with h1 h2 h3 h4 h5 h6 h7 h8
  · exact hshort '"' (by decide)
  · exact hshort '\\' (by decide)
  · exact hshort 'b' (by decide)
  · exact hshort 'f' (by decide)
  · exact hshort 'n' (by decide)
  · exact hshort 'r' (by decide)
  · exact hshort 't' (by decide)
  · exact forall_mem_unicodeEscape c.toNat
  · intro x hx
    obtain rfl := List.mem_singleton.1 hx
    exact Nat.le_of_not_lt h8

theorem forall_mem_writeString (t : Option String) : ∀ c ∈ writeString t, IsPrintable c := by
  have hquote : IsPrintable '"' := by decide
  intro c hc
  rw [writeString_eq, List.mem_cons] at hc
  rcases hc with rfl | hc
  · exact hquote
  cases t with
  | some s =>
    rcases List.mem_append.1 hc with hc | hc
    · obtain ⟨x, -, hx⟩ := List.mem_flatMap.1 hc
      exact forall_mem_escape x c hx
    · exact List.mem_singleton.1 hc ▸ hquote
  | none =>
    rcases List.mem_append.1 hc with hc | hc
    · exact forall_mem_unicodeEscape 0xD800 c hc
    · exact List.mem_singleton.1 hc ▸ hquote

end LoadTest.Json
