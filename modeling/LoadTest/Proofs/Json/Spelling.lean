import LoadTest.Proofs.Decimal.Reading
import LoadTest.Proofs.Json.Reading

/-!
# The texts that spell a value

What the reader takes from the front of a text depends on what it takes and not on what follows.
The text that was taken for a value is read as that value from the front of every other text, as
long as that does not go on a numeral.

* `SpellsString`, `Spells`, `SpellsItem`, `SpellsMember`   the texts of strings, values, items and
  members
* `listing`               texts with commas between them and a closing bracket
* `items_listing`, `members_listing`            reading a list of such texts
* `SpellsBare`            the text of a value without the blanks before it
* `TakesValue`, `TakesItems`, `TakesMembers`    a reader has taken the text of what it read
* `takes`                 all readers do
-/

namespace LoadTest.Json

open Decimal (Numeral)
open Decimal.Numeral (Ended)

/-! ## blanks -/

def IsGap (s : List Char) : Prop := ∀ c ∈ s, isSpace c = true

theorem isGap_nil : IsGap [] := List.forall_mem_nil _

theorem skip_append {gap : List Char} (h : IsGap gap) (s : List Char) : skip (gap ++ s) = skip s :=
  List.dropWhile_append_of_pos h

theorem skip_append_cons {gap : List Char} (h : IsGap gap) {c : Char} (hc : isSpace c = false)
    (s : List Char) : skip (gap ++ c :: s) = c :: s := by
  rw [skip_append h, skip_cons hc]

theorem exists_gap (s : List Char) : ∃ gap, IsGap gap ∧ s = gap ++ skip s := by
  induction s with
  | nil => exact ⟨[], isGap_nil, rfl⟩
  | cons c s ih =>
    cases hc : isSpace c with
    | true =>
      obtain ⟨gap, hgap, hs⟩ := ih
      refine ⟨c :: gap, List.forall_mem_cons.2 ⟨hc, hgap⟩, ?_⟩
      rw [skip, List.dropWhile_cons_of_pos hc, List.cons_append]
      exact congrArg _ hs
    | false => exact ⟨[], isGap_nil, (skip_cons hc s).symm⟩

/-- a numeral ends in front of a blank, a comma or a closing bracket -/
theorem ended_gap {gap : List Char} (h : IsGap gap) {c : Char} (s : List Char)
    (hc : Ended (c :: s)) : Ended (gap ++ c :: s) := by
  cases gap with
  | nil => exact hc
  | cons b gap =>
    have hb := h b List.mem_cons_self
    simp only [isSpace, Bool.or_eq_true, decide_eq_true_eq] at hb
    rcases hb with ((rfl | rfl) | rfl) | rfl <;> exact Numeral.ended_cons _ (by decide)

/-! ## strings -/

/-- the text behind the opening quote of a string, its closing quote included -/
def SpellsString (u : List Char) (t : Option String) : Prop := ∀ r, string? (u ++ r) = some (t, r)

/-- a string ends at its first quote that is no escape -/
theorem exists_pieces_read {s rest : List Char} {ps : List Piece}
    (h : pieces s = some (ps, rest)) :
    ∃ u, s = u ++ rest ∧ ∀ r, pieces (u ++ r) = some (ps, r) := by
  fun_induction pieces s generalizing ps rest with
  | case1 => cases h
  | case2 s =>
    obtain ⟨rfl, rfl⟩ := Prod.mk.inj (Option.some.inj h)
    exact ⟨['"'], rfl, fun r => rfl⟩
  | case3 a b c d s unit ps rest hs hunit ih =>
    obtain ⟨rfl, rfl⟩ := Prod.mk.inj (Option.some.inj h)
    obtain ⟨u, rfl, hu⟩ := ih hs
    refine ⟨'\\' :: 'u' :: a :: b :: c :: d :: u, rfl, fun r => ?_⟩
    simp only [List.cons_append, pieces, hunit, hu]
  | case4 => cases h
  | case5 e s _ c ps rest hs he ih =>
    obtain ⟨rfl, rfl⟩ := Prod.mk.inj (Option.some.inj h)
    obtain ⟨u, rfl, hu⟩ := ih hs
    have hne : e ≠ 'u' := by
      rintro rfl
      cases he
    refine ⟨'\\' :: e :: u, rfl, fun r => ?_⟩
    rw [List.cons_append, List.cons_append, pieces_simple hne he, hu]
    rfl
  | case6 => cases h
  | case7 => cases h
  | case8 c s hquote _ hback hcontrol ps rest hs ih =>
    obtain ⟨rfl, rfl⟩ := Prod.mk.inj (Option.some.inj h)
    obtain ⟨u, rfl, hu⟩ := ih hs
    have hne : c ≠ '\\' := fun hc => by
      cases hu : u ++ rest with
      | nil =>
        rw [hu] at hs
        cases hs
      | cons e t => exact hback e t hc hu
    refine ⟨c :: u, rfl, fun r => ?_⟩
    rw [List.cons_append, pieces_plain hquote hne hcontrol, hu]
    rfl
  | case9 => cases h

/-- **The text of a string that was read.** -/
theorem exists_spellsString {s rest : List Char} {t : Option String}
    (h : string? s = some (t, rest)) : ∃ u, s = u ++ rest ∧ SpellsString u t := by
  obtain ⟨⟨ps, rest⟩, hpieces, heq⟩ := Option.map_eq_some_iff.1 h
  obtain ⟨rfl, rfl⟩ := Prod.mk.inj heq
  obtain ⟨u, rfl, hu⟩ := exists_pieces_read hpieces
  refine ⟨u, rfl, fun r => ?_⟩
  rw [string?, hu]
  rfl

/-! ## values, items and members -/

/-- The text of a value with the blanks before it. Twice its length pays for the descent into it. -/
def Spells (u : List Char) (v : Json) : Prop :=
  ∀ fuel r, 2 * u.length ≤ fuel → Ended r → value fuel (u ++ r) = some (v, r)

/-- the text of an item with the blanks around it -/
def SpellsItem (t : List Char) (v : Json) : Prop :=
  ∃ u gap, t = u ++ gap ∧ Spells u v ∧ IsGap gap

/-- the text of a member with the blanks in it and around it -/
def SpellsMember (t : List Char) (m : Member) : Prop :=
  ∃ gap name gap' item, t = gap ++ '"' :: (name ++ (gap' ++ ':' :: item)) ∧ IsGap gap ∧
    SpellsString name m.1 ∧ IsGap gap' ∧ SpellsItem item m.2

/-- what comes after an item: a comma or a closing bracket -/
def IsStop (c : Char) : Prop := c = ',' ∨ c = ']' ∨ c = '\x7d'

theorem IsStop.isSpace {c : Char} (h : IsStop c) : isSpace c = false := by
  rcases h with rfl | rfl | rfl <;> decide

theorem IsStop.ended {c : Char} (h : IsStop c) (s : List Char) : Ended (c :: s) := by
  rcases h with rfl | rfl | rfl <;> exact Numeral.ended_cons _ (by decide)

section
variable {t : List Char} {v : Json} {m : Member} {fuel : Nat}

theorem SpellsItem.value_append (h : SpellsItem t v) {c : Char} (hc : IsStop c) (s : List Char)
    (hfuel : 2 * t.length ≤ fuel) :
    ∃ after, value fuel (t ++ c :: s) = some (v, after) ∧ skip after = c :: s := by
  obtain ⟨u, gap, rfl, hu, hgap⟩ := h
  rw [List.length_append] at hfuel
  refine ⟨gap ++ c :: s, ?_, skip_append_cons hgap hc.isSpace s⟩
  rw [List.append_assoc]
  exact hu fuel _ (by omega) (ended_gap hgap s (hc.ended s))

theorem SpellsItem.items_last (h : SpellsItem t v) (s : List Char) (hfuel : 2 * t.length ≤ fuel) :
    items (fuel + 1) (t ++ ']' :: s) = some ([v], s) := by
  obtain ⟨after, hvalue, hafter⟩ := h.value_append (.inr (.inl rfl)) s hfuel
  rw [items, hvalue]
  simp only [hafter]

theorem SpellsItem.items_more (h : SpellsItem t v) (s : List Char) (hfuel : 2 * t.length ≤ fuel) :
    items (fuel + 1) (t ++ ',' :: s) = (items fuel s).map fun p => (v :: p.1, p.2) := by
  obtain ⟨after, hvalue, hafter⟩ := h.value_append (.inl rfl) s hfuel
  rw [items, hvalue]
  simp only [hafter]

theorem SpellsMember.exists_item (h : SpellsMember t m) : ∃ item, item.length < t.length ∧
    SpellsItem item m.2 ∧ ∀ s, ∃ name gap',
      skip (t ++ s) = '"' :: (name ++ (gap' ++ ':' :: (item ++ s))) ∧
        SpellsString name m.1 ∧ IsGap gap' := by
  obtain ⟨gap, name, gap', item, rfl, hgap, hname, hgap', hitem⟩ := h
  refine ⟨item, ?_, hitem, fun s => ⟨name, gap', ?_, hname, hgap'⟩⟩
  · simp
    omega
  · simp [skip_append_cons hgap (by decide : isSpace '"' = false)]

theorem SpellsMember.members_last (h : SpellsMember t m) (s : List Char)
    (hfuel : 2 * t.length ≤ fuel) : members (fuel + 1) (t ++ '\x7d' :: s) = some ([m], s) := by
  obtain ⟨item, hlength, hitem, hskip⟩ := h.exists_item
  obtain ⟨name, gap, hskip, hname, hgap⟩ := hskip ('\x7d' :: s)
  obtain ⟨after, hvalue, hafter⟩ := hitem.value_append (.inr (.inr rfl)) s (by omega : _ ≤ fuel)
  rw [members, hskip]
  simp only [hname _, skip_append_cons hgap (by decide : isSpace ':' = false), hvalue, hafter]

theorem SpellsMember.members_more (h : SpellsMember t m) (s : List Char)
    (hfuel : 2 * t.length ≤ fuel) :
    members (fuel + 1) (t ++ ',' :: s) = (members fuel s).map fun p => (m :: p.1, p.2) := by
  obtain ⟨item, hlength, hitem, hskip⟩ := h.exists_item
  obtain ⟨name, gap, hskip, hname, hgap⟩ := hskip (',' :: s)
  obtain ⟨after, hvalue, hafter⟩ := hitem.value_append (.inl rfl) s (by omega : _ ≤ fuel)
  rw [members, hskip]
  simp only [hname _, skip_append_cons hgap (by decide : isSpace ':' = false), hvalue, hafter]

end

/-! ## lists -/

def listing (close : Char) : List (List Char) → List Char
  | [] => [close]
  | [t] => t ++ [close]
  | t :: ts => t ++ ',' :: listing close ts

section
variable {ts : List (List Char)}

theorem listing_cons (close : Char) (t : List Char) (h : ts ≠ []) :
    listing close (t :: ts) = t ++ ',' :: listing close ts := by
  cases ts with
  | nil => exact absurd rfl h
  | cons _ _ => rfl

theorem listing_singleton_append (close : Char) (t r : List Char) :
    listing close [t] ++ r = t ++ close :: r := by
  rw [listing, List.append_assoc, List.singleton_append]

theorem listing_cons_append (close : Char) (t r : List Char) (h : ts ≠ []) :
    listing close (t :: ts) ++ r = t ++ ',' :: (listing close ts ++ r) := by
  rw [listing_cons close t h, List.append_assoc, List.cons_append]

theorem length_lt_listing (close : Char) (t : List Char) (ts : List (List Char)) :
    t.length < (listing close (t :: ts)).length := by
  cases ts with
  | nil =>
    rw [listing, List.length_append, List.length_singleton]
    exact Nat.lt_succ_self _
  | cons _ _ =>
    rw [listing_cons close t (List.cons_ne_nil _ _), List.length_append, List.length_cons]
    omega

/-- **A list of items is read** item by item. -/
theorem items_listing {vs : List Json} (h : List.Forall₂ SpellsItem ts vs) (hne : ts ≠ [])
    (fuel : Nat) (r : List Char) (hfuel : 2 * (listing ']' ts).length ≤ fuel) :
    items fuel (listing ']' ts ++ r) = some (vs, r) := by
  induction h generalizing fuel with
  | nil => exact absurd rfl hne
  | @cons t v ts vs ht hts ih =>
    have hlength := length_lt_listing ']' t ts
    obtain ⟨fuel, rfl⟩ : ∃ n, fuel = n + 1 := ⟨fuel - 1, by omega⟩
    cases hts with
    | nil => rw [listing_singleton_append, ht.items_last r (by omega)]
    | @cons t' v' ts vs ht' hts =>
      have hmore := List.cons_ne_nil t' ts
      rw [listing_cons_append ']' t r hmore, ht.items_more _ (by omega), ih hmore, Option.map_some]
      rw [listing_cons ']' t hmore, List.length_append, List.length_cons] at hfuel
      omega

/-- **A list of members is read** member by member. -/
theorem members_listing {ms : List Member} (h : List.Forall₂ SpellsMember ts ms) (hne : ts ≠ [])
    (fuel : Nat) (r : List Char) (hfuel : 2 * (listing '\x7d' ts).length ≤ fuel) :
    members fuel (listing '\x7d' ts ++ r) = some (ms, r) := by
  induction h generalizing fuel with
  | nil => exact absurd rfl hne
  | @cons t m ts ms ht hts ih =>
    have hlength := length_lt_listing '\x7d' t ts
    obtain ⟨fuel, rfl⟩ : ∃ n, fuel = n + 1 := ⟨fuel - 1, by omega⟩
    cases hts with
    | nil => rw [listing_singleton_append, ht.members_last r (by omega)]
    | @cons t' m' ts ms ht' hts =>
      have hmore := List.cons_ne_nil t' ts
      rw [listing_cons_append '\x7d' t r hmore, ht.members_more _ (by omega), ih hmore,
        Option.map_some]
      rw [listing_cons '\x7d' t hmore, List.length_append, List.length_cons] at hfuel
      omega

end

/-! ## values -/

theorem value_append_gap {gap : List Char} (h : IsGap gap) (fuel : Nat) (s : List Char) :
    value fuel (gap ++ s) = value fuel s := by
  cases fuel with
  | zero => rfl
  | succ fuel => rw [value, value, skip_append h]

/-- the text of a value without the blanks before it -/
def SpellsBare (u : List Char) (v : Json) : Prop :=
  ∀ fuel r, 2 * u.length ≤ fuel + 1 → Ended r → value (fuel + 1) (u ++ r) = some (v, r)

theorem SpellsBare.spells {u : List Char} {v : Json} (h : SpellsBare u v) (hne : u ≠ [])
    {gap : List Char} (hgap : IsGap gap) : Spells (gap ++ u) v := by
  intro fuel r hfuel hr
  have hpos : 0 < u.length := List.length_pos_iff.2 hne
  rw [List.length_append] at hfuel
  obtain ⟨fuel, rfl⟩ : ∃ n, fuel = n + 1 := ⟨fuel - 1, by omega⟩
  rw [List.append_assoc, value_append_gap hgap]
  exact h fuel r (by omega) hr

theorem spellsBare_null : SpellsBare ['n', 'u', 'l', 'l'] .null := by
  intro fuel r _ _
  rw [List.cons_append, value, skip_cons (by decide)]
  rfl

theorem spellsBare_true : SpellsBare ['t', 'r', 'u', 'e'] (.bool true) := by
  intro fuel r _ _
  rw [List.cons_append, value, skip_cons (by decide)]
  rfl

theorem spellsBare_false : SpellsBare ['f', 'a', 'l', 's', 'e'] (.bool false) := by
  intro fuel r _ _
  rw [List.cons_append, value, skip_cons (by decide)]
  rfl

theorem spellsBare_string {u : List Char} {t : Option String} (h : SpellsString u t) :
    SpellsBare ('"' :: u) (.text t) := by
  intro fuel r _ _
  rw [List.cons_append, value, skip_cons (by decide)]
  simp only [h r, Option.map_some]

theorem spellsBare_noItems {gap : List Char} (h : IsGap gap) :
    SpellsBare ('[' :: (gap ++ [']'])) (.array []) := by
  intro fuel r _ _
  rw [List.cons_append, value, skip_cons (by decide), List.append_assoc]
  simp only [List.singleton_append, skip_append_cons h (by decide : isSpace ']' = false)]

theorem spellsBare_items {ts : List (List Char)} {vs : List Json}
    (h : List.Forall₂ SpellsItem ts vs) (hne : ts ≠ []) :
    SpellsBare ('[' :: listing ']' ts) (.array vs) := by
  intro fuel r hfuel _
  rw [List.length_cons] at hfuel
  exact value_array (items_listing h hne fuel r (by omega))

theorem spellsBare_noMembers {gap : List Char} (h : IsGap gap) :
    SpellsBare ('\x7b' :: (gap ++ ['\x7d'])) (.object []) := by
  intro fuel r _ _
  rw [List.cons_append, value, skip_cons (by decide), List.append_assoc]
  simp only [List.singleton_append, skip_append_cons h (by decide : isSpace '\x7d' = false)]

theorem spellsBare_members {ts : List (List Char)} {ms : List Member}
    (h : List.Forall₂ SpellsMember ts ms) (hne : ts ≠ []) :
    SpellsBare ('\x7b' :: listing '\x7d' ts) (.object ms) := by
  intro fuel r hfuel _
  rw [List.length_cons] at hfuel
  exact value_object (members_listing h hne fuel r (by omega))

theorem exists_spellsBare_number {s r : List Char} {n : Numeral}
    (h : Numeral.read s = some (n, r)) : ∃ u, u ≠ [] ∧ s = u ++ r ∧ SpellsBare u (.number n) := by
  obtain ⟨c, u, heq, hc, hu⟩ := Numeral.exists_read h
  refine ⟨c :: u, List.cons_ne_nil c u, heq, fun fuel r' _ hr => ?_⟩
  rw [List.cons_append, value_of_numeralStart hc, ← List.cons_append, hu r' hr, Option.map_some]

/-! ## what was read -/

/-- the text of what was read, whatever comes after it -/
def TakesValue (fuel : Nat) : Prop := ∀ s v r, value fuel s = some (v, r) →
  ∃ u, s = u ++ r ∧ Spells u v

def TakesItems (fuel : Nat) : Prop := ∀ s vs r, items fuel s = some (vs, r) →
  ∃ ts, ts ≠ [] ∧ s = listing ']' ts ++ r ∧ List.Forall₂ SpellsItem ts vs

def TakesMembers (fuel : Nat) : Prop := ∀ s ms r, members fuel s = some (ms, r) →
  ∃ ts, ts ≠ [] ∧ s = listing '\x7d' ts ++ r ∧ List.Forall₂ SpellsMember ts ms

section
variable {fuel : Nat}

theorem TakesValue.succ (hitems : TakesItems fuel) (hmembers : TakesMembers fuel) :
    TakesValue (fuel + 1) := by
  intro s v r h
  obtain ⟨gap, hgap, hs⟩ := exists_gap s
  -- what is left is the text without the blanks before it
  suffices hbare : ∃ u, u ≠ [] ∧ skip s = u ++ r ∧ SpellsBare u v by
    obtain ⟨u, hne, hskip, hu⟩ := hbare
    exact ⟨gap ++ u, by rw [List.append_assoc, ← hskip, ← hs], hu.spells hne hgap⟩
  rw [value] at h
  split at h
  · next heq =>
    obtain ⟨rfl, rfl⟩ := Prod.mk.inj (Option.some.inj h)
    exact ⟨['n', 'u', 'l', 'l'], List.cons_ne_nil _ _, heq, spellsBare_null⟩
  · next heq =>
    obtain ⟨rfl, rfl⟩ := Prod.mk.inj (Option.some.inj h)
    exact ⟨['t', 'r', 'u', 'e'], List.cons_ne_nil _ _, heq, spellsBare_true⟩
  · next heq =>
    obtain ⟨rfl, rfl⟩ := Prod.mk.inj (Option.some.inj h)
    exact ⟨['f', 'a', 'l', 's', 'e'], List.cons_ne_nil _ _, heq, spellsBare_false⟩
  · next heq =>
    obtain ⟨⟨t, rest⟩, hstring, hpair⟩ := Option.map_eq_some_iff.1 h
    obtain ⟨rfl, rfl⟩ := Prod.mk.inj hpair
    obtain ⟨u, rfl, hu⟩ := exists_spellsString hstring
    exact ⟨_, List.cons_ne_nil _ _, heq, spellsBare_string hu⟩
  · next rest heq =>
    split at h
    · next hclose =>
      obtain ⟨rfl, rfl⟩ := Prod.mk.inj (Option.some.inj h)
      obtain ⟨gap', hgap', hrest⟩ := exists_gap rest
      refine ⟨_, List.cons_ne_nil _ _, ?_, spellsBare_noItems hgap'⟩
      rw [heq, hrest, hclose, List.cons_append, List.append_assoc, List.singleton_append]
    · obtain ⟨⟨vs, rest⟩, hread, hpair⟩ := Option.map_eq_some_iff.1 h
      obtain ⟨rfl, rfl⟩ := Prod.mk.inj hpair
      obtain ⟨ts, hne, rfl, hts⟩ := hitems _ _ _ hread
      exact ⟨_, List.cons_ne_nil _ _, heq, spellsBare_items hts hne⟩
  · next rest heq =>
    split at h
    · next hclose =>
      obtain ⟨rfl, rfl⟩ := Prod.mk.inj (Option.some.inj h)
      obtain ⟨gap', hgap', hrest⟩ := exists_gap rest
      refine ⟨_, List.cons_ne_nil _ _, ?_, spellsBare_noMembers hgap'⟩
      rw [heq, hrest, hclose, List.cons_append, List.append_assoc, List.singleton_append]
    · obtain ⟨⟨ms, rest⟩, hread, hpair⟩ := Option.map_eq_some_iff.1 h
      obtain ⟨rfl, rfl⟩ := Prod.mk.inj hpair
      obtain ⟨ts, hne, rfl, hts⟩ := hmembers _ _ _ hread
      exact ⟨_, List.cons_ne_nil _ _, heq, spellsBare_members hts hne⟩
  · obtain ⟨⟨n, rest⟩, hread, hpair⟩ := Option.map_eq_some_iff.1 h
    obtain ⟨rfl, rfl⟩ := Prod.mk.inj hpair
    exact exists_spellsBare_number hread

theorem TakesItems.succ (hvalue : TakesValue fuel) (hitems : TakesItems fuel) :
    TakesItems (fuel + 1) := by
  intro s vs r h
  rw [items] at h
  split at h
  · cases h
  · next v rest hread =>
    obtain ⟨u, rfl, hu⟩ := hvalue _ _ _ hread
    obtain ⟨gap, hgap, hrest⟩ := exists_gap rest
    have hitem : SpellsItem (u ++ gap) v := ⟨u, gap, rfl, hu, hgap⟩
    split at h
    · next hclose =>
      obtain ⟨rfl, rfl⟩ := Prod.mk.inj (Option.some.inj h)
      refine ⟨[u ++ gap], List.cons_ne_nil _ _, ?_, .cons hitem .nil⟩
      rw [listing_singleton_append, List.append_assoc, ← hclose, ← hrest]
    · next hcomma =>
      obtain ⟨⟨vs, rest⟩, hread, hpair⟩ := Option.map_eq_some_iff.1 h
      obtain ⟨rfl, rfl⟩ := Prod.mk.inj hpair
      obtain ⟨ts, hne, rfl, hts⟩ := hitems _ _ _ hread
      refine ⟨(u ++ gap) :: ts, List.cons_ne_nil _ _, ?_, .cons hitem hts⟩
      rw [listing_cons_append _ _ _ hne, List.append_assoc, ← hcomma, ← hrest]
    · cases h

theorem TakesMembers.succ (hvalue : TakesValue fuel) (hmembers : TakesMembers fuel) :
    TakesMembers (fuel + 1) := by
  intro s ms r h
  obtain ⟨gap, hgap, hs⟩ := exists_gap s
  rw [members] at h
  split at h
  · next rest hquote =>
    split at h
    · cases h
    · next k rest hstring =>
      obtain ⟨name, rfl, hname⟩ := exists_spellsString hstring
      obtain ⟨gap', hgap', hrest⟩ := exists_gap rest
      split at h
      · next rest' hcolon =>
        split at h
        · cases h
        · next v rest'' hread =>
          obtain ⟨u, rfl, hu⟩ := hvalue _ _ _ hread
          obtain ⟨gap'', hgap'', hrest''⟩ := exists_gap rest''
          have hmember : SpellsMember (gap ++ '"' :: (name ++ (gap' ++ ':' :: (u ++ gap''))))
              (k, v) :=
            ⟨gap, name, gap', u ++ gap'', rfl, hgap, hname, hgap', u, gap'', rfl, hu, hgap''⟩
          -- the whole text up to what comes after the value
          have hs : s = gap ++ '"' :: (name ++ (gap' ++ ':' :: (u ++ gap''))) ++ skip rest'' := by
            rw [hs, hquote, hrest, hcolon, List.append_assoc, List.cons_append, List.append_assoc,
              List.append_assoc, List.cons_append, List.append_assoc, ← hrest'']
          split at h
          · next hclose =>
            obtain ⟨rfl, rfl⟩ := Prod.mk.inj (Option.some.inj h)
            refine ⟨[_], List.cons_ne_nil _ _, ?_, .cons hmember .nil⟩
            rw [listing_singleton_append, ← hclose]
            exact hs
          · next hcomma =>
            obtain ⟨⟨ms, rest⟩, hread, hpair⟩ := Option.map_eq_some_iff.1 h
            obtain ⟨rfl, rfl⟩ := Prod.mk.inj hpair
            obtain ⟨ts, hne, rfl, hts⟩ := hmembers _ _ _ hread
            refine ⟨_ :: ts, List.cons_ne_nil _ _, ?_, .cons hmember hts⟩
            rw [listing_cons_append _ _ _ hne, ← hcomma]
            exact hs
          · cases h
      · cases h
  · cases h

end

/-- **What the readers have taken**: the text of a value, of a list of items, or of a list of
members. -/
theorem takes (fuel : Nat) : TakesValue fuel ∧ TakesItems fuel ∧ TakesMembers fuel := by
  induction fuel with
  | zero =>
    refine ⟨?_, ?_, ?_⟩
    all_goals
      intro s v r h
      cases h
  | succ fuel ih =>
    obtain ⟨hvalue, hitems, hmembers⟩ := ih
    exact ⟨.succ hitems hmembers, .succ hvalue hitems, .succ hvalue hmembers⟩

end LoadTest.Json
