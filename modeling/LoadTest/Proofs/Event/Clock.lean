import Mathlib.Algebra.Group.Nat.Defs
import LoadTest.Event.Wire
import LoadTest.Proofs.Decimal.Rounding

/-!
# Starts beyond the clock

A line is an event, or none, or it is a hit that starts too late: a number of seconds that is a
duration and no moment of the clock.

* `Binary64.IsLate`, `Json.IsLate`   doubles from `2 ^ 63` to `2 ^ 64`, and numerals that are read
  as one
* `moment_overflow_iff`              only these are beyond the clock
* `Draft.putMembers_overflow_iff`, `Draft.putItems_overflow_iff`   a record that holds one
* `Event.StartsLate`, `Event.ofLine_overflow_iff`                  a line that holds one
-/

namespace LoadTest

/-! ## late numbers -/

namespace Decimal.Binary64

theorem significand_lt {x : Float} {negative : Bool} {m : Nat} {e : Int}
    (h : ofFloat x = .finite negative m e) : m < 2 ^ 53 := by
  rw [ofFloat, ofBits] at h
  -- the fraction has 52 bits, and one more stands in front of it
  have hfraction : x.toBits.toNat % implicitBit < implicitBit := Nat.mod_lt _ (by decide)
  have hbit : implicitBit + implicitBit = 2 ^ 53 := by decide
  split at h
  · split at h <;> cases h
  · split at h
    · injection h with _ hm _
      omega
    · injection h with _ hm _
      omega

def IsLate (b : Binary64) : Prop :=
  ∃ m k : Nat, b = .finite false m k ∧ 2 ^ 63 ≤ m * 2 ^ k ∧ m * 2 ^ k < 2 ^ 64

end Decimal.Binary64

open Decimal (Binary64)

theorem isOnCalendar_eq_false_iff (n : Nat) :
    isOnCalendar n = false ↔ 2 ^ 63 * Duration.perSecond ≤ n := by
  simp only [isOnCalendar, Bool.and_eq_false_iff, decide_eq_false_iff_not]
  omega

namespace Duration

theorem ofSeconds?_whole {x : Float} {negative : Bool} {m k : Nat}
    (h : Binary64.ofFloat x = .finite negative m k) :
    ofSeconds? x = if negative = true ∧ m ≠ 0 then none
      else if m * 2 ^ k < 2 ^ 64 then some ⟨m * 2 ^ k * perSecond⟩ else none := by
  have hquotient : Decimal.scaledQuotient m k 1 = (m * 2 ^ k, 1) := by
    rw [Decimal.scaledQuotient, if_pos (Int.natCast_nonneg k), Int.toNat_natCast, Nat.mul_one]
    rfl
  have hsize : UInt64.size = 2 ^ 64 := by decide
  simp only [ofSeconds?, h, hquotient, Nat.div_one, Decimal.roundDiv_one, hsize]

/-- With a fraction, a number of seconds is less than `2 ^ 53`. -/
theorem nanos_lt_of_fraction {x : Float} {negative : Bool} {m : Nat} {e : Int}
    (h : Binary64.ofFloat x = .finite negative m e) (he : e < 0) {d : Duration}
    (hd : ofSeconds? x = some d) : d.nanos < 2 ^ 63 * perSecond := by
  have hquotient : Decimal.scaledQuotient m e 1 = (m, Decimal.twoPow (-e).toNat) := by
    rw [Decimal.scaledQuotient, if_neg (by omega), Nat.mul_one]
  have hm : m < 2 ^ 53 := Binary64.significand_lt h
  have hround := Decimal.roundDiv_le (m * perSecond) (Decimal.twoPow (-e).toNat)
  have hdiv := Nat.div_le_self (m * perSecond) (Decimal.twoPow (-e).toNat)
  have hbound : m * perSecond + 1 < 2 ^ 63 * perSecond := by
    rw [perSecond]
    omega
  simp only [ofSeconds?, h, hquotient] at hd
  split at hd
  · cases hd
  · split at hd
    · obtain rfl := Option.some.inj hd
      show Decimal.roundDiv _ _ < _
      omega
    · cases hd

/-- the only durations beyond the clock are those of late numbers -/
theorem ofSeconds?_late_iff (x : Float) :
    (∃ d, ofSeconds? x = some d ∧ isOnCalendar d.nanos = false) ↔ (Binary64.ofFloat x).IsLate := by
  have hsecond : 0 < perSecond := by decide
  simp only [isOnCalendar_eq_false_iff]
  constructor
  · rintro ⟨d, hd, hlate⟩
    cases h : Binary64.ofFloat x with
    | nan => simp [ofSeconds?, h] at hd
    | infinite negative => simp [ofSeconds?, h] at hd
    | finite negative m e =>
      have he : 0 ≤ e := Int.not_lt.1 fun hneg =>
        absurd (nanos_lt_of_fraction h hneg hd) (Nat.not_lt.2 hlate)
      obtain ⟨k, rfl⟩ := Int.eq_ofNat_of_zero_le he
      rw [ofSeconds?_whole h] at hd
      split at hd
      · cases hd
      · next hsign =>
        split at hd
        · next hbound =>
          obtain rfl := Option.some.inj hd
          have hlow : 2 ^ 63 ≤ m * 2 ^ k := Nat.le_of_mul_le_mul_right hlate hsecond
          cases negative with
          | false => exact ⟨m, k, rfl, hlow, hbound⟩
          | true =>
            -- of the negative numbers only zero is a duration
            have hzero : m = 0 := Decidable.byContradiction fun hm => hsign ⟨rfl, hm⟩
            rw [hzero, Nat.zero_mul] at hlow
            exact absurd hlow (by decide)
        · cases hd
  · rintro ⟨m, k, h, hlow, hhigh⟩
    rw [ofSeconds?_whole h, if_neg fun hsign => Bool.false_ne_true hsign.1, if_pos hhigh]
    exact ⟨_, rfl, Nat.mul_le_mul_right perSecond hlow⟩

end Duration

def Json.IsLate (v : Json) : Prop := ∃ x, v.float? = some x ∧ (Binary64.ofFloat x).IsLate

theorem moment_overflow_iff (v : Json) : moment v = .error .clockOverflow ↔ v.IsLate := by
  have hread : moment v = .error .clockOverflow ↔
      ∃ d, span? v = some d ∧ isOnCalendar d.nanos = false := by
    rw [moment]
    cases span? v with
    | none => simp
    | some d => cases h : isOnCalendar d.nanos <;> simp [h]
  rw [hread, Json.IsLate]
  simp only [span?, Option.bind_eq_some_iff, ← Duration.ofSeconds?_late_iff]
  constructor
  · rintro ⟨d, ⟨x, hx, hd⟩, hlate⟩
    exact ⟨x, hx, d, hd, hlate⟩
  · rintro ⟨x, hx, d, hd, hlate⟩
    exact ⟨d, ⟨x, hx, hd⟩, hlate⟩

/-! ## records -/

namespace Draft

theorem map_eq_error_iff {ε α β : Type} {x : Except ε α} {f : α → β} {e : ε} :
    x.map f = .error e ↔ x = .error e := by
  cases x <;> simp [Except.map]

theorem fill_ne_overflow {α : Type} (place value : Option α) :
    fill place value ≠ .error .clockOverflow := by
  unfold fill
  split <;> exact nofun

/-- only a first start can be beyond the clock -/
theorem put_overflow_iff (d : Draft) (f : Field) (v : Json) :
    d.put f v = .error .clockOverflow ↔ f = .started ∧ d.started = none ∧ v.IsLate := by
  cases f with
  | started =>
    rw [put]
    by_cases hd : d.started = none
    · simp [hd, map_eq_error_iff, moment_overflow_iff]
    · simp [hd]
  | _ => simp [put, map_eq_error_iff, fill_ne_overflow]

theorem putMembers_append (k : EventKind) (d : Draft) (a b : List Json.Member) :
    putMembers k d (a ++ b) = (putMembers k d a).bind fun d => putMembers k d b := by
  induction a generalizing d with
  | nil => rfl
  | cons m a ih =>
    obtain ⟨name, v⟩ := m
    rw [List.cons_append]
    cases hfield : name.bind k.field? with
    | none =>
      rw [putMembers_skip hfield, putMembers_skip hfield]
      exact ih d
    | some f =>
      rw [putMembers_put hfield, putMembers_put hfield]
      cases d.put f v with
      | ok d => exact ih d
      | error e => rfl

/-- Members are beyond the clock if there is a late start behind others that could be read. -/
theorem putMembers_overflow_iff (k : EventKind) (d : Draft) (ms : List Json.Member) :
    putMembers k d ms = .error .clockOverflow ↔
      ∃ before name late after d', ms = before ++ (name, late) :: after ∧
        putMembers k d before = .ok d' ∧ name.bind k.field? = some .started ∧ d'.started = none ∧
          late.IsLate := by
  constructor
  · intro h
    -- up to the first member that cannot be read
    induction ms generalizing d with
    | nil => cases h
    | cons m ms ih =>
      obtain ⟨name, v⟩ := m
      cases hfield : name.bind k.field? with
      | none =>
        rw [putMembers_skip hfield] at h
        obtain ⟨before, name', late, after, d', rfl, hbefore, hlate⟩ := ih d h
        refine ⟨(name, v) :: before, name', late, after, d', rfl, ?_, hlate⟩
        rw [putMembers_skip hfield, hbefore]
      | some f =>
        rw [putMembers_put hfield] at h
        cases hput : d.put f v with
        | ok d₁ =>
          rw [hput] at h
          obtain ⟨before, name', late, after, d', rfl, hbefore, hlate⟩ := ih d₁ h
          refine ⟨(name, v) :: before, name', late, after, d', rfl, ?_, hlate⟩
          rw [putMembers_put hfield, hput]
          exact hbefore
        | error e =>
          rw [hput] at h
          obtain rfl : e = .clockOverflow := Except.error.inj h
          obtain ⟨rfl, hnone, hlate⟩ := (d.put_overflow_iff f v).1 hput
          exact ⟨[], name, v, ms, d, rfl, rfl, hfield, hnone, hlate⟩
  · rintro ⟨before, name, late, after, d', rfl, hbefore, hfield, hnone, hlate⟩
    have hput := (d'.put_overflow_iff .started late).2 ⟨rfl, hnone, hlate⟩
    rw [putMembers_append, hbefore]
    show putMembers k d' ((name, late) :: after) = _
    rw [putMembers_put hfield, hput]
    rfl

theorem putItems_append (d : Draft) (fs gs : List Field) (us vs : List Json)
    (h : us.length = fs.length) :
    putItems d (fs ++ gs) (us ++ vs) = (putItems d fs us).bind fun d => putItems d gs vs := by
  induction fs generalizing d us with
  | nil =>
    obtain rfl := List.eq_nil_of_length_eq_zero h
    rfl
  | cons f fs ih =>
    obtain _ | ⟨u, us⟩ := us
    · cases h
    · rw [List.cons_append, List.cons_append, putItems_cons, putItems_cons]
      cases d.put f u with
      | ok d => exact ih d us (Nat.succ.inj h)
      | error e => rfl

theorem putItems_overflow_iff (d : Draft) (fs : List Field) (vs : List Json) :
    putItems d fs vs = .error .clockOverflow ↔
      ∃ front back before late after d', fs = front ++ .started :: back ∧
        vs = before ++ late :: after ∧ before.length = front.length ∧
          putItems d front before = .ok d' ∧ d'.started = none ∧ late.IsLate := by
  constructor
  · intro h
    induction vs generalizing d fs with
    | nil => cases fs <;> cases h
    | cons v vs ih =>
      obtain _ | ⟨f, fs⟩ := fs
      · cases h
      rw [putItems_cons] at h
      cases hput : d.put f v with
      | ok d₁ =>
        rw [hput] at h
        obtain ⟨front, back, before, late, after, d', rfl, rfl, hlength, hbefore, hlate⟩ :=
          ih d₁ fs h
        refine ⟨f :: front, back, v :: before, late, after, d', rfl, rfl, congrArg (· + 1) hlength,
          ?_, hlate⟩
        rw [putItems_cons, hput]
        exact hbefore
      | error e =>
        rw [hput] at h
        obtain rfl : e = .clockOverflow := Except.error.inj h
        obtain ⟨rfl, hnone, hlate⟩ := (d.put_overflow_iff f v).1 hput
        exact ⟨[], fs, [], v, vs, d, rfl, rfl, rfl, rfl, hnone, hlate⟩
  · rintro ⟨front, back, before, late, after, d', rfl, rfl, hlength, hbefore, hnone, hlate⟩
    have hput := (d'.put_overflow_iff .started late).2 ⟨rfl, hnone, hlate⟩
    rw [putItems_append d front _ before _ hlength, hbefore]
    show putItems d' (.started :: back) (late :: after) = _
    rw [putItems_cons, hput]
    rfl

end Draft

/-! ## lines -/

theorem EventKind.name_of_ofName? {name : String} {k : EventKind} (h : ofName? name = some k) :
    k.name = name := by
  simpa using List.find?_some h

theorem EventKind.eq_addHit_of_started_mem {k : EventKind} (h : .started ∈ k.fields) :
    k = .addHit := by
  cases k <;> first | rfl | exact absurd h (by decide)

theorem Field.name_injective : Function.Injective Field.name := by
  intro f g h
  cases f <;> cases g <;> first | rfl | exact absurd h (by decide)

theorem EventKind.field?_eq_some_iff {k : EventKind} {name : String} {f : Field} :
    k.field? name = some f ↔ f ∈ k.fields ∧ f.name = name := by
  constructor
  · intro h
    exact ⟨List.mem_of_find?_eq_some h, by simpa using List.find?_some h⟩
  · rintro ⟨hf, rfl⟩
    cases hfound : k.field? f.name with
    | none => exact absurd (decide_eq_true rfl) (List.find?_eq_none.1 hfound f hf)
    | some g =>
      have hname : g.name = f.name := by simpa using List.find?_some hfound
      rw [Field.name_injective hname]

theorem EventKind.field?_eq_started_iff (k : EventKind) (name : String) :
    k.field? name = some .started ↔ k = .addHit ∧ name = "started" := by
  rw [field?_eq_some_iff]
  constructor
  · rintro ⟨hmem, rfl⟩
    exact ⟨eq_addHit_of_started_mem hmem, rfl⟩
  · rintro ⟨rfl, rfl⟩
    decide

theorem EventKind.front_of_fields {k : EventKind} {front back : List Field}
    (h : k.fields = front ++ .started :: back) :
    k = .addHit ∧ front = [.url, .method, .httpStatus] := by
  have hmem : Field.started ∈ k.fields := h ▸ List.mem_append_right _ List.mem_cons_self
  obtain rfl := eq_addHit_of_started_mem hmem
  refine ⟨rfl, ?_⟩
  have hafter : Field.started ∉ [Field.elapsed, .status, .worker] := by decide
  obtain _ | ⟨a, _ | ⟨b, _ | ⟨c, _ | ⟨e, front⟩⟩⟩⟩ := front <;>
    simp only [EventKind.fields, List.cons_append, List.nil_append, List.cons.injEq,
      reduceCtorEq, false_and, and_false] at h
  · obtain ⟨rfl, rfl, rfl, -⟩ := h
    rfl
  · obtain ⟨-, -, -, -, h⟩ := h
    exact absurd (h ▸ List.mem_append_right _ List.mem_cons_self) hafter

namespace Event

/-- What stands beside the tag of a hit holds a late start, and all that comes before it could be
read. -/
inductive StartsLate : Json.Untagged → Prop
  | member {before after : List Json.Member} {late : Json} {d : Draft}
      (hbefore : Draft.putMembers .addHit {} before = .ok d) (hnone : d.started = none)
      (hlate : late.IsLate) : StartsLate (.members (before ++ (some "started", late) :: after))
  | item {before after : List Json} {late : Json} {d : Draft} (hlength : before.length = 3)
      (hbefore : Draft.putItems {} [.url, .method, .httpStatus] before = .ok d)
      (hnone : d.started = none) (hlate : late.IsLate) :
      StartsLate (.items (before ++ late :: after))

/-- the text of a hit that starts late, whatever comes after it -/
def IsLateHit (text : String) : Prop :=
  ∃ v rest beside, Json.front (Text.trimEnd text.toList) = some (v, rest) ∧
    v.isReadable = true ∧ Json.tagged? "event" v = some ("add_hit", beside) ∧ StartsLate beside

def conclude (k : EventKind) (d : Draft) : Except WireFault Event :=
  match d.finish? k with
  | some e => .ok e
  | none => .error .malformed

theorem ofUntagged_members (k : EventKind) (ms : List Json.Member) :
    ofUntagged k (.members ms) = (Draft.putMembers k {} ms).bind (conclude k) := by
  simp only [ofUntagged]
  cases Draft.putMembers k {} ms <;> rfl

theorem ofUntagged_items (k : EventKind) (vs : List Json) :
    ofUntagged k (.items vs) = (Draft.putItems {} k.fields vs).bind (conclude k) := by
  simp only [ofUntagged]
  cases Draft.putItems {} k.fields vs <;> rfl

theorem bind_conclude_overflow_iff {k : EventKind} {x : Except WireFault Draft} :
    x.bind (conclude k) = .error .clockOverflow ↔ x = .error .clockOverflow := by
  cases x with
  | error e =>
    show Except.error e = _ ↔ _
    rw [Except.error.injEq, Except.error.injEq]
  | ok d =>
    show conclude k d = _ ↔ _
    rw [conclude]
    cases d.finish? k <;> simp

theorem ofUntagged_overflow_iff (k : EventKind) (beside : Json.Untagged) :
    ofUntagged k beside = .error .clockOverflow ↔ k = .addHit ∧ StartsLate beside := by
  cases beside with
  | members ms =>
    rw [ofUntagged_members, bind_conclude_overflow_iff, Draft.putMembers_overflow_iff]
    constructor
    · rintro ⟨before, name, late, after, d, rfl, hbefore, hfield, hnone, hlate⟩
      obtain ⟨name, rfl, hname⟩ := Option.bind_eq_some_iff.1 hfield
      obtain ⟨rfl, rfl⟩ := (k.field?_eq_started_iff name).1 hname
      exact ⟨rfl, .member hbefore hnone hlate⟩
    · rintro ⟨rfl, h⟩
      obtain @⟨before, after, late, d, hbefore, hnone, hlate⟩ := h
      exact ⟨before, some "started", late, after, d, rfl, hbefore, by decide, hnone, hlate⟩
  | items vs =>
    rw [ofUntagged_items, bind_conclude_overflow_iff, Draft.putItems_overflow_iff]
    constructor
    · rintro ⟨front, back, before, late, after, d, hfields, rfl, hlength, hbefore, hnone, hlate⟩
      obtain ⟨rfl, rfl⟩ := EventKind.front_of_fields hfields
      exact ⟨rfl, .item hlength hbefore hnone hlate⟩
    · rintro ⟨rfl, h⟩
      obtain _ | @⟨before, after, late, d, hlength, hbefore, hnone, hlate⟩ := h
      exact ⟨[.url, .method, .httpStatus], [.elapsed, .status, .worker], before, late, after, d, rfl,
        rfl, hlength, hbefore, hnone, hlate⟩

theorem ofJson_overflow_iff (v : Json) : ofJson v = .error .clockOverflow ↔
    v.isReadable = true ∧
      ∃ beside, Json.tagged? "event" v = some ("add_hit", beside) ∧ StartsLate beside := by
  have hhit : EventKind.ofName? "add_hit" = some .addHit := EventKind.ofName?_name .addHit
  rw [ofJson]
  by_cases hread : v.isReadable = true
  · rw [if_pos hread]
    cases htag : Json.tagged? "event" v with
    | none => simp
    | some t =>
      obtain ⟨tag, beside⟩ := t
      simp only [Option.some.injEq, Prod.mk.injEq, hread, true_and]
      cases hkind : EventKind.ofName? tag with
      | none =>
        refine ⟨nofun, ?_⟩
        rintro ⟨beside', ⟨rfl, rfl⟩, -⟩
        rw [hhit] at hkind
        cases hkind
      | some k =>
        rw [ofUntagged_overflow_iff]
        constructor
        · rintro ⟨rfl, hlate⟩
          exact ⟨beside, ⟨(EventKind.name_of_ofName? hkind).symm, rfl⟩, hlate⟩
        · rintro ⟨beside', ⟨rfl, rfl⟩, hlate⟩
          rw [hhit] at hkind
          exact ⟨(Option.some.inj hkind).symm, hlate⟩
  · simp [hread]

theorem ofLine_overflow_iff (text : String) :
    ofLine text = .error .clockOverflow ↔ IsLateHit text := by
  rw [ofLine, IsLateHit]
  cases Json.front (Text.trimEnd text.toList) with
  | none => simp
  | some p =>
    obtain ⟨v, rest⟩ := p
    have hjson := ofJson_overflow_iff v
    simp only [Option.some.injEq, Prod.mk.injEq]
    constructor
    · intro h
      have hv : ofJson v = .error .clockOverflow := by
        cases hv : ofJson v with
        | error fault =>
          rw [hv] at h
          exact h
        | ok e =>
          rw [hv] at h
          dsimp only at h
          split at h <;> cases h
      obtain ⟨hread, beside, htag, hlate⟩ := hjson.1 hv
      exact ⟨v, rest, beside, ⟨rfl, rfl⟩, hread, htag, hlate⟩
    · rintro ⟨v, rest, beside, ⟨rfl, rfl⟩, hread, htag, hlate⟩
      rw [hjson.2 ⟨hread, beside, htag, hlate⟩]

end Event

end LoadTest
