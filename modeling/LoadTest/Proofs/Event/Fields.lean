import LoadTest.Proofs.Event.Clock
import LoadTest.Proofs.Json.Records

/-!
# The fields of an event, one by one

Reading the members of an object fills each place of the draft by itself: what stands in it depends
on the values that the object has under the name of this field, and on nothing else.

* `Field.Value`, `Field.read`, `Draft.get`, `Draft.set`   fields in general
* `Draft.put_eq_ok_iff`          reading one field
* `Draft.Fills`                  a place that has been filled from the values of a field
* `Draft.putMembers_eq_ok_iff`   reading the members of an object
* `Event.ofJson_object_iff`      the event of an object
-/

namespace LoadTest

/-! ## fields in general -/

/-- what is read of a field -/
@[reducible]
def Field.Value : Field → Type
  | .test | .info | .url | .method => String
  | .status => Status
  | .size => UInt64
  | .httpStatus => UInt16
  | .started => Int
  | .elapsed => Duration
  | .worker => Option String

def WireFault.demand {α : Type} : Option α → Except WireFault α
  | some x => .ok x
  | none => .error .malformed

open WireFault (demand)

def Field.read : (f : Field) → Json → Except WireFault f.Value
  | .test, v | .info, v | .url, v | .method, v => demand v.text?
  | .status, v => demand (Status.ofJson? v)
  | .size, v => demand v.natural?
  | .httpStatus, v => demand (httpStatus? v)
  | .started, v => moment v
  | .elapsed, v => demand (span? v)
  | .worker, v => demand (Json.optional? Json.text? v)

namespace Draft

def get (d : Draft) : (f : Field) → Option f.Value
  | .test => d.test
  | .info => d.info
  | .status => d.status
  | .size => d.size
  | .url => d.url
  | .method => d.method
  | .httpStatus => d.httpStatus
  | .started => d.started
  | .elapsed => d.elapsed
  | .worker => d.worker

def set (d : Draft) : (f : Field) → f.Value → Draft
  | .test, x => { d with test := some x }
  | .info, x => { d with info := some x }
  | .status, x => { d with status := some x }
  | .size, x => { d with size := some x }
  | .url, x => { d with url := some x }
  | .method, x => { d with method := some x }
  | .httpStatus, x => { d with httpStatus := some x }
  | .started, x => { d with started := some x }
  | .elapsed, x => { d with elapsed := some x }
  | .worker, x => { d with worker := some x }

theorem get_empty (f : Field) : ({} : Draft).get f = none := by
  cases f <;> rfl

theorem get_set_self (d : Draft) (f : Field) (x : f.Value) : (d.set f x).get f = some x := by
  cases f <;> rfl

theorem get_set_of_ne (d : Draft) {f g : Field} (h : g ≠ f) (x : f.Value) :
    (d.set f x).get g = d.get g := by
  cases f <;> cases g <;> first | rfl | exact absurd rfl h

theorem ext_get {d d' : Draft} (h : ∀ f, d.get f = d'.get f) : d = d' := by
  obtain ⟨_, _, _, _, _, _, _, _, _, _⟩ := d
  obtain ⟨_, _, _, _, _, _, _, _, _, _⟩ := d'
  rw [Draft.mk.injEq]
  exact ⟨h .test, h .info, h .status, h .size, h .url, h .method, h .httpStatus, h .started,
    h .elapsed, h .worker⟩

theorem map_fill_eq_ok_iff {α : Type} {place value : Option α} {g : Option α → Draft}
    {d' : Draft} : (fill place value).map g = .ok d' ↔
      place = none ∧ ∃ x, demand value = .ok x ∧ d' = g (some x) := by
  cases place <;> cases value <;> simp [fill, demand, Except.map, eq_comm]

/-- A field is read once, and no other place is touched. -/
theorem put_eq_ok_iff {d d' : Draft} {f : Field} {v : Json} :
    d.put f v = .ok d' ↔ d.get f = none ∧ ∃ x, f.read v = .ok x ∧ d' = d.set f x := by
  cases f with
  | started =>
    show (if d.started = none then _ else _) = _ ↔
      d.started = none ∧ ∃ x : Int, moment v = .ok x ∧ _
    by_cases hd : d.started = none
    · rw [if_pos hd]
      cases moment v <;> simp [hd, Except.map, set, eq_comm]
    · simp [hd]
  | _ => exact map_fill_eq_ok_iff

end Draft

/-! ## names -/

theorem Field.name_ne_tag (f : Field) : f.name ≠ "event" := by
  cases f <;> decide

theorem EventKind.name_injective : Function.Injective EventKind.name := by
  intro k l h
  have hname := ofName?_name k
  rw [h, ofName?_name] at hname
  exact (Option.some.inj hname).symm

namespace Draft

def given (k : EventKind) (ms : List Json.Member) (f : Field) : List Json :=
  if f ∈ k.fields then Json.valuesOf f.name ms else []

/-- A place of a draft that is filled from values: it stays as it is if there are none, and there is
one at most for an empty place. -/
inductive Fills {f : Field} : Option f.Value → List Json → Option f.Value → Prop
  | keep {place : Option f.Value} : Fills place [] place
  | put {v : Json} {x : f.Value} (hread : f.read v = .ok x) : Fills none [v] (some x)

theorem fills_nil_iff {f : Field} {p q : Option f.Value} : Fills p [] q ↔ q = p := by
  constructor
  · rintro ⟨⟩
    rfl
  · rintro rfl
    exact .keep

theorem fills_cons_iff {f : Field} {p q : Option f.Value} {v : Json} {vs : List Json} :
    Fills p (v :: vs) q ↔ p = none ∧ ∃ x, f.read v = .ok x ∧ Fills (some x) vs q := by
  constructor
  · intro h
    cases h with
    | put hread => exact ⟨rfl, _, hread, .keep⟩
  · rintro ⟨rfl, x, hread, hrest⟩
    cases hrest
    exact .put hread

theorem eq_nil_or_of_fills {f : Field} {p q : Option f.Value} {vs : List Json} (h : Fills p vs q) :
    vs = [] ∧ q = p ∨ ∃ v x, vs = [v] ∧ p = none ∧ f.read v = .ok x ∧ q = some x := by
  cases h with
  | keep => exact .inl ⟨rfl, rfl⟩
  | put hread => exact .inr ⟨_, _, rfl, rfl, hread, rfl⟩

theorem given_of_mem {k : EventKind} {f : Field} (hf : f ∈ k.fields) (ms : List Json.Member) :
    given k ms f = Json.valuesOf f.name ms := if_pos hf

theorem given_cons (k : EventKind) (name : Option String) (v : Json) (ms : List Json.Member)
    (f : Field) : given k ((name, v) :: ms) f =
      if name.bind k.field? = some f then v :: given k ms f else given k ms f := by
  have hfield : name.bind k.field? = some f ↔ f ∈ k.fields ∧ name = some f.name := by
    constructor
    · intro h
      obtain ⟨name, rfl, hname⟩ := Option.bind_eq_some_iff.1 h
      obtain ⟨hf, rfl⟩ := EventKind.field?_eq_some_iff.1 hname
      exact ⟨hf, rfl⟩
    · rintro ⟨hf, rfl⟩
      exact EventKind.field?_eq_some_iff.2 ⟨hf, rfl⟩
  simp only [given, Json.valuesOf_cons, hfield]
  by_cases hf : f ∈ k.fields
  · simp [hf]
  · simp [hf]

/-- **Reading the members of an object fills the place of each field by itself**, with the one value
that is given for it. -/
theorem putMembers_eq_ok_iff {k : EventKind} {d d' : Draft} {ms : List Json.Member} :
    putMembers k d ms = .ok d' ↔ ∀ f, Fills (d.get f) (given k ms f) (d'.get f) := by
  induction ms generalizing d with
  | nil =>
    have hnone : ∀ f, given k [] f = [] := fun f => ite_self []
    simp only [putMembers, hnone, fills_nil_iff, Except.ok.injEq]
    exact ⟨fun h f => h ▸ rfl, fun h => (ext_get h).symm⟩
  | cons m ms ih =>
    obtain ⟨name, v⟩ := m
    simp only [given_cons]
    cases hfield : name.bind k.field? with
    | none => simp only [putMembers_skip hfield, ih, reduceCtorEq, if_false]
    | some f =>
      have hput : putMembers k d ((name, v) :: ms) = .ok d' ↔
          d.get f = none ∧ ∃ x, f.read v = .ok x ∧ putMembers k (d.set f x) ms = .ok d' := by
        rw [putMembers_put hfield]
        constructor
        · intro h
          cases hread : d.put f v with
          | error e =>
            rw [hread] at h
            cases h
          | ok d₁ =>
            obtain ⟨hnone, x, hx, rfl⟩ := put_eq_ok_iff.1 hread
            rw [hread] at h
            exact ⟨hnone, x, hx, h⟩
        · rintro ⟨hnone, x, hx, h⟩
          rw [put_eq_ok_iff.2 ⟨hnone, x, hx, rfl⟩]
          exact h
      simp only [hput, ih, Option.some.injEq]
      constructor
      · rintro ⟨hnone, x, hread, hrest⟩ g
        have hg := hrest g
        by_cases hgf : g = f
        · subst hgf
          rw [get_set_self] at hg
          rw [if_pos rfl]
          exact fills_cons_iff.2 ⟨hnone, x, hread, hg⟩
        · rw [get_set_of_ne d hgf] at hg
          rwa [if_neg (Ne.symm hgf)]
      · intro h
        have hf := h f
        rw [if_pos rfl] at hf
        obtain ⟨hnone, x, hread, hrest⟩ := fills_cons_iff.1 hf
        refine ⟨hnone, x, hread, fun g => ?_⟩
        by_cases hgf : g = f
        · subst hgf
          rwa [get_set_self]
        · have hg := h g
          rw [if_neg (Ne.symm hgf)] at hg
          rwa [get_set_of_ne d hgf]

theorem given_filter_ne (k : EventKind) (ms : List Json.Member) (f : Field) :
    given k (ms.filter fun m => m.1 ≠ some "event") f = given k ms f := by
  rw [given, given, Json.valuesOf_filter_ne f.name_ne_tag]

theorem kind_of_finish? {d : Draft} {k : EventKind} {e : Event} (h : d.finish? k = some e) :
    e.kind = k := by
  cases k <;> simp [finish?, Option.bind_eq_some_iff] at h <;> grind [Event.kind]

theorem finish?_set_worker {d : Draft} (h : d.worker = none) (k : EventKind) :
    (d.set .worker none).finish? k = d.finish? k := by
  simp only [finish?, set, h]
  rfl

end Draft

/-! ## objects -/

namespace Event

open Draft

theorem ofUntagged_members_iff {k : EventKind} {ms : List Json.Member} {e : Event} :
    ofUntagged k (.members ms) = .ok e ↔
      ∃ d : Draft, (∀ f, Fills none (given k ms f) (d.get f)) ∧ d.finish? k = some e := by
  have hread (d : Draft) :
      putMembers k {} ms = .ok d ↔ ∀ f, Fills none (given k ms f) (d.get f) := by
    simp only [putMembers_eq_ok_iff, get_empty]
  have hconclude (d : Draft) : conclude k d = .ok e ↔ d.finish? k = some e := by
    rw [conclude]
    cases d.finish? k <;> simp
  simp only [ofUntagged_members, ← hread, ← hconclude]
  cases putMembers k {} ms with
  | error fault =>
    constructor
    · intro h
      cases h
    · rintro ⟨d, hd, -⟩
      cases hd
  | ok d =>
    constructor
    · intro h
      exact ⟨d, rfl, h⟩
    · rintro ⟨d', hd, h⟩
      obtain rfl := Except.ok.inj hd
      exact h

/-- **The event of an object**: its tag names the kind, and the values of the fields of this kind
fill a draft of the event. -/
theorem ofJson_object_iff {ms : List Json.Member} {e : Event} : ofJson (.object ms) = .ok e ↔
    (Json.object ms).isReadable = true ∧ Json.valuesOf "event" ms = [.string e.kind.name] ∧
      ∃ d : Draft, (∀ f, Fills none (given e.kind ms f) (d.get f)) ∧
        d.finish? e.kind = some e := by
  constructor
  · intro h
    rw [ofJson] at h
    split at h
    · next hread =>
      split at h
      · cases h
      · next tag rest htag =>
        obtain ⟨hvalues, rfl⟩ := Json.tagged?_object_iff.1 htag
        split at h
        · cases h
        · next k hk =>
          obtain ⟨d, hfills, hfinish⟩ := ofUntagged_members_iff.1 h
          obtain rfl := kind_of_finish? hfinish
          rw [EventKind.name_of_ofName? hk]
          simp only [given_filter_ne] at hfills
          exact ⟨hread, hvalues, d, hfills, hfinish⟩
    · cases h
  · rintro ⟨hread, htag, d, hfills, hfinish⟩
    rw [ofJson, if_pos hread, Json.tagged?_object_iff.2 ⟨htag, rfl⟩]
    simp only [EventKind.ofName?_name]
    refine ofUntagged_members_iff.2 ⟨d, ?_, hfinish⟩
    simpa only [given_filter_ne] using hfills

end Event

end LoadTest
