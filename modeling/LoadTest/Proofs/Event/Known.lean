import LoadTest.Proofs.Event.Fields
import LoadTest.Proofs.Event.Wire
import LoadTest.Proofs.Json.Objects

/-!
# Only the known members of an event matter

An event that is read from an object depends on the values that the object has under the tag and
under the names of the fields. Members may stand in any order, and others may stand between them. A
tag or a field that comes twice is an error wherever the copies stand; the one copy that is no
ordinary error is a late start in front of the start that was there before.

* `Event.ofJson_known`          the same known members make the same event
* `Event.ofJson_twice`          no event is read if a known member comes twice
* `Event.ofJson_lateCopy_iff`   when a second copy of a field is beyond the clock
* `Event.ReadsLike`             how objects are read that have the members of an event, and more
* `Event.ofLine_members`        all of them are read so
-/

namespace LoadTest

open Json (valuesOf)

namespace Event

open Draft

/-! ## the members of one event -/

section
variable {ms ms' : List Json.Member} {e : Event}

def IsKnown (k : EventKind) (name : String) : Prop := name = "event" ∨ ∃ f ∈ k.fields, f.name = name

/-- no known name comes twice in an object that is an event -/
theorem length_valuesOf_le (h : ofJson (.object ms) = .ok e) {name : String}
    (hname : IsKnown e.kind name) : (valuesOf name ms).length ≤ 1 := by
  obtain ⟨-, htag, d, hfills, -⟩ := ofJson_object_iff.1 h
  obtain rfl | ⟨f, hf, rfl⟩ := hname
  · rw [htag]
    exact Nat.le_refl 1
  · rw [← given_of_mem hf]
    obtain ⟨hvs, -⟩ | ⟨v, x, hvs, -⟩ := eq_nil_or_of_fills (hfills f) <;> simp [hvs]

/-- **The same known members make the same event.** -/
theorem ofJson_known (h : ofJson (.object ms) = .ok e) (hread : (Json.object ms').isReadable = true)
    (hknown : ∀ name, IsKnown e.kind name → valuesOf name ms' = valuesOf name ms) :
    ofJson (.object ms') = .ok e := by
  obtain ⟨-, htag, d, hfills, hfinish⟩ := ofJson_object_iff.1 h
  refine ofJson_object_iff.2 ⟨hread, ?_, d, fun f => ?_, hfinish⟩
  · rw [hknown _ (.inl rfl), htag]
  · have hgiven : given e.kind ms' f = given e.kind ms f := by
      by_cases hf : f ∈ e.kind.fields
      · rw [given_of_mem hf, given_of_mem hf, hknown _ (.inr ⟨f, hf, rfl⟩)]
      · rw [given, if_neg hf, given, if_neg hf]
    rw [hgiven]
    exact hfills f

theorem ofJson_perm (h : ofJson (.object ms) = .ok e) (hperm : ms'.Perm ms) :
    ofJson (.object ms') = .ok e := by
  have hread := Json.isReadable_object_iff.1 (ofJson_object_iff.1 h).1
  exact ofJson_known h (Json.isReadable_object_iff.2 fun m hm => hread m (hperm.mem_iff.1 hm))
    fun name hname => Json.valuesOf_of_perm hperm (length_valuesOf_le h hname)

/-- a member that says nothing about an event of a kind: its name is neither the tag nor a field,
and its value can be read where it stands -/
structure IsForeign (k : EventKind) (m : Json.Member) : Prop where
  ne_known : ∀ name, IsKnown k name → m.1 ≠ some name
  isReadable : (Json.object [m]).isReadable = true

theorem ofJson_append_foreign (h : ofJson (.object ms) = .ok e) {extra : List Json.Member}
    (hextra : ∀ m ∈ extra, IsForeign e.kind m) : ofJson (.object (ms ++ extra)) = .ok e := by
  have hread := Json.isReadable_object_iff.1 (ofJson_object_iff.1 h).1
  refine ofJson_known h (Json.isReadable_object_iff.2 fun m hm => ?_) fun name hname => ?_
  · obtain hm | hm := List.mem_append.1 hm
    · exact hread m hm
    · exact (hextra m hm).isReadable
  · have hnone : valuesOf name extra = [] :=
      Json.valuesOf_eq_nil_iff.2 fun m hm => (hextra m hm).ne_known name hname
    rw [Json.valuesOf_append, hnone, List.append_nil]

theorem ofJson_nullWorker (h : ofJson (.object ms) = .ok e)
    (hnone : valuesOf "worker_id" ms = []) :
    ofJson (.object ((some "worker_id", .null) :: ms)) = .ok e := by
  obtain ⟨hread, htag, d, hfills, hfinish⟩ := ofJson_object_iff.1 h
  have hgiven (f : Field) : given e.kind ((some "worker_id", .null) :: ms) f =
      if f = .worker then .null :: given e.kind ms f else given e.kind ms f := by
    have hfield : (some "worker_id").bind e.kind.field? = some .worker := e.kind.field?_worker
    simp only [given_cons, hfield, Option.some.injEq, eq_comm]
  have hworker : given e.kind ms .worker = [] := by
    rw [given]
    split
    · exact hnone
    · rfl
  have hd : d.worker = none := by
    have hfill := hfills .worker
    rw [hworker] at hfill
    exact fills_nil_iff.1 hfill
  refine ofJson_object_iff.2 ⟨?_, ?_, d.set .worker none, fun f => ?_, ?_⟩
  · refine Json.isReadable_object_iff.2 fun m hm => ?_
    obtain rfl | hm := List.mem_cons.1 hm
    · decide
    · exact Json.isReadable_object_iff.1 hread m hm
  · rw [Json.valuesOf_cons, if_neg (by decide), htag]
  · rw [hgiven]
    by_cases hf : f = .worker
    · subst hf
      rw [if_pos rfl, hworker, get_set_self]
      exact .put rfl
    · rw [if_neg hf, get_set_of_ne d hf]
      exact hfills f
  · rw [finish?_set_worker hd, hfinish]

/-! ## a known member twice -/

theorem length_valuesOf_copy {name : String} {v : Json}
    (hperm : ms'.Perm ((some name, v) :: ms)) :
    (valuesOf name ms').length = (valuesOf name ms).length + 1 := by
  rw [(Json.perm_valuesOf hperm name).length_eq, Json.valuesOf_cons, if_pos rfl, List.length_cons]

/-- a second copy of a field does not touch the tag -/
theorem tag_of_copy (h : ofJson (.object ms) = .ok e) {f : Field} {v : Json}
    (hperm : ms'.Perm ((some f.name, v) :: ms)) :
    valuesOf "event" ms' = [.string e.kind.name] := by
  have hperm := Json.perm_valuesOf hperm "event"
  rwa [Json.valuesOf_cons, if_neg fun heq => f.name_ne_tag (Option.some.inj heq),
    (ofJson_object_iff.1 h).2.1, List.perm_singleton] at hperm

theorem kind_eq_of_tag {k l : EventKind} (h : [Json.string k.name] = [Json.string l.name]) :
    k = l :=
  EventKind.name_injective (Option.some.inj (Json.text.inj (List.singleton_inj.1 h)))

/-- **No event is read if a known member comes twice**, wherever the copies stand. -/
theorem ofJson_twice (h : ofJson (.object ms) = .ok e) {name : String} {v : Json}
    (hname : IsKnown e.kind name) (hgiven : valuesOf name ms ≠ [])
    (hperm : ms'.Perm ((some name, v) :: ms)) (e' : Event) : ofJson (.object ms') ≠ .ok e' := by
  intro h'
  have htwo : 2 ≤ (valuesOf name ms').length := by
    rw [length_valuesOf_copy hperm]
    exact Nat.succ_le_succ (List.length_pos_iff.2 hgiven)
  have hname' : IsKnown e'.kind name := by
    obtain rfl | ⟨f, hf, rfl⟩ := hname
    · exact .inl rfl
    · have hkind := kind_eq_of_tag ((ofJson_object_iff.1 h').2.1.symm.trans (tag_of_copy h hperm))
      exact .inr ⟨f, hkind ▸ hf, rfl⟩
  exact absurd (length_valuesOf_le h' hname') (by omega)

theorem ofJson_secondTag (h : ofJson (.object ms) = .ok e) {v : Json}
    (hperm : ms'.Perm ((some "event", v) :: ms)) : ofJson (.object ms') = .error .malformed := by
  have htag := (ofJson_object_iff.1 h).2.1
  have hgiven : valuesOf "event" ms ≠ [] := by
    rw [htag]
    exact List.cons_ne_nil _ _
  cases hms' : ofJson (.object ms') with
  | ok e' => exact absurd hms' (ofJson_twice h (.inl rfl) hgiven hperm e')
  | error fault =>
    cases fault with
    | malformed => rfl
    | clockOverflow =>
      -- without a tag there is no hit, so no start either
      obtain ⟨-, beside, hbeside, -⟩ := (ofJson_overflow_iff _).1 hms'
      have hlength := length_valuesOf_copy hperm
      rw [(Json.tagged?_object_iff.1 hbeside).1, htag] at hlength
      cases hlength

theorem not_isLate (h : ofJson (.object ms) = .ok e) (hkind : e.kind = .addHit) {w : Json}
    (hw : w ∈ valuesOf "started" ms) : ¬ w.IsLate := by
  obtain ⟨-, -, d, hfills, -⟩ := ofJson_object_iff.1 h
  have hstarted : Field.started ∈ e.kind.fields := by
    rw [hkind]
    decide
  have hfill := eq_nil_or_of_fills (hfills .started)
  rw [given_of_mem hstarted] at hfill
  obtain ⟨hvs, -⟩ | ⟨v, x, hvs, -, hread, -⟩ := hfill
  · exact absurd (hvs ▸ hw) List.not_mem_nil
  · obtain rfl : w = v := List.mem_singleton.1 (hvs ▸ hw)
    intro hlate
    have hread : moment w = .ok x := hread
    rw [(moment_overflow_iff w).2 hlate] at hread
    cases hread

theorem isReadable_of_isLate {v : Json} (h : v.IsLate) (name : String) :
    (Json.object [(some name, v)]).isReadable = true := by
  obtain ⟨x, hx, -⟩ := h
  cases v with
  | number n =>
    have hfloat : n.float?.isSome = true := Option.isSome_iff_exists.2 ⟨x, hx⟩
    simp [Json.isReadable, Json.isSound, Json.areSoundMembers, Json.depth, Json.depthMembers,
      Json.depthLimit, hfloat]
  | _ => cases hx

/-- the first of the starts in a hit that starts late -/
theorem exists_late_of_startsLate (h : StartsLate (.members ms)) :
    ∃ late rest, valuesOf "started" ms = late :: rest ∧ late.IsLate := by
  generalize hbeside : Json.Untagged.members ms = beside at h
  cases h with
  | item => cases hbeside
  | @member before after late d hbefore hnone hlate =>
    obtain rfl := Json.Untagged.members.inj hbeside
    have hfill := eq_nil_or_of_fills (putMembers_eq_ok_iff.1 hbefore .started)
    have hempty : valuesOf "started" before = [] := by
      obtain ⟨hvs, -⟩ | ⟨v, x, -, -, -, hsome⟩ := hfill
      · exact hvs
      · cases hnone.symm.trans hsome
    refine ⟨late, valuesOf "started" after, ?_, hlate⟩
    rw [Json.valuesOf_append, hempty, List.nil_append, Json.valuesOf_cons, if_pos rfl]

/-- **A second copy of a field is beyond the clock** if it is a late start that comes before the
start that was there. -/
theorem ofJson_lateCopy_iff (h : ofJson (.object ms) = .ok e) {f : Field} (hf : f ∈ e.kind.fields)
    {front back : List Json.Member} (hperm : (front ++ back).Perm ms) (v : Json) :
    ofJson (.object (front ++ (some f.name, v) :: back)) = .error .clockOverflow ↔
      f = .started ∧ v.IsLate ∧ valuesOf "started" front = [] := by
  have hcopy : (front ++ (some f.name, v) :: back).Perm ((some f.name, v) :: ms) :=
    List.perm_middle.trans (hperm.cons _)
  have htag := tag_of_copy h hcopy
  have hold {w : Json} (hkind : e.kind = .addHit)
      (hw : w ∈ valuesOf "started" front ∨ w ∈ valuesOf "started" back) : ¬ w.IsLate := by
    refine not_isLate h hkind ((Json.perm_valuesOf hperm "started").mem_iff.1 ?_)
    rwa [Json.valuesOf_append, List.mem_append]
  rw [ofJson_overflow_iff]
  constructor
  · rintro ⟨-, beside, hbeside, hstarts⟩
    obtain ⟨hname, rfl⟩ := Json.tagged?_object_iff.1 hbeside
    have hkind : e.kind = .addHit := kind_eq_of_tag (htag.symm.trans hname)
    obtain ⟨late, rest, hvalues, hlate⟩ := exists_late_of_startsLate hstarts
    rw [Json.valuesOf_filter_ne (by decide), Json.valuesOf_append, Json.valuesOf_cons] at hvalues
    cases hfront : valuesOf "started" front with
    | cons w ws =>
      rw [hfront, List.cons_append] at hvalues
      obtain ⟨rfl, -⟩ := List.cons.inj hvalues
      exact absurd hlate (hold hkind (.inl (hfront ▸ List.mem_cons_self)))
    | nil =>
      rw [hfront, List.nil_append] at hvalues
      split at hvalues
      · next hname =>
        obtain ⟨rfl, -⟩ := List.cons.inj hvalues
        exact ⟨Field.name_injective (Option.some.inj hname), hlate, rfl⟩
      · exact absurd hlate (hold hkind (.inr (hvalues ▸ List.mem_cons_self)))
  · rintro ⟨rfl, hlate, hfront⟩
    have hkind : e.kind = .addHit := EventKind.eq_addHit_of_started_mem hf
    rw [hkind] at htag
    refine ⟨?_, _, Json.tagged?_object_iff.2 ⟨htag, rfl⟩, ?_⟩
    · have hread := Json.isReadable_object_iff.1 (ofJson_object_iff.1 h).1
      refine Json.isReadable_object_iff.2 fun m hm => ?_
      obtain rfl | hm := List.mem_cons.1 (hcopy.mem_iff.1 hm)
      · exact isReadable_of_isLate hlate _
      · exact hread m hm
    -- what stands in front of the copy can be read, since it can be read of the whole hit
    obtain ⟨-, -, d, hfills, -⟩ := ofJson_object_iff.1 (ofJson_perm h hperm)
    have hread : putMembers .addHit {} ((front ++ back).filter fun m => m.1 ≠ some "event") =
        .ok d := by
      refine putMembers_eq_ok_iff.2 fun f => ?_
      rw [given_filter_ne, get_empty, ← hkind]
      exact hfills f
    rw [List.filter_append, putMembers_append] at hread
    cases hd : putMembers .addHit {} (front.filter fun m => m.1 ≠ some "event") with
    | error fault =>
      rw [hd] at hread
      cases hread
    | ok d₁ =>
      have hnone : d₁.started = none := by
        have hfill := putMembers_eq_ok_iff.1 hd .started
        rw [given_filter_ne, given_of_mem (by decide)] at hfill
        have hfill : Fills none (valuesOf "started" front) (d₁.get .started) := hfill
        rw [hfront] at hfill
        exact fills_nil_iff.1 hfill
      have hne : some Field.started.name ≠ some "event" := by decide
      have hkeep : ((some Field.started.name, v) :: back).filter (fun m => m.1 ≠ some "event") =
          (some "started", v) :: back.filter fun m => m.1 ≠ some "event" :=
        List.filter_cons_of_pos (decide_eq_true hne)
      rw [List.filter_append, hkeep]
      exact .member hd hnone hlate

end

/-! ## lines -/

theorem ofLine_objectText (o : Json.ObjectText) : ofLine o.line = ofJson (.object o.values) := by
  have hdone : Json.isDone [] = true := rfl
  rw [ofLine, Json.ObjectText.line, String.toList_ofList, o.front_toList]
  dsimp only
  cases ofJson (.object o.values) with
  | ok e => simp [hdone]
  | error fault => rfl

theorem ofJson_of_ofLine {line : String} {v : Json} {e : Event}
    (hobject : Json.parse (Text.trimEnd line.toList) = some v) (hline : ofLine line = .ok e) :
    ofJson v = .ok e := by
  obtain ⟨rest, hfront, hdone⟩ := Json.parse_eq_some_iff.1 hobject
  rw [ofLine, hfront] at hline
  cases hv : ofJson v with
  | error fault =>
    simp only [hv] at hline
    cases hline
  | ok e' =>
    simp only [hv, hdone, if_true] at hline
    exact hline

/-- a late start that stands in front of any other -/
def IsLateCopy (f : Field) (v : Json) (front : List Json.Member) : Prop :=
  f = .started ∧ v.IsLate ∧ ∀ m ∈ front, m.1 ≠ some "started"

/-- How an object is read that has the members `ms` of an event, and some more. Only the members
count, so their texts may be moved, and blanks may stand between them. -/
structure ReadsLike (e : Event) (ms : List Json.Member) (o : Json.ObjectText) : Prop where
  /-- The order does not matter, nor does any member whose name is not known. -/
  foreign : ∀ extra, (∀ m ∈ extra, IsForeign e.kind m) → o.values.Perm (ms ++ extra) →
    ofLine o.line = .ok e
  /-- Nor does a worker that is `null`, where there was none. -/
  nullWorker : ∀ extra, (∀ m ∈ extra, IsForeign e.kind m) → (∀ m ∈ ms, m.1 ≠ some "worker_id") →
    o.values.Perm ((some "worker_id", .null) :: (ms ++ extra)) → ofLine o.line = .ok e
  /-- With a second tag there is no event. -/
  secondTag : ∀ v, o.values.Perm ((some "event", v) :: ms) → ofLine o.line = .error .malformed
  /-- There is none with a second copy of a field either, and a late start in front of the other
  stops the reader. -/
  secondField : ∀ f ∈ e.kind.fields, (∃ m ∈ ms, m.1 = some f.name) → ∀ front v back,
    (front ++ back).Perm ms → o.values = front ++ (some f.name, v) :: back →
      (¬ IsLateCopy f v front → ofLine o.line = .error .malformed) ∧
        (IsLateCopy f v front → ofLine o.line = .error .clockOverflow)

/-- **Only the known members of a line matter**, for every line that is an object and an event. It
has a text for each of its members, and every object with the same members and some more is read
accordingly. -/
theorem ofLine_members {line : String} {ms : List Json.Member} {e : Event}
    (hobject : Json.parse (Text.trimEnd line.toList) = some (.object ms))
    (hline : ofLine line = .ok e) :
    (∃ o : Json.ObjectText, o.line = line ∧ o.values = ms) ∧
      ∀ o : Json.ObjectText, ReadsLike e ms o := by
  have h := ofJson_of_ofLine hobject hline
  refine ⟨?_, fun o => ⟨?_, ?_, ?_, ?_⟩⟩
  · have hne : ms ≠ [] := by
      rintro rfl
      exact absurd (ofJson_object_iff.1 h).2.1.symm (List.cons_ne_nil _ _)
    obtain ⟨o, ho, hvalues⟩ := Json.exists_objectText hne hobject
    exact ⟨o, by rw [Json.ObjectText.line, ho, String.ofList_toList], hvalues⟩
  · intro extra hextra hperm
    rw [ofLine_objectText]
    exact ofJson_perm (ofJson_append_foreign h hextra) hperm
  · intro extra hextra hworker hperm
    rw [ofLine_objectText]
    have hnone : valuesOf "worker_id" (ms ++ extra) = [] := by
      refine Json.valuesOf_eq_nil_iff.2 fun m hm => ?_
      obtain hm | hm := List.mem_append.1 hm
      · exact hworker m hm
      · have hfield := EventKind.field?_eq_some_iff.1 e.kind.field?_worker
        exact (hextra m hm).ne_known _ (.inr ⟨.worker, hfield⟩)
    exact ofJson_perm (ofJson_nullWorker (ofJson_append_foreign h hextra) hnone) hperm
  · intro v hperm
    rw [ofLine_objectText]
    exact ofJson_secondTag h hperm
  · intro f hf hgiven front v back hperm hvalues
    rw [ofLine_objectText, hvalues]
    have hlate : ofJson (.object (front ++ (some f.name, v) :: back)) = .error .clockOverflow ↔
        IsLateCopy f v front := by
      rw [ofJson_lateCopy_iff h hf hperm, Json.valuesOf_eq_nil_iff, IsLateCopy]
    refine ⟨fun hnot => ?_, hlate.2⟩
    have hne : valuesOf f.name ms ≠ [] := by
      obtain ⟨m, hm, hname⟩ := hgiven
      exact fun hnil => Json.valuesOf_eq_nil_iff.1 hnil m hm hname
    have hcopy : (front ++ (some f.name, v) :: back).Perm ((some f.name, v) :: ms) :=
      List.perm_middle.trans (hperm.cons _)
    have htwice := ofJson_twice h (.inr ⟨f, hf, rfl⟩) hne hcopy
    cases hread : ofJson (.object (front ++ (some f.name, v) :: back)) with
    | ok e' => exact absurd hread (htwice e')
    | error fault =>
      cases fault with
      | malformed => rfl
      | clockOverflow => exact absurd (hlate.1 hread) hnot

def plainHit : List (String × Json) :=
  [("event", .string "add_hit"), ("url", .string "u"), ("method", .string "GET"),
    ("http_status", .natural 200), ("started", .natural 1), ("elapsed", .natural 2),
    ("status", .array [.natural 1, .natural 1, .natural 1, .natural 1])]

/-- all that is read like one hit -/
theorem ofLine_members_plainHit :
    let line := (Json.record plainHit).render
    let ms := plainHit.map fun m => ((some m.1, m.2) : Json.Member)
    let e : Event := .addHit ⟨"u", "GET", 200, 1000000000, ⟨2000000000⟩, ⟨1, 1, 1, 1⟩, none⟩
    Json.parse (Text.trimEnd line.toList) = some (.object ms) ∧ ofLine line = .ok e ∧
      (∃ o : Json.ObjectText, o.line = line ∧ o.values = ms) ∧
        ∀ o : Json.ObjectText, ReadsLike e ms o := by
  intro line ms e
  have hobject : Json.parse (Text.trimEnd line.toList) = some (.object ms) := by
    have htrim : Text.trimEnd (Json.write (.record plainHit)) = Json.write (.record plainHit) :=
      Text.trimEnd_eq_self (Json.isTrimmed_record plainHit).last
    have htext : line.toList = Json.write (.record plainHit) := String.toList_ofList
    rw [htext, htrim]
    exact Json.parse_write (.record plainHit)
  have hline : ofLine line = .ok e := by decide +kernel
  exact ⟨hobject, hline, ofLine_members hobject hline⟩

/-- a second copy of a field that is not rejected but stops the reader -/
theorem ofLine_members_lateCopy :
    let body := "\"event\":\"add_hit\",\"url\":\"u\",\"method\":\"GET\",\"http_status\":200," ++
      "\"started\":1,\"elapsed\":2,\"status\":[1,1,1,1]\x7d"
    (∃ h, ofLine ("\x7b" ++ body) = .ok (.addHit h)) ∧
      ofLine ("\x7b\"started\":1e19," ++ body) = .error .clockOverflow := by
  intro body
  have hhit : ofLine ("\x7b" ++ body) =
      .ok (.addHit ⟨"u", "GET", 200, 1000000000, ⟨2000000000⟩, ⟨1, 1, 1, 1⟩, none⟩) := by
    decide +kernel
  exact ⟨⟨_, hhit⟩, by decide +kernel⟩

end Event

end LoadTest
