import LoadTest.Proofs.Run.TestCase
import LoadTest.Proofs.Sink.Observers

/-!
# Runs that a panic leaves

A panic that leaves an invocation ends what its user does. The other users of the tier go on to
their own ends, no later tier starts, and the run is ended as any other run is. So which invocations
are made is a function of the plan and of the slots that panic.

* `untilEscape_eq_take`, `untilBroken_eq_take`   users and tiers up to the first panic
* `escape_schedule`       the panic of a run is that of the first planned slot that panics
* `Plan.untilBad`         what a user does up to the first bad status
* `schedule_of_bad`, `schedule_of_good`   the tiers that are started
* `starts_flatMap`        each panic leaves one test open
* `execute_escape`        a run that a panic leaves
-/

namespace LoadTest

theorem findSome?_flatMap {α β γ : Type} (f : α → List β) (g : β → Option γ) (l : List α) :
    (l.flatMap f).findSome? g = l.findSome? fun a => (f a).findSome? g := by
  induction l with
  | nil => rfl
  | cons a l ih =>
    rw [List.flatMap_cons, List.findSome?_append, ih, List.findSome?_cons]
    cases (f a).findSome? g <;> rfl

namespace Run

/-! ## the first panic -/

theorem untilEscape_eq_take (log : List Invocation) :
    untilEscape log = log.take (log.findIdx (fun i => i.escape.isSome) + 1) := by
  induction log with
  | nil => rfl
  | cons i log ih =>
    rw [untilEscape, List.findIdx_cons]
    by_cases hi : i.escape.isSome
    · rw [if_pos hi, hi]
      rfl
    · rw [if_neg hi, Bool.eq_false_iff.2 hi, ih]
      rfl

theorem untilBroken_eq_take (ts : List TierRun) :
    untilBroken ts = ts.take (ts.findIdx (fun t => t.escape.isSome) + 1) := by
  induction ts with
  | nil => rfl
  | cons t ts ih =>
    rw [untilBroken, List.findIdx_cons]
    by_cases ht : t.escape.isSome
    · rw [if_pos ht, ht]
      rfl
    · rw [if_neg ht, Bool.eq_false_iff.2 ht, ih]
      rfl

theorem escapeOf_eq_findSome? (log : List Invocation) :
    escapeOf log = log.findSome? Invocation.escape := by
  induction log with
  | nil => rfl
  | cons i log ih =>
    show i.escape.or (escapeOf log) = _
    rw [ih, List.findSome?_cons]
    cases i.escape <;> rfl

theorem escapeOf_untilEscape (log : List Invocation) :
    escapeOf (untilEscape log) = escapeOf log := by
  induction log with
  | nil => rfl
  | cons i log ih =>
    show _ = i.escape.or (escapeOf log)
    rw [untilEscape]
    cases hi : i.escape with
    | none =>
      show i.escape.or (escapeOf (untilEscape log)) = _
      rw [hi, ih]
    | some cause =>
      show i.escape.or none = _
      rw [hi]
      rfl

theorem TierRun.escape_eq_findSome? (t : TierRun) : t.escape = t.findSome? escapeOf := by
  induction t with
  | nil => rfl
  | cons u t ih =>
    show (escapeOf u).or (TierRun.escape t) = _
    rw [ih, List.findSome?_cons]
    cases escapeOf u <;> rfl

theorem escape_untilBroken (ts : List TierRun) :
    (untilBroken ts).escape = ts.findSome? TierRun.escape := by
  induction ts with
  | nil => rfl
  | cons t ts ih =>
    rw [untilBroken, List.findSome?_cons]
    cases ht : t.escape with
    | none =>
      show t.escape.or (Schedule.escape (untilBroken ts)) = _
      rw [ht, ih]
      rfl
    | some cause =>
      show t.escape.or none = _
      rw [ht]
      rfl

section
variable (p : Plan) (s : Scenario) (worker : Option String)

theorem escape_tierRun (tier : Nat) (size : UInt64) :
    (tierRun p s worker tier size).escape =
      (p.tierSlots tier size).findSome? fun slot => (s.invoke slot worker).escape := by
  have huser : (fun user => escapeOf (userRun p s worker tier size user)) = fun user =>
      (p.slots tier size user).findSome? fun slot => (s.invoke slot worker).escape := by
    funext user
    rw [userRun, escapeOf_untilEscape, escapeOf_eq_findSome?, List.findSome?_map]
    rfl
  rw [TierRun.escape_eq_findSome?, tierRun, List.findSome?_map, Plan.tierSlots, findSome?_flatMap,
    ← huser]
  rfl

/-- **The panic of a run** is that of the first planned slot that panics. -/
theorem escape_schedule : (schedule p s worker).escape =
    p.planned.findSome? fun slot => (s.invoke slot worker).escape := by
  have htier : (fun x : UInt64 × Nat => (tierRun p s worker x.2 x.1).escape) = fun x =>
      (p.tierSlots x.2 x.1).findSome? fun slot => (s.invoke slot worker).escape :=
    funext fun x => escape_tierRun p s worker x.2 x.1
  rw [schedule, escape_untilBroken, List.findSome?_map, Plan.planned, findSome?_flatMap, ← htier]
  rfl

end

end Run

/-! ## slots up to a bad one -/

def Ending.isPanic : Ending → Bool
  | .returned _ => false
  | .panicked _ => true

namespace Plan

/-- What a user does: the slots up to and including the first one with a bad status, or all slots
if there is none. -/
def untilBad (p : Plan) (bad : Status → Bool) (tier : Nat) (size user : UInt64) : List Slot :=
  let slots := p.slots tier size user
  slots.take (slots.findIdx (fun slot => bad slot.status) + 1)

def badUsers (p : Plan) (bad : Status → Bool) (tier : Nat) (size : UInt64) : Nat :=
  (usersOf size).countP fun user => (p.slots tier size user).any fun slot => bad slot.status

end Plan

namespace Run

/-- what an invocation reports; after a panic the test has no end -/
def unguardedLog (test : String) (body : Slot → Option String → Body) (worker : Option String)
    (slot : Slot) : List Event :=
  .startTest test slot.status worker :: reported (body slot worker).acts ++
    if (body slot worker).ending.isPanic then [] else [.stopTest test slot.status worker]

section
variable {test : String} {body : Slot → Option String → Body} {worker : Option String}

theorem slotLog_unguarded :
    (Scenario.unguarded test body).slotLog worker = unguardedLog test body worker := by
  funext slot
  show reported (Scenario.unguardedInvocation test slot.status worker (body slot worker)).acts = _
  unfold Scenario.unguardedInvocation unguardedLog
  cases (body slot worker).ending with
  | returned o =>
    rw [reported_append]
    rfl
  | panicked payload =>
    rw [Ending.isPanic, if_pos rfl, List.append_nil]
    rfl

theorem escape_unguarded (slot : Slot) :
    ((Scenario.unguarded test body).invoke slot worker).escape.isSome =
      (body slot worker).ending.isPanic := by
  show (Scenario.unguardedInvocation test slot.status worker (body slot worker)).escape.isSome = _
  unfold Scenario.unguardedInvocation
  cases (body slot worker).ending <;> rfl

end

section
variable {s : Scenario} {worker : Option String} {bad : Status → Bool}
  (hbad : ∀ slot, (s.invoke slot worker).escape.isSome = bad slot.status) (p : Plan)
include hbad

theorem userRun_of_bad (tier : Nat) (size user : UInt64) :
    userRun p s worker tier size user =
      (p.untilBad bad tier size user).map fun slot => s.invoke slot worker := by
  have hcomp : ((fun i : Invocation => i.escape.isSome) ∘ fun slot => s.invoke slot worker) =
      fun slot => bad slot.status := funext hbad
  rw [userRun, untilEscape_eq_take, List.findIdx_map, hcomp, ← List.map_take]
  rfl

theorem isSome_escape_tierRun (tier : Nat) (size : UInt64) :
    (tierRun p s worker tier size).escape.isSome =
      (p.tierSlots tier size).any fun slot => bad slot.status := by
  rw [escape_tierRun, Bool.eq_iff_iff, List.findSome?_isSome_iff, List.any_eq_true]
  simp only [hbad]

/-- the tiers up to and including the first one with a bad slot -/
theorem schedule_of_bad {first : Slot} (hfirst : first ∈ p.planned)
    (hisBad : bad first.status = true)
    (hleast : ∀ slot ∈ p.planned, bad slot.status = true → first.tier ≤ slot.tier) :
    schedule p s worker =
      (p.users.zipIdx.take (first.tier + 1)).map fun x => tierRun p s worker x.2 x.1 := by
  have hbroken : ((fun t : TierRun => t.escape.isSome) ∘ fun x : UInt64 × Nat =>
      tierRun p s worker x.2 x.1) =
        fun x => (p.tierSlots x.2 x.1).any fun slot => bad slot.status :=
    funext fun x => isSome_escape_tierRun hbad p x.2 x.1
  have htier := (Plan.mem_planned.1 hfirst).1
  have hlt : first.tier < p.users.zipIdx.length := by
    rw [List.length_zipIdx]
    exact (List.getElem?_eq_some_iff.1 htier).1
  have hindex : p.users.zipIdx.findIdx
      (fun x => (p.tierSlots x.2 x.1).any fun slot => bad slot.status) = first.tier := by
    -- the tier of the first bad slot is broken, and no tier before it
    refine (List.findIdx_eq hlt).2 ⟨?_, fun tier hlater => ?_⟩
    · rw [List.getElem_zipIdx, Nat.zero_add, (List.getElem?_eq_some_iff.1 htier).2]
      exact List.any_eq_true.2 ⟨first, (Plan.mem_tierSlots htier).2 ⟨hfirst, rfl⟩, hisBad⟩
    · rw [List.getElem_zipIdx, Nat.zero_add]
      refine List.any_eq_false.2 fun slot hslot hslotBad => ?_
      have hslot := (Plan.mem_tierSlots (List.getElem?_eq_getElem _)).1 hslot
      have hle := hleast slot hslot.1 hslotBad
      omega
  rw [schedule, untilBroken_eq_take, List.findIdx_map, hbroken, hindex, List.map_take]

theorem schedule_of_good (hgood : ∀ slot ∈ p.planned, bad slot.status = false) :
    schedule p s worker = p.users.zipIdx.map fun x => fullTierRun p s worker x.1 x.2 := by
  have hnone : ∀ x ∈ p.users.zipIdx, ∀ user ∈ usersOf x.1,
      ∀ i ∈ fullUserRun p s worker x.2 x.1 user, i.escape = none := by
    intro x hx user huser i hi
    obtain ⟨slot, hslot, rfl⟩ := List.mem_map.1 hi
    have hplanned : slot ∈ p.planned :=
      List.mem_flatMap.2 ⟨x, hx, List.mem_flatMap.2 ⟨user, huser, hslot⟩⟩
    rw [← Option.not_isSome_iff_eq_none, hbad, hgood slot hplanned]
    exact Bool.false_ne_true
  have htier : ∀ x ∈ p.users.zipIdx, tierRun p s worker x.2 x.1 = fullTierRun p s worker x.1 x.2 :=
    fun x hx => List.map_congr_left fun user huser => untilEscape_eq_self (hnone x hx user huser)
  rw [← List.map_congr_left htier]
  refine untilBroken_eq_self fun t ht => ?_
  obtain ⟨x, hx, rfl⟩ := List.mem_map.1 ht
  show (tierRun p s worker x.2 x.1).escape = none
  rw [htier x hx]
  refine TierRun.escape_eq_none fun u hu => ?_
  obtain ⟨user, huser, rfl⟩ := List.mem_map.1 hu
  exact escapeOf_eq_none (hnone x hx user huser)

theorem escape_of_good (hgood : ∀ slot ∈ p.planned, bad slot.status = false) :
    (schedule p s worker).escape = none := by
  rw [escape_schedule, List.findSome?_eq_none_iff]
  intro slot hslot
  rw [← Option.not_isSome_iff_eq_none, hbad, hgood slot hslot]
  exact Bool.false_ne_true

/-- each user of a tier reports what it does up to its first bad slot -/
theorem woven_of_reports {tier : Nat} {size : UInt64} {block : List Event}
    (h : (tierRun p s worker tier size).Reports block) :
    Woven ((usersOf size).map fun user =>
      (p.untilBad bad tier size user).flatMap (s.slotLog worker)) block := by
  have huser : ((fun u : List Invocation => u.flatMap fun i => reported i.acts) ∘
      userRun p s worker tier size) = fun user =>
        (p.untilBad bad tier size user).flatMap (s.slotLog worker) := by
    funext user
    rw [Function.comp_apply, userRun_of_bad hbad p, List.flatMap_map]
    rfl
  rw [TierRun.Reports, tierRun, List.map_map, huser] at h
  exact h

end

/-! ## tests without an end -/

theorem countP_take_findIdx {α : Type} (f : α → Bool) (l : List α) :
    (l.take (l.findIdx f + 1)).countP f = if l.any f then 1 else 0 := by
  induction l with
  | nil => rfl
  | cons a l ih =>
    rw [List.findIdx_cons, List.any_cons]
    by_cases ha : f a
    · simp [ha]
    · simp [ha, ih]

section
variable {test : String} {body : Slot → Option String → Body} {worker : Option String}
  {bad : Status → Bool} (hbad : ∀ slot, (body slot worker).ending.isPanic = bad slot.status)
  (hbody : ∀ slot, (body slot worker).OnlyMeasures)
include hbad hbody

/-- a slot that panics starts a test and does not end it -/
theorem starts_flatMap (slots : List Slot) :
    (slots.flatMap (unguardedLog test body worker)).countP Event.isStartTest =
      (slots.flatMap (unguardedLog test body worker)).countP Event.isStopTest +
        slots.countP fun slot => bad slot.status := by
  have hslot : ∀ slot,
      (unguardedLog test body worker slot).countP Event.isStartTest =
        (unguardedLog test body worker slot).countP Event.isStopTest +
          if bad slot.status then 1 else 0 := by
    intro slot
    have hstarts : (reported (body slot worker).acts).countP Event.isStartTest = 0 :=
      List.countP_eq_zero.2 fun e he => by simp [(not_of_isMeasurement (hbody slot e he)).1]
    have hstops : (reported (body slot worker).acts).countP Event.isStopTest = 0 :=
      List.countP_eq_zero.2 fun e he => by simp [(not_of_isMeasurement (hbody slot e he)).2.1]
    rw [unguardedLog, hbad, List.cons_append, List.countP_cons, List.countP_cons,
      List.countP_append, List.countP_append, hstarts, hstops]
    cases bad slot.status <;> rfl
  induction slots with
  | nil => rfl
  | cons slot slots ih =>
    rw [List.flatMap_cons, List.countP_append, List.countP_append, List.countP_cons, hslot, ih]
    omega

theorem starts_block (p : Plan) {tier : Nat} {size : UInt64} {block : List Event}
    (hblock : Woven ((usersOf size).map fun user =>
      (p.untilBad bad tier size user).flatMap (unguardedLog test body worker)) block) :
    block.countP Event.isStartTest =
      block.countP Event.isStopTest + p.badUsers bad tier size := by
  let log : UInt64 → List Event := fun user =>
    (p.untilBad bad tier size user).flatMap (unguardedLog test body worker)
  have huser : ∀ user, (log user).countP Event.isStartTest =
      (log user).countP Event.isStopTest +
        if (p.slots tier size user).any fun slot => bad slot.status then 1 else 0 := by
    intro user
    rw [starts_flatMap hbad hbody]
    exact congrArg (_ + ·) (countP_take_findIdx _ (p.slots tier size user))
  have hwoven : Woven ((usersOf size).map log) block := hblock
  rw [hwoven.countP_eq, hwoven.countP_eq, Plan.badUsers]
  clear hblock hwoven
  induction usersOf size with
  | nil => rfl
  | cons user users ih =>
    simp only [List.map_cons, List.sum_cons, List.countP_cons] at ih ⊢
    rw [huser user, ih]
    omega

theorem starts_blocks (p : Plan) {tiers : List (UInt64 × Nat)} {blocks : List (List Event)}
    (h : List.Forall₂ (fun x block => Woven ((usersOf x.1).map fun user =>
      (p.untilBad bad x.2 x.1 user).flatMap (unguardedLog test body worker)) block) tiers blocks) :
    blocks.flatten.countP Event.isStartTest = blocks.flatten.countP Event.isStopTest +
      (tiers.map fun x => p.badUsers bad x.2 x.1).sum := by
  induction h with
  | nil => rfl
  | cons hblock _ ih =>
    have hone := starts_block hbad hbody p hblock
    rw [List.flatten_cons, List.countP_append, List.countP_append, List.map_cons, List.sum_cons,
      hone, ih]
    omega

end

/-! ## the tiers before the panic -/

theorem mem_take_zipIdx {l : List UInt64} {t : Nat} {x : UInt64 × Nat}
    (hx : x ∈ l.zipIdx.take t) : x.2 < t ∧ l[x.2]? = some x.1 := by
  obtain ⟨i, hi, rfl⟩ := List.mem_take_iff_getElem.1 hx
  rw [List.length_zipIdx] at hi
  rw [List.getElem_zipIdx, Nat.zero_add]
  exact ⟨by omega, List.getElem?_eq_getElem _⟩

section
variable {p : Plan} {bad : Status → Bool} {t : Nat}
  (hleast : ∀ slot ∈ p.planned, bad slot.status = true → t ≤ slot.tier)
  {x : UInt64 × Nat} (hx : x ∈ p.users.zipIdx.take t) {user : UInt64} (huser : user ∈ usersOf x.1)
include hleast hx huser

theorem not_bad_before : ∀ slot ∈ p.slots x.2 x.1 user, bad slot.status = false := by
  intro slot hslot
  obtain ⟨hlt, hsize⟩ := mem_take_zipIdx hx
  have hplanned := (Plan.mem_tierSlots hsize).1 (List.mem_flatMap.2 ⟨user, huser, hslot⟩)
  refine Bool.eq_false_iff.2 fun hslotBad => ?_
  have hle := hleast slot hplanned.1 hslotBad
  omega

theorem untilBad_before : p.untilBad bad x.2 x.1 user = p.slots x.2 x.1 user := by
  rw [Plan.untilBad, List.findIdx_eq_length_of_false (not_bad_before hleast hx huser)]
  exact List.take_of_length_le (Nat.le_succ _)

end

/-- only the users of the last tier that is started can have a bad slot -/
theorem sum_bad_users {p : Plan} {bad : Status → Bool} {t : Nat} {size : UInt64}
    (hsize : p.users[t]? = some size)
    (hleast : ∀ slot ∈ p.planned, bad slot.status = true → t ≤ slot.tier) :
    ((p.users.zipIdx.take (t + 1)).map fun x => p.badUsers bad x.2 x.1).sum =
      p.badUsers bad t size := by
  have hlast : p.users.zipIdx[t]? = some (size, t) := by
    rw [List.getElem?_zipIdx, hsize, Nat.zero_add]
    rfl
  have hzero : ((p.users.zipIdx.take t).map fun x => p.badUsers bad x.2 x.1).sum = 0 := by
    refine List.sum_eq_zero fun n hn => ?_
    obtain ⟨x, hx, rfl⟩ := List.mem_map.1 hn
    refine List.countP_eq_zero.2 fun user huser => ?_
    rw [List.any_eq_false.2 fun slot hslot => by simp [not_bad_before hleast hx huser slot hslot]]
    exact Bool.false_ne_true
  rw [List.take_add_one, hlast, List.map_append, List.sum_append, hzero, Nat.zero_add]
  rfl

theorem tier_le_of_find {p : Plan} {bad : Status → Bool} {first : Slot}
    (hfind : p.planned.find? (fun slot => bad slot.status) = some first) :
    ∀ slot ∈ p.planned, bad slot.status = true → first.tier ≤ slot.tier := by
  obtain ⟨-, before, after, hplanned, hbefore⟩ := List.find?_eq_some_iff_append.1 hfind
  have hordered := p.pairwise_tier_planned
  rw [hplanned, List.pairwise_append] at hordered
  have hafter := (List.pairwise_cons.1 hordered.2.1).1
  intro slot hslot hslotBad
  rw [hplanned, List.mem_append, List.mem_cons] at hslot
  rcases hslot with hslot | rfl | hslot
  · have hgood := hbefore slot hslot
    rw [hslotBad] at hgood
    cases hgood
  · exact Nat.le_refl _
  · exact hafter slot hslot

theorem findSome?_of_find {f : Slot → Option String} {bad : Status → Bool}
    (hf : ∀ slot, (f slot).isSome = bad slot.status) {slots : List Slot} {first : Slot}
    (hfind : slots.find? (fun slot => bad slot.status) = some first) :
    slots.findSome? f = f first := by
  obtain ⟨hisBad, before, after, hslots, hbefore⟩ := List.find?_eq_some_iff_append.1 hfind
  obtain ⟨cause, hcause⟩ := Option.isSome_iff_exists.1 ((hf first).trans hisBad)
  rw [hcause]
  refine List.findSome?_eq_some_iff.2 ⟨before, first, after, hslots, hcause, fun slot hslot => ?_⟩
  rw [← Option.not_isSome_iff_eq_none, hf]
  simpa using hbefore slot hslot

theorem take_zipIdx_roomy {p : Plan} {t : Nat} {size : UInt64} (h : p.roomy.users[t]? = some size) :
    p.roomy.users.zipIdx.take (t + 1) = p.users.zipIdx.take (t + 1) := by
  obtain ⟨later, hlater⟩ := p.prefix_zipIdx_roomy
  have hlt : t < p.roomy.users.length := (List.getElem?_eq_some_iff.1 h).1
  rw [← hlater, List.take_append_of_le_length]
  rw [List.length_zipIdx]
  exact hlt

/-! ## the first bad slot in front of a tier without room -/

section
variable {p : Plan} {s : Scenario} {worker : Option String} {bad : Status → Bool}
  (hbad : ∀ slot, (s.invoke slot worker).escape.isSome = bad slot.status)
  {first : Slot} (hfind : p.roomy.planned.find? (fun slot => bad slot.status) = some first)
include hbad hfind

theorem escape_of_find : (schedule p.roomy s worker).escape = (s.invoke first worker).escape :=
  (escape_schedule p.roomy s worker).trans (findSome?_of_find hbad hfind)

theorem breaksOff_of_find : breaksOff p (schedule p.roomy s worker) = false := by
  refine breaksOff_of_escape ?_ p
  rw [escape_of_find hbad hfind, hbad]
  exact (List.find?_eq_some_iff_append.1 hfind).1

theorem schedule_of_find : schedule p.roomy s worker =
    (p.users.zipIdx.take (first.tier + 1)).map fun x => tierRun p s worker x.2 x.1 := by
  have hfirst : first ∈ p.roomy.planned := List.mem_of_find?_eq_some hfind
  rw [← take_zipIdx_roomy (Plan.mem_planned.1 hfirst).1]
  exact schedule_of_bad hbad p.roomy hfirst (List.find?_eq_some_iff_append.1 hfind).1
    (tier_le_of_find hfind)

end

section
variable {test : String} {body : Slot → Option String → Body} {worker : Option String}

theorem verdict_of_panic {slot : Slot} (hpanic : (body slot worker).ending.isPanic = true)
    (closing : Except Error Unit) (summary : Summary) :
    ∃ payload, (body slot worker).ending = .panicked payload ∧
      verdict ((Scenario.unguarded test body).invoke slot worker).escape closing summary =
        .error (.join (payload.getD unknownPayload)) := by
  show ∃ payload, _ ∧ verdict (Scenario.unguardedInvocation test slot.status worker
    (body slot worker)).escape closing _ = _
  unfold Scenario.unguardedInvocation
  cases hending : (body slot worker).ending with
  | returned o =>
    rw [hending] at hpanic
    cases hpanic
  | panicked payload => exact ⟨payload, rfl, rfl⟩

/-- In the log of a run that a panic leaves, only the users of the last tier leave tests open. -/
theorem starts_log {bad : Status → Bool}
    (hbad : ∀ slot, (body slot worker).ending.isPanic = bad slot.status)
    (hbody : ∀ slot, (body slot worker).OnlyMeasures) {p : Plan} {first : Slot}
    (hfind : p.planned.find? (fun slot => bad slot.status) = some first) {log : List Event}
    {blocks : List (List Event)} {broken : Bool}
    (hlog : log = .startTestRun worker :: blocks.flatten ++ lastEvents worker broken)
    (hblocks : List.Forall₂ (fun x block => Woven ((usersOf x.1).map fun user =>
        (p.untilBad bad x.2 x.1 user).flatMap (unguardedLog test body worker)) block)
      (p.users.zipIdx.take (first.tier + 1)) blocks) :
    log.countP Event.isStartTest =
      log.countP Event.isStopTest + p.badUsers bad first.tier first.status.currentUser := by
  have hinside : ∀ f : Event → Bool, f (.startTestRun worker) = false →
      f (.stopTestRun worker) = false → log.countP f = blocks.flatten.countP f := by
    intro f hstart hstop
    rw [hlog, List.cons_append, List.countP_cons, List.countP_append, countP_lastEvents hstop]
    simp [hstart]
  have hsize := (Plan.mem_planned.1 (List.mem_of_find?_eq_some hfind)).1
  rw [hinside _ rfl rfl, hinside _ rfl rfl, starts_blocks hbad hbody p hblocks,
    sum_bad_users hsize (tier_le_of_find hfind)]

end

/-- **A panic that leaves an invocation ends the run cleanly.** The scenario starts a test, does
what the body does, and ends the test; bodies panic on just the bad statuses. If no planned slot is
bad and every tier has room, only the end of the stream can make the run fail. If there is a bad slot
in front of any tier without room, there is a first tier with one. All is done that the tiers before
it have planned; in this tier, each user does what it has planned up to and including its own first
bad slot; and no later tier starts. Every user that panics leaves one test without an end. The run is
ended, the stream is told of all events and closed once, and a panic is the result, however the
stream takes its end. A tier without room that is reached breaks the run off: it is not ended, and
its stream is not closed. -/
theorem execute_escape (c : RunContext) (p : Plan) (test : String)
    {body : Slot → Option String → Body} {bad : Status → Bool}
    (hbad : ∀ slot, (body slot c.worker).ending.isPanic = bad slot.status)
    (weaver : Weaver Act) (closing : Except Error Unit) (start : Instant) :
    let run := execute c p (.unguarded test body) weaver closing start
    ((∀ slot ∈ p.planned, bad slot.status = false) → p.HasRoom →
      ∃ stop, run.result = closing.map fun _ => run.hub.sink.summary stop) ∧
    ((∃ slot ∈ p.roomy.planned, bad slot.status = true) →
      ∃ first, p.planned.find? (fun slot => bad slot.status) = some first ∧
        let t := first.tier
        let size := first.status.currentUser
        (∀ slot ∈ p.planned, bad slot.status = true → t ≤ slot.tier) ∧
        (∃ blocks, run.log = .startTestRun c.worker :: blocks.flatten ++ [.stopTestRun c.worker] ∧
          List.Forall₂
            (fun (size, tier) block => Woven ((usersOf size).map fun user =>
              (p.untilBad bad tier size user).flatMap (unguardedLog test body c.worker)) block)
            (p.users.zipIdx.take (t + 1)) blocks) ∧
        (∀ x ∈ p.users.zipIdx.take t, ∀ user ∈ usersOf x.1,
          p.untilBad bad x.2 x.1 user = p.slots x.2 x.1 user) ∧
        ((∀ slot, (body slot c.worker).OnlyMeasures) →
          run.log.countP Event.isStartTest =
            run.log.countP Event.isStopTest + p.badUsers bad t size) ∧
        (run.uses = run.log.map Stream.Use.push ++ [.close] ∧
          run.stream = (c.stream.told run.log).close) ∧
        ∃ payload, (body first c.worker).ending = .panicked payload ∧
          run.result = .error (.join (payload.getD unknownPayload))) ∧
    ((∀ slot ∈ p.roomy.planned, bad slot.status = false) → ¬ p.HasRoom →
      (∃ blocks, run.log = .startTestRun c.worker :: blocks.flatten ∧
        List.Forall₂
          (fun (size, tier) block => Woven
            ((usersOf size).map (p.userLog (unguardedLog test body c.worker) tier size)) block)
          p.roomy.users.zipIdx blocks) ∧
      (run.uses = run.log.map Stream.Use.push ∧ run.stream = c.stream.told run.log) ∧
      run.result = .error .capacityOverflow) := by
  intro run
  let s := Scenario.unguarded test body
  let sched := schedule p.roomy s c.worker
  have hescape : ∀ slot, (s.invoke slot c.worker).escape.isSome = bad slot.status := fun slot =>
    (escape_unguarded slot).trans (hbad slot)
  have hlog : run.log = .startTestRun c.worker :: reported (sched.acts weaver) ++
      lastEvents c.worker (breaksOff p sched) := log_execute ..
  have huses : run.uses = run.log.map Stream.Use.push ++
      if breaksOff p sched then [] else [.close] := uses_execute ..
  have hstream : run.stream = if breaksOff p sched then c.stream.told run.log
      else (c.stream.told run.log).close := stream_execute ..
  obtain ⟨stop, hresult⟩ : ∃ stop, run.result = if breaksOff p sched then .error .capacityOverflow
      else verdict sched.escape closing (run.hub.sink.summary stop) := result_execute ..
  obtain ⟨blocks, hacts, hblocks⟩ := sched.reported_acts weaver
  refine ⟨fun hgood hroom => ?_, fun hsome => ?_, fun hgood hcrowded => ?_⟩
  · have hnone : sched.escape = none := escape_of_good hescape p.roomy fun slot hslot =>
      hgood slot (p.prefix_planned_roomy.subset hslot)
    rw [breaksOff_of_hasRoom hroom, hnone] at hresult
    refine ⟨stop, hresult.trans ?_⟩
    cases closing <;> rfl
  · obtain ⟨first, hfind⟩ := Option.isSome_iff_exists.1
      (List.find?_isSome (p := fun slot : Slot => bad slot.status) |>.2 hsome)
    have hfindAll := p.prefix_planned_roomy.find?_eq_some hfind
    have hleast := tier_le_of_find hfindAll
    have hisBad : bad first.status = true := (List.find?_eq_some_iff_append.1 hfind).1
    -- the first bad slot stands in front of any tier without room, so the run does not break off
    rw [breaksOff_of_find hescape hfind] at hlog huses hstream hresult
    have hsched : sched = _ := schedule_of_find hescape hfind
    rw [hsched, List.forall₂_map_left_iff] at hblocks
    have hwoven := hblocks.imp fun x block h => woven_of_reports hescape p h
    rw [slotLog_unguarded] at hwoven
    rw [hacts] at hlog
    refine ⟨first, hfindAll, hleast, ⟨blocks, hlog, hwoven⟩,
      fun x hx user huser => untilBad_before hleast hx huser,
      fun hbody => starts_log hbad hbody hfindAll hlog hwoven, ⟨huses, hstream⟩, ?_⟩
    have hfound : sched.escape = _ := escape_of_find hescape hfind
    rw [hresult, hfound]
    exact verdict_of_panic ((hbad first).trans hisBad) closing _
  · have hnone : sched.escape = none := escape_of_good hescape p.roomy hgood
    rw [breaksOff_of_none hnone, decide_eq_false hcrowded] at hlog huses hstream hresult
    have hsched : sched = _ := schedule_of_good hescape p.roomy hgood
    rw [hsched, List.forall₂_map_left_iff] at hblocks
    have hwoven := hblocks.imp fun x block h => isBlock_of_reports h
    rw [slotLog_unguarded] at hwoven
    rw [hacts] at hlog
    exact ⟨⟨blocks, hlog.trans (List.append_nil _), hwoven⟩,
      ⟨huses.trans (List.append_nil _), hstream⟩, hresult⟩

/-- The second user of the second tier panics in its first step. The first user goes on, the third
tier does not start, and that the stream does not end well is not reported. -/
theorem execute_escape_flaky :
    let p : Plan := ⟨[1, 2, 1], [2, 1], none⟩
    let c : RunContext := { stream := .stdout { total := none } }
    let bad : Status → Bool := fun status => status.user = 2
    let run := execute c p (.unguarded "t" flakyBody) .rounds (.error .runNotStarted) 0
    Plan.make [1, 2, 1] [2, 1] none = .ok p ∧
      (∀ slot, (flakyBody slot c.worker).ending.isPanic = bad slot.status) ∧
      (∃ slot ∈ p.roomy.planned, bad slot.status = true) ∧
      (∀ slot, (flakyBody slot c.worker).OnlyMeasures) ∧
      run.log.countP Event.isStartTest = run.log.countP Event.isStopTest + 1 ∧
      run.uses = run.log.map Stream.Use.push ++ [.close] ∧
      run.result = .error (.join "boom") := by
  intro p c bad run
  have hbad : ∀ slot, (flakyBody slot c.worker).ending.isPanic = bad slot.status := by
    intro slot
    by_cases huser : slot.status.user = 2
    · simp [flakyBody, bad, huser, Ending.isPanic]
    · simp [flakyBody, bad, huser, Ending.isPanic]
  have hsome : ∃ slot ∈ p.roomy.planned, bad slot.status = true := by decide
  have hbody : ∀ slot, (flakyBody slot c.worker).OnlyMeasures := fun slot =>
    flakyBody_onlyMeasures slot c.worker
  obtain ⟨first, hfind, -, -, -, hcounts, ⟨huses, -⟩, payload, hending, hresult⟩ :=
    (execute_escape c p "t" hbad .rounds (.error .runNotStarted) 0).2.1 hsome
  have hfirst : p.planned.find? (fun slot => bad slot.status) = some ⟨1, 0, ⟨1, 2, 2, 2⟩⟩ := by
    decide
  obtain rfl : ⟨1, 0, ⟨1, 2, 2, 2⟩⟩ = first := Option.some.inj (hfirst.symm.trans hfind)
  obtain rfl : some "boom" = payload := Ending.panicked.inj hending
  exact ⟨rfl, hbad, hsome, hbody, hcounts hbody, huses, hresult⟩

/-- An accepted plan and a scenario that never panics, whose run is neither ended nor closed. -/
theorem execute_escape_crowded :
    let body : Slot → Option String → Body := fun _ _ => .only .success
    let run := execute { stream := .stdout { total := none } } crowdedPlan (.unguarded "t" body)
      .rounds (.ok ()) 0
    Plan.make [0x1000000000000000] [1] none = .ok crowdedPlan ∧
      (∀ slot, (body slot none).ending.isPanic = false) ∧
      .stopTestRun none ∉ run.log ∧ .close ∉ run.uses ∧ ∀ summary, run.result ≠ .ok summary := by
  intro body run
  have hplan : Plan.make [0x1000000000000000] [1] none = .ok crowdedPlan := rfl
  have hguarded : (Scenario.unguarded "t" body).Guarded := fun _ _ => rfl
  obtain ⟨hlog, huses, hresult⟩ := execute_crowded hguarded
    { stream := .stdout { total := none } } .rounds (.ok ()) 0
  refine ⟨hplan, fun _ => rfl, ?_, ?_, fun summary => ?_⟩
  · rw [hlog]
    decide
  · rw [huses]
    decide
  · rw [hresult]
    intro h
    cases h

end Run

end LoadTest
