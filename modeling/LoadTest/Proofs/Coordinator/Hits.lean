import LoadTest.Coordinator
import LoadTest.Proofs.Coordinator.Outcomes
import LoadTest.Proofs.Event.Hits
import LoadTest.Proofs.Sink.Workers
import LoadTest.Proofs.Stream.Framing

/-!
# Hits at the coordinator

On its way to the coordinator a hit may get other times, or be lost for them. What it is a hit of, and
how it went, stays, and with it all that is asked of hits beside their times.

* `Sink.AnswersLike`          sinks that answer alike what does not ask for times
* `sink_consume`              the loop takes in the events of the lines that it reads
* `hits_keep_identity`        the coordinator answers as the agent does
-/

namespace LoadTest

/-! ## questions that do not ask for times -/

namespace Hit.Identity

def isSelected (i : Identity) (url : Option String) (cycle : Option UInt64) : Bool :=
  url.all (i.url = ·) && cycle.all (i.status.currentCycle = ·)

def isSuccess (i : Identity) : Bool := 200 ≤ i.httpStatus && i.httpStatus < 400

end Hit.Identity

namespace Sink

/-- What is asked of hits, but not of their times, has the same answer. -/
structure AnswersLike (s t : Sink) : Prop where
  hitCount : s.hitCount = t.hitCount
  urls : s.urls = t.urls
  hitsSuccessRate : ∀ url cycle, s.hitsSuccessRate url cycle = t.hitsSuccessRate url cycle
  hitsOf : ∀ url cycle, (s.hitsOf url cycle).map Hit.identity = (t.hitsOf url cycle).map Hit.identity

def identities (s : Sink) : List Hit.Identity := s.hits.toList.map Hit.identity

section
variable (s : Sink)

theorem hitCount_eq_identities : s.hitCount = s.identities.length := by
  rw [identities, List.length_map, Array.length_toList, hitCount]

theorem urls_eq_identities : s.urls = Text.sortedTexts (s.identities.map Hit.Identity.url) := by
  rw [identities, List.map_map]
  rfl

theorem hitsOf_identity (url : Option String) (cycle : Option UInt64) :
    (s.hitsOf url cycle).map Hit.identity = s.identities.filter fun i => i.isSelected url cycle := by
  rw [identities, List.filter_map]
  rfl

theorem hitsSuccessRate_eq_identities (url : Option String) (cycle : Option UInt64) :
    s.hitsSuccessRate url cycle = (mean ((s.identities.filter fun i => i.isSelected url cycle).map
      fun i => if i.isSuccess then 1.0 else 0.0)).getD 0.0 := by
  rw [← hitsOf_identity, List.map_map]
  rfl

end

/-- nothing but identities is asked for -/
theorem answersLike_of_identities {s t : Sink} (h : s.identities = t.identities) :
    s.AnswersLike t where
  hitCount := by rw [hitCount_eq_identities, hitCount_eq_identities, h]
  urls := by rw [urls_eq_identities, urls_eq_identities, h]
  hitsSuccessRate := by
    intro url cycle
    rw [hitsSuccessRate_eq_identities, hitsSuccessRate_eq_identities, h]
  hitsOf := by
    intro url cycle
    rw [hitsOf_identity, hitsOf_identity, h]

end Sink

/-! ## events on their way -/

namespace Event

def arrives (e : Event) : Bool := (ofLine e.line).isOk

theorem hit?_of_isRunEvent {e : Event} (he : e.isRunEvent = true) : e.hit? = none := by
  cases e <;> first | rfl | cases he

/-- A hit that can be read has kept its identity, and no other event becomes a hit. -/
theorem identity_ofLine (e : Event) :
    ((ofLine e.line).toOption.bind hit?).map Hit.identity =
      if e.arrives then e.hit?.map Hit.identity else none := by
  rw [arrives]
  cases hline : ofLine e.line with
  | error fault => rfl
  | ok e' =>
    show e'.hit?.map Hit.identity = e.hit?.map Hit.identity
    cases e with
    | addHit h =>
      obtain ⟨started, elapsed, -, -, rfl⟩ := ofLine_hit_iff.1 hline
      exact congrArg some (h.identity_timed started elapsed)
    | _ =>
      rw [ofLine_of_trimEnd (by simp [kind]) (trimEnd_line _)] at hline
      obtain rfl := Except.ok.inj hline
      rfl

end Event

namespace Coordinator

/-! ## the loop -/

def hitsIn (texts : List String) : List Hit :=
  texts.filterMap fun text => (Event.ofLine (Text.trimmed text)).toOption.bind Event.hit?

theorem hits_applied (read : List Arrival) :
    (applied read).filterMap (fun te => te.2.hit?) = hitsIn (read.map Prod.snd) := by
  rw [applied, List.filterMap_filter, decodedAll, List.filterMap_filterMap, hitsIn,
    List.filterMap_map]
  refine List.filterMap_congr fun a _ => ?_
  have htext : (Event.ofLine (Text.trimmed a.2)).toOption = decoded? a := rfl
  rw [Function.comp_apply, htext]
  cases decoded? a with
  | none => rfl
  | some e =>
    rw [Option.map_some, Option.bind_some, Option.bind_some]
    by_cases hrun : e.isRunEvent = true
    · rw [hrun, Event.hit?_of_isRunEvent hrun]
      rfl
    · rw [if_pos (by simpa using hrun)]

theorem identity_hitsIn_body (es : List Event) :
    (hitsIn (es.map Event.body)).map Hit.identity =
      ((es.filter Event.arrives).filterMap Event.hit?).map Hit.identity := by
  rw [hitsIn, List.filterMap_map, List.map_filterMap, List.map_filterMap, List.filterMap_filter]
  refine List.filterMap_congr fun e _ => ?_
  rw [Function.comp_apply, Event.trimmed_body, Event.ofLine_body_eq, Event.identity_ofLine]

/-- **The loop takes in the events of the lines that it reads**, wherever it stops. -/
theorem sink_consume (expected : Nat) (shortage : Shortage) (s : Intake) (queue : List Arrival) :
    ∃ read, queue = read ++ (consume expected shortage s queue).unread ∧
      (consume expected shortage s queue).intake.hub.sink = s.hub.sink.commitAll (applied read) := by
  induction queue generalizing s with
  | nil =>
    refine ⟨[], ?_, ?_⟩ <;> rw [consume] <;> split <;> rfl
  | cons a queue ih =>
    rw [consume]
    by_cases henough : expected ≤ s.tally.completed
    · rw [if_pos henough]
      exact ⟨[], rfl, rfl⟩
    · rw [if_neg henough]
      by_cases hlate : IsLate a
      · have hnone : applied [a] = [] := by
          simp [applied, decodedAll, decoded?, (isLate_iff a).1 hlate, Except.toOption]
        rw [take_overflow s (ofText_late hlate)]
        refine ⟨[a], rfl, ?_⟩
        rw [hnone, Sink.commitAll_nil]
      · rw [take_of_not_late s hlate]
        dsimp only
        obtain ⟨read, hqueue, hsink⟩ := ih (s.after [a])
        have happlied : applied (a :: read) = applied [a] ++ applied read :=
          applied_append [a] read
        refine ⟨a :: read, ?_, ?_⟩
        · rw [List.cons_append, ← hqueue]
        · rw [hsink, Intake.sink_after, happlied, Sink.commitAll_append]

section
variable {expected : Nat} {world : Surroundings}

theorem identities_gather {read : List Arrival} {es : List Event}
    (hread : world.arrivals = read ++ (gather expected world).unread)
    (hlines : read.map Prod.snd = decodeLines (es.flatMap Event.lineBytes)) :
    (gather expected world).intake.hub.sink.identities =
      ((es.filter Event.arrives).filterMap Event.hit?).map Hit.identity := by
  obtain ⟨taken, htaken, hsink⟩ := sink_consume expected world.shortage
    { hub := startedHub world.startedAt } world.arrivals
  change world.arrivals = taken ++ (gather expected world).unread at htaken
  change (gather expected world).intake.hub.sink = _ at hsink
  obtain rfl : read = taken := List.append_cancel_right (hread.symm.trans htaken)
  have hnone : (startedHub world.startedAt).sink.hits.toList = [] := rfl
  rw [Sink.identities, hsink, Sink.hits_commitAll, hnone, List.nil_append, hits_applied, hlines,
    Event.decodeLines_lineBytes, identity_hitsIn_body]

theorem sink_drain {s t : Intake} {queue : List Arrival} (h : drain s queue = .ok t) :
    t.hub.sink = s.hub.sink := by
  induction queue generalizing s with
  | nil =>
    obtain rfl := Except.ok.inj h
    rfl
  | cons a queue ih =>
    rw [drain] at h
    cases hskim : s.skim a with
    | error e =>
      rw [hskim] at h
      cases h
    | ok u =>
      rw [hskim] at h
      exact (ih h).trans (skim_ok hskim).1

theorem identities_finish {r : Reception} {s : Intake} (h : finish world r = .ok s) :
    s.hub.sink.identities = r.intake.hub.sink.identities := by
  rw [finish] at h
  split at h
  · cases h
  · rw [Sink.identities, sink_drain h]
    rfl

end

/-- **Hits keep their identity on their way.** A line of a hit is read iff its times can be read, and
then it is the hit at these times: its url, its method, its HTTP status, its status and its worker
are what they were, whatever characters they hold and whatever stands in the places of the times.
So a coordinator that has taken lines of an agent off its queue answers like a sink that took in the
agent's events with these lines, but for hits whose times were lost: it knows as many hits, the same
urls, the same share of good hits, and the same hits under every filter, in the same order. This is
so when its loop ends, and when the run ends. -/
theorem hits_keep_identity :
    (∀ (h : Hit) (e : Event), Event.ofLine (Event.addHit h).line = .ok e ↔
      ∃ started elapsed, moment (.float h.startedSeconds) = .ok started ∧
        span? (.float h.elapsed.seconds) = some elapsed ∧
          e = .addHit { h with started, elapsed }) ∧
    ∀ (expected : Nat) (world : Surroundings) (read : List Arrival) (agent : History),
      let r := gather expected world
      world.arrivals = read ++ r.unread →
      read.map Prod.snd = decodeLines (agent.events.flatMap Event.lineBytes) →
      let reported := Sink.empty.commitAll (agent.filter fun te => te.2.arrives)
      r.intake.hub.sink.AnswersLike reported ∧
        ∀ s, finish world r = .ok s → s.hub.sink.AnswersLike reported := by
  refine ⟨fun h e => Event.ofLine_hit_iff, ?_⟩
  intro expected world read agent r hread hlines reported
  have hreported : reported.identities =
      ((agent.events.filter Event.arrives).filterMap Event.hit?).map Hit.identity := by
    rw [History.filter_events, Sink.identities, Sink.toList_hits]
  have hreceived : r.intake.hub.sink.identities = reported.identities :=
    (identities_gather hread hlines).trans hreported.symm
  refine ⟨Sink.answersLike_of_identities hreceived, fun s hs => ?_⟩
  exact Sink.answersLike_of_identities ((identities_finish hs).trans hreceived)

/-- a hit from before the epoch -/
def oldHit : Hit := ⟨"é\"", "GET", 503, -5, ⟨250000000⟩, ⟨1, 2, 3, 4⟩, none⟩

def oldHistory : History := [(1, .addHit oldHit), (2, .stopTest "t" ⟨1, 2, 3, 4⟩ none)]

def oldWorld : Surroundings where
  port _ := .ok 7781
  broker _ := .ok ["a"]
  arrivals := (oldHistory.events.map Event.body).map fun text => (4, text)
  shortage := .closed
  startedAt := 0
  stoppedAt := 5

/-- what the agent's sink knows of the events whose lines can be read -/
def oldReport : Sink := Sink.empty.commitAll (oldHistory.filter fun te => te.2.arrives)

/-- The hit starts at the epoch now, and is the same hit otherwise. -/
theorem hits_keep_identity_old :
    Event.ofLine (Event.addHit oldHit).line = .ok (.addHit { oldHit with started := 0 }) ∧
      oldWorld.arrivals = oldWorld.arrivals ++ (gather 1 oldWorld).unread ∧
      oldWorld.arrivals.map Prod.snd = decodeLines (oldHistory.events.flatMap Event.lineBytes) ∧
      (gather 1 oldWorld).intake.hub.sink.AnswersLike oldReport ∧
      ∃ s, finish oldWorld (gather 1 oldWorld) = .ok s ∧ s.hub.sink.AnswersLike oldReport := by
  have hold : Event.ofLine (Event.addHit oldHit).line =
      .ok (.addHit { oldHit with started := 0 }) := by decide +kernel
  have hend : (gather 1 oldWorld).unread = [] ∧ (gather 1 oldWorld).result = .ok () := by
    decide +kernel
  obtain ⟨hunread, hresult⟩ := hend
  have hread : oldWorld.arrivals = oldWorld.arrivals ++ (gather 1 oldWorld).unread := by
    rw [hunread, List.append_nil]
  have hlines : oldWorld.arrivals.map Prod.snd =
      decodeLines (oldHistory.events.flatMap Event.lineBytes) := by
    rw [Event.decodeLines_lineBytes, oldWorld, List.map_map]
    exact List.map_id _
  have hfinish : finish oldWorld (gather 1 oldWorld) =
      .ok ((gather 1 oldWorld).intake.apply 5 (.stopTestRun none)) := by
    rw [finish, hresult, hunread]
    rfl
  obtain ⟨hloop, hrun⟩ := hits_keep_identity.2 1 oldWorld oldWorld.arrivals oldHistory hread hlines
  exact ⟨hold, hread, hlines, hloop, _, hfinish, hrun _ hfinish⟩

end Coordinator

end LoadTest
