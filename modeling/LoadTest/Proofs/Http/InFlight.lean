import Mathlib.Logic.Relation
import LoadTest.Http.Session
import LoadTest.Proofs.Run.Interleaving
import LoadTest.Proofs.Sink.Workers

/-!
# Requests in flight

Sessions send any number of requests at the same time, and all of them report to one sink. A step is
the next report of any of the sends, at any time. What the sink has taken in is then, in some order,
what each send has reported so far, and that says how many sockets are open.

* `Sending`, `Sending.log`       a send and what it reports
* `Underway`                     a send and how much of it has been reported
* `Underway.tally`               what the reports of one send come to
* `Traffic`, `Traffic.Step`      sends that report to one sink, and how they go on
* `Told`                         the sink has taken in what was reported
* `Traffic.reaches_of_woven`     every interleaving is one way to go on
* `Traffic.gauge_counts_open`    what the sink says at any moment and in the end
-/

namespace LoadTest

def Event.isMessage (e : Event) : Bool := e.kind = .socketMessage

namespace Http

open Run (Woven)

/-! ## one send -/

/-- a request that a session sends, and the far side that it meets -/
structure Sending where
  session : Session
  request : Request
  far : Target → Exchange

namespace Sending

def result (x : Sending) : Except Fault Response := x.request.send x.far

def log (x : Sending) : List Event := reported (x.session.send x.request x.far).1

def hit? (x : Sending) : Option Hit :=
  match x.result with
  | .ok a => some ⟨x.request.url, x.request.method, a.status, a.started, a.elapsed,
      x.session.status, x.session.worker⟩
  | .error _ => none

def received (x : Sending) : Nat :=
  match x.result with
  | .ok a => a.bytesReceived
  | .error _ => 0

section
variable {x : Sending}

theorem log_of_error {fault : Fault} (h : x.result = .error fault) :
    x.log = [.socketOpen x.session.status x.session.worker,
      .socketClose x.session.status x.session.worker] := by
  have hresult : x.request.send x.far = .error fault := h
  rw [log, Session.send, hresult]
  cases fault <;> rfl

theorem log_of_ok {a : Response} (h : x.result = .ok a) :
    x.log = [.socketOpen x.session.status x.session.worker, .addHit (x.session.hit x.request a),
      .socketMessage x.session.status (UInt64.ofNat a.bytesReceived) x.session.worker,
      .socketClose x.session.status x.session.worker] := by
  have hresult : x.request.send x.far = .ok a := h
  rw [log, Session.send, hresult]
  rfl

end

end Sending

theorem Request.bytesReceived_lt {r : Request} {far : Target → Exchange} {a : Response}
    (h : r.send far = .ok a) : a.bytesReceived < UInt64.size := by
  obtain ⟨t, ht⟩ : ∃ t, r.receive (far t) = .ok a := by
    unfold Request.send at h
    split at h
    · cases h
    · cases h
    · exact ⟨_, h⟩
  obtain ⟨answer, rfl⟩ : ∃ answer : Answer, answer.response (far t) = a := by
    unfold Request.receive at ht
    split at ht
    · cases ht
    · exact ⟨_, Except.ok.inj ht⟩
    · cases ht
    · split at ht <;> cases ht
  have hle : (answer.response (far t)).bytesReceived ≤ UInt64.size - 1 := Nat.min_le_left ..
  have hsize : UInt64.size = 18446744073709551616 := rfl
  omega

/-- a send and how many of its reports have been made -/
structure Underway where
  sending : Sending
  told : Nat := 0

namespace Underway

def events (u : Underway) : List Event := u.sending.log.take u.told

def isOpen (u : Underway) : Bool := u.events.any Event.isOpen && !u.events.any Event.isClose

def isDone (u : Underway) : Bool := u.sending.log.length ≤ u.told

def hit? (u : Underway) : Option Hit :=
  if u.events.any fun e => e.hit?.isSome then u.sending.hit? else none

def received (u : Underway) : Nat := if u.events.any Event.isMessage then u.sending.received else 0

def next (u : Underway) : Underway := { u with told := u.told + 1 }

theorem events_next {u : Underway} {e : Event} (he : u.sending.log[u.told]? = some e) :
    u.next.events = u.events ++ [e] := by
  rw [events, events, next, List.take_add_one, he]
  rfl

theorem events_of_isDone {u : Underway} (h : u.isDone = true) : u.events = u.sending.log :=
  List.take_of_length_le (of_decide_eq_true h)

/-- **What the reports of one send come to**, at every moment: one more socket opened than closed
while it is open, and its hit and its bytes once they are reported. -/
theorem tally (u : Underway) :
    u.events.countP Event.isOpen = u.events.countP Event.isClose + (if u.isOpen then 1 else 0) ∧
    u.events.filterMap Event.hit? = u.hit?.toList ∧
    (u.events.map Event.bytes).sum = u.received := by
  obtain ⟨x, told⟩ := u
  cases hresult : x.result with
  | error fault =>
    have hlog := Sending.log_of_error hresult
    rcases told with _ | _ | told <;>
      simp [isOpen, hit?, received, events, hlog, Event.isOpen, Event.isClose, Event.isMessage,
        Event.kind, Event.hit?, Event.bytes]
  | ok a =>
    have hlog := Sending.log_of_ok hresult
    have hhit : x.hit? = some (x.session.hit x.request a) := by
      rw [Sending.hit?, hresult]
      rfl
    have hreceived : x.received = (UInt64.ofNat a.bytesReceived).toNat := by
      rw [Sending.received, hresult,
        UInt64.toNat_ofNat_of_lt' (Request.bytesReceived_lt hresult)]
    rcases told with _ | _ | _ | _ | told <;>
      simp [isOpen, hit?, received, events, hlog, hhit, hreceived, Event.isOpen, Event.isClose,
        Event.isMessage, Event.kind, Event.hit?, Event.bytes, List.filterMap_cons]

theorem settled {u : Underway} (h : u.isDone = true) :
    u.isOpen = false ∧ u.hit? = u.sending.hit? ∧ u.received = u.sending.received := by
  have hevents := events_of_isDone h
  cases hresult : u.sending.result with
  | error fault =>
    have hlog := Sending.log_of_error hresult
    have hhit : u.sending.hit? = none := by rw [Sending.hit?, hresult]
    have hreceived : u.sending.received = 0 := by rw [Sending.received, hresult]
    simp [isOpen, hit?, received, hevents, hlog, hhit, hreceived, Event.isOpen, Event.isClose,
      Event.kind]
  | ok a =>
    have hlog := Sending.log_of_ok hresult
    simp [isOpen, hit?, received, hevents, hlog, Event.isOpen, Event.isClose, Event.isMessage,
      Event.kind, Event.hit?]

end Underway

/-! ## all sends together -/

section
variable (us : List Underway)

theorem countP_isOpen_events : (us.flatMap Underway.events).countP Event.isOpen =
    (us.flatMap Underway.events).countP Event.isClose + us.countP Underway.isOpen := by
  induction us with
  | nil => rfl
  | cons u us ih =>
    rw [List.flatMap_cons, List.countP_append, List.countP_append, List.countP_cons, ih, u.tally.1]
    omega

theorem filterMap_hit_events : (us.flatMap Underway.events).filterMap Event.hit? =
    us.filterMap Underway.hit? := by
  induction us with
  | nil => rfl
  | cons u us ih =>
    rw [List.flatMap_cons, List.filterMap_append, List.filterMap_cons, ih, u.tally.2.1]
    cases u.hit? <;> rfl

theorem sum_bytes_events : ((us.flatMap Underway.events).map Event.bytes).sum =
    (us.map Underway.received).sum := by
  induction us with
  | nil => rfl
  | cons u us ih =>
    rw [List.flatMap_cons, List.map_append, List.sum_append, List.map_cons, List.sum_cons, ih,
      u.tally.2.2]

theorem length_events_le : (us.flatMap Underway.events).length ≤
    ((us.map Underway.sending).map fun x => x.log.length).sum := by
  induction us with
  | nil => exact Nat.le_refl _
  | cons u us ih =>
    have hone : u.events.length ≤ u.sending.log.length := List.length_take_le' ..
    rw [List.flatMap_cons, List.length_append, List.map_cons, List.map_cons, List.sum_cons]
    omega

end

/-! ## traffic -/

structure Traffic where
  sink : Sink
  sends : List Underway

def Traffic.start (s : Sink) (xs : List Sending) : Traffic := ⟨s, xs.map fun x => ⟨x, 0⟩⟩

/-- one of the sends makes its next report, at some time -/
inductive Traffic.Step : Traffic → Traffic → Prop
  | report {s : Sink} {before after : List Underway} {u : Underway} {e : Event} (now : Tick)
      (he : u.sending.log[u.told]? = some e) :
      Step ⟨s, before ++ u :: after⟩ ⟨s.commit now e, before ++ u.next :: after⟩

abbrev Traffic.Reaches : Traffic → Traffic → Prop := Relation.ReflTransGen Step

/-- the sink has taken in what the sends have reported, in some order -/
structure Told (base : Sink) (xs : List Sending) (t : Traffic) : Prop where
  sendings : t.sends.map Underway.sending = xs
  history : ∃ h : History, t.sink = base.commitAll h ∧
    h.events.Perm (t.sends.flatMap Underway.events)

theorem told_start (base : Sink) (xs : List Sending) : Told base xs (.start base xs) where
  sendings := by
    rw [Traffic.start, List.map_map]
    exact List.map_id xs
  history := by
    refine ⟨[], rfl, ?_⟩
    have hnone : (xs.map fun x => (⟨x, 0⟩ : Underway)).flatMap Underway.events = [] := by
      rw [List.flatMap_eq_nil_iff]
      intro u hu
      obtain ⟨x, -, rfl⟩ := List.mem_map.1 hu
      rfl
    show List.Perm [] ((xs.map fun x => (⟨x, 0⟩ : Underway)).flatMap Underway.events)
    rw [hnone]

theorem told_of_step {base : Sink} {xs : List Sending} {t t' : Traffic} (ht : Told base xs t)
    (hstep : Traffic.Step t t') : Told base xs t' := by
  obtain ⟨now, he⟩ := hstep
  rename_i s before after u e
  obtain ⟨h, hsink, hperm⟩ := ht.history
  have hsendings := ht.sendings
  refine ⟨?_, h ++ [(now, e)], ?_, ?_⟩
  · rw [← hsendings, List.map_append, List.map_append, List.map_cons, List.map_cons]
    rfl
  · rw [Sink.commitAll_append, ← hsink]
    rfl
  · -- the new report stands at the end of the history and at the end of what its send has reported
    rw [List.flatMap_append, List.flatMap_cons] at hperm ⊢
    have hevents : History.events (h ++ [(now, e)]) = h.events ++ [e] := List.map_append
    have hlast : (u.events ++ [e] ++ after.flatMap Underway.events).Perm
        (e :: (u.events ++ after.flatMap Underway.events)) := by
      rw [List.append_assoc]
      exact List.perm_middle
    rw [hevents, Underway.events_next he]
    exact (List.perm_append_singleton e h.events).trans ((hperm.cons e).trans
      (List.perm_middle.symm.trans (hlast.symm.append_left _)))

theorem told_of_reaches {base : Sink} {xs : List Sending} {t : Traffic}
    (ht : Traffic.Reaches (.start base xs) t) : Told base xs t := by
  induction ht with
  | refl => exact told_start base xs
  | tail _ hstep ih => exact told_of_step ih hstep

/-! ### interleavings -/

def Underway.rest (u : Underway) : List Event := u.sending.log.drop u.told

theorem Underway.rest_eq_cons {u : Underway} {e : Event} {rest : List Event} (h : u.rest = e :: rest) :
    u.sending.log[u.told]? = some e ∧ u.next.rest = rest := by
  have hhead : u.rest.head? = u.sending.log[u.told]? := List.head?_drop
  have htail : u.next.rest = u.rest.tail := List.tail_drop.symm
  rw [← hhead, htail, h]
  exact ⟨rfl, rfl⟩

theorem reaches_of_rests {rests : List (List Event)} {w : List Event} (hw : Woven rests w)
    {us : List Underway} (hus : us.map Underway.rest = rests) {h : History} (hh : h.events = w)
    (s : Sink) : ∃ t, Traffic.Reaches ⟨s, us⟩ t ∧ t.sink = s.commitAll h ∧
      ∀ u ∈ t.sends, u.isDone = true := by
  induction hw generalizing us h s with
  | done hnil =>
    obtain rfl : h = [] := List.map_eq_nil_iff.1 hh
    refine ⟨⟨s, us⟩, .refl, rfl, fun u hu => ?_⟩
    have hrest : u.rest = [] := hnil _ (hus ▸ List.mem_map_of_mem hu)
    exact decide_eq_true (List.drop_eq_nil_iff.1 hrest)
  | @take front rear e l w _ ih =>
    obtain ⟨before, back, rfl, hbefore, hback⟩ := List.map_eq_append_iff.1 hus
    obtain ⟨u, after, rfl, hu, hafter⟩ := List.map_eq_cons_iff.1 hback
    obtain ⟨te, h, rfl, hte, hh⟩ := List.map_eq_cons_iff.1 hh
    obtain ⟨he, hrest⟩ := Underway.rest_eq_cons hu
    have hnext : (before ++ u.next :: after).map Underway.rest = front ++ l :: rear := by
      rw [List.map_append, List.map_cons, hbefore, hrest, hafter]
    obtain ⟨t, hreach, hsink, hdone⟩ := ih hnext hh (s.commit te.1 te.2)
    refine ⟨t, .head ?_ hreach, hsink, hdone⟩
    rw [hte]
    exact .report te.1 he

/-- **Every interleaving is one way to go on**, up to a moment at which all sends are done. -/
theorem Traffic.reaches_of_woven {xs : List Sending} {h : History}
    (hw : Woven (xs.map Sending.log) h.events) (s : Sink) :
    ∃ t, Traffic.Reaches (.start s xs) t ∧ t.sink = s.commitAll h ∧
      ∀ u ∈ t.sends, u.isDone = true := by
  refine reaches_of_rests hw ?_ rfl s
  rw [List.map_map]
  rfl

/-! ## the sink at any moment -/

/-- what the sink holds of the traffic after what it held before -/
structure Shows (base : Sink) (t : Traffic) (opened : Nat) (hits : List Hit) (bytes : Nat) : Prop where
  sockets_eq : t.sink.sockets = base.sockets + opened
  hits_eq : ∃ added, t.sink.hits.toList = base.hits.toList ++ added ∧ added.Perm hits
  bytesReceived_eq : t.sink.bytesReceived = min Sink.byteLimit (base.bytesReceived + bytes)

theorem Told.shows {base : Sink} {xs : List Sending} {t : Traffic} (ht : Told base xs t)
    (hbase : base.bytesReceived ≤ Sink.byteLimit) :
    Shows base t (t.sends.countP Underway.isOpen) (t.sends.filterMap Underway.hit?)
      (t.sends.map Underway.received).sum := by
  obtain ⟨h, hsink, hperm⟩ := ht.history
  have hcount : ∀ f : Event → Bool, h.countP (fun te => f te.2) =
      (t.sends.flatMap Underway.events).countP f := by
    intro f
    rw [← hperm.countP_eq, History.events, List.countP_map]
    rfl
  refine ⟨?_, ⟨h.events.filterMap Event.hit?, ?_, ?_⟩, ?_⟩
  · rw [hsink, Sink.sockets_commitAll, hcount, hcount, countP_isOpen_events]
    omega
  · rw [hsink, Sink.hits_commitAll, History.events, List.filterMap_map]
    rfl
  · rw [← filterMap_hit_events]
    exact hperm.filterMap _
  · have hsum : History.bytes h = (t.sends.map Underway.received).sum := by
      rw [← sum_bytes_events, ← (hperm.map Event.bytes).sum_eq, History.events, List.map_map]
      rfl
    rw [hsink, Sink.bytesReceived_commitAll base h hbase, hsum]

/-- once all sends are done, only their hits and bytes are left of them -/
theorem Told.shows_done {base : Sink} {xs : List Sending} {t : Traffic} (ht : Told base xs t)
    (hbase : base.bytesReceived ≤ Sink.byteLimit) (hdone : ∀ u ∈ t.sends, u.isDone = true) :
    Shows base t 0 (xs.filterMap Sending.hit?) (xs.map Sending.received).sum := by
  have hshows := ht.shows hbase
  have hopen : t.sends.countP Underway.isOpen = 0 := by
    refine List.countP_eq_zero.2 fun u hu => ?_
    rw [(Underway.settled (hdone u hu)).1]
    exact Bool.false_ne_true
  have hhits : t.sends.filterMap Underway.hit? = xs.filterMap Sending.hit? := by
    rw [← ht.sendings, List.filterMap_map]
    exact List.filterMap_congr fun u hu => (Underway.settled (hdone u hu)).2.1
  have hbytes : t.sends.map Underway.received = xs.map Sending.received := by
    rw [← ht.sendings, List.map_map]
    exact List.map_congr_left fun u hu => (Underway.settled (hdone u hu)).2.2
  rwa [hopen, hhits, hbytes] at hshows

theorem length_filterMap_hit (xs : List Sending) :
    (xs.filterMap Sending.hit?).length = xs.countP fun x => x.result.isOk := by
  rw [List.length_filterMap_eq_countP]
  refine List.countP_congr fun x _ => ?_
  rw [Sending.hit?]
  cases x.result <;> exact Iff.rfl

/-- **The gauge counts the open sockets.** However the reports of any sends are interleaved, at every
moment the gauge of the sink is what it was before and one more for each send that has opened its
socket and not closed it, so it is never lower than before, and it fits in 64 bits; the hits and the
bytes that were added are those that have been reported. Once all sends are done the gauge is what it
was; there is one more hit for each request that was answered, with the request's url and method,
the status of the response, and the status and the worker of the session, and the bytes of these
responses; a send that failed has left nothing. Every interleaving of all reports gets there. -/
theorem Traffic.gauge_counts_open (before : History) (xs : List Sending)
    (hlength : before.length + (xs.map fun x => x.log.length).sum < 2 ^ 63) :
    let base := Sink.empty.commitAll before
    (∀ t, Traffic.Reaches (.start base xs) t →
      t.sends.map Underway.sending = xs ∧
      Shows base t (t.sends.countP Underway.isOpen) (t.sends.filterMap Underway.hit?)
        (t.sends.map Underway.received).sum ∧
      base.sockets ≤ t.sink.sockets ∧ -2 ^ 63 < t.sink.sockets ∧ t.sink.sockets < 2 ^ 63 ∧
      ((∀ u ∈ t.sends, u.isDone = true) →
        Shows base t 0 (xs.filterMap Sending.hit?) (xs.map Sending.received).sum ∧
        t.sink.hitCount = base.hitCount + xs.countP fun x => x.result.isOk)) ∧
    (∀ h : History, Woven (xs.map Sending.log) h.events →
      ∃ t, Traffic.Reaches (.start base xs) t ∧ t.sink = base.commitAll h ∧
        ∀ u ∈ t.sends, u.isDone = true) := by
  intro base
  have hbase : base.bytesReceived ≤ Sink.byteLimit := by
    rw [Sink.bytes_commitAll]
    exact Nat.min_le_left ..
  refine ⟨fun t hreaches => ?_, fun h hw => Traffic.reaches_of_woven hw base⟩
  have ht : Told base xs t := told_of_reaches hreaches
  have hshows := ht.shows hbase
  have hgauge := hshows.sockets_eq
  obtain ⟨h, hsink, hperm⟩ := ht.history
  -- before and after together there are fewer events than the gauge can count
  have hbounds := Sink.sockets_bounded (before ++ h)
  have hall : t.sink = Sink.empty.commitAll (before ++ h) := by
    rw [hsink, Sink.commitAll_append]
  have hreported : h.length ≤ (xs.map fun x => x.log.length).sum := by
    have hle := length_events_le t.sends
    rw [ht.sendings, ← hperm.length_eq, History.events, List.length_map] at hle
    exact hle
  rw [← hall, List.length_append] at hbounds
  refine ⟨ht.sendings, hshows, by omega, by omega, by omega, fun hdone => ?_⟩
  have hfinal := ht.shows_done hbase hdone
  obtain ⟨added, hadded, hhits⟩ := hfinal.hits_eq
  refine ⟨hfinal, ?_⟩
  rw [Sink.hitCount, ← Array.length_toList, hadded, List.length_append, hhits.length_eq,
    length_filterMap_hit, Sink.hitCount, Array.length_toList]

/-- Two sends at once: both sockets are open until one of them fails, and in the end there is one hit
with the 16 bytes of an empty answer. -/
theorem Traffic.gauge_counts_open_two :
    let status : Status := ⟨1, 1, 1, 1⟩
    let x : Sending := ⟨⟨status, some "w"⟩, .get "http://h/", fun _ => { reaction := .answered {} }⟩
    let y : Sending := ⟨⟨status, none⟩, .get "ftp://h/", fun _ => { reaction := .lost }⟩
    (∃ t, Traffic.Reaches (.start .empty [x, y]) t ∧ t.sink.sockets = 2) ∧
    (∃ t, Traffic.Reaches (.start .empty [x, y]) t ∧ t.sink.sockets = 0 ∧ t.sink.hitCount = 1 ∧
      t.sink.bytesReceived = 16) := by
  intro status x y
  have hx : x.log = [.socketOpen status (some "w"),
      .addHit ⟨"http://h/", "GET", 200, 0, .zero, status, some "w"⟩,
      .socketMessage status 16 (some "w"), .socketClose status (some "w")] := by decide +kernel
  have hy : y.log = [.socketOpen status none, .socketClose status none] := by decide +kernel
  have hlength : ([] : History).length + ([x, y].map fun z => z.log.length).sum < 2 ^ 63 := by
    rw [List.map_cons, List.map_cons, hx, hy]
    decide
  obtain ⟨hmoment, hwoven⟩ := gauge_counts_open [] [x, y] hlength
  constructor
  · -- the second send starts before the first one is answered
    have hfirst : x.log[0]? = some (.socketOpen status (some "w")) := by rw [hx]; rfl
    have hsecond : y.log[0]? = some (.socketOpen status none) := by rw [hy]; rfl
    have hreaches := (Relation.ReflTransGen.single
      (@Step.report Sink.empty [] [⟨y, 0⟩] ⟨x, 0⟩ _ 1 hfirst)).tail
        (@Step.report _ [⟨x, 1⟩] [] ⟨y, 0⟩ _ 2 hsecond)
    refine ⟨_, hreaches, ?_⟩
    rw [(hmoment _ hreaches).2.1.sockets_eq]
    decide +kernel
  · -- one after the other
    have hnone : Woven ([[]] ++ [] :: []) ([] : List Event) := .done (by decide)
    have hlast : Woven ([] ++ [] :: [y.log ++ []]) (y.log ++ []) := hnone.takeMany y.log
    have hall : Woven ([] ++ (x.log ++ []) :: [y.log ++ []]) (x.log ++ (y.log ++ [])) :=
      hlast.takeMany x.log
    obtain ⟨t, hreaches, -, hdone⟩ := hwoven ((x.log ++ y.log).map fun e => (0, e)) (by
      rw [List.map_cons, List.map_cons, hx, hy]
      rw [hx, hy] at hall
      exact hall)
    obtain ⟨hshows, hhits⟩ := (hmoment t hreaches).2.2.2.2.2 hdone
    refine ⟨t, hreaches, hshows.sockets_eq, hhits.trans ?_, hshows.bytesReceived_eq.trans ?_⟩
    · decide +kernel
    · decide +kernel

end Http

end LoadTest
