import LoadTest.Coordinator.Connection
import LoadTest.Proofs.Event.Wire
import LoadTest.Stream.Remote
import Mathlib.Data.List.Forall2

/-!
# Streams of lines

What a connection carries is cut into the lines that were pushed, and each is read back.

* `Text.lines_flatMap`        texts that are ended by line feeds are found again
* `Event.decodeLines_lineBytes`   so are the texts of events
* `drain_eq`                  a writer that goes on hands over all that is left
* `Carries`, `Delivered`      what is true of a connection before and after its closing
* `Carries.actAll`            a whole course
* `course_framed`             what callers and the far side see of a course
-/

namespace LoadTest

/-! ## lines -/

namespace Text

variable {α β : Type} [BEq α] [LawfulBEq α]

theorem splitOn_flatMap {lf : α} {f : β → List α} (h : ∀ b, lf ∉ f b) (bs : List β) :
    (bs.flatMap fun b => f b ++ [lf]).splitOn lf = bs.map f ++ [[]] := by
  induction bs with
  | nil => rfl
  | cons b bs ih =>
    rw [List.flatMap_cons, List.append_assoc, List.singleton_append,
      List.splitOn_append_cons_self_of_not_mem (h b), ih, List.map_cons, List.cons_append]

theorem dropReturn_eq {cr : α} {l : List α} (h : cr ∉ l) : dropReturn cr l = l := by
  have hlast : l.getLast? ≠ some cr := fun hcr => h (List.mem_of_getLast? hcr)
  rw [dropReturn, if_neg (by simpa using hlast)]

theorem lines_flatMap {lf cr : α} {f : β → List α} (hlf : ∀ b, lf ∉ f b) (hcr : ∀ b, cr ∉ f b)
    (bs : List β) : lines lf cr (bs.flatMap fun b => f b ++ [lf]) = bs.map f := by
  have hreturn : (bs.map f).map (dropReturn cr) = bs.map f := by
    rw [List.map_map]
    exact List.map_congr_left fun b _ => dropReturn_eq (hcr b)
  simp only [lines, splitOn_flatMap hlf, List.dropLast_concat, List.getLast?_concat, List.append_nil,
    hreturn]

end Text

theorem Coordinator.decodeWhile_utf8 {β : Type} (f : β → String) (bs : List β) :
    decodeWhile (bs.map fun b => Text.utf8 (f b)) = bs.map f := by
  induction bs with
  | nil => rfl
  | cons b bs ih =>
    rw [List.map_cons, decodeWhile, Text.ofUtf8?_utf8]
    exact congrArg (f b :: ·) ih

/-! ## lines of events -/

namespace Event

def lineBytes (e : Event) : List UInt8 := Text.utf8 e.line

theorem notMem_utf8_body (e : Event) {b : UInt8} (hb : b.toNat < 0x20) : b ∉ Text.utf8 e.body := by
  refine Text.notMem_utf8 (by omega) fun c hc => ?_
  rw [toList_body] at hc
  have hprint : 0x20 ≤ c.toNat := Json.forall_mem_write e.toJson c hc
  omega

theorem lineBytes_eq (e : Event) : e.lineBytes = Text.utf8 e.body ++ [0x0A] := by
  rw [lineBytes, line_eq, Text.utf8_append, Text.utf8_newline]

theorem decodeLines_lineBytes (es : List Event) :
    Coordinator.decodeLines (es.flatMap lineBytes) = es.map body := by
  have hjoin : lineBytes = fun e => Text.utf8 e.body ++ [0x0A] := funext lineBytes_eq
  rw [Coordinator.decodeLines, hjoin, Text.lines_flatMap (fun e => e.notMem_utf8_body (by decide))
    (fun e => e.notMem_utf8_body (by decide)), Coordinator.decodeWhile_utf8]

theorem forall₂_decodeLines (es : List Event) :
    List.Forall₂ (fun line e => e.kind ≠ .addHit → ofLine line = .ok e)
      (Coordinator.decodeLines (es.flatMap lineBytes)) es := by
  rw [decodeLines_lineBytes]
  refine List.forall₂_map_left_iff.2 (List.forall₂_same.2 fun e _ he => ?_)
  exact ofLine_body he

theorem map_ofLine_decodeLines {es : List Event} (h : ∀ e ∈ es, e.kind ≠ .addHit) :
    (Coordinator.decodeLines (es.flatMap lineBytes)).map ofLine = es.map .ok := by
  rw [decodeLines_lineBytes, List.map_map]
  refine List.map_congr_left fun e he => ?_
  rw [Function.comp_apply, ofLine_body (h e he)]

end Event

/-! ## turns of the writer -/

namespace Remote

/-- the bytes that have not arrived yet, in their order -/
def pending (r : Remote) : List UInt8 := r.buffer ++ r.queue.flatMap Text.utf8

theorem turn_take {r : Remote} (hrun : r.writer = .running) {line : String} {queue : List String}
    (hqueue : r.queue = line :: queue) :
    r.turn .take = { r with queue, buffer := r.buffer ++ Text.utf8 line } := by
  simp only [turn, hrun, hqueue]

theorem turn_deliver {r : Remote} (hrun : r.writer = .running) (count : Nat) :
    r.turn (.deliver count) =
      { r with buffer := r.buffer.drop count, arrived := r.arrived ++ r.buffer.take count } := by
  simp only [turn, hrun]

theorem turn_joined {r : Remote} (hjoined : r.writer = .joined) (t : Turn) : r.turn t = r := by
  simp only [turn, hjoined]

theorem foldl_take {queue : List String} {r : Remote} (hrun : r.writer = .running)
    (hqueue : r.queue = queue) :
    queue.foldl (fun r _ => r.turn .take) r =
      { r with queue := [], buffer := r.buffer ++ queue.flatMap Text.utf8 } := by
  induction queue generalizing r with
  | nil =>
    rw [List.foldl_nil, List.flatMap_nil, List.append_nil, ← hqueue]
  | cons line queue ih =>
    have htaken := ih (r := { r with queue, buffer := r.buffer ++ Text.utf8 line }) hrun rfl
    rw [List.foldl_cons, turn_take hrun hqueue, htaken, List.flatMap_cons, List.append_assoc]

theorem drain_eq {r : Remote} (hrun : r.writer = .running) :
    r.drain = { r with queue := [], buffer := [], arrived := r.arrived ++ r.pending } := by
  have htaken := foldl_take hrun rfl
  have hdeliver := turn_deliver (r := { r with queue := [], buffer := r.pending }) hrun
    r.pending.length
  rw [List.drop_length, List.take_length] at hdeliver
  rw [drain, htaken]
  exact hdeliver

theorem drain_joined {r : Remote} (hjoined : r.writer = .joined) : r.drain = r := by
  have hfold : r.queue.foldl (fun r _ => r.turn .take) r = r :=
    List.foldl_fixed' (fun _ => turn_joined hjoined .take) r.queue
  rw [drain, hfold, turn_joined hjoined]

/-- draining is nothing but turns of the writer, and none of them loses anything -/
theorem exists_turns_drain (r : Remote) : ∃ turns : List Turn,
    (∀ cause, .lose cause ∉ turns) ∧ r.drain = turns.foldl turn r := by
  refine ⟨r.queue.map (fun _ => .take) ++
    [.deliver (r.queue.foldl (fun r _ => r.turn .take) r).buffer.length], ?_, ?_⟩
  · intro cause hmem
    simp at hmem
  · rw [List.foldl_append, List.foldl_map]
    rfl

/-! ## connections -/

/-- a connection that has taken in `es`, all of them arrived or on their way -/
structure Carries (es : List Event) (r : Remote) : Prop where
  isOpen : r.isOpen = true
  writer : r.writer = .running
  bytes : r.arrived ++ r.pending = es.flatMap Event.lineBytes

/-- a connection that has been closed after it had taken in `es` -/
structure Delivered (es : List Event) (r : Remote) : Prop where
  isOpen : r.isOpen = false
  writer : r.writer = .joined
  bytes : r.arrived = es.flatMap Event.lineBytes

namespace Carries

variable {es : List Event} {r : Remote}

theorem fresh (endpoint : Endpoint) : Carries [] { endpoint } := ⟨rfl, rfl, rfl⟩

theorem push_eq (h : Carries es r) (e : Event) :
    r.push e = .ok { r with queue := r.queue ++ [e.line] } := by
  rw [Remote.push, if_pos h.isOpen, h.writer]

theorem closing (h : Carries es r) : r.closing = .ok () := by
  rw [Remote.closing, h.writer]

theorem push (h : Carries es r) (e : Event) : Carries (es ++ [e]) (r.act (.push e)) := by
  have hact : r.act (.push e) = { r with queue := r.queue ++ [e.line] } := by
    rw [act, h.push_eq]
    rfl
  rw [hact]
  refine ⟨h.isOpen, h.writer, ?_⟩
  have hbytes := h.bytes
  simp only [pending, List.flatMap_append, ← List.append_assoc] at hbytes ⊢
  rw [hbytes]
  simp [Event.lineBytes]

theorem take (h : Carries es r) : Carries es (r.turn .take) := by
  cases hqueue : r.queue with
  | nil =>
    have hidle : r.turn .take = r := by simp only [turn, h.writer, hqueue]
    rwa [hidle]
  | cons line queue =>
    rw [turn_take h.writer hqueue]
    refine ⟨h.isOpen, h.writer, ?_⟩
    rw [← h.bytes, pending, pending, hqueue, List.flatMap_cons, List.append_assoc]

theorem deliver (h : Carries es r) (count : Nat) : Carries es (r.turn (.deliver count)) := by
  rw [turn_deliver h.writer]
  refine ⟨h.isOpen, h.writer, ?_⟩
  rw [← h.bytes, pending, pending, List.append_assoc, ← List.append_assoc (r.buffer.take count),
    List.take_append_drop]

theorem turn (h : Carries es r) {t : Turn} (ht : ∀ cause, t ≠ .lose cause) :
    Carries es (r.turn t) := by
  cases t with
  | take => exact h.take
  | deliver count => exact h.deliver count
  | lose cause => exact absurd rfl (ht cause)

theorem close (h : Carries es r) : Delivered es r.close := by
  rw [Remote.close, drain_eq h.writer]
  exact ⟨rfl, rfl, h.bytes⟩

end Carries

namespace Delivered

variable {es : List Event} {r : Remote}

theorem push_eq (h : Delivered es r) (e : Event) : r.push e = .error closedMessage := by
  rw [Remote.push, h.isOpen]
  rfl

theorem closing (h : Delivered es r) : r.closing = .ok () := by
  rw [Remote.closing, h.writer]

theorem act_eq (h : Delivered es r) (a : Act) : r.act a = r := by
  cases a with
  | push e =>
    rw [act, h.push_eq]
    rfl
  | close =>
    rw [act, close, drain_joined h.writer, ← h.isOpen, ← h.writer]
  | turn t => exact turn_joined h.writer t

theorem actAll_eq (h : Delivered es r) (acts : List Act) : r.actAll acts = r :=
  List.foldl_fixed' h.act_eq acts

end Delivered

/-! ## courses -/

theorem actAll_cons (r : Remote) (a : Act) (acts : List Act) :
    r.actAll (a :: acts) = (r.act a).actAll acts := rfl

/-- the far side keeps reading, so that the writer never loses the connection -/
def KeepsReading (acts : List Act) : Prop := ∀ cause, .turn (.lose cause) ∉ acts

def accepted : List Act → List Event
  | [] => []
  | .push e :: acts => e :: accepted acts
  | .close :: _ => []
  | .turn _ :: acts => accepted acts

/-- what a course makes of a connection whose far side keeps reading -/
theorem Carries.actAll {acts : List Act} (hreads : KeepsReading acts) {es : List Event} {r : Remote}
    (h : Carries es r) :
    (.close ∈ acts ∧ Delivered (es ++ accepted acts) (r.actAll acts)) ∨
      (.close ∉ acts ∧ Carries (es ++ accepted acts) (r.actAll acts)) := by
  -- a push adds its event to `es`; after a closing nothing changes any more
  induction acts generalizing es r with
  | nil =>
    refine .inr ⟨List.not_mem_nil, ?_⟩
    rwa [accepted, List.append_nil]
  | cons a acts ih =>
    have hrest : KeepsReading acts := fun cause hmem => hreads cause (List.mem_cons_of_mem a hmem)
    cases a with
    | push e =>
      have hcons : es ++ accepted (.push e :: acts) = (es ++ [e]) ++ accepted acts := by
        rw [accepted, List.append_assoc, List.singleton_append]
      rw [hcons, actAll_cons]
      simpa using ih hrest (h.push e)
    | close =>
      refine .inl ⟨List.mem_cons_self, ?_⟩
      have hstays : r.actAll (.close :: acts) = r.close := h.close.actAll_eq acts
      rw [hstays, accepted, List.append_nil]
      exact h.close
    | turn t =>
      have ht : ∀ cause, t ≠ .lose cause := fun cause heq =>
        hreads cause (heq ▸ List.mem_cons_self)
      have hact : r.act (.turn t) = r.turn t := rfl
      rw [accepted, actAll_cons, hact]
      simpa using ih hrest (h.turn ht)

/-- **A stream is framed by its line feeds.** The text of an event is one line in braces. While the
far side keeps reading, events are taken in until the first closing and refused after it, and closing
again is fine; whatever turns the writer takes, what has arrived is a part from the start of the lines
that were taken in, all of them once the stream is closed or the writer has gone on; and these lines
give back the events that are no hits, in order. -/
theorem course_framed :
    (∀ e : Event, ∃ body : List Char, e.line.toList = '\x7b' :: body ++ ['\x7d', '\n'] ∧
      '\n' ∉ body ∧ '\r' ∉ body) ∧
    ∀ (endpoint : Endpoint) (timeout : Duration) (acts : List Act), KeepsReading acts →
      ∃ r, connect endpoint timeout .accepted = .ok r ∧
        let s := r.actAll acts
        let sent := (accepted acts).flatMap Event.lineBytes
        (.close ∉ acts → ∀ e, (s.push e).isOk = true) ∧
        (.close ∈ acts → ∀ e, s.push e = .error closedMessage) ∧
        s.closing = .ok () ∧
        s.arrived <+: sent ∧
        (.close ∈ acts → s.arrived = sent) ∧
        (∃ turns : List Turn, (∀ cause, .lose cause ∉ turns) ∧
          (turns.foldl turn s).arrived = sent) ∧
        List.Forall₂ (fun line e => e.kind ≠ .addHit → Event.ofLine line = .ok e)
          (Coordinator.decodeLines sent) (accepted acts) ∧
        ((∀ e ∈ accepted acts, e.kind ≠ .addHit) →
          (Coordinator.decodeLines sent).map Event.ofLine = (accepted acts).map .ok) := by
  refine ⟨fun e => ?_, fun endpoint timeout acts hreads => ⟨{ endpoint }, rfl, ?_⟩⟩
  · obtain ⟨body, hline, hprint⟩ := e.exists_line
    exact ⟨body, hline, fun h => absurd (hprint _ h) (by decide),
      fun h => absurd (hprint _ h) (by decide)⟩
  intro s sent
  have hread := Event.forall₂_decodeLines (accepted acts)
  have hevents := @Event.map_ofLine_decodeLines (accepted acts)
  rcases (Carries.fresh endpoint).actAll hreads with ⟨hclose, h⟩ | ⟨hclose, h⟩
  · have hbytes : s.arrived = sent := h.bytes
    have hpart : s.arrived <+: sent := ⟨[], by rw [List.append_nil, hbytes]⟩
    exact ⟨fun hopen => absurd hclose hopen, fun _ => h.push_eq, h.closing, hpart, fun _ => hbytes,
      ⟨[], fun _ => List.not_mem_nil, hbytes⟩, hread, hevents⟩
  · have hbytes : s.arrived ++ s.pending = sent := h.bytes
    refine ⟨fun _ e => ?_, fun hclosed => absurd hclosed hclose, h.closing, ⟨s.pending, hbytes⟩,
      fun hclosed => absurd hclosed hclose, ?_, hread, hevents⟩
    · rw [h.push_eq]
      rfl
    · obtain ⟨turns, hkeep, hdrain⟩ := s.exists_turns_drain
      refine ⟨turns, hkeep, ?_⟩
      rw [← hdrain, drain_eq h.writer]
      exact hbytes

/-- two events whose texts hold line ends, a piece of the first one that arrives alone, and a push
that comes too late -/
theorem course_framed_pieces :
    let first : Event := .startTest "a\r\nb" ⟨1, 1, 1, 1⟩ (some "\"\n\"")
    let second : Event := .socketMessage ⟨1, 1, 1, 1⟩ 3 none
    let acts : List Act :=
      [.push first, .turn .take, .turn (.deliver 7), .push second, .close, .push first, .close]
    KeepsReading acts ∧ ∃ r, connect ⟨"h", 1⟩ (.ofParts 5 0) .accepted = .ok r ∧
      (r.actAll acts).arrived = first.lineBytes ++ second.lineBytes ∧
      (Coordinator.decodeLines (r.actAll acts).arrived).map Event.ofLine =
        [.ok first, .ok second] := by
  intro first second acts
  have hreads : KeepsReading acts := by
    intro cause hmem
    simp [acts] at hmem
  have hclose : Act.close ∈ acts := by simp [acts]
  obtain ⟨r, hr, -, -, -, -, harrived, -, -, hevents⟩ :=
    course_framed.2 ⟨"h", 1⟩ (.ofParts 5 0) acts hreads
  have hsent : (accepted acts).flatMap Event.lineBytes = first.lineBytes ++ second.lineBytes := by
    simp [acts, accepted]
  refine ⟨hreads, r, hr, ?_, ?_⟩
  · rw [harrived hclose, hsent]
  · rw [harrived hclose]
    refine hevents fun e he => ?_
    simp only [acts, accepted, List.mem_cons, List.not_mem_nil, or_false] at he
    rcases he with rfl | rfl <;> decide

end Remote

end LoadTest
