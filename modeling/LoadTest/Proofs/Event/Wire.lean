import LoadTest.Event.Wire
import LoadTest.Proofs.Json.Records

/-!
# Events read back from their lines

* `exists_line`   the text of an event: braces, one line feed at the end, no other control character
* `ofJson_toJson` an event is read back from its record
* `ofLine_line`   and from its line
-/

namespace LoadTest

open Json (IsPrintable)

/-! ## the text of a line -/

namespace Event

def body (e : Event) : String := e.toJson.render

theorem toList_body (e : Event) : e.body.toList = e.toJson.write := String.toList_ofList

theorem line_eq (e : Event) : e.line = e.body ++ "\n" := rfl

theorem toList_line (e : Event) : e.line.toList = e.toJson.write ++ ['\n'] :=
  e.toJson.toList_renderLine

theorem exists_write (e : Event) : ∃ body : List Char,
    e.toJson.write = '\x7b' :: body ++ ['\x7d'] := by
  rw [toJson, Json.record]
  exact Json.exists_write_object _

/-- The line of an event is a text in braces without any control character, and a line feed. -/
theorem exists_line (e : Event) : ∃ body : List Char,
    e.line.toList = '\x7b' :: body ++ ['\x7d', '\n'] ∧ ∀ c ∈ body, IsPrintable c := by
  obtain ⟨body, hwrite⟩ := e.exists_write
  refine ⟨body, ?_, fun c hc => ?_⟩
  · rw [toList_line, hwrite, List.append_assoc]
    rfl
  · refine Json.forall_mem_write e.toJson c ?_
    rw [hwrite]
    simp [hc]

theorem trimEnd_write (e : Event) : Text.trimEnd e.toJson.write = e.toJson.write := by
  obtain ⟨body, hwrite⟩ := e.exists_write
  rw [hwrite, Text.trimEnd_concat, if_neg (by decide)]

theorem trimEnd_line (e : Event) : Text.trimEnd e.line.toList = e.toJson.write := by
  rw [toList_line, Text.trimEnd_concat, if_pos (by decide), trimEnd_write]

end Event

/-! ## statuses -/

theorem Status.ofJson?_toJson (s : Status) : Status.ofJson? s.toJson = some s := by
  simp [Status.ofJson?, Status.toJson, Json.natural?_natural]

theorem Status.isSound_toJson (s : Status) : s.toJson.isSound = true := by
  simp [Status.toJson, Json.isSound, Json.areSoundItems, Json.isSound_natural]

/-! ## reading members -/

namespace Draft

theorem putMembers_cons {k : EventKind} {d d' : Draft} {name : String} {f : Field} {v : Json}
    {ms : List Json.Member} (hfield : k.field? name = some f) (hput : d.put f v = .ok d') :
    putMembers k d ((some name, v) :: ms) = putMembers k d' ms := by
  have hname : (some name).bind k.field? = some f := hfield
  rw [putMembers_put hname, hput]
  rfl

section
variable (d : Draft)

theorem put_test (hd : d.test = none) (test : String) :
    d.put .test (.string test) = .ok { d with test := some test } := by
  rw [put, hd]
  rfl

theorem put_info (hd : d.info = none) (info : String) :
    d.put .info (.string info) = .ok { d with info := some info } := by
  rw [put, hd]
  rfl

theorem put_status (hd : d.status = none) (s : Status) :
    d.put .status s.toJson = .ok { d with status := some s } := by
  rw [put, hd, Status.ofJson?_toJson]
  rfl

theorem put_size (hd : d.size = none) (size : UInt64) :
    d.put .size (.natural size.toNat) = .ok { d with size := some size } := by
  rw [put, hd, Json.natural?_natural]
  rfl

theorem put_worker (hd : d.worker = none) (w : String) :
    d.put .worker (.string w) = .ok { d with worker := some (some w) } := by
  rw [put, hd]
  rfl

end

end Draft

theorem EventKind.field?_worker (k : EventKind) : k.field? "worker_id" = some .worker := by
  cases k <;> decide

namespace Event

theorem tag_notMem_workerMember (w : Option String) :
    "event" ∉ (workerMember w).map Prod.fst := by
  cases w <;> simp [workerMember]

theorem tag_notMem_members (e : Event) : "event" ∉ e.members.map Prod.fst := by
  cases e <;> simp only [members, List.map_cons, List.mem_cons, tag_notMem_workerMember] <;> decide

theorem tagged?_toJson (e : Event) : Json.tagged? "event" e.toJson =
    some (e.kind.name, .members (e.members.map fun m => (some m.1, m.2))) :=
  Json.tagged?_record e.kind.name e.tag_notMem_members

def draft : Event → Draft
  | startTestRun w | stopTestRun w => { worker := w.map some }
  | startTest test s w | stopTest test s w | addSuccess test s w =>
    { test := some test, status := some s, worker := w.map some }
  | addError test info s w | addFailure test info s w =>
    { test := some test, info := some info, status := some s, worker := w.map some }
  | addHit h =>
    { url := some h.url, method := some h.method, httpStatus := some h.httpStatus
      started := some h.started, elapsed := some h.elapsed, status := some h.status
      worker := h.worker.map some }
  | socketOpen s w | socketClose s w => { status := some s, worker := w.map some }
  | socketMessage s size w => { status := some s, size := some size, worker := w.map some }

theorem finish?_draft (e : Event) : e.draft.finish? e.kind = some e := by
  have hworker : ∀ w : Option String, (w.map some).getD none = w := by
    intro w
    cases w <;> rfl
  cases e <;> simp [draft, Draft.finish?, kind, hworker]

/-- the worker of an event is read after its other members -/
theorem putMembers_workerMember (k : EventKind) (d : Draft) (hd : d.worker = none)
    (w : Option String) :
    Draft.putMembers k d ((workerMember w).map fun m => (some m.1, m.2)) =
      .ok { d with worker := w.map some } := by
  cases w with
  | none =>
    show Except.ok d = _
    rw [Option.map_none, ← hd]
  | some w => exact Draft.putMembers_cons k.field?_worker (d.put_worker hd w)

theorem putMembers_members {e : Event} (he : e.kind ≠ .addHit) :
    Draft.putMembers e.kind {} (e.members.map fun m => (some m.1, m.2)) = .ok e.draft := by
  cases e with
  | addHit h => exact absurd rfl he
  | startTestRun w | stopTestRun w => exact putMembers_workerMember _ _ rfl w
  | startTest test s w | stopTest test s w | addSuccess test s w =>
    refine (Draft.putMembers_cons rfl (Draft.put_test _ rfl test)).trans ?_
    refine (Draft.putMembers_cons rfl (Draft.put_status _ rfl s)).trans ?_
    exact putMembers_workerMember _ _ rfl w
  | addError test info s w | addFailure test info s w =>
    refine (Draft.putMembers_cons rfl (Draft.put_test _ rfl test)).trans ?_
    refine (Draft.putMembers_cons rfl (Draft.put_info _ rfl info)).trans ?_
    refine (Draft.putMembers_cons rfl (Draft.put_status _ rfl s)).trans ?_
    exact putMembers_workerMember _ _ rfl w
  | socketOpen s w | socketClose s w =>
    refine (Draft.putMembers_cons rfl (Draft.put_status _ rfl s)).trans ?_
    exact putMembers_workerMember _ _ rfl w
  | socketMessage s size w =>
    refine (Draft.putMembers_cons rfl (Draft.put_status _ rfl s)).trans ?_
    refine (Draft.putMembers_cons rfl (Draft.put_size _ rfl size)).trans ?_
    exact putMembers_workerMember _ _ rfl w

/-! ## records of events -/

theorem isLeaf_status (s : Status) : Json.IsLeaf s.toJson := ⟨s.isSound_toJson, Nat.le_refl 1⟩

theorem isLeaf_workerMember (w : Option String) : ∀ m ∈ workerMember w, Json.IsLeaf m.2 := by
  intro m hm
  cases w with
  | none => cases hm
  | some w => exact List.mem_singleton.1 hm ▸ Json.isLeaf_string w

theorem isLeaf_members {e : Event} (he : e.kind ≠ .addHit) : ∀ m ∈ e.members, Json.IsLeaf m.2 := by
  have hstring := Json.isLeaf_string
  have hnatural := Json.isLeaf_natural
  have hstatus := isLeaf_status
  have hworker := isLeaf_workerMember
  cases e with
  | addHit h => exact absurd rfl he
  | _ =>
    intro m hm
    simp only [members, List.mem_cons] at hm
    grind

theorem isReadable_toJson {e : Event} (he : e.kind ≠ .addHit) : e.toJson.isReadable = true := by
  have hleaf : ∀ m ∈ ("event", Json.string e.kind.name) :: e.members, Json.IsLeaf m.2 := by
    intro m hm
    rcases List.mem_cons.1 hm with rfl | hm
    · exact Json.isLeaf_string e.kind.name
    · exact isLeaf_members he m hm
  exact Json.isReadable_record hleaf

theorem ofJson_of_isReadable {e : Event} (hread : e.toJson.isReadable = true) :
    ofJson e.toJson = ofUntagged e.kind (.members (e.members.map fun m => (some m.1, m.2))) := by
  rw [ofJson, if_pos hread, tagged?_toJson]
  simp only [EventKind.ofName?_name]

theorem ofJson_toJson {e : Event} (he : e.kind ≠ .addHit) : ofJson e.toJson = .ok e := by
  have hmembers := putMembers_members he
  rw [ofJson_of_isReadable (isReadable_toJson he)]
  simp only [ofUntagged, hmembers, finish?_draft]

/-- what is read of a text is what is read of its record; blanks after it do not matter -/
theorem ofLine_eq_ofJson {e : Event} {text : String}
    (htext : Text.trimEnd text.toList = e.toJson.write) : ofLine text = ofJson e.toJson := by
  have hfront : Json.front e.toJson.write = some (e.toJson, []) := by
    simpa using Json.front_write e.toJson Decimal.Numeral.ended_nil
  rw [ofLine, htext, hfront]
  dsimp only
  cases ofJson e.toJson <;> rfl

theorem ofLine_of_trimEnd {e : Event} (he : e.kind ≠ .addHit) {text : String}
    (htext : Text.trimEnd text.toList = e.toJson.write) : ofLine text = .ok e :=
  (ofLine_eq_ofJson htext).trans (ofJson_toJson he)

theorem trimEnd_body (e : Event) : Text.trimEnd e.body.toList = e.toJson.write := by
  rw [toList_body, trimEnd_write]

theorem trimmed_body (e : Event) : Text.trimmed e.body = e.body := by
  have htrim : Text.trim e.body.toList = e.body.toList := by
    rw [toList_body]
    exact (Json.isTrimmed_record _).trim_eq
  rw [Text.trimmed, htrim, String.ofList_toList]

theorem ofLine_body_eq (e : Event) : ofLine e.body = ofLine e.line := by
  rw [ofLine_eq_ofJson e.trimEnd_body, ofLine_eq_ofJson e.trimEnd_line]

theorem ofLine_body {e : Event} (he : e.kind ≠ .addHit) : ofLine e.body = .ok e :=
  ofLine_of_trimEnd he e.trimEnd_body

/-- **An event that is no hit is read back from its line**, whatever characters its texts hold. -/
theorem ofLine_line (e : Event) (he : e.kind ≠ .addHit) : ofLine e.line = .ok e :=
  ofLine_of_trimEnd he e.trimEnd_line

/-- texts with quotes, escapes, line breaks, control characters and characters beyond ASCII, and the
largest counts -/
theorem ofLine_line_escapes :
    let status : Status := ⟨0xFFFFFFFFFFFFFFFF, 0, 1, 2⟩
    let e : Event := .addError "a\"b\\c\n\r\x00\x7f" "é😀\t" status (some "")
    e.kind ≠ .addHit ∧ ofLine e.line = .ok e := by
  intro status e
  have he : e.kind ≠ .addHit := by decide
  exact ⟨he, ofLine_line e he⟩

end Event

end LoadTest
