import LoadTest.Dispatch.Message
import LoadTest.Proofs.Json.Records

/-!
# Requests and replies read back

* `Plan.ofJson?_toJson`             plans, accepted or not
* `Dispatch.Request.parse?_line`    requests from their lines
* `Dispatch.Reply.Says`             the values that are a reply
* `Dispatch.Reply.IsReply`          the texts that are a reply
* `Dispatch.Reply.parse?_eq_some_iff`   exactly these are read
* `Dispatch.Reply.isReply_render`   the text of a reply is one of them
-/

namespace LoadTest

/-! ## plans -/

theorem Plan.ofJson?_toJson (p : Plan) : ofJson? p.toJson = some p := by
  obtain ⟨users, cycles, agents⟩ := p
  have hcounts (vs : List UInt64) : Json.list? Json.natural? (writeCounts vs) = some vs :=
    Json.list?_map Json.natural?_natural vs
  have hread {v : Json} {agents : Option UInt64}
      (hagents : Json.optional? Json.natural? v = some agents) :
      ofJson? (.record [("users", writeCounts users), ("cycles", writeCounts cycles),
        ("agents", v)]) = some ⟨users, cycles, agents⟩ := by
    have hfields : Json.record? fieldNames (.record [("users", writeCounts users),
        ("cycles", writeCounts cycles), ("agents", v)]) = some [("users", writeCounts users),
          ("cycles", writeCounts cycles), ("agents", v)] := Json.record?_record rfl (by decide)
    rw [ofJson?, hfields]
    simp [Json.Fields.required?, Json.Fields.optional?, Json.Fields.get?, hcounts, hagents]
  cases agents with
  | none => exact hread rfl
  | some n =>
    refine hread ?_
    show ((Json.natural n.toNat).natural?).map some = some (some n)
    rw [Json.natural?_natural, Option.map_some]

namespace Dispatch

/-! ## requests -/

namespace Request

theorem ofJson?_toJson (r : Request) : ofJson? r.toJson = some r := by
  have hfields : Json.record? ["scenario", "plan", "endpoint"] r.toJson =
      some [("scenario", .string r.scenario), ("plan", r.plan.toJson),
        ("endpoint", .string r.endpoint)] := Json.record?_record rfl (by decide)
  rw [ofJson?, hfields]
  simp [Json.Fields.required?, Json.Fields.get?, Plan.ofJson?_toJson, Json.text?, Json.string]

theorem toList_line (r : Request) : r.line.toList = r.toJson.write ++ ['\n'] :=
  Json.toList_renderLine r.toJson

theorem parse?_line (r : Request) : parse? (Text.trim r.line.toList) = some r := by
  have htrim : Text.trim r.line.toList = r.toJson.write := by
    rw [toList_line, Text.trim_concat (by decide)]
    exact (Json.isTrimmed_record _).trim_eq
  rw [parse?, htrim, Json.parse_write, Option.bind_some, ofJson?_toJson]

end Request

/-! ## replies -/

namespace Reply

def kind : Reply → String
  | dispatched _ => "dispatched"
  | rejected _ => "rejected"

def fieldName : Reply → String
  | dispatched _ => "workers"
  | rejected _ => "reason"

def field : Reply → Json
  | dispatched workers => .array (workers.map Json.string)
  | rejected reason => .string reason

theorem toJson_eq (r : Reply) :
    r.toJson = .record [("result", .string r.kind), (r.fieldName, r.field)] := by
  cases r <;> rfl

theorem fieldName_ne (r : Reply) : r.fieldName ≠ "result" := by
  cases r with
  | dispatched workers => exact (by decide : "workers" ≠ "result")
  | rejected reason => exact (by decide : "reason" ≠ "result")

/-- The values that say a reply: an object that has the tag and the field once each, among any other
members, or an array of the two. -/
inductive Says (r : Reply) : Json → Prop where
  | members {ms : List Json.Member} (htag : Json.valuesOf "result" ms = [.string r.kind])
      (hfield : Json.valuesOf r.fieldName ms = [r.field]) : Says r (.object ms)
  | items : Says r (.array [.string r.kind, r.field])

theorem says_toJson (r : Reply) : r.Says r.toJson := by
  rw [toJson_eq]
  refine .members ?_ ?_
  · simp [Json.valuesOf, r.fieldName_ne]
  · simp [Json.valuesOf, r.fieldName_ne.symm]

theorem isReadable_toJson (r : Reply) : r.toJson.isReadable = true := by
  have hfield : Json.IsLeaf r.field := by
    cases r with
    | dispatched workers => exact Json.isLeaf_strings workers
    | rejected reason => exact Json.isLeaf_string reason
  rw [toJson_eq]
  refine Json.isReadable_record fun m hm => ?_
  simp only [List.mem_cons, List.not_mem_nil, or_false] at hm
  rcases hm with rfl | rfl
  · exact Json.isLeaf_string r.kind
  · exact hfield

/-! ### the field beside the tag -/

theorem onlyField?_eq_bind {α : Type} (name : String) (read : Json → Option α)
    (rest : Json.Untagged) : onlyField? name read rest = (onlyField? name some rest).bind read := by
  have hread (fields : Option Json.Fields) :
      (fields.bind fun fs => fs.required? name read) =
        (fields.bind fun fs => fs.required? name some).bind read := by
    simp [Json.Fields.required?, Option.bind_assoc]
  cases rest with
  | members ms => exact hread _
  | items vs => exact hread _

theorem onlyField?_members {name : String} {ms : List Json.Member}
    (h : ∀ m ∈ ms, m.1.isSome = true) {v : Json} :
    onlyField? name some (.members ms) = some v ↔ Json.valuesOf name ms = [v] := by
  simp only [onlyField?, Json.fields?_single h, Json.Fields.required?, Json.Fields.get?]
  cases Json.valuesOf name ms with
  | nil => simp
  | cons w ws =>
    cases ws with
    | nil => simp
    | cons w' ws => simp

theorem onlyField?_items {name : String} {vs : List Json} {v : Json} :
    onlyField? name some (.items vs) = some v ↔ vs = [v] := by
  simp only [onlyField?, Json.positional?, Json.Fields.required?, Json.Fields.get?]
  cases vs with
  | nil => simp
  | cons w ws =>
    cases ws with
    | nil => simp
    | cons w' ws => simp

/-! ### reading a reply -/

/-- a tag and the rest beside it make a reply -/
theorem ofJson?_of_tagged {v : Json} {t : String} {rest : Json.Untagged} {r : Reply}
    (hread : v.isReadable = true) (htag : Json.tagged? "result" v = some (t, rest)) :
    ofJson? v = some r ↔ t = r.kind ∧ onlyField? r.fieldName some rest = some r.field := by
  have hworkers (ws : List String) : onlyField? "workers" (Json.list? Json.text?) rest = some ws ↔
      onlyField? "workers" some rest = some (.array (ws.map Json.string)) := by
    rw [onlyField?_eq_bind, Option.bind_eq_some_iff]
    simp only [Json.list?_text?_eq_some_iff, exists_eq_right]
  have hreason (s : String) : onlyField? "reason" Json.text? rest = some s ↔
      onlyField? "reason" some rest = some (.string s) := by
    rw [onlyField?_eq_bind, Option.bind_eq_some_iff]
    simp only [Json.text?_eq_some_iff, exists_eq_right]
  rw [ofJson?, if_pos hread, htag]
  split
  · next heq =>
    obtain ⟨rfl, rfl⟩ := Prod.mk.inj (Option.some.inj heq)
    cases r with
    | dispatched ws => simp [kind, fieldName, field, hworkers]
    | rejected reason => simp [kind]
  · next heq =>
    obtain ⟨rfl, rfl⟩ := Prod.mk.inj (Option.some.inj heq)
    cases r with
    | dispatched ws => simp [kind]
    | rejected reason => simp [kind, fieldName, field, hreason]
  · next hdispatched hrejected =>
    constructor
    · intro h
      cases h
    · rintro ⟨rfl, -⟩
      cases r with
      | dispatched ws => exact absurd rfl (hdispatched rest)
      | rejected reason => exact absurd rfl (hrejected rest)

theorem says_iff {v : Json} {r : Reply} (hread : v.isReadable = true) :
    r.Says v ↔ ∃ rest, Json.tagged? "result" v = some (r.kind, rest) ∧
      onlyField? r.fieldName some rest = some r.field := by
  -- the members beside the tag
  have hrest {ms : List Json.Member} (hread : (Json.object ms).isReadable = true) :
      onlyField? r.fieldName some (.members (ms.filter fun m => m.1 ≠ some "result")) =
        some r.field ↔ Json.valuesOf r.fieldName ms = [r.field] := by
    have hnames : ∀ m ∈ ms.filter fun m => m.1 ≠ some "result", m.1.isSome = true :=
      fun m hm => Json.isSome_of_isReadable hread m (List.mem_of_mem_filter hm)
    rw [onlyField?_members hnames, Json.valuesOf_filter_ne r.fieldName_ne]
  constructor
  · intro h
    cases h with
    | members htag hfield =>
      exact ⟨_, Json.tagged?_object_iff.2 ⟨htag, rfl⟩, (hrest hread).2 hfield⟩
    | items => exact ⟨.items [r.field], rfl, onlyField?_items.2 rfl⟩
  · rintro ⟨rest, htag, hfield⟩
    cases v with
    | object ms =>
      obtain ⟨hone, rfl⟩ := Json.tagged?_object_iff.1 htag
      exact .members hone ((hrest hread).1 hfield)
    | array vs =>
      cases vs with
      | nil => cases htag
      | cons w vs =>
        obtain ⟨t, ht, heq⟩ := Option.map_eq_some_iff.1 htag
        obtain ⟨rfl, rfl⟩ := Prod.mk.inj heq
        rw [Json.text?_eq_some_iff.1 ht, onlyField?_items.1 hfield]
        exact .items
    | _ => cases htag

theorem ofJson?_eq_some_iff {v : Json} {r : Reply} :
    ofJson? v = some r ↔ v.isReadable = true ∧ r.Says v := by
  by_cases hread : v.isReadable = true
  case neg => simp [ofJson?, hread]
  rw [says_iff hread]
  constructor
  · intro h
    refine ⟨hread, ?_⟩
    cases htag : Json.tagged? "result" v with
    | none =>
      rw [ofJson?, if_pos hread, htag] at h
      cases h
    | some p =>
      obtain ⟨t, rest⟩ := p
      obtain ⟨rfl, hfield⟩ := (ofJson?_of_tagged hread htag).1 h
      exact ⟨rest, rfl, hfield⟩
  · rintro ⟨-, rest, htag, hfield⟩
    exact (ofJson?_of_tagged hread htag).2 ⟨rfl, hfield⟩

/-- the texts that are a reply -/
def IsReply (r : Reply) (text : List Char) : Prop :=
  ∃ v, Json.parse text = some v ∧ v.isReadable = true ∧ r.Says v

theorem parse?_eq_some_iff {text : List Char} {r : Reply} :
    parse? text = some r ↔ r.IsReply text := by
  rw [parse?, Option.bind_eq_some_iff]
  simp only [ofJson?_eq_some_iff]
  rfl

theorem isReply_render (r : Reply) : r.IsReply (Text.trim r.toJson.render.toList) := by
  have htrim : Text.trim r.toJson.render.toList = r.toJson.write := by
    rw [Json.render, String.toList_ofList, toJson_eq]
    exact (Json.isTrimmed_record _).trim_eq
  refine ⟨r.toJson, ?_, r.isReadable_toJson, r.says_toJson⟩
  rw [htrim, Json.parse_write]

end Reply

end Dispatch

end LoadTest
