import LoadTest.Proofs.Text.Numbers
import LoadTest.Stream.Config

/-!
# Texts against the declared options

A text under a name is accepted, refused for a reason, or a duration that is too long to be read.

* `OptionKind.Reads`   the texts of a value
* `OptionKind.read_eq_ok_iff`   reading gives just the value that a text stands for
* `StreamKind.Accepts`, `.Refuses`, `.Exceeds`   what can come of a text under a name
* `StreamKind.check_cases`   there is no fourth case
* `StreamKind.exceeds_iff_connectTimeout`   where the third one occurs
-/

namespace LoadTest

/-! ## texts of values -/

/-- `k.Reads text v`: the text stands for the value, as one of the kind. -/
inductive OptionKind.Reads : OptionKind → String → OptionValue → Prop
  | str (text : String) : Reads .str text (.str text)
  | int {text : String} {n : UInt64} (h : Text.Denotes (Text.trim text.toList) n.toNat) :
      Reads .int text (.int n)
  | yes {text : String} (h : Text.trimmed text ∈ ["true", "1", "yes", "on"]) :
      Reads .bool text (.bool true)
  | no {text : String} (h : Text.trimmed text ∈ ["false", "0", "no", "off"]) :
      Reads .bool text (.bool false)
  | duration {text : String} {d : Duration}
      (h : Duration.ofText (Text.trim text.toList) = .ok d) : Reads .duration text (.duration d)

theorem readBool_eq_some_iff {text : String} {b : Bool} : readBool text = some b ↔
    text ∈ (if b then ["true", "1", "yes", "on"] else ["false", "0", "no", "off"]) := by
  -- no word means both
  have hdisjoint : ∀ word ∈ ["true", "1", "yes", "on"], word ∉ ["false", "0", "no", "off"] := by
    decide
  unfold readBool
  by_cases hyes : text ∈ ["true", "1", "yes", "on"]
  · have hno := hdisjoint text hyes
    cases b <;> simp [hyes, hno]
  · by_cases hno : text ∈ ["false", "0", "no", "off"] <;> cases b <;> simp [hyes, hno]

theorem OptionKind.read_eq_ok_iff {k : OptionKind} {text : String} {v : OptionValue} :
    k.read text = .ok v ↔ k.Reads text v := by
  cases k with
  | str =>
    show Except.ok (OptionValue.str text) = .ok v ↔ _
    constructor
    · rintro ⟨⟩
      exact .str text
    · rintro ⟨⟩
      rfl
  | int =>
    have hread : read .int text = .ok v ↔
        (Text.word64? (Text.trim text.toList)).map OptionValue.int = some v := by
      cases hn : Text.word64? (Text.trim text.toList) <;> simp [read, hn]
    rw [hread, Option.map_eq_some_iff]
    constructor
    · rintro ⟨n, hn, rfl⟩
      exact .int (Text.word64?_eq_some_iff.1 hn)
    · intro h
      cases h with
      | int hn => exact ⟨_, Text.word64?_eq_some_iff.2 hn, rfl⟩
  | bool =>
    have hread : read .bool text = .ok v ↔
        (readBool (Text.trimmed text)).map OptionValue.bool = some v := by
      cases hb : readBool (Text.trimmed text) <;> simp [read, hb]
    rw [hread, Option.map_eq_some_iff]
    constructor
    · rintro ⟨b, hb, rfl⟩
      have hword := readBool_eq_some_iff.1 hb
      cases b with
      | true => exact .yes hword
      | false => exact .no hword
    · intro h
      cases h with
      | yes hword => exact ⟨true, readBool_eq_some_iff.2 hword, rfl⟩
      | no hword => exact ⟨false, readBool_eq_some_iff.2 hword, rfl⟩
  | duration =>
    unfold read
    cases hd : Duration.ofText (Text.trim text.toList) with
    | ok d =>
      constructor
      · rintro ⟨⟩
        exact .duration hd
      · intro h
        cases h with
        | duration hd' => rw [Except.ok.inj (hd.symm.trans hd')]
    | error e =>
      constructor
      · rintro ⟨⟩
      · intro h
        cases h with
        | duration hd' =>
          rw [hd] at hd'
          cases hd'

theorem OptionKind.read_eq_overflow_iff {k : OptionKind} {text : String} :
    k.read text = .error .overflow ↔
      k = .duration ∧ Duration.ofText (Text.trim text.toList) = .error .overflow := by
  cases k with
  | str => simp [read]
  | int => cases h : Text.word64? (Text.trim text.toList) <;> simp [read, h]
  | bool => cases h : readBool (Text.trimmed text) <;> simp [read, h]
  | duration => cases h : Duration.ofText (Text.trim text.toList) <;> simp [read, h]

/-- only a duration is at fault in another way than that the caller is told so -/
theorem StreamOption.error_of_read {o : StreamOption} {k : StreamKind} {text : String} {e : Error}
    (h : o.read k text = .error e) :
    e.isInvalidInput = true ∨ o.kind = .duration ∧ e = .clockOverflow := by
  unfold read at h
  cases hread : o.kind.read text with
  | ok v =>
    simp only [hread] at h
    cases h
  | error fault =>
    simp only [hread] at h
    cases fault with
    | malformed =>
      obtain rfl := Except.error.inj h
      exact .inl rfl
    | overflow =>
      obtain rfl := Except.error.inj h
      exact .inr ⟨(OptionKind.read_eq_overflow_iff.1 hread).1, rfl⟩

/-! ## texts under names -/

namespace StreamKind

/-- `k.Accepts name text`: the name is declared, and the text stands for a value of its kind. -/
def Accepts (k : StreamKind) (name text : String) : Prop :=
  ∃ o v, k.option? name = some o ∧ o.kind.Reads text v

/-- `k.Refuses name text reason`: why there is no value. -/
inductive Refuses (k : StreamKind) (name text : String) : String → Prop
  | unknown (hname : k.option? name = none) : Refuses k name text "unknown option"
  | unreadable {o : StreamOption} (hname : k.option? name = some o)
      (htext : o.kind.read text = .error .malformed) : Refuses k name text o.kind.expectation

/-- `k.Exceeds name text`: the text has every second that a duration can have, and one more second
in nanoseconds. -/
def Exceeds (k : StreamKind) (name text : String) : Prop :=
  ∃ o, k.option? name = some o ∧ o.kind.read text = .error .overflow

section
variable {k : StreamKind} {name text : String}

theorem name_of_option? {o : StreamOption} (h : k.option? name = some o) : o.name = name := by
  simpa using List.find?_some h

theorem Accepts.check_eq (h : k.Accepts name text) :
    ∃ v, StreamConfig.check k name text = .ok v := by
  obtain ⟨o, v, hname, htext⟩ := h
  refine ⟨v, ?_⟩
  unfold StreamConfig.check StreamOption.read
  simp only [hname, OptionKind.read_eq_ok_iff.2 htext]

theorem Refuses.check_eq {reason : String} (h : k.Refuses name text reason) :
    StreamConfig.check k name text =
      .error (.invalidStreamOption k.name name text reason) := by
  unfold StreamConfig.check
  cases h with
  | unknown hname => simp only [hname]
  | unreadable hname htext => simp only [hname, StreamOption.read, htext, name_of_option? hname]

theorem Exceeds.check_eq (h : k.Exceeds name text) :
    StreamConfig.check k name text = .error .clockOverflow := by
  obtain ⟨o, hname, htext⟩ := h
  unfold StreamConfig.check StreamOption.read
  simp only [hname, htext]

theorem check_cases (k : StreamKind) (name text : String) :
    k.Accepts name text ∨ (∃ reason, k.Refuses name text reason) ∨ k.Exceeds name text := by
  cases hname : k.option? name with
  | none => exact .inr (.inl ⟨_, .unknown hname⟩)
  | some o =>
    cases htext : o.kind.read text with
    | ok v => exact .inl ⟨o, v, hname, OptionKind.read_eq_ok_iff.1 htext⟩
    | error fault =>
      cases fault with
      | malformed => exact .inr (.inl ⟨_, .unreadable hname htext⟩)
      | overflow => exact .inr (.inr ⟨o, hname, htext⟩)

theorem accepts_iff : k.Accepts name text ↔ ∃ v, StreamConfig.check k name text = .ok v := by
  refine ⟨Accepts.check_eq, ?_⟩
  rintro ⟨v, hv⟩
  rcases check_cases k name text with haccepts | ⟨reason, hrefuses⟩ | hexceeds
  · exact haccepts
  · rw [hrefuses.check_eq] at hv; cases hv
  · rw [hexceeds.check_eq] at hv; cases hv

theorem exceeds_iff :
    StreamConfig.check k name text = .error .clockOverflow ↔ k.Exceeds name text := by
  refine ⟨fun h => ?_, Exceeds.check_eq⟩
  rcases check_cases k name text with haccepts | ⟨reason, hrefuses⟩ | hexceeds
  · obtain ⟨v, hv⟩ := haccepts.check_eq
    rw [hv] at h; cases h
  · rw [hrefuses.check_eq] at h; cases h
  · exact hexceeds

theorem refuses_iff {stream option value reason : String} :
    StreamConfig.check k name text = .error (.invalidStreamOption stream option value reason) ↔
      stream = k.name ∧ option = name ∧ value = text ∧ k.Refuses name text reason := by
  constructor
  · intro h
    rcases check_cases k name text with haccepts | ⟨reason', hrefuses⟩ | hexceeds
    · obtain ⟨v, hv⟩ := haccepts.check_eq
      rw [hv] at h; cases h
    · rw [hrefuses.check_eq] at h
      cases h
      exact ⟨rfl, rfl, rfl, hrefuses⟩
    · rw [hexceeds.check_eq] at h; cases h
  · rintro ⟨rfl, rfl, rfl, hrefuses⟩
    exact hrefuses.check_eq

theorem exceeds_iff_connectTimeout : k.Exceeds name text ↔
    k = .remote ∧ name = "connect-timeout" ∧
      Duration.ofText (Text.trim text.toList) = .error .overflow := by
  have hdeclared : ∀ k : StreamKind, ∀ o ∈ k.options, o.kind = .duration →
      k = .remote ∧ o.name = "connect-timeout" := by
    intro k
    cases k <;> decide
  unfold Exceeds
  simp only [OptionKind.read_eq_overflow_iff]
  constructor
  · rintro ⟨o, hname, hkind, htext⟩
    obtain ⟨hremote, hoption⟩ := hdeclared k o (List.mem_of_find?_eq_some hname) hkind
    exact ⟨hremote, (name_of_option? hname).symm.trans hoption, htext⟩
  · rintro ⟨rfl, rfl, htext⟩
    exact ⟨_, rfl, rfl, htext⟩

end

end StreamKind

end LoadTest
