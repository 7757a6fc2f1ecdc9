import LoadTest.Proofs.Stream.Schema
import LoadTest.Stream

/-!
# Building streams

A stream is built of a configuration that is accepted as a whole. After that only the endpoint and
the connection can be at fault.

* `StreamOrder.endpointText`       where results go
* `StreamOrder.ofConfig_stdout`, `.ofConfig_remote`   what an accepted configuration asks for
* `StreamOrder.fails_iff`          when there is nothing to build
* `StreamOrder.invalid_or_exceeds`   how that is reported
* `Stream.build_checks`            what a configuration comes to, from setting to reading
-/

namespace LoadTest

/-! ## orders -/

theorem Endpoint.error_of_parse {text : String} {e : Error} (h : parse text = .error e) :
    e = .invalidEndpoint text := by
  unfold parse at h
  cases ht : ofText? text.toList with
  | some endpoint => rw [ht] at h; cases h
  | none => rw [ht] at h; exact (Except.error.inj h).symm

theorem Remote.error_of_connect {endpoint : Endpoint} {timeout : Duration} {link : Link} {e : Error}
    (h : connect endpoint timeout link = .error e) : ∃ place cause, e = .connect place cause := by
  cases link with
  | accepted => cases h
  | refused cause => exact ⟨_, _, (Except.error.inj h).symm⟩
  | silent => exact ⟨_, _, (Except.error.inj h).symm⟩

namespace StreamOrder
open StreamConfig (ofList)

/-- where results go when nothing else was set -/
def endpointText (c : StreamConfig) : String := (c.get? "endpoint").getD "tcp://127.0.0.1:7781"

theorem endpoint_eq (c : StreamConfig) :
    c.endpoint .remote "endpoint" = (Endpoint.parse (endpointText c)).map some := by
  obtain ⟨o, ho, hkind, hdefault⟩ : ∃ o, StreamKind.remote.option? "endpoint" = some o ∧
      o.kind = .str ∧ o.default = some "tcp://127.0.0.1:7781" := ⟨_, rfl, rfl, rfl⟩
  have hvalue : c.value? .remote "endpoint" = .ok (some (.str (endpointText c))) := by
    unfold StreamConfig.value? endpointText StreamOption.read OptionKind.read
    simp only [ho, hkind, hdefault]
    cases c.get? "endpoint" <;> rfl
  unfold StreamConfig.endpoint
  rw [hvalue]

theorem ofStdout_of_sound {c : StreamConfig} (hc : c.Sound .stdout) :
    ∃ total, ofStdout c = .ok (stdout total) := by
  obtain ⟨total, htotal, -⟩ := StreamConfig.int_of_sound hc "total"
  obtain ⟨progress, hprogress, -⟩ := StreamConfig.bool_of_sound hc "progress"
  refine ⟨total.map UInt64.toNat, ?_⟩
  unfold ofStdout
  rw [htotal, hprogress]

theorem ofRemote_of_sound {c : StreamConfig} (hc : c.Sound .remote) :
    ∃ timeout, ofRemote c = (Endpoint.parse (endpointText c)).map (remote · timeout) := by
  obtain ⟨timeout, htimeout, -⟩ := StreamConfig.duration_of_sound hc "connect-timeout"
  refine ⟨timeout.getD (.ofParts 5 0), ?_⟩
  unfold ofRemote
  rw [endpoint_eq, htimeout]
  cases Endpoint.parse (endpointText c) <;> rfl

section
variable {settings : List (String × String)}

theorem ofConfig_of_fault {k : StreamKind} {c : StreamConfig} {e : Error}
    (h : c.validate k = .error e) : ofConfig k c = .error e := by
  unfold ofConfig
  rw [h]

theorem ofConfig_stdout (h : (ofList settings).Sound .stdout) :
    ∃ total, ofConfig .stdout (ofList settings) = .ok (stdout total) := by
  unfold ofConfig
  rw [(StreamConfig.validate_eq_ok_iff settings .stdout).2 h]
  exact ofStdout_of_sound h

theorem ofConfig_remote (h : (ofList settings).Sound .remote) :
    ∃ timeout, ofConfig .remote (ofList settings) =
      (Endpoint.parse (endpointText (ofList settings))).map (remote · timeout) := by
  unfold ofConfig
  rw [(StreamConfig.validate_eq_ok_iff settings .remote).2 h]
  exact ofRemote_of_sound h

/-- once the texts are accepted, only the endpoint can be at fault -/
theorem error_of_sound {k : StreamKind} {e : Error} (h : (ofList settings).Sound k)
    (he : ofConfig k (ofList settings) = .error e) :
    e = .invalidEndpoint (endpointText (ofList settings)) := by
  cases k with
  | stdout =>
    obtain ⟨total, hok⟩ := ofConfig_stdout h
    rw [hok] at he
    cases he
  | remote =>
    obtain ⟨timeout, hparsed⟩ := ofConfig_remote h
    rw [hparsed] at he
    cases hparse : Endpoint.parse (endpointText (ofList settings)) with
    | ok endpoint =>
      rw [hparse] at he
      cases he
    | error e' =>
      rw [hparse] at he
      obtain rfl : e' = e := Except.error.inj he
      exact Endpoint.error_of_parse hparse

theorem fails_iff (k : StreamKind) (settings : List (String × String)) :
    (∃ e, ofConfig k (ofList settings) = .error e) ↔
      ¬ (ofList settings).Sound k ∨
        k = .remote ∧ ∀ endpoint, Endpoint.parse (endpointText (ofList settings)) ≠ .ok endpoint := by
  by_cases hsound : (ofList settings).Sound k
  · rw [or_iff_right (not_not_intro hsound)]
    cases k with
    | stdout =>
      obtain ⟨total, hok⟩ := ofConfig_stdout hsound
      simp [hok]
    | remote =>
      obtain ⟨timeout, hparsed⟩ := ofConfig_remote hsound
      rw [hparsed]
      cases Endpoint.parse (endpointText (ofList settings)) <;> simp [Except.map]
  · refine iff_of_true ?_ (.inl hsound)
    rw [← StreamConfig.validate_eq_ok_iff] at hsound
    cases hcheck : (ofList settings).validate k with
    | ok u => exact absurd hcheck hsound
    | error e => exact ⟨e, ofConfig_of_fault hcheck⟩

/-- Whatever is at fault, it is the caller who is told so, except for a duration that is too long. -/
theorem invalid_or_exceeds {k : StreamKind} {e : Error}
    (he : ofConfig k (ofList settings) = .error e) :
    e.isInvalidInput = true ∨
      e = .clockOverflow ∧ ∃ name text, (ofList settings).get? name = some text ∧
        k.Exceeds name text := by
  cases hcheck : (ofList settings).validate k with
  | ok u =>
    rw [error_of_sound ((StreamConfig.validate_eq_ok_iff settings k).1 hcheck) he]
    exact .inl rfl
  | error e' =>
    obtain rfl : e' = e := Except.error.inj ((ofConfig_of_fault hcheck).symm.trans he)
    obtain ⟨name, text, hset, hfault, -⟩ := (StreamConfig.validate_eq_error_iff settings k).1 hcheck
    rcases StreamKind.check_cases k name text with haccepts | ⟨reason, hrefuses⟩ | hexceeds
    · obtain ⟨v, hv⟩ := haccepts.check_eq
      rw [hv] at hfault
      cases hfault
    · rw [hrefuses.check_eq] at hfault
      obtain rfl := Except.error.inj hfault
      exact .inl rfl
    · rw [hexceeds.check_eq] at hfault
      obtain rfl := Except.error.inj hfault
      exact .inr ⟨rfl, name, text, hset, hexceeds⟩

end

theorem error_of_fill {o : StreamOrder} {link : Endpoint → Link} {e : Error}
    (h : o.fill link = .error e) : ∃ place cause, e = .connect place cause := by
  cases o with
  | stdout total => cases h
  | remote endpoint timeout =>
    cases hconnect : Remote.connect endpoint timeout (link endpoint) with
    | ok r =>
      simp only [fill, hconnect] at h
      cases h
    | error e' =>
      simp only [fill, hconnect] at h
      obtain rfl : e' = e := Except.error.inj h
      exact Remote.error_of_connect hconnect

end StreamOrder

namespace Stream
open StreamConfig (ofList)

section
variable (k : StreamKind) (settings : List (String × String)) (link : Endpoint → Link)

/-- A fault that has nothing to do with endpoints and connections is one that the check finds. -/
theorem build_eq_error_iff {e : Error} (hendpoint : ∀ text, e ≠ .invalidEndpoint text)
    (hconnect : ∀ place cause, e ≠ .connect place cause) :
    build k (ofList settings) link = .error e ↔ (ofList settings).validate k = .error e := by
  unfold build
  constructor
  · intro h
    cases horder : StreamOrder.ofConfig k (ofList settings) with
    | ok o =>
      rw [horder] at h
      obtain ⟨place, cause, rfl⟩ := StreamOrder.error_of_fill h
      exact absurd rfl (hconnect place cause)
    | error e' =>
      rw [horder] at h
      obtain rfl : e' = e := Except.error.inj h
      cases hcheck : (ofList settings).validate k with
      | error e =>
        have hfault := (StreamOrder.ofConfig_of_fault hcheck).symm.trans horder
        exact congrArg Except.error (Except.error.inj hfault)
      | ok u =>
        have hsound := (StreamConfig.validate_eq_ok_iff settings k).1 hcheck
        exact absurd (StreamOrder.error_of_sound hsound horder) (hendpoint _)
  · intro h
    rw [StreamOrder.ofConfig_of_fault h]

theorem build_refuses_iff {stream name text reason : String} :
    build k (ofList settings) link = .error (.invalidStreamOption stream name text reason) ↔
      stream = k.name ∧ (ofList settings).get? name = some text ∧ k.Refuses name text reason ∧
        (ofList settings).SoundBelow k name := by
  rw [build_eq_error_iff k settings link (by simp) (by simp), StreamConfig.validate_eq_error_iff]
  simp only [StreamKind.refuses_iff]
  constructor
  · rintro ⟨name', text', hset, ⟨hstream, rfl, rfl, hrefuses⟩, hbelow⟩
    exact ⟨hstream, hset, hrefuses, hbelow⟩
  · rintro ⟨hstream, hset, hrefuses, hbelow⟩
    exact ⟨name, text, hset, ⟨hstream, rfl, rfl, hrefuses⟩, hbelow⟩

theorem build_overflow_iff : build k (ofList settings) link = .error .clockOverflow ↔
    ∃ name text, (ofList settings).get? name = some text ∧ k.Exceeds name text ∧
      (ofList settings).SoundBelow k name := by
  rw [build_eq_error_iff k settings link (by simp) (by simp), StreamConfig.validate_eq_error_iff]
  simp only [StreamKind.exceeds_iff]

/-- an unsound configuration is reported, in one of two ways -/
theorem not_sound_iff : ¬ (ofList settings).Sound k ↔
    (∃ stream name text reason, build k (ofList settings) link =
      .error (.invalidStreamOption stream name text reason)) ∨
    build k (ofList settings) link = .error .clockOverflow := by
  rw [← StreamConfig.validate_eq_ok_iff]
  constructor
  · intro h
    cases hcheck : (ofList settings).validate k with
    | ok u => exact absurd hcheck h
    | error e =>
      obtain ⟨name, text, hset, hfault, hbelow⟩ :=
        (StreamConfig.validate_eq_error_iff settings k).1 hcheck
      rcases StreamKind.check_cases k name text with haccepts | ⟨reason, hrefuses⟩ | hexceeds
      · obtain ⟨v, hv⟩ := haccepts.check_eq
        rw [hv] at hfault
        cases hfault
      · exact .inl ⟨_, _, _, _, (build_refuses_iff k settings link).2 ⟨rfl, hset, hrefuses, hbelow⟩⟩
      · exact .inr ((build_overflow_iff k settings link).2 ⟨name, text, hset, hexceeds, hbelow⟩)
  · intro h hcheck
    have hfault : ∃ e, (ofList settings).validate k = .error e := by
      rcases h with ⟨stream, name, text, reason, hbuild⟩ | hbuild
      · exact ⟨_, (build_eq_error_iff k settings link (by simp) (by simp)).1 hbuild⟩
      · exact ⟨_, (build_eq_error_iff k settings link (by simp) (by simp)).1 hbuild⟩
    obtain ⟨e, he⟩ := hfault
    rw [hcheck] at he
    cases he

/-- **The check is exact.** What was set last under a name counts, and the order of distinct names
does not. A stream is refused for the smallest name at fault. The only other thing that the check
can meet is a duration that is too long. Once it meets neither, every reading succeeds, and gives
what was set or else the default. -/
theorem build_checks :
    (∀ name, (ofList settings).get? name = Text.getNamed? name settings.reverse) ∧
    (∀ settings', settings'.Perm settings → (settings.map Prod.fst).Nodup →
      ofList settings' = ofList settings) ∧
    (∀ stream name text reason,
      build k (ofList settings) link = .error (.invalidStreamOption stream name text reason) ↔
        stream = k.name ∧ (ofList settings).get? name = some text ∧ k.Refuses name text reason ∧
          (ofList settings).SoundBelow k name) ∧
    (build k (ofList settings) link = .error .clockOverflow ↔
      k = .remote ∧ ∃ text, (ofList settings).get? "connect-timeout" = some text ∧
        Duration.ofText (Text.trim text.toList) = .error .overflow ∧
        (ofList settings).SoundBelow k "connect-timeout") ∧
    (¬ (ofList settings).Sound k ↔
      (∃ stream name text reason, build k (ofList settings) link =
        .error (.invalidStreamOption stream name text reason)) ∨
      build k (ofList settings) link = .error .clockOverflow) ∧
    ((ofList settings).Sound k → ∀ name,
      (∃ i, (ofList settings).int k name = .ok i ∧
        ∀ n, i = some n ↔ (ofList settings).Says k name (.int n)) ∧
      (∃ b, (ofList settings).bool k name = .ok b ∧
        ∀ x, b = some x ↔ (ofList settings).Says k name (.bool x)) ∧
      (∃ d, (ofList settings).duration k name = .ok d ∧
        ∀ x, d = some x ↔ (ofList settings).Says k name (.duration x))) := by
  refine ⟨StreamConfig.get?_ofList settings, fun _ => StreamConfig.ofList_perm,
    fun _ _ _ _ => build_refuses_iff k settings link, ?_, not_sound_iff k settings link,
    fun hsound name => ⟨StreamConfig.int_of_sound hsound name, StreamConfig.bool_of_sound hsound name,
      StreamConfig.duration_of_sound hsound name⟩⟩
  rw [build_overflow_iff]
  simp only [StreamKind.exceeds_iff_connectTimeout]
  constructor
  · rintro ⟨name, text, hset, ⟨hremote, rfl, htext⟩, hbelow⟩
    exact ⟨hremote, text, hset, htext, hbelow⟩
  · rintro ⟨hremote, text, hset, htext, hbelow⟩
    exact ⟨_, text, hset, ⟨hremote, rfl, htext⟩, hbelow⟩

end

/-- With a duration of every second that there is and one more in milliseconds, the stream is not
refused for an option, and the option cannot be read. -/
theorem build_checks_tooLong :
    let c := ofList [("connect-timeout", "18446744073709551615s 1000ms")]
    (∀ stream name text reason, build .remote c (fun _ => .accepted) ≠
      .error (.invalidStreamOption stream name text reason)) ∧
    ∀ d, c.duration .remote "connect-timeout" ≠ .ok d := by
  have hvalidate : (ofList [("connect-timeout", "18446744073709551615s 1000ms")]).validate .remote =
      .error .clockOverflow := by decide +kernel
  refine ⟨fun stream name text reason h => ?_, ?_⟩
  · rw [build_eq_error_iff .remote _ _ (by simp) (by simp), hvalidate] at h
    cases h
  · have hread : (ofList [("connect-timeout", "18446744073709551615s 1000ms")]).duration .remote
        "connect-timeout" = .error .clockOverflow := by decide +kernel
    intro d h
    rw [hread] at h
    cases h

end Stream

end LoadTest
