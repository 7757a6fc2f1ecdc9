import LoadTest.Net.Endpoint
import LoadTest.Proofs.Net.Addresses

/-!
# Endpoints read back

A host that was read, or that an address has, is written so that it is read as itself: text without
anything left to encode, or an IPv6 address, which alone has colons and stands in brackets.

* `Authority.IsGraphic`, `Authority.IsPlain`   characters that reading leaves alone
* `Authority.IsOpaque`, `Authority.IsHost`     the texts of hosts
* `Authority.isHost_of_opaqueHost?`            hosts that are read
* `Endpoint.parse_display`                     endpoints with such a host
* `Endpoint.Obtained`                          endpoints that were read, or that an address has
* `Endpoint.Obtained.parse_display`            these are read back, with any port
-/

namespace LoadTest

/-! ## characters -/

namespace Authority

def IsGraphic (c : Char) : Prop := 0x20 < c.toNat ∧ c.toNat < 0x7F

instance (c : Char) : Decidable (IsGraphic c) := inferInstanceAs (Decidable (_ ∧ _))

/-- a visible ASCII character that ends no part of an authority -/
def IsPlain (c : Char) : Prop := IsGraphic c ∧ endsAuthority c = false ∧ c ≠ '@'

instance (c : Char) : Decidable (IsPlain c) := inferInstanceAs (Decidable (_ ∧ _ ∧ _))

section
variable {s : List Char}

theorem trim_of_graphic (h : ∀ c ∈ s, IsGraphic c) : Text.trim s = s := by
  have hblank : ∀ c ∈ s, Text.isBlank c = false := by
    intro c hc
    obtain ⟨hlow, hhigh⟩ := h c hc
    exact Text.isBlank_eq_false hlow hhigh
  exact (Text.isTrimmed_of_forall hblank).trim_eq

theorem clean_of_graphic (h : ∀ c ∈ s, IsGraphic c) : clean s = s := by
  have hkeep (s : List Char) (h : ∀ c ∈ s, IsGraphic c) : s.dropWhile isControlOrSpace = s := by
    cases s with
    | nil => rfl
    | cons c s =>
      have hlow : 0x20 < c.toNat := (h c List.mem_cons_self).1
      rw [List.dropWhile_cons, if_neg]
      simp [isControlOrSpace, hlow]
  have hreverse : ∀ c ∈ s.reverse, IsGraphic c := fun c hc => h c (List.mem_reverse.1 hc)
  have hfilter : (s.filter fun c => c ≠ '\t' ∧ c ≠ '\n' ∧ c ≠ '\r') = s := by
    refine List.filter_eq_self.2 fun c hc => decide_eq_true ?_
    have hlow : 0x20 < c.toNat := (h c hc).1
    refine ⟨?_, ?_, ?_⟩
    all_goals
      rintro rfl
      exact absurd hlow (by decide)
  unfold clean
  rw [hkeep s h, hkeep _ hreverse]
  dsimp only
  rw [List.reverse_reverse]
  exact hfilter

theorem takeWhile_of_plain (h : ∀ c ∈ s, IsPlain c) : s.takeWhile (!endsAuthority ·) = s :=
  List.takeWhile_eq_self_iff.2 fun c hc => by rw [(h c hc).2.1]; rfl

theorem afterUser_of_plain (h : ∀ c ∈ s, IsPlain c) : afterUser s = s := by
  have hkeep : s.reverse.takeWhile (· ≠ '@') = s.reverse :=
    List.takeWhile_eq_self_iff.2 fun c hc => decide_eq_true (h c (List.mem_reverse.1 hc)).2.2
  rw [afterUser, hkeep, List.reverse_reverse]

end

/-! ## hosts -/

/-- text that is a host as it stands: nothing in it is encoded, nothing is forbidden -/
structure IsOpaque (host : List Char) : Prop where
  ne_nil : host ≠ []
  graphic : ∀ c ∈ host, IsGraphic c
  allowed : ∀ c ∈ host, isForbiddenInHost c = false

theorem isPlain_of_allowed {c : Char} (hgraphic : IsGraphic c)
    (hallowed : isForbiddenInHost c = false) : IsPlain c := by
  simp only [isForbiddenInHost, Bool.or_eq_false_iff, decide_eq_false_iff_not] at hallowed
  refine ⟨hgraphic, ?_, by tauto⟩
  simp only [endsAuthority, Bool.or_eq_false_iff, decide_eq_false_iff_not]
  tauto

inductive IsHost : List Char → Prop where
  | text {host : List Char} (h : IsOpaque host) : IsHost host
  | v6 (ip : Ipv6) : IsHost ip.write

theorem isOpaque_v4 (ip : Ipv4) : IsOpaque ip.write where
  ne_nil := by
    intro hnil
    have hlength := ip.length_write
    rw [hnil] at hlength
    exact absurd hlength (by decide)
  graphic c hc := by
    rcases ip.mem_write hc with hdigit | rfl
    · exact hdigit.of_all (by decide)
    · decide
  allowed c hc := by
    rcases ip.mem_write hc with hdigit | rfl
    · exact hdigit.of_all (p := fun c => isForbiddenInHost c = false) (by decide)
    · decide

/-- what is written for a character that may stand in a host -/
theorem encodeChar_spec {c : Char} (hc : isForbiddenInHost c = false) :
    Percent.encodeChar Percent.isControl c ≠ [] ∧
      ∀ x ∈ Percent.encodeChar Percent.isControl c, IsGraphic x ∧ isForbiddenInHost x = false := by
  unfold Percent.encodeChar
  split
  · have hdigit : ∀ n < 16, IsGraphic (Percent.hexDigit n) ∧
        isForbiddenInHost (Percent.hexDigit n) = false := by decide
    constructor
    · obtain ⟨b, bs, hbytes⟩ : ∃ b bs, String.utf8EncodeChar c = b :: bs := by
        refine List.exists_cons_of_length_pos ?_
        rw [String.length_utf8EncodeChar]
        exact c.utf8Size_pos
      rw [hbytes, List.flatMap_cons]
      exact List.cons_ne_nil _ _
    · intro x hx
      obtain ⟨b, -, hb⟩ := List.mem_flatMap.1 hx
      have hbyte : b.toNat < 256 := b.toNat_lt
      simp only [Percent.byte, List.mem_cons, List.not_mem_nil, or_false] at hb
      rcases hb with rfl | rfl | rfl
      · decide
      · exact hdigit _ (by omega)
      · exact hdigit _ (by omega)
  · next hplain =>
    refine ⟨List.cons_ne_nil c [], fun x hx => ?_⟩
    rw [List.mem_singleton.1 hx]
    simp only [Percent.isControl, Bool.or_eq_true, decide_eq_true_eq, not_or] at hplain
    have hspace : c.toNat ≠ 0x20 := by
      intro hcode
      obtain rfl : c = ' ' := Char.toNat_inj.1 hcode
      exact absurd hc (by decide)
    have hgraphic : 0x20 < c.toNat ∧ c.toNat < 0x7F := by omega
    exact ⟨hgraphic, hc⟩

theorem isOpaque_encode {s : List Char} (hne : s ≠ [])
    (h : ∀ c ∈ s, isForbiddenInHost c = false) :
    IsOpaque (Percent.encode Percent.isControl s) := by
  have hspec : ∀ x ∈ Percent.encode Percent.isControl s,
      IsGraphic x ∧ isForbiddenInHost x = false := by
    intro x hx
    obtain ⟨c, hc, hx⟩ := List.mem_flatMap.1 hx
    exact (encodeChar_spec (h c hc)).2 x hx
  refine ⟨?_, fun x hx => (hspec x hx).1, fun x hx => (hspec x hx).2⟩
  obtain ⟨c, s, rfl⟩ := List.exists_cons_of_ne_nil hne
  rw [Percent.encode, List.flatMap_cons]
  exact List.append_ne_nil_of_left_ne_nil (encodeChar_spec (h c List.mem_cons_self)).1 _

theorem isHost_of_opaqueHost? {s host : List Char} (h : opaqueHost? s = some host) :
    IsHost host := by
  unfold opaqueHost? at h
  split at h
  · cases h
  · obtain ⟨ip, -, rfl⟩ := Option.map_eq_some_iff.1 h
    exact .v6 ip
  · next hne _ =>
    split at h
    · cases h
    · next hallowed =>
      rw [← Option.some.inj h]
      exact .text (isOpaque_encode hne (by simpa using hallowed))

/-! ## hosts read back -/

theorem encode_of_graphic {s : List Char} (h : ∀ c ∈ s, IsGraphic c) :
    Percent.encode Percent.isControl s = s := by
  induction s with
  | nil => rfl
  | cons c s ih =>
    obtain ⟨hlow, hhigh⟩ := h c List.mem_cons_self
    have hplain : Percent.encodeChar Percent.isControl c = [c] := by
      rw [Percent.encodeChar, if_neg]
      simp only [Percent.isControl, Bool.or_eq_true, decide_eq_true_eq]
      omega
    have hrest := ih fun c hc => h c (List.mem_cons_of_mem _ hc)
    rw [Percent.encode, List.flatMap_cons, hplain, ← Percent.encode, hrest]
    rfl

theorem IsOpaque.opaqueHost?_eq {host : List Char} (h : IsOpaque host) :
    opaqueHost? host = some host := by
  unfold opaqueHost?
  split
  · exact absurd rfl h.ne_nil
  · exact absurd (h.allowed '[' List.mem_cons_self) (by decide)
  · have hallowed : ¬ host.any isForbiddenInHost = true := by simpa using h.allowed
    rw [if_neg hallowed, encode_of_graphic h.graphic]

theorem opaqueHost?_bracketed (ip : Ipv6) :
    opaqueHost? ('[' :: ip.write ++ [']']) = some ip.write := by
  show (bracketed? (ip.write ++ [']'])).map Ipv6.write = some ip.write
  rw [bracketed?, if_pos List.getLast?_concat, List.dropLast_concat, Ipv6.ofText?_write]
  rfl

theorem splitHost_cons {c : Char} {inBrackets : Bool} (hcolon : c = ':' → inBrackets = true)
    (hopen : c ≠ '[') (hclose : c ≠ ']') (s : List Char) :
    splitHost inBrackets (c :: s) =
      (c :: (splitHost inBrackets s).1, (splitHost inBrackets s).2) := by
  have hinside : ¬ (c = ':' ∧ inBrackets = false) := by
    rintro ⟨hc, hout⟩
    rw [hcolon hc] at hout
    cases hout
  rw [splitHost, if_neg hinside, if_neg hopen, if_neg hclose]

theorem splitHost_text {host : List Char} (h : ∀ c ∈ host, isForbiddenInHost c = false)
    (rest : List Char) : splitHost false (host ++ ':' :: rest) = (host, ':' :: rest) := by
  induction host with
  | nil => exact if_pos ⟨rfl, rfl⟩
  | cons c host ih =>
    have hne (x : Char) (hx : isForbiddenInHost x = true) : c ≠ x := by
      rintro rfl
      rw [h c List.mem_cons_self] at hx
      cases hx
    rw [List.cons_append, splitHost_cons (fun hcolon => absurd hcolon (hne ':' (by decide)))
      (hne '[' (by decide)) (hne ']' (by decide)), ih fun c hc => h c (List.mem_cons_of_mem _ hc)]

/-- in brackets a colon does not end the host -/
theorem splitHost_inside {inner : List Char} (h : ∀ c ∈ inner, c ≠ '[' ∧ c ≠ ']')
    (rest : List Char) :
    splitHost true (inner ++ ']' :: ':' :: rest) = (inner ++ [']'], ':' :: rest) := by
  induction inner with
  | nil => simp [splitHost]
  | cons c inner ih =>
    obtain ⟨hopen, hclose⟩ := h c List.mem_cons_self
    rw [List.cons_append, splitHost_cons (fun _ => rfl) hopen hclose,
      ih fun c hc => h c (List.mem_cons_of_mem _ hc)]
    rfl

theorem port?_digits (p : UInt16) : port? (':' :: Text.digits p.toNat) = some p := by
  have hdigits : (Text.digits p.toNat).takeWhile (· ≠ '\\') = Text.digits p.toNat := by
    refine List.takeWhile_eq_self_iff.2 fun c hc => decide_eq_true ?_
    rintro rfl
    exact absurd (Text.isDigit_of_mem_digits hc) (by decide)
  have hsize : p.toNat < UInt16.size := p.toNat_lt
  rw [port?, hdigits, Address.port?, Text.ofDigits_digits, Option.bind_some, if_pos hsize,
    UInt16.ofNat_toNat]

end Authority

/-! ## endpoints -/

namespace Endpoint

open Authority (IsHost IsPlain IsGraphic)

theorem writeHost_text {host : List Char} (h : Authority.IsOpaque host) :
    writeHost host = host := by
  refine if_neg fun hcolon => ?_
  exact absurd (h.allowed ':' hcolon) (by decide)

theorem writeHost_v6 (ip : Ipv6) : writeHost ip.write = '[' :: ip.write ++ [']'] :=
  if_pos ip.colon_mem_write

section
variable {host : List Char} (h : IsHost host)
include h

theorem splitHost_writeHost (rest : List Char) :
    Authority.splitHost false (writeHost host ++ ':' :: rest) = (writeHost host, ':' :: rest) := by
  cases h with
  | text htext =>
    rw [writeHost_text htext]
    exact Authority.splitHost_text htext.allowed rest
  | v6 ip =>
    have hinner : ∀ c ∈ ip.write, c ≠ '[' ∧ c ≠ ']' := by
      intro c hc
      rcases Ipv6.mem_write hc with hdigit | rfl | rfl
      · exact hdigit.of_all (p := fun c => c ≠ '[' ∧ c ≠ ']') (by decide)
      · decide
      · decide
    have hinside := Authority.splitHost_inside hinner rest
    rw [writeHost_v6, List.append_assoc, List.cons_append, Authority.splitHost]
    simp [hinside]

theorem opaqueHost?_writeHost : Authority.opaqueHost? (writeHost host) = some host := by
  cases h with
  | text htext => rw [writeHost_text htext, htext.opaqueHost?_eq]
  | v6 ip => rw [writeHost_v6, Authority.opaqueHost?_bracketed]

theorem isPlain_writeHost : ∀ c ∈ writeHost host, IsPlain c := by
  intro c hc
  cases h with
  | text htext =>
    rw [writeHost_text htext] at hc
    exact Authority.isPlain_of_allowed (htext.graphic c hc) (htext.allowed c hc)
  | v6 ip =>
    rw [writeHost_v6, List.mem_append, List.mem_cons, List.mem_singleton] at hc
    rcases hc with (rfl | hc) | rfl
    · decide
    · rcases Ipv6.mem_write hc with hdigit | rfl | rfl
      · exact hdigit.of_all (by decide)
      · decide
      · decide
    · decide

end

section
variable {e : Endpoint} (h : IsHost e.host.toList)
include h

theorem isPlain_writeAuthority : ∀ c ∈ e.writeAuthority, IsPlain c := by
  intro c hc
  rw [writeAuthority, List.mem_append, List.mem_cons] at hc
  rcases hc with hc | rfl | hc
  · exact isPlain_writeHost h c hc
  · decide
  · exact (Text.isHexDigit_of_isDigit (Text.isDigit_of_mem_digits hc)).of_all (by decide)

theorem ofAuthority?_writeAuthority : ofAuthority? e.writeAuthority = some e := by
  have hsplit : Authority.splitHost false (Authority.afterUser e.writeAuthority) =
      (writeHost e.host.toList, ':' :: Text.digits e.port.toNat) := by
    rw [Authority.afterUser_of_plain (isPlain_writeAuthority h)]
    exact splitHost_writeHost h _
  rw [ofAuthority?, hsplit]
  simp only [opaqueHost?_writeHost h, Authority.port?_digits, String.ofList_toList]

theorem parse_display : parse e.display = .ok e := by
  have hplain := isPlain_writeAuthority h
  have hscheme : ['t', 'c', 'p', ':', '/', '/'].all (fun c => decide (IsGraphic c)) = true := by
    decide
  have hgraphic : ∀ c ∈ e.write, IsGraphic c := by
    intro c hc
    have hmem : c ∈ ['t', 'c', 'p', ':', '/', '/'] ++ e.writeAuthority := hc
    rcases List.mem_append.1 hmem with hc | hc
    · exact of_decide_eq_true (List.all_eq_true.1 hscheme c hc)
    · exact (hplain c hc).1
  have hread : ofText? e.write = some e := by
    rw [ofText?, Authority.trim_of_graphic hgraphic, Authority.clean_of_graphic hgraphic]
    show ofAuthority? (e.writeAuthority.takeWhile (!Authority.endsAuthority ·)) = some e
    rw [Authority.takeWhile_of_plain hplain, ofAuthority?_writeAuthority h]
  rw [parse, display, String.toList_ofList, hread]

end

/-! ## endpoints that are in use -/

/-- an endpoint that was read from some text, or that some address has -/
inductive Obtained : Endpoint → Prop where
  | parsed {text : String} {e : Endpoint} (h : parse text = .ok e) : Obtained e
  | address (a : Address) : Obtained (ofAddress a)

theorem isHost_of_ofAuthority? {s : List Char} {e : Endpoint} (h : ofAuthority? s = some e) :
    IsHost e.host.toList := by
  unfold ofAuthority? at h
  dsimp only at h
  split at h
  · next hhost _ =>
    rw [← Option.some.inj h, String.toList_ofList]
    exact Authority.isHost_of_opaqueHost? hhost
  · cases h

theorem Obtained.isHost {e : Endpoint} (h : e.Obtained) : IsHost e.host.toList := by
  cases h with
  | parsed h =>
    unfold parse at h
    split at h
    · next hread =>
      obtain rfl := Except.ok.inj h
      unfold ofText? at hread
      split at hread
      · exact isHost_of_ofAuthority? hread
      · cases hread
    · cases h
  | address a =>
    cases a with
    | v4 ip port =>
      show IsHost (String.ofList ip.write).toList
      rw [String.toList_ofList]
      exact .text (Authority.isOpaque_v4 ip)
    | v6 ip port =>
      show IsHost (String.ofList ip.write).toList
      rw [String.toList_ofList]
      exact .v6 ip

/-- **An endpoint is read back from its text**, whatever text or address it comes from, and with any
port in place of its own. -/
theorem parse_display_withPort {e : Endpoint} (h : e.Obtained) (port : UInt16) :
    parse (e.withPort port).display = .ok (e.withPort port) := by
  have hhost : IsHost (e.withPort port).host.toList := h.isHost
  exact parse_display hhost

/-- a host with an escape, a letter beyond ASCII and a control character, and an IPv4 address in the
place of an IPv6 address -/
theorem parse_display_withPort_hosts :
    let named : Endpoint := ⟨"a%2fb%C3%A4%7F", 80⟩
    let mapped := ofAddress (.v6 ⟨[0, 0, 0, 0, 0, 0xffff, 0x7f00, 1], rfl⟩ 7781)
    parse " TCP://user@a%2fbä\x7f:080/path " = .ok named ∧
      parse (named.withPort 0).display = .ok (named.withPort 0) ∧
      mapped.authority = "[::ffff:127.0.0.1]:7781" ∧
      parse (mapped.withPort 0).display = .ok (mapped.withPort 0) := by
  intro named mapped
  have hnamed : parse " TCP://user@a%2fbä\x7f:080/path " = .ok named := by decide +kernel
  have hmapped : mapped.authority = "[::ffff:127.0.0.1]:7781" := by decide +kernel
  exact ⟨hnamed, parse_display_withPort (.parsed hnamed) 0, hmapped,
    parse_display_withPort (.address _) 0⟩

end Endpoint

end LoadTest
