import Mathlib.Data.List.Forall2
import LoadTest.Proofs.Json.Spelling
import LoadTest.Proofs.Text.Numbers

/-!
# The texts of objects

The text of an object is a pair of braces with the texts of its members between them, and each of
these can be replaced, moved or taken away without any effect on how the others are read.

* `MemberText`, `ObjectText`   the parts
* `spellsMember_iff`           the text of a member in any place
* `ObjectText.front_toList`    an object of the members is read
* `exists_objectText`          every text that is an object with a member has such parts
-/

namespace LoadTest.Json

/-- the text of one member: between braces it is an object of this member alone -/
structure MemberText where
  text : List Char
  member : Member
  parse_braces : parse ('\x7b' :: text ++ ['\x7d']) = some (.object [member])

/-- a text that is an object: blanks, braces with members and commas between them, and blanks -/
structure ObjectText where
  before : List Char
  members : List MemberText
  after : List Char
  isGap_before : IsGap before
  members_ne_nil : members ≠ []
  allBlank_after : Text.AllBlank after

namespace ObjectText

def toList (o : ObjectText) : List Char :=
  o.before ++ '\x7b' :: listing '\x7d' (o.members.map (·.text)) ++ o.after

def line (o : ObjectText) : String := .ofList o.toList

def values (o : ObjectText) : List Member := o.members.map (·.member)

end ObjectText

/-! ## reading braces -/

theorem isGap_of_isDone {s : List Char} (h : isDone s = true) : IsGap s := by
  obtain ⟨gap, hgap, hs⟩ := exists_gap s
  rw [List.isEmpty_iff.1 h, List.append_nil] at hs
  exact hs ▸ hgap

theorem IsGap.allBlank {s : List Char} (h : IsGap s) : Text.AllBlank s := by
  intro c hc
  have hspace := h c hc
  simp only [isSpace, Bool.or_eq_true, decide_eq_true_eq] at hspace
  rcases hspace with ((rfl | rfl) | rfl) | rfl <;> decide

theorem exists_listing (close : Char) (ts : List (List Char)) :
    ∃ body, listing close ts = body ++ [close] := by
  induction ts with
  | nil => exact ⟨[], rfl⟩
  | cons t ts ih =>
    cases ts with
    | nil => exact ⟨t, rfl⟩
    | cons t' ts =>
      obtain ⟨body, hbody⟩ := ih
      refine ⟨t ++ ',' :: body, ?_⟩
      rw [listing_cons close t (List.cons_ne_nil t' ts), hbody, List.append_assoc, List.cons_append]

theorem exists_object {fuel : Nat} {s r : List Char} {ms : List Member} (hne : ms ≠ [])
    (h : value fuel s = some (.object ms, r)) : ∃ gap ts, IsGap gap ∧ ts ≠ [] ∧
      s = gap ++ '\x7b' :: (listing '\x7d' ts ++ r) ∧ List.Forall₂ SpellsMember ts ms := by
  obtain ⟨gap, hgap, hs⟩ := exists_gap s
  cases fuel with
  | zero => cases h
  | succ fuel =>
    rw [value] at h
    split at h
    · cases h
    · cases h
    · cases h
    · obtain ⟨p, -, hpair⟩ := Option.map_eq_some_iff.1 h
      cases hpair
    · split at h
      · cases h
      · obtain ⟨p, -, hpair⟩ := Option.map_eq_some_iff.1 h
        cases hpair
    · next heq =>
      split at h
      · obtain ⟨hempty, -⟩ := Prod.mk.inj (Option.some.inj h)
        exact absurd (Json.object.inj hempty).symm hne
      · obtain ⟨⟨ms', r'⟩, hread, hpair⟩ := Option.map_eq_some_iff.1 h
        obtain ⟨hms, rfl⟩ := Prod.mk.inj hpair
        obtain rfl := Json.object.inj hms
        obtain ⟨ts, hts, rfl, hspells⟩ := (takes fuel).2.2 _ _ _ hread
        exact ⟨gap, ts, hgap, hts, heq ▸ hs, hspells⟩
    · obtain ⟨p, -, hpair⟩ := Option.map_eq_some_iff.1 h
      cases hpair

/-- An object with its members between braces is read, and nothing behind it. -/
theorem front_object {gap : List Char} (hgap : IsGap gap) {ts : List (List Char)}
    {ms : List Member} (h : List.Forall₂ SpellsMember ts ms) (hne : ts ≠ []) (r : List Char) :
    front (gap ++ '\x7b' :: (listing '\x7d' ts ++ r)) = some (.object ms, r) := by
  rw [front, value_append_gap hgap]
  refine value_object (members_listing h hne _ r ?_)
  simp only [List.length_append, List.length_cons]
  omega

/-! ## members -/

/-- The text of a member is one that spells the member, whatever comes before and after it. -/
theorem spellsMember_iff {t : List Char} {m : Member} :
    SpellsMember t m ↔ parse ('\x7b' :: t ++ ['\x7d']) = some (.object [m]) := by
  constructor
  · intro h
    have hfront := front_object isGap_nil (.cons h .nil) (List.cons_ne_nil t []) []
    rw [List.append_nil] at hfront
    exact parse_eq_some_iff.2 ⟨[], hfront, rfl⟩
  · intro h
    obtain ⟨r, hread, hdone⟩ := parse_eq_some_iff.1 h
    obtain ⟨gap, ts, hgap, -, hs, hspells⟩ := exists_object (List.cons_ne_nil m []) hread
    obtain ⟨t', rfl, hmember⟩ : ∃ t', ts = [t'] ∧ SpellsMember t' m := by
      cases hspells with
      | @cons t' _ _ _ hmember hnil =>
        cases hnil
        exact ⟨t', rfl, hmember⟩
    rw [listing_singleton_append] at hs
    -- no blank stands before the opening brace, and nothing behind the closing one
    have hgap : gap = [] := by
      cases gap with
      | nil => rfl
      | cons c gap =>
        obtain ⟨rfl, -⟩ := List.cons.inj hs
        exact absurd (hgap _ List.mem_cons_self) (by decide)
    have hr : r = [] := by
      obtain rfl | ⟨r, c, rfl⟩ := List.eq_nil_or_concat r
      · rfl
      · have hlast := congrArg List.getLast? hs
        have hc : c = '\x7d' := by simpa [List.getLast?_cons] using hlast.symm
        have hspace : isSpace c = true := isGap_of_isDone hdone c (by simp)
        rw [hc] at hspace
        cases hspace
    subst hgap hr
    have htext : t ++ ['\x7d'] = t' ++ ['\x7d'] := (List.cons.inj hs).2
    exact List.append_cancel_right htext ▸ hmember

namespace ObjectText

theorem spellsMember_texts (o : ObjectText) :
    List.Forall₂ SpellsMember (o.members.map (·.text)) o.values := by
  rw [values, List.forall₂_map_left_iff, List.forall₂_map_right_iff]
  exact List.forall₂_same.2 fun t _ => spellsMember_iff.2 t.parse_braces

/-- **An object of its members is read**, whatever their number and their order, and whatever stands
after it. -/
theorem front_toList (o : ObjectText) :
    front (Text.trimEnd o.toList) = some (.object o.values, []) := by
  have htexts : o.members.map (·.text) ≠ [] := fun h => o.members_ne_nil (List.map_eq_nil_iff.1 h)
  have htrim : Text.trimEnd o.toList =
      o.before ++ '\x7b' :: (listing '\x7d' (o.members.map (·.text)) ++ []) := by
    rw [toList, Text.trimEnd_append o.allBlank_after, List.append_nil]
    obtain ⟨body, hbody⟩ := exists_listing '\x7d' (o.members.map (·.text))
    rw [hbody, ← List.cons_append, ← List.append_assoc, Text.trimEnd_concat, if_neg (by decide)]
  rw [htrim]
  exact front_object o.isGap_before o.spellsMember_texts htexts []

end ObjectText

theorem exists_memberTexts {ts : List (List Char)} {ms : List Member}
    (h : List.Forall₂ SpellsMember ts ms) :
    ∃ texts : List MemberText, texts.map (·.text) = ts ∧ texts.map (·.member) = ms := by
  induction h with
  | nil => exact ⟨[], rfl, rfl⟩
  | @cons t m ts ms ht _ ih =>
    obtain ⟨texts, rfl, rfl⟩ := ih
    exact ⟨⟨t, m, spellsMember_iff.1 ht⟩ :: texts, rfl, rfl⟩

/-- **Every text that is an object with a member** has a text for each of its members. -/
theorem exists_objectText {s : List Char} {ms : List Member} (hne : ms ≠ [])
    (h : parse (Text.trimEnd s) = some (.object ms)) :
    ∃ o : ObjectText, o.toList = s ∧ o.values = ms := by
  obtain ⟨r, hread, hdone⟩ := parse_eq_some_iff.1 h
  obtain ⟨gap, ts, hgap, hts, htrim, hspells⟩ := exists_object hne hread
  obtain ⟨after, hafter, hs⟩ := Text.exists_trimEnd s
  obtain ⟨texts, rfl, rfl⟩ := exists_memberTexts hspells
  have hblank : Text.AllBlank (r ++ after) :=
    List.forall_mem_append.2 ⟨(isGap_of_isDone hdone).allBlank, hafter⟩
  refine ⟨⟨gap, texts, r ++ after, hgap, fun hnil => hts (hnil ▸ rfl), hblank⟩, ?_, rfl⟩
  rw [hs, htrim]
  simp [ObjectText.toList]

end LoadTest.Json
