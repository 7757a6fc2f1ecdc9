import Mathlib.Data.List.Perm.Basic
import Mathlib.Data.List.Nodup
import LoadTest.Proofs.Stream.Options

/-!
# Configurations against the declared options

A configuration is accepted just if every name that was set is declared and every text can be read
as a value of the declared kind. Otherwise the smallest name that is at fault is reported. Reading a
value later on, of a text that was set or of a default, meets no fault any more.

* `Text.eq_of_getNamed?`       sorted values are determined by what is found under their names
* `StreamConfig.get?_ofList`   what was set last counts
* `StreamConfig.ofList_perm`   the order of distinct names does not
* `StreamConfig.Sound`, `.SoundBelow`   every text, or every one under a smaller name, is accepted
* `StreamConfig.validate_eq_error_iff`   the smallest name at fault decides
* `StreamConfig.Says`, `StreamConfig.value?_of_sound`   later readings
-/

namespace LoadTest

/-! ## values under sorted names -/

namespace Text
variable {α : Type} {l : List (String × α)}

/-- the names stand in order, none of them twice -/
def NamesSorted (l : List (String × α)) : Prop := (l.map (·.1)).Pairwise (· < ·)

theorem NamesSorted.put (h : NamesSorted l) (name : String) (value : α) :
    NamesSorted (putNamed name value l) := by
  unfold NamesSorted
  rw [names_putNamed]
  exact pairwise_insertText name h

theorem NamesSorted.head_lt {n : String} {v : α} (h : NamesSorted ((n, v) :: l)) :
    ∀ nv ∈ l, n < nv.1 := fun nv hnv =>
  (List.pairwise_cons.1 h).1 nv.1 (List.mem_map_of_mem hnv)

theorem NamesSorted.tail {nv : String × α} (h : NamesSorted (nv :: l)) : NamesSorted l :=
  (List.pairwise_cons.1 h).2

/-- what is found under a name is what stands there, if no name stands twice -/
theorem getNamed?_eq_some_iff (h : (l.map (·.1)).Nodup) {name : String} {value : α} :
    getNamed? name l = some value ↔ (name, value) ∈ l := by
  induction l with
  | nil => simp [getNamed?]
  | cons nv l ih =>
    obtain ⟨n, v⟩ := nv
    obtain ⟨hn, hl⟩ := List.nodup_cons.1 h
    rw [getNamed?_cons, List.mem_cons]
    by_cases hname : n = name
    · subst hname
      rw [if_pos rfl, Option.some_inj, Prod.mk.injEq, eq_comm]
      constructor
      · exact fun hv => .inl ⟨rfl, hv⟩
      · rintro (⟨-, hv⟩ | hmem)
        · exact hv
        · exact absurd (List.mem_map_of_mem hmem) hn
    · rw [if_neg hname, ih hl, Prod.mk.injEq]
      constructor
      · exact .inr
      · rintro (⟨heq, -⟩ | hmem)
        · exact absurd heq.symm hname
        · exact hmem

theorem NamesSorted.nodup (h : NamesSorted l) : (l.map (·.1)).Nodup := by
  refine List.Pairwise.imp ?_ h
  rintro m _ hlt rfl
  exact String.lt_irrefl m hlt

/-- **Sorted values are determined by what is found under their names.** -/
theorem eq_of_getNamed? {l l' : List (String × α)} (hl : NamesSorted l) (hl' : NamesSorted l')
    (h : ∀ name, getNamed? name l = getNamed? name l') : l = l' := by
  have hmem : ∀ nv, nv ∈ l ↔ nv ∈ l' := by
    rintro ⟨name, value⟩
    rw [← getNamed?_eq_some_iff hl.nodup, ← getNamed?_eq_some_iff hl'.nodup, h]
  have hperm : l.Perm l' :=
    (List.perm_ext_iff_of_nodup hl.nodup.of_map hl'.nodup.of_map).2 hmem
  have hasymm : ∀ nv mw : String × α, nv ∈ l → mw ∈ l' → nv.1 < mw.1 → mw.1 < nv.1 → nv = mw :=
    fun nv mw _ _ hlt hgt => absurd (String.lt_trans hlt hgt) (String.lt_irrefl nv.1)
  exact hperm.eq_of_pairwise hasymm (List.pairwise_map.1 hl) (List.pairwise_map.1 hl')

end Text

/-! ## configurations -/

namespace StreamConfig

theorem ofList_concat (settings : List (String × String)) (name text : String) :
    ofList (settings ++ [(name, text)]) = (ofList settings).set name text := by
  unfold ofList
  rw [List.foldl_append]
  rfl

theorem namesSorted_ofList (settings : List (String × String)) :
    Text.NamesSorted (ofList settings).values := by
  induction settings using List.reverseRecOn with
  | nil => exact List.Pairwise.nil
  | append_singleton settings nv ih =>
    rw [ofList_concat]
    exact ih.put nv.1 nv.2

/-- **What was set last counts.** -/
theorem get?_ofList (settings : List (String × String)) (name : String) :
    (ofList settings).get? name = Text.getNamed? name settings.reverse := by
  induction settings using List.reverseRecOn with
  | nil => rfl
  | append_singleton settings nv ih =>
    obtain ⟨n, v⟩ := nv
    rw [ofList_concat, List.reverse_concat, Text.getNamed?_cons, ← ih]
    exact Text.getNamed?_putNamed name n v _

theorem ofList_perm {settings settings' : List (String × String)}
    (hperm : settings'.Perm settings) (hnodup : (settings.map Prod.fst).Nodup) :
    ofList settings' = ofList settings := by
  have hnodup' : (settings'.map Prod.fst).Nodup := (hperm.map Prod.fst).nodup_iff.2 hnodup
  have hreverse : ∀ l : List (String × String), (l.map Prod.fst).Nodup →
      (l.reverse.map Prod.fst).Nodup := by
    intro l hl
    rw [List.map_reverse]
    exact List.nodup_reverse.2 hl
  have hget : ∀ name, Text.getNamed? name (ofList settings').values =
      Text.getNamed? name (ofList settings).values := by
    intro name
    show (ofList settings').get? name = (ofList settings).get? name
    rw [get?_ofList, get?_ofList]
    refine Option.ext fun text => ?_
    rw [Text.getNamed?_eq_some_iff (hreverse _ hnodup'), List.mem_reverse, hperm.mem_iff,
      Text.getNamed?_eq_some_iff (hreverse _ hnodup), List.mem_reverse]
  have hvalues := Text.eq_of_getNamed? (namesSorted_ofList settings') (namesSorted_ofList settings)
    hget
  generalize ofList settings' = c, ofList settings = d at hvalues
  cases c
  cases d
  exact congrArg mk hvalues

/-- every text that was set is accepted under its name -/
def Sound (c : StreamConfig) (k : StreamKind) : Prop :=
  ∀ name text, c.get? name = some text → k.Accepts name text

/-- `c.SoundBelow k name`: every text under a smaller name is accepted. -/
def SoundBelow (c : StreamConfig) (k : StreamKind) (name : String) : Prop :=
  ∀ smaller < name, ∀ text, c.get? smaller = some text → k.Accepts smaller text

theorem validateAll_eq_ok_iff {k : StreamKind} {l : List (String × String)} :
    validateAll k l = .ok () ↔ ∀ nt ∈ l, k.Accepts nt.1 nt.2 := by
  induction l with
  | nil => simp [validateAll]
  | cons nt l ih =>
    obtain ⟨n, t⟩ := nt
    rw [validateAll, List.forall_mem_cons, ← ih, StreamKind.accepts_iff]
    cases check k n t <;> simp

theorem validateAll_eq_error_iff {k : StreamKind} {l : List (String × String)}
    (hl : Text.NamesSorted l) {e : Error} :
    validateAll k l = .error e ↔
      ∃ name text, (name, text) ∈ l ∧ check k name text = .error e ∧
        ∀ mt ∈ l, mt.1 < name → k.Accepts mt.1 mt.2 := by
  induction l with
  | nil => simp [validateAll]
  | cons nt l ih =>
    obtain ⟨n, t⟩ := nt
    have hhead := hl.head_lt
    rw [validateAll]
    cases hcheck : check k n t with
    | ok v =>
      -- the head is accepted, so the fault is behind it
      have haccepts : k.Accepts n t := StreamKind.accepts_iff.2 ⟨v, hcheck⟩
      show validateAll k l = .error e ↔ _
      rw [ih hl.tail]
      constructor
      · rintro ⟨name, text, hmem, hfault, hbelow⟩
        refine ⟨name, text, List.mem_cons_of_mem _ hmem, hfault, fun mt hmt hlt => ?_⟩
        rcases List.mem_cons.1 hmt with rfl | hmt
        · exact haccepts
        · exact hbelow mt hmt hlt
      · rintro ⟨name, text, hmem, hfault, hbelow⟩
        rcases List.mem_cons.1 hmem with heq | hmem
        · cases heq
          rw [hcheck] at hfault
          cases hfault
        · exact ⟨name, text, hmem, hfault, fun mt hmt => hbelow mt (List.mem_cons_of_mem _ hmt)⟩
    | error e' =>
      show Except.error e' = .error e ↔ _
      constructor
      · rintro ⟨⟩
        refine ⟨n, t, List.mem_cons_self, hcheck, fun mt hmt hlt => ?_⟩
        rcases List.mem_cons.1 hmt with rfl | hmt
        · exact absurd hlt (String.lt_irrefl _)
        · exact absurd (String.lt_trans hlt (hhead mt hmt)) (String.lt_irrefl _)
      · rintro ⟨name, text, hmem, hfault, hbelow⟩
        rcases List.mem_cons.1 hmem with heq | hmem
        · cases heq
          exact congrArg Except.error (Except.error.inj (hcheck.symm.trans hfault))
        · -- the head is smaller than any other name
          obtain ⟨v, hv⟩ := (hbelow (n, t) List.mem_cons_self (hhead _ hmem)).check_eq
          rw [hcheck] at hv
          cases hv

section
variable (settings : List (String × String)) (k : StreamKind)

/-- **The smallest name at fault decides.** -/
theorem validate_eq_error_iff {e : Error} :
    (ofList settings).validate k = .error e ↔
      ∃ name text, (ofList settings).get? name = some text ∧ check k name text = .error e ∧
        (ofList settings).SoundBelow k name := by
  have hsorted := namesSorted_ofList settings
  have hget : ∀ name text,
      (ofList settings).get? name = some text ↔ (name, text) ∈ (ofList settings).values :=
    fun name text => Text.getNamed?_eq_some_iff hsorted.nodup
  unfold validate
  rw [validateAll_eq_error_iff hsorted]
  unfold SoundBelow
  simp only [hget]
  constructor
  · rintro ⟨name, text, hmem, hfault, hbelow⟩
    exact ⟨name, text, hmem, hfault, fun m hlt t ht => hbelow (m, t) ht hlt⟩
  · rintro ⟨name, text, hmem, hfault, hbelow⟩
    exact ⟨name, text, hmem, hfault, fun mt hmt hlt => hbelow mt.1 hlt mt.2 hmt⟩

theorem validate_eq_ok_iff :
    (ofList settings).validate k = .ok () ↔ (ofList settings).Sound k := by
  have hget : ∀ name text,
      (ofList settings).get? name = some text ↔ (name, text) ∈ (ofList settings).values :=
    fun name text => Text.getNamed?_eq_some_iff (namesSorted_ofList settings).nodup
  unfold validate Sound
  rw [validateAll_eq_ok_iff]
  simp only [hget, Prod.forall]

end

/-! ## later readings -/

/-- `c.Says k name v`: the text that was set under the name, or else the default of the name, stands
for the value. -/
def Says (c : StreamConfig) (k : StreamKind) (name : String) (v : OptionValue) : Prop :=
  ∃ o text, k.option? name = some o ∧ (c.get? name).or o.default = some text ∧ o.kind.Reads text v

theorem value?_of_get? {c : StreamConfig} {k : StreamKind} {name text : String}
    {o : StreamOption} (hname : k.option? name = some o) (hget : c.get? name = some text) :
    c.value? k name = (check k name text).map some := by
  unfold value? check
  simp only [hname, hget, Option.some_or]

theorem error_of_value? {c : StreamConfig} {k : StreamKind} {name : String} {e : Error}
    (h : c.value? k name = .error e) :
    ∃ o text, k.option? name = some o ∧ o.read k text = .error e := by
  unfold value? at h
  cases hname : k.option? name with
  | none =>
    simp only [hname] at h
    cases h
  | some o =>
    cases htext : (c.get? name).or o.default with
    | none =>
      simp only [hname, htext] at h
      cases h
    | some text =>
      simp only [hname, htext] at h
      refine ⟨o, text, rfl, ?_⟩
      cases hread : o.read k text with
      | ok v =>
        rw [hread] at h
        cases h
      | error e' =>
        rw [hread] at h
        exact congrArg Except.error (Except.error.inj h)

theorem reads_default {k : StreamKind} {o : StreamOption} (ho : o ∈ k.options) {text : String}
    (htext : o.default = some text) : ∃ v, o.kind.Reads text v := by
  have hall : ∀ k : StreamKind, ∀ o ∈ k.options,
      (o.default.map fun text => (o.kind.read text).isOk).getD true = true := by
    intro k
    cases k <;> decide +kernel
  have hok := hall k o ho
  rw [htext] at hok
  cases hread : o.kind.read text with
  | ok v => exact ⟨v, OptionKind.read_eq_ok_iff.1 hread⟩
  | error e =>
    simp only [Option.map_some, Option.getD_some, hread] at hok
    cases hok

section
variable {c : StreamConfig} {k : StreamKind} (hc : c.Sound k) (name : String)
include hc

/-- a reading after the check gives what the configuration says, and never a fault -/
theorem value?_of_sound :
    ∃ v, c.value? k name = .ok v ∧ ∀ w, v = some w ↔ c.Says k name w := by
  unfold value? Says
  cases hname : k.option? name with
  | none => exact ⟨none, rfl, by simp⟩
  | some o =>
    cases htext : (c.get? name).or o.default with
    | none =>
      refine ⟨none, by simp only [htext], fun w => ⟨nofun, ?_⟩⟩
      rintro ⟨o', text, ho', htext', -⟩
      obtain rfl := Option.some.inj ho'
      rw [htext] at htext'
      cases htext'
    | some text =>
      have hreads : ∃ v, o.kind.Reads text v := by
        rcases Option.or_eq_some_iff.1 htext with hset | ⟨-, hdefault⟩
        · obtain ⟨o', v, ho', hv⟩ := hc name text hset
          obtain rfl := Option.some.inj (hname.symm.trans ho')
          exact ⟨v, hv⟩
        · exact reads_default (List.mem_of_find?_eq_some hname) hdefault
      obtain ⟨v, hv⟩ := hreads
      have hread := OptionKind.read_eq_ok_iff.2 hv
      refine ⟨some v, by simp only [htext, StreamOption.read, hread]; rfl, fun w => ?_⟩
      rw [Option.some_inj]
      constructor
      · rintro rfl
        exact ⟨o, text, rfl, htext, hv⟩
      · rintro ⟨o', text', ho', htext', hw⟩
        obtain rfl := Option.some.inj ho'
        obtain rfl := Option.some.inj (htext.symm.trans htext')
        exact Except.ok.inj (hread.symm.trans (OptionKind.read_eq_ok_iff.2 hw))

theorem pick_of_sound {α : Type} {select : OptionValue → Option α} {wrap : α → OptionValue}
    (hselect : ∀ v a, select v = some a ↔ v = wrap a) :
    ∃ a, pick select (c.value? k name) = .ok a ∧ ∀ x, a = some x ↔ c.Says k name (wrap x) := by
  obtain ⟨v, hv, hsays⟩ := value?_of_sound hc name
  refine ⟨v.bind select, by rw [hv]; rfl, fun x => ?_⟩
  rw [← hsays, Option.bind_eq_some_iff]
  simp only [hselect, exists_eq_right]

theorem int_of_sound :
    ∃ i, c.int k name = .ok i ∧ ∀ n, i = some n ↔ c.Says k name (.int n) :=
  pick_of_sound hc name fun v n => by cases v <;> simp

theorem bool_of_sound :
    ∃ b, c.bool k name = .ok b ∧ ∀ x, b = some x ↔ c.Says k name (.bool x) :=
  pick_of_sound hc name fun v n => by cases v <;> simp

theorem duration_of_sound :
    ∃ d, c.duration k name = .ok d ∧ ∀ x, d = some x ↔ c.Says k name (.duration x) :=
  pick_of_sound hc name fun v n => by cases v <;> simp

end

end StreamConfig

end LoadTest
