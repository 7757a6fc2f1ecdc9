import LoadTest.Json.Record
import LoadTest.Proofs.Json.Reading
import LoadTest.Proofs.Text.Numbers

/-!
# Records read back

* `Json.isTrimmed_record`    the text of a record
* `Json.isReadable_record`  records of plain values can be taken in as a whole
* `Json.list?_map`, `Json.list?_text?_eq_some_iff`   lists
* `Json.valuesOf`           all values that an object has under a name
* `Json.tagged?_record`, `Json.tagged?_object_iff`   tags
* `Json.record?_record`, `Json.fields?_single`       fields
-/

namespace LoadTest.Json

/-! ## text -/

theorem newline_notMem_write (v : Json) : '\n' ∉ write v := by
  intro hmem
  exact absurd (forall_mem_write v '\n' hmem) (by decide)

theorem toList_renderLine (v : Json) : (v.render ++ "\n").toList = write v ++ ['\n'] := by
  rw [String.toList_append, render, String.toList_ofList]
  rfl

theorem isTrimmed_record (ms : List (String × Json)) : Text.IsTrimmed (write (record ms)) := by
  obtain ⟨body, hwrite⟩ := exists_write_object (ms.map fun m => (some m.1, m.2))
  have hrecord : write (record ms) = '\x7b' :: body ++ ['\x7d'] := hwrite
  rw [hrecord]
  refine ⟨?_, ?_⟩
  · intro c hc
    obtain rfl : '\x7b' = c := Option.some.inj hc
    decide
  · intro c hc
    rw [List.getLast?_concat] at hc
    obtain rfl : '\x7d' = c := Option.some.inj hc
    decide

/-! ## readable values -/

theorem natural?_natural (n : UInt64) : (natural n.toNat).natural? = some n :=
  Decimal.Numeral.natural?_ofNatural n

theorem isSound_natural (n : UInt64) : (natural n.toNat).isSound = true := by
  have hread : (Decimal.Numeral.ofNatural n.toNat).natural? = some n := natural?_natural n
  simp [natural, isSound, hread]

theorem areSoundItems_iff {vs : List Json} :
    areSoundItems vs = true ↔ ∀ v ∈ vs, v.isSound = true := by
  induction vs with
  | nil => simp [areSoundItems]
  | cons v vs ih => simp [areSoundItems, ih]

theorem areSoundMembers_iff {ms : List Member} : areSoundMembers ms = true ↔
    ∀ m ∈ ms, m.1.isSome = true ∧ m.2.isSound = true := by
  induction ms with
  | nil => simp [areSoundMembers]
  | cons m ms ih =>
    obtain ⟨k, v⟩ := m
    simp [areSoundMembers, ih, and_assoc]

theorem depthItems_le {vs : List Json} {n : Nat} (h : ∀ v ∈ vs, v.depth ≤ n) :
    depthItems vs ≤ n := by
  induction vs with
  | nil => exact Nat.zero_le n
  | cons v vs ih =>
    exact Nat.max_le.2 ⟨h v List.mem_cons_self, ih fun w hw => h w (List.mem_cons_of_mem _ hw)⟩

theorem depthMembers_le_iff {ms : List Member} {n : Nat} :
    depthMembers ms ≤ n ↔ ∀ m ∈ ms, m.2.depth ≤ n := by
  induction ms with
  | nil => simp [depthMembers]
  | cons m ms ih =>
    obtain ⟨k, v⟩ := m
    simp [depthMembers, ih]

/-- a value that stands in a record: it can be read, and it is nested once at most -/
def IsLeaf (v : Json) : Prop := v.isSound = true ∧ v.depth ≤ 1

theorem isLeaf_string (s : String) : IsLeaf (.string s) := ⟨rfl, Nat.zero_le 1⟩

theorem isLeaf_natural (n : UInt64) : IsLeaf (.natural n.toNat) := ⟨isSound_natural n, Nat.zero_le 1⟩

theorem isLeaf_strings (texts : List String) : IsLeaf (.array (texts.map string)) := by
  refine ⟨areSoundItems_iff.2 fun v hv => ?_, Nat.succ_le_succ (depthItems_le fun v hv => ?_)⟩
  · obtain ⟨s, -, rfl⟩ := List.mem_map.1 hv
    rfl
  · obtain ⟨s, -, rfl⟩ := List.mem_map.1 hv
    exact Nat.le_refl 0

theorem isReadable_record {ms : List (String × Json)} (h : ∀ m ∈ ms, IsLeaf m.2) :
    (record ms).isReadable = true := by
  have hsound : (record ms).isSound = true := areSoundMembers_iff.2 fun m hm => by
    obtain ⟨n, hn, rfl⟩ := List.mem_map.1 hm
    exact ⟨rfl, (h n hn).1⟩
  have hdepth : (record ms).depth ≤ 2 := Nat.succ_le_succ <| depthMembers_le_iff.2 fun m hm => by
    obtain ⟨n, hn, rfl⟩ := List.mem_map.1 hm
    exact (h n hn).2
  have hlimit : (record ms).depth ≤ depthLimit := Nat.le_trans hdepth (by decide)
  simp [isReadable, hsound, hlimit]

theorem isReadable_object_iff {ms : List Member} :
    (object ms).isReadable = true ↔ ∀ m ∈ ms, (object [m]).isReadable = true := by
  have hall (ms : List Member) : (object ms).isReadable = true ↔
      ∀ m ∈ ms, (m.1.isSome = true ∧ m.2.isSound = true) ∧ m.2.depth ≤ 126 := by
    have hsound : (object ms).isSound = true ↔
        ∀ m ∈ ms, m.1.isSome = true ∧ m.2.isSound = true := areSoundMembers_iff
    have hdepth : (object ms).depth ≤ depthLimit ↔ ∀ m ∈ ms, m.2.depth ≤ 126 :=
      Nat.succ_le_succ_iff.trans depthMembers_le_iff
    rw [isReadable, Bool.and_eq_true, decide_eq_true_iff, hsound, hdepth]
    exact ⟨fun h m hm => ⟨h.1 m hm, h.2 m hm⟩,
      fun h => ⟨fun m hm => (h m hm).1, fun m hm => (h m hm).2⟩⟩
  rw [hall]
  simp only [hall, List.mem_singleton, forall_eq]

theorem isSome_of_isReadable {ms : List Member} (h : (object ms).isReadable = true) :
    ∀ m ∈ ms, m.1.isSome = true := by
  have hsound : (object ms).isSound = true := (Bool.and_eq_true_iff.1 h).1
  exact fun m hm => (areSoundMembers_iff.1 hsound m hm).1

/-! ## lists -/

theorem text?_eq_some_iff {v : Json} {t : String} : v.text? = some t ↔ v = .string t := by
  constructor
  · intro h
    cases v with
    | text s => exact congrArg Json.text h
    | _ => cases h
  · rintro rfl
    rfl

theorem list?_map {α : Type} {read : Json → Option α} {write : α → Json}
    (h : ∀ a, read (write a) = some a) (l : List α) : list? read (.array (l.map write)) = some l := by
  show (l.map write).mapM read = some l
  induction l with
  | nil => rfl
  | cons a l ih =>
    rw [List.map_cons, List.mapM_cons, h, ih]
    rfl

theorem mapM_text?_eq_some_iff {vs : List Json} {texts : List String} :
    vs.mapM text? = some texts ↔ vs = texts.map string := by
  constructor
  · intro h
    induction vs generalizing texts with
    | nil =>
      rw [List.mapM_nil] at h
      rw [← Option.some.inj h, List.map_nil]
    | cons v vs ih =>
      rw [List.mapM_cons] at h
      obtain ⟨t, ht, h⟩ := Option.bind_eq_some_iff.1 h
      obtain ⟨ts, hts, h⟩ := Option.bind_eq_some_iff.1 h
      rw [← Option.some.inj h, List.map_cons, text?_eq_some_iff.1 ht, ih hts]
  · rintro rfl
    have hread (t : String) : (string t).text? = some t := rfl
    exact list?_map hread texts

theorem list?_text?_eq_some_iff {v : Json} {texts : List String} :
    list? text? v = some texts ↔ v = .array (texts.map string) := by
  cases v with
  | array vs =>
    show vs.mapM text? = some texts ↔ _
    rw [mapM_text?_eq_some_iff, Json.array.injEq]
  | _ =>
    constructor
    all_goals
      intro h
      cases h

/-! ## tags -/

/-- all values that the members of an object have under a name -/
def valuesOf (name : String) (ms : List Member) : List Json :=
  (ms.filter fun m => m.1 = some name).map (·.2)

theorem valuesOf_cons (name : String) (m : Member) (ms : List Member) :
    valuesOf name (m :: ms) =
      if m.1 = some name then m.2 :: valuesOf name ms else valuesOf name ms := by
  by_cases h : m.1 = some name <;> simp [valuesOf, h]

theorem valuesOf_append (name : String) (a b : List Member) :
    valuesOf name (a ++ b) = valuesOf name a ++ valuesOf name b := by
  rw [valuesOf, List.filter_append, List.map_append]
  rfl

theorem perm_valuesOf {ms ms' : List Member} (h : ms'.Perm ms) (name : String) :
    (valuesOf name ms').Perm (valuesOf name ms) := (h.filter _).map _

theorem valuesOf_of_perm {name : String} {ms ms' : List Member} (h : ms'.Perm ms)
    (hone : (valuesOf name ms).length ≤ 1) : valuesOf name ms' = valuesOf name ms := by
  have hperm := perm_valuesOf h name
  cases hvalues : valuesOf name ms with
  | nil => exact List.perm_nil.1 (hvalues ▸ hperm)
  | cons v vs =>
    rw [hvalues] at hone hperm
    have hlength : vs.length = 0 := Nat.le_zero.1 (Nat.le_of_succ_le_succ hone)
    obtain rfl := List.eq_nil_of_length_eq_zero hlength
    exact List.perm_singleton.1 hperm

theorem valuesOf_eq_nil_iff {name : String} {ms : List Member} :
    valuesOf name ms = [] ↔ ∀ m ∈ ms, m.1 ≠ some name := by
  rw [valuesOf, List.map_eq_nil_iff, List.filter_eq_nil_iff]
  simp

theorem valuesOf_filter_ne {name tag : String} (h : name ≠ tag) (ms : List Member) :
    valuesOf name (ms.filter fun m => m.1 ≠ some tag) = valuesOf name ms := by
  rw [valuesOf, valuesOf, List.filter_filter]
  congr 1
  refine List.filter_congr fun m _ => ?_
  by_cases hm : m.1 = some name
  · have hne : m.1 ≠ some tag := fun htag => h (Option.some.inj (hm.symm.trans htag))
    simp [hm, h]
  · simp [hm]

/-- An object has the tag that its one member of that name says, and the others beside it. -/
theorem tagged?_object_iff {tag t : String} {ms : List Member} {rest : Untagged} :
    tagged? tag (.object ms) = some (t, rest) ↔
      valuesOf tag ms = [.string t] ∧ rest = .members (ms.filter fun m => m.1 ≠ some tag) := by
  rw [tagged?, valuesOf]
  split
  · next m hm =>
    rw [hm, List.map_singleton, List.singleton_inj, ← text?_eq_some_iff, Option.map_eq_some_iff]
    constructor
    · rintro ⟨s, hs, hrest⟩
      obtain ⟨rfl, rfl⟩ := Prod.mk.inj hrest
      exact ⟨hs, rfl⟩
    · rintro ⟨hs, rfl⟩
      exact ⟨t, hs, rfl⟩
  · next hother =>
    constructor
    · intro h
      cases h
    · rintro ⟨hone, -⟩
      obtain ⟨m, hm, -⟩ := List.map_eq_singleton_iff.1 hone
      exact absurd hm (hother m)

theorem tagged?_record {tag : String} (t : String) {ms : List (String × Json)}
    (h : tag ∉ ms.map Prod.fst) :
    tagged? tag (record ((tag, .string t) :: ms)) =
      some (t, .members (ms.map fun m => (some m.1, m.2))) := by
  have hne : ∀ m ∈ ms.map fun m => ((some m.1, m.2) : Member), m.1 ≠ some tag := by
    intro m hm htag
    obtain ⟨n, hn, rfl⟩ := List.mem_map.1 hm
    exact h (List.mem_map.2 ⟨n, hn, Option.some.inj htag⟩)
  have hnone : (ms.map fun m => ((some m.1, m.2) : Member)).filter (fun m => m.1 = some tag) = [] :=
    List.filter_eq_nil_iff.2 fun m hm => by simpa using hne m hm
  have hall : (ms.map fun m => ((some m.1, m.2) : Member)).filter (fun m => m.1 ≠ some tag) =
      ms.map fun m => (some m.1, m.2) :=
    List.filter_eq_self.2 fun m hm => by simpa using hne m hm
  rw [record, List.map_cons, tagged?, List.filter_cons_of_pos (by simp), hnone,
    List.filter_cons_of_neg (by simp), hall]
  rfl

/-! ## fields -/

theorem exists_named {ms : List Member} (h : ∀ m ∈ ms, m.1.isSome = true) :
    ∃ named : List (String × Json), ms = named.map fun f => (some f.1, f.2) := by
  induction ms with
  | nil => exact ⟨[], rfl⟩
  | cons m ms ih =>
    obtain ⟨named, rfl⟩ := ih fun m hm => h m (List.mem_cons_of_mem _ hm)
    obtain ⟨k, v⟩ := m
    obtain ⟨name, rfl⟩ := Option.isSome_iff_exists.1 (h (k, v) List.mem_cons_self)
    exact ⟨(name, v) :: named, rfl⟩

theorem fields?_named (known : List String) (named : List (String × Json)) :
    fields? known (named.map fun f => (some f.1, f.2)) =
      if ((named.filter fun f => known.contains f.1).map (·.1)).Nodup then
        some (named.filter fun f => known.contains f.1)
      else none := by
  have hmap : (named.map fun f => ((some f.1, f.2) : Member)).mapM
      (fun m => m.1.map fun name => (name, m.2)) = some named := by
    induction named with
    | nil => rfl
    | cons f named ih =>
      rw [List.map_cons, List.mapM_cons, ih]
      rfl
  simp only [fields?, hmap, Option.bind_eq_bind, Option.bind_some]

theorem record?_record {known : List String} {ms : List (String × Json)}
    (hnames : ms.map Prod.fst = known) (hnodup : known.Nodup) :
    record? known (record ms) = some ms := by
  have hall : (ms.filter fun f => known.contains f.1) = ms :=
    List.filter_eq_self.2 fun m hm =>
      List.contains_iff_mem.2 (hnames ▸ List.mem_map_of_mem hm)
  have hread : fields? known (ms.map fun f => (some f.1, f.2)) = some ms := by
    rw [fields?_named, hall, show ms.map (·.1) = known from hnames, if_pos hnodup]
  exact hread

theorem valuesOf_named (name : String) (named : List (String × Json)) :
    valuesOf name (named.map fun f => (some f.1, f.2)) =
      (named.filter fun f => f.1 = name).map (·.2) := by
  rw [valuesOf, List.filter_map, List.map_map]
  simp [Function.comp_def]

theorem fields?_single {ms : List Member} (h : ∀ m ∈ ms, m.1.isSome = true) (name : String) :
    fields? [name] ms =
      if (valuesOf name ms).length ≤ 1 then some ((valuesOf name ms).map fun v => (name, v))
      else none := by
  obtain ⟨named, rfl⟩ := exists_named h
  have hwanted : (named.filter fun f => [name].contains f.1) =
      (valuesOf name (named.map fun f => (some f.1, f.2))).map fun v => (name, v) := by
    have hfilter : (named.filter fun f => [name].contains f.1) =
        named.filter fun f => f.1 = name := by simp
    rw [valuesOf_named, hfilter, List.map_map]
    refine (List.map_id _).symm.trans (List.map_congr_left fun f hf => ?_)
    have hname : f.1 = name := by simpa using (List.mem_filter.1 hf).2
    exact Prod.ext hname rfl
  have hnames (vs : List Json) :
      (vs.map fun v => (name, v)).map (·.1) = List.replicate vs.length name := by
    rw [List.map_map]
    exact List.map_const'
  rw [fields?_named, hwanted, hnames]
  simp only [List.nodup_replicate]

end LoadTest.Json
