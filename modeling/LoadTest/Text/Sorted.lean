/-!
# Sorted texts without repetitions
-/

namespace LoadTest.Text

/-- puts a text at its place in a sorted list without repetitions -/
def insertText (s : String) : List String → List String
  | [] => [s]
  | t :: rest =>
    if s < t then s :: t :: rest else if s = t then t :: rest else t :: insertText s rest

def sortedTexts (ss : List String) : List String := ss.foldr insertText []

theorem sortedTexts_cons (s : String) (ss : List String) :
    sortedTexts (s :: ss) = insertText s (sortedTexts ss) := rfl

theorem mem_insertText {s t : String} {l : List String} : t ∈ insertText s l ↔ t = s ∨ t ∈ l := by
  induction l with
  | nil => simp [insertText]
  | cons u l ih =>
    simp only [insertText]
    split
    · simp
    · split
      · next h => subst h; simp
      · simp [ih, or_left_comm]

theorem mem_sortedTexts {t : String} {ss : List String} : t ∈ sortedTexts ss ↔ t ∈ ss := by
  induction ss with
  | nil => simp [sortedTexts]
  | cons s ss ih => simp [sortedTexts_cons, mem_insertText, ih]

theorem pairwise_insertText (s : String) {l : List String} (h : l.Pairwise (· < ·)) :
    (insertText s l).Pairwise (· < ·) := by
  induction l with
  | nil => exact List.pairwise_singleton ..
  | cons t l ih =>
    obtain ⟨ht, hl⟩ := List.pairwise_cons.1 h
    rw [insertText]
    split
    · next hst =>
      refine List.pairwise_cons.2 ⟨fun u hu => ?_, h⟩
      rcases List.mem_cons.1 hu with rfl | hu
      · exact hst
      · exact String.lt_trans hst (ht u hu)
    · next hst =>
      split
      · exact h
      · next hne =>
        refine List.pairwise_cons.2 ⟨fun u hu => ?_, ih hl⟩
        rcases mem_insertText.1 hu with rfl | hu
        · exact String.not_le.1 fun hle => hne (String.le_antisymm hle (String.not_lt.1 hst))
        · exact ht u hu

theorem pairwise_sortedTexts (ss : List String) : (sortedTexts ss).Pairwise (· < ·) := by
  induction ss with
  | nil => exact List.Pairwise.nil
  | cons s ss ih => exact pairwise_insertText s ih

/-- texts that are all the same are one text, if there are any -/
theorem sortedTexts_of_same {ss : List String} {s : String} (h : ∀ t ∈ ss, t = s) :
    sortedTexts ss = [] ∨ sortedTexts ss = [s] := by
  have hall : ∀ t ∈ sortedTexts ss, t = s := fun t ht => h t (mem_sortedTexts.1 ht)
  have hsorted := pairwise_sortedTexts ss
  cases hlist : sortedTexts ss with
  | nil => exact .inl rfl
  | cons a rest =>
    rw [hlist] at hall hsorted
    obtain rfl := hall a List.mem_cons_self
    cases rest with
    | nil => exact .inr rfl
    | cons b rest =>
      have hlt := (List.pairwise_cons.1 hsorted).1 b List.mem_cons_self
      rw [hall b (List.mem_cons_of_mem _ List.mem_cons_self)] at hlt
      exact absurd hlt (String.lt_irrefl a)

/-! ## named values -/

variable {α : Type}

/-- puts a value at its place in a list sorted by name, or over the one that is there -/
def putNamed (name : String) (value : α) : List (String × α) → List (String × α)
  | [] => [(name, value)]
  | (n, v) :: rest =>
    if name < n then (name, value) :: (n, v) :: rest
    else if name = n then (name, value) :: rest
    else (n, v) :: putNamed name value rest

theorem names_putNamed (name : String) (value : α) (l : List (String × α)) :
    (putNamed name value l).map (·.1) = insertText name (l.map (·.1)) := by
  induction l with
  | nil => rfl
  | cons nv l ih =>
    obtain ⟨n, v⟩ := nv
    simp only [putNamed, insertText, List.map_cons]
    split
    · rfl
    · split
      · next h => simp [h]
      · simp [ih]

def getNamed? (name : String) (values : List (String × α)) : Option α :=
  (values.find? fun nv => nv.1 = name).map (·.2)

theorem getNamed?_cons (m n : String) (v : α) (l : List (String × α)) :
    getNamed? m ((n, v) :: l) = if n = m then some v else getNamed? m l := by
  by_cases h : n = m <;> simp [getNamed?, h]

/-- a value that was put is found under its name, and nothing else changes -/
theorem getNamed?_putNamed (m name : String) (value : α) (l : List (String × α)) :
    getNamed? m (putNamed name value l) = if name = m then some value else getNamed? m l := by
  induction l with
  | nil => exact getNamed?_cons ..
  | cons nv l ih =>
    obtain ⟨n, v⟩ := nv
    rw [putNamed]
    split
    · exact getNamed?_cons ..
    · split
      · next h =>
        subst h
        rw [getNamed?_cons, getNamed?_cons]
        by_cases hm : name = m <;> simp [hm]
      · next h =>
        rw [getNamed?_cons, getNamed?_cons, ih]
        by_cases hm : name = m
        · have hne : n ≠ m := fun hnm => h (hm.trans hnm.symm)
          rw [if_neg hne, if_pos hm, if_pos hm]
        · rw [if_neg hm, if_neg hm]

end LoadTest.Text
