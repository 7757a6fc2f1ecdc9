import LoadTest.Cli.Reader

/-!
# Command lines of options with values

A command line that names a scenario and then gives options, each with its value in the word after
it, is read as the values put one after the other.

* `Cli.IsPlain`              a text that cannot be taken for an option
* `Cli.Names`                a spelling of an option
* `Cli.Given`                an option with its value, as it stands on a command line
* `Arguments.putAll`         the values of a list of options
* `Reader.words_givens`      a list of options is read
* `Arguments.read_givens`    a whole command line
-/

namespace LoadTest.Cli

def IsPlain (text : String) : Prop := text.toList.head? ≠ some '-'

theorem IsPlain.ofChars {text : String} (h : IsPlain text) :
    Word.ofChars text.toList = .plain := by
  unfold IsPlain at h
  cases ht : text.toList with
  | nil => rfl
  | cons c s =>
    have hc : c ≠ '-' := by
      rintro rfl
      exact h (by rw [ht]; rfl)
    unfold Word.ofChars
    split <;> simp_all

/-- a spelling of a key, in the long or the short form -/
def Names (flag : String) (k : Key) : Prop :=
  (∃ name, Word.ofChars flag.toList = .long name none ∧ Named.ofLong? name = some (.value k)) ∨
    ∃ letter, Word.ofChars flag.toList = .short letter [] ∧
      Named.ofShort? letter = some (.value k)

/-- An option with its value: what it is spelled like, and what it stands for. -/
structure Given where
  flag : String
  key : Key
  value : String

namespace Given

def words (g : Given) : List String := [g.flag, g.value]

structure IsReadable (g : Given) : Prop where
  names : Names g.flag g.key
  plain : IsPlain g.value

end Given

def Arguments.putAll (a : Arguments) : List Given → Except Stop Arguments
  | [] => .ok a
  | g :: gs =>
    match a.put g.key g.value with
    | .ok a => a.putAll gs
    | .error e => .error e

namespace Reader

theorem words_cons {r r' : Reader} {text : String} {w : Word}
    (hw : Word.ofChars text.toList = w) (hseparator : w ≠ .separator)
    (htaken : r.word text w = .ok r') (rest : List String) :
    r.words (text :: rest) = r'.words rest := by
  rw [words, hw]
  split
  · exact absurd rfl hseparator
  · rw [htaken]

theorem option_of_settle {r r' : Reader} (hr : r.settle = .ok r') (k : Key) :
    r.option k none = .ok { r' with pending := some (k, none) } := by
  rw [option, hr]

/-- an option settles what waited in front of it, and waits with its value -/
theorem words_given {r r' : Reader} (hr : r.settle = .ok r') {g : Given} (hg : g.IsReadable)
    (rest : List String) :
    r.words (g.words ++ rest) = ({ r' with pending := some (g.key, some g.value) } : Reader).words
      rest := by
  have hoption := option_of_settle hr g.key
  have hflag : r.words (g.flag :: g.value :: rest) =
      ({ r' with pending := some (g.key, none) } : Reader).words (g.value :: rest) := by
    obtain ⟨name, hflag, hname⟩ | ⟨letter, hflag, hname⟩ := hg.names
    · have hlong : r.long g.flag name none = .ok { r' with pending := some (g.key, none) } := by
        rw [long, hname]
        exact hoption
      exact words_cons hflag nofun hlong _
    · have hshort : r.short g.flag letter [] = .ok { r' with pending := some (g.key, none) } := by
        rw [short, hname]
        exact hoption
      exact words_cons hflag nofun hshort _
  exact hflag.trans (words_cons hg.plain.ofChars nofun rfl rest)

/-- Options that are all different are read as their values put in order. -/
theorem words_givens {gs : List Given} (hgs : ∀ g ∈ gs, g.IsReadable) {r r' : Reader}
    (hr : r.settle = .ok r') (hnew : (gs.map Given.key).Nodup ∧ ∀ g ∈ gs, g.key ∉ r'.given)
    {a : Arguments} (ha : r'.arguments.putAll gs = .ok a) :
    ∃ last, r.words (gs.flatMap Given.words) = .ok last ∧ last.arguments = a := by
  induction gs generalizing r r' with
  | nil =>
    exact ⟨r', hr, Except.ok.inj ha⟩
  | cons g gs ih =>
    obtain ⟨hnodup, hgiven⟩ := hnew
    rw [List.map_cons, List.nodup_cons] at hnodup
    rw [Arguments.putAll] at ha
    cases hput : r'.arguments.put g.key g.value with
    | error e =>
      rw [hput] at ha
      cases ha
    | ok a' =>
      rw [hput] at ha
      -- the value is put when the next option comes
      have hsettle : ({ r' with pending := some (g.key, some g.value) } : Reader).settle =
          .ok ⟨a', g.key :: r'.given, none⟩ := by
        show give { r' with pending := none } g.key g.value = _
        rw [give, if_neg (hgiven g List.mem_cons_self), hput]
      have hlater : ∀ g' ∈ gs, g'.key ∉ g.key :: r'.given := by
        intro g' hg' hmem
        rcases List.mem_cons.1 hmem with heq | hmem
        · exact hnodup.1 (List.mem_map.2 ⟨g', hg', heq⟩)
        · exact hgiven g' (List.mem_cons_of_mem _ hg') hmem
      obtain ⟨last, hwords, harguments⟩ := ih (fun g' hg' => hgs g' (List.mem_cons_of_mem _ hg'))
        hsettle ⟨hnodup.2, hlater⟩ ha
      refine ⟨last, ?_, harguments⟩
      rw [List.flatMap_cons, words_given hr (hgs g List.mem_cons_self)]
      exact hwords

end Reader

/-- **A scenario and options with values** are read as they were given. -/
theorem Arguments.read_givens (setting : String → Option String) {scenario : String}
    (hscenario : IsPlain scenario) {gs : List Given} (hgs : ∀ g ∈ gs, g.IsReadable)
    (hnodup : (gs.map Given.key).Nodup) {a : Arguments}
    (ha : ({ scenario := some scenario } : Arguments).putAll gs = .ok a) :
    read setting (scenario :: gs.flatMap Given.words) =
      .ok { a with worker := a.worker.or (setting workerVariable) } := by
  have hfirst : ({} : Reader).words (scenario :: gs.flatMap Given.words) =
      ({ arguments := { scenario := some scenario } } : Reader).words (gs.flatMap Given.words) :=
    Reader.words_cons hscenario.ofChars nofun rfl _
  obtain ⟨last, hwords, rfl⟩ := Reader.words_givens hgs
    (r := { arguments := { scenario := some scenario } }) rfl ⟨hnodup, fun _ _ => List.not_mem_nil⟩
    ha
  rw [read, hfirst, hwords]

end LoadTest.Cli
