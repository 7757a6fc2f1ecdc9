import LoadTest.Cli.Reader
import LoadTest.Proofs.Stream.Schema

/-!
# Configurations in a command line

Only the options that a stream shows on the command line get into its configuration, and what is set
last is what is found.

* `Key.IsListed`               the keys that have a name on the command line
* `IsShown`                    a configuration of shown options
* `Arguments.IsShown.put`      one value
* `Reader.IsShown.words`       a whole command line, from one word
* `Arguments.isShown_of_read`  the arguments that come of it
-/

namespace LoadTest.Cli
open StreamConfig (ofList)

/-! ## configurations of shown options -/

/-- the stream shows an option of this name on the command line -/
def ShowsName (k : StreamKind) (name : String) : Prop :=
  ∃ o ∈ k.options, o.cli = true ∧ o.name = name

/-- the configuration holds what was set under names that the stream shows -/
def IsShown (k : StreamKind) (c : StreamConfig) : Prop :=
  ∃ settings : List (String × String), c = ofList settings ∧ ∀ nt ∈ settings, ShowsName k nt.1

namespace IsShown
variable {k : StreamKind} {c : StreamConfig}

theorem empty (k : StreamKind) : IsShown k {} := ⟨[], rfl, fun _ h => absurd h List.not_mem_nil⟩

theorem set (h : IsShown k c) {name : String} (hname : ShowsName k name) (text : String) :
    IsShown k (c.set name text) := by
  obtain ⟨settings, rfl, hshown⟩ := h
  refine ⟨settings ++ [(name, text)], (StreamConfig.ofList_concat settings name text).symm, ?_⟩
  intro nt hnt
  rcases List.mem_append.1 hnt with hnt | hnt
  · exact hshown nt hnt
  · obtain rfl := List.mem_singleton.1 hnt
    exact hname

theorem shows_of_get? (h : IsShown k c) {name text : String} (hget : c.get? name = some text) :
    ShowsName k name := by
  obtain ⟨settings, rfl, hshown⟩ := h
  rw [StreamConfig.get?_ofList] at hget
  obtain ⟨nt, hfind, -⟩ := Option.map_eq_some_iff.1 hget
  have hname : nt.1 = name := by simpa using List.find?_some hfind
  exact hname ▸ hshown nt (List.mem_reverse.1 (List.mem_of_find?_eq_some hfind))

end IsShown

theorem showsName_stdout_iff {name : String} : ShowsName .stdout name ↔ name = "progress" := by
  have hall : ∀ o ∈ StreamKind.stdout.options, o.cli = true → o.name = "progress" := by decide
  constructor
  · rintro ⟨o, ho, hcli, rfl⟩
    exact hall o ho hcli
  · rintro rfl
    exact ⟨_, List.mem_cons_of_mem _ List.mem_cons_self, rfl, rfl⟩

/-! ## keys -/

namespace Key

/-- the command line has a name for the key -/
def IsListed (k : Key) : Prop := ∃ e ∈ Entry.all, e.key = k

theorem IsListed.shows {kind : StreamKind} {name : String}
    (h : (streamOption kind name).IsListed) : ShowsName kind name := by
  obtain ⟨e, he, hkey⟩ := h
  rcases List.mem_append.1 he with hfixed | hstream
  · have hnone : ∀ e ∈ Entry.fixed, ∀ kind name, e.key ≠ streamOption kind name := by
      simp [Entry.fixed]
    exact absurd hkey (hnone e hfixed kind name)
  · obtain ⟨kind', -, hentry⟩ := List.mem_flatMap.1 hstream
    obtain ⟨o, ho, rfl⟩ := List.mem_map.1 hentry
    obtain ⟨hmem, hcli⟩ := List.mem_filter.1 ho
    cases hkey
    exact ⟨o, hmem, hcli, rfl⟩

theorem isListed_of_long {name : String} {k : Key} (h : Named.ofLong? name = some (.value k)) :
    k.IsListed := by
  unfold Named.ofLong? at h
  cases hfind : Entry.all.find? fun e => e.long = name with
  | some e =>
    simp only [hfind] at h
    cases h
    exact ⟨e, List.mem_of_find?_eq_some hfind, rfl⟩
  | none =>
    simp only [hfind] at h
    obtain ⟨s, -, hs⟩ := Option.map_eq_some_iff.1 h
    cases hs

theorem isListed_of_short {letter : Char} {k : Key}
    (h : Named.ofShort? letter = some (.value k)) : k.IsListed := by
  unfold Named.ofShort? at h
  cases hfind : Entry.all.find? fun e => e.short = some letter with
  | some e =>
    simp only [hfind] at h
    cases h
    exact ⟨e, List.mem_of_find?_eq_some hfind, rfl⟩
  | none =>
    simp only [hfind] at h
    obtain ⟨s, -, hs⟩ := Option.map_eq_some_iff.1 h
    cases hs

end Key

/-! ## command lines -/

def Arguments.IsShown (a : Arguments) : Prop := ∀ k, Cli.IsShown k (a.config k)

theorem Arguments.IsShown.setConfig {a : Arguments} (h : a.IsShown) {kind : StreamKind}
    {name : String} (hname : ShowsName kind name) (text : String) :
    (a.setConfig kind name text).IsShown := by
  intro k
  have hset := (h kind).set hname text
  cases kind <;> cases k
  · exact hset
  · exact h .remote
  · exact h .stdout
  · exact hset

theorem Arguments.IsShown.of_configs {a a' : Arguments} (h : a.IsShown)
    (hstdout : a'.stdout = a.stdout) (hremote : a'.remote = a.remote) : a'.IsShown := by
  intro k
  cases k with
  | stdout =>
    show Cli.IsShown .stdout a'.stdout
    rw [hstdout]
    exact h .stdout
  | remote =>
    show Cli.IsShown .remote a'.remote
    rw [hremote]
    exact h .remote

theorem Arguments.IsShown.put {a a' : Arguments} (h : a.IsShown) {k : Key} (hk : k.IsListed)
    {text : String} (hput : a.put k text = .ok a') : a'.IsShown := by
  cases k with
  | streamOption kind name =>
    obtain rfl := Except.ok.inj hput
    exact h.setConfig hk.shows text
  | users | cycles | broker | stream | worker =>
    obtain rfl := Except.ok.inj hput
    exact h.of_configs rfl rfl
  | agents =>
    cases hn : Text.word64? text.toList with
    | some n =>
      simp only [Arguments.put, hn] at hput
      obtain rfl := Except.ok.inj hput
      exact h.of_configs rfl rfl
    | none =>
      simp only [Arguments.put, hn] at hput
      cases hput
  | deadline =>
    cases hd : Duration.ofText (Text.trim text.toList) with
    | ok d =>
      simp only [Arguments.put, Arguments.putDeadline, hd] at hput
      obtain rfl := Except.ok.inj hput
      exact h.of_configs rfl rfl
    | error e => cases e <;> simp [Arguments.put, Arguments.putDeadline, hd] at hput
  | output =>
    cases hf : Format.ofName? text with
    | some f =>
      simp only [Arguments.put, hf] at hput
      obtain rfl := Except.ok.inj hput
      exact h.of_configs rfl rfl
    | none =>
      simp only [Arguments.put, hf] at hput
      cases hput

namespace Reader

/-- what has been read holds shown options only, and an option that waits has a name -/
structure IsShown (r : Reader) : Prop where
  arguments : r.arguments.IsShown
  pending : ∀ k text, r.pending = some (k, text) → k.IsListed

namespace IsShown
variable {r r' : Reader}

theorem start : ({} : Reader).IsShown where
  arguments k := by cases k <;> exact Cli.IsShown.empty _
  pending _ _ hnone := absurd hnone (by simp)

theorem give (h : r.IsShown) (hr : r.pending = none) {k : Key} (hk : k.IsListed) {text : String}
    (hgive : r.give k text = .ok r') : r'.IsShown ∧ r'.pending = none := by
  unfold Reader.give at hgive
  split at hgive
  · cases hgive
  · cases hput : r.arguments.put k text with
    | error e =>
      simp only [hput] at hgive
      cases hgive
    | ok a =>
      simp only [hput] at hgive
      obtain rfl := Except.ok.inj hgive
      exact ⟨⟨h.arguments.put hk hput, fun k text hp => by rw [hr] at hp; cases hp⟩, hr⟩

theorem settle (h : r.IsShown) (hsettle : r.settle = .ok r') : r'.IsShown ∧ r'.pending = none := by
  unfold Reader.settle at hsettle
  cases hp : r.pending with
  | none =>
    simp only [hp] at hsettle
    obtain rfl := Except.ok.inj hsettle
    exact ⟨h, hp⟩
  | some kt =>
    obtain ⟨k, text⟩ := kt
    cases text with
    | none =>
      simp only [hp] at hsettle
      cases hsettle
    | some text =>
      have hwaitless : ({ r with pending := none } : Reader).IsShown :=
        ⟨h.arguments, fun _ _ hnone => absurd hnone (by simp)⟩
      simp only [hp] at hsettle
      exact hwaitless.give rfl (h.pending k _ hp) hsettle

theorem option (h : r.IsShown) {k : Key} (hk : k.IsListed) {text : Option String}
    (hoption : r.option k text = .ok r') : r'.IsShown := by
  unfold Reader.option at hoption
  cases hsettle : r.settle with
  | error e =>
    simp only [hsettle] at hoption
    cases hoption
  | ok settled =>
    obtain ⟨hsettled, hnone⟩ := h.settle hsettle
    simp only [hsettle] at hoption
    cases text with
    | some text => exact (hsettled.give hnone hk hoption).1
    | none =>
      obtain rfl := Except.ok.inj hoption
      refine ⟨hsettled.arguments, fun k' text' hp => ?_⟩
      cases hp
      exact hk

theorem positional (h : r.IsShown) {text : String} (hpositional : r.positional text = .ok r') :
    r'.IsShown := by
  unfold Reader.positional at hpositional
  cases hscenario : r.arguments.scenario with
  | some id =>
    simp only [hscenario] at hpositional
    cases hpositional
  | none =>
    cases hsettle : r.settle with
    | error e =>
      simp only [hscenario, hsettle] at hpositional
      cases hpositional
    | ok settled =>
      obtain ⟨hsettled, hnone⟩ := h.settle hsettle
      simp only [hscenario, hsettle] at hpositional
      obtain rfl := Except.ok.inj hpositional
      exact ⟨hsettled.arguments.of_configs rfl rfl, hsettled.pending⟩

theorem plain (h : r.IsShown) {text : String} (hplain : r.plain text = .ok r') : r'.IsShown := by
  unfold Reader.plain at hplain
  split at hplain
  · next k hp =>
    obtain rfl := Except.ok.inj hplain
    refine ⟨h.arguments, fun k' text' hp' => ?_⟩
    cases hp'
    exact h.pending _ _ hp
  · exact h.positional hplain

theorem long (h : r.IsShown) {text name : String} {attached : Option String}
    (hlong : r.long text name attached = .ok r') : r'.IsShown := by
  unfold Reader.long at hlong
  split at hlong
  · cases hlong
  · next k hname => exact h.option (Key.isListed_of_long hname) hlong
  · split at hlong <;> cases hlong

theorem short (h : r.IsShown) {text : String} {letter : Char} {rest : List Char}
    (hshort : r.short text letter rest = .ok r') : r'.IsShown := by
  unfold Reader.short at hshort
  split at hshort
  · cases hshort
  · next k hname => exact h.option (Key.isListed_of_short hname) hshort
  · cases hshort

theorem word (h : r.IsShown) {text : String} {w : Word} (hword : r.word text w = .ok r') :
    r'.IsShown := by
  cases w with
  | separator =>
    obtain rfl := Except.ok.inj hword
    exact h
  | long name attached => exact h.long hword
  | short letter rest => exact h.short hword
  | plain => exact h.plain hword

theorem positionals (h : r.IsShown) {texts : List String}
    (hpositionals : r.positionals texts = .ok r') : r'.IsShown := by
  induction texts generalizing r with
  | nil => exact (h.settle hpositionals).1
  | cons text texts ih =>
    unfold Reader.positionals at hpositionals
    cases hfirst : r.positional text with
    | error e =>
      simp only [hfirst] at hpositionals
      cases hpositionals
    | ok next =>
      simp only [hfirst] at hpositionals
      exact ih (h.positional hfirst) hpositionals

theorem words (h : r.IsShown) {texts : List String} (hwords : r.words texts = .ok r') :
    r'.IsShown := by
  induction texts generalizing r with
  | nil => exact (h.settle hwords).1
  | cons text texts ih =>
    unfold Reader.words at hwords
    split at hwords
    · exact h.positionals hwords
    · cases hfirst : r.word text (Word.ofChars text.toList) with
      | error e =>
        simp only [hfirst] at hwords
        cases hwords
      | ok next =>
        simp only [hfirst] at hwords
        exact ih (h.word hfirst) hwords

end IsShown

end Reader

/-- **A command line sets options that the streams show, and no others.** -/
theorem Arguments.isShown_of_read {setting : String → Option String} {words : List String}
    {a : Arguments} (h : read setting words = .ok a) : a.IsShown := by
  unfold read at h
  cases hwords : ({} : Reader).words words with
  | error e =>
    simp only [hwords] at h
    cases h
  | ok r =>
    simp only [hwords] at h
    obtain rfl := Except.ok.inj h
    exact (Reader.IsShown.start.words hwords).arguments.of_configs rfl rfl

end LoadTest.Cli
