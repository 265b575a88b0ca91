import Mathlib.Data.List.Basic
import TableCatalog.CommandLine

/-!
# A path among the arguments

A path among the arguments changes where the script is read from, and nothing else that is asked
for: each argument is taken in the same way with a path and without one.
-/

namespace TableCatalog.CommandLine

variable {given after : Given} {flag : Flag} {value path argument : String}
  {letters : List Char} {arguments : List String} {asked : Options}

/-- The options that have been given so far, and a path. -/
def Given.reading (path : String) (given : Given) : Given :=
  { given with input := some path }

/-- An option that leaves out the path leaves it out beside one. -/
theorem Given.withValue_reading (path : String) (found : given.withValue flag value = some after)
    (piped : after.input = none) :
    given.input = none ∧ (given.reading path).withValue flag value = some (after.reading path) := by
  cases flag with
  | input =>
    simp only [withValue] at found
    split at found
    · cases found
    · obtain rfl := Option.some.inj found
      cases piped
  | database | format =>
    simp only [withValue, reading] at found ⊢
    split at found
    · obtain rfl := Option.some.inj found
      exact ⟨piped, rfl⟩
    · cases found
  | all | verbose | help => cases found

/-- A flag is taken alike with a path and without one. -/
theorem Given.withFlag_reading (path : String) (found : given.withFlag flag = some after)
    (piped : after.input = none) :
    given.input = none ∧ (given.reading path).withFlag flag = some (after.reading path) := by
  cases flag with
  | all | verbose =>
    simp only [withFlag, reading] at found ⊢
    split at found
    · cases found
    · obtain rfl := Option.some.inj found
      exact ⟨piped, by simp_all⟩
  | input | database | format | help => cases found

namespace Cluster

/-- What a cluster comes to beside a path. -/
def reading (path : String) : Cluster → Cluster
  | complete given => complete (given.reading path)
  | wanting given flag => wanting (given.reading path) flag
  | decided request => decided request

/-- A cluster after which options are read on, no path having been given. -/
def Piped : Cluster → Prop
  | complete given | wanting given _ => given.input = none
  | decided _ => False

end Cluster

/-- So are flags in one argument. -/
theorem ofLetters_reading (path : String) (piped : (ofLetters given letters).Piped) :
    given.input = none ∧
      ofLetters (given.reading path) letters = (ofLetters given letters).reading path := by
  induction letters generalizing given with
  | nil => exact ⟨piped, rfl⟩
  | cons letter rest ih =>
    unfold ofLetters at piped ⊢
    cases named : Flag.ofLetter? letter with
    | none => simp [named, Cluster.Piped] at piped
    | some flag =>
      cases flag with
      | help => simp [named, Cluster.Piped] at piped
      | input | database | format =>
        simp only [named, Flag.takesValue, if_true] at piped ⊢
        cases rest with
        | nil => exact ⟨piped, rfl⟩
        | cons next rest =>
          cases found : given.withValue _ (String.ofList
              (if (next :: rest).head? == some '=' then (next :: rest).drop 1
                else next :: rest)) with
          | none =>
            simp only [found] at piped
            exact piped.elim
          | some after =>
            simp only [found] at piped ⊢
            obtain ⟨open', beside⟩ := Given.withValue_reading path found piped
            exact ⟨open', by simp only [beside, Cluster.reading]⟩
      | all | verbose =>
        simp only [named, Flag.takesValue, Bool.false_eq_true, if_false] at piped ⊢
        cases found : given.withFlag _ with
        | none => simp [found, Cluster.Piped] at piped
        | some after =>
          simp only [found] at piped ⊢
          obtain ⟨open', same⟩ := ih piped
          obtain ⟨open', beside⟩ := Given.withFlag_reading path found open'
          exact ⟨open', by simp only [beside, same]⟩

/-- So is an option in its long spelling. -/
theorem ofLongOption_reading (path name : String) {value : Option String}
    (piped : (ofLongOption given name value).Piped) :
    given.input = none ∧
      ofLongOption (given.reading path) name value =
        (ofLongOption given name value).reading path := by
  unfold ofLongOption at piped ⊢
  cases named : Flag.ofLongName? name with
  | none => simp only [named, Cluster.Piped] at piped
  | some flag =>
    cases value with
    | some value =>
      cases found : given.withValue flag value with
      | none => simp only [named, found, Cluster.Piped] at piped
      | some after =>
        simp only [named, found] at piped ⊢
        obtain ⟨open', beside⟩ := Given.withValue_reading path found piped
        exact ⟨open', by simp only [beside, Cluster.reading]⟩
    | none =>
      cases flag with
      | help => simp only [named, Cluster.Piped] at piped
      | input | database | format =>
        simp only [named, Flag.takesValue, if_true] at piped ⊢
        exact ⟨piped, rfl⟩
      | all | verbose =>
        simp only [named, Flag.takesValue, Bool.false_eq_true, if_false] at piped ⊢
        cases found : given.withFlag _ with
        | none => simp only [found, Cluster.Piped] at piped
        | some after =>
          simp only [found] at piped ⊢
          obtain ⟨open', beside⟩ := Given.withFlag_reading path found piped
          exact ⟨open', by simp only [beside, Cluster.reading]⟩

/-- So is any argument that does not name a path itself. -/
theorem ofArgument_reading (path : String) (piped : (ofArgument given argument).Piped) :
    given.input = none ∧
      ofArgument (given.reading path) argument = (ofArgument given argument).reading path := by
  unfold ofArgument at piped ⊢
  split at piped
  case h_1 => exact ofLongOption_reading path _ piped
  case h_2 => exact ofLetters_reading path piped
  case h_3 => cases piped

theorem ofLetters_ne_tables : ofLetters given letters ≠ .decided (.tables asked) := by
  induction letters generalizing given with
  | nil => simp [ofLetters]
  | cons letter rest ih =>
    unfold ofLetters
    split
    · simp
    · simp
    · split
      · split
        · simp
        · dsimp only
          split <;> simp
      · split
        · exact ih
        · simp

theorem ofLongOption_ne_tables {name : String} {value : Option String} :
    ofLongOption given name value ≠ .decided (.tables asked) := by
  unfold ofLongOption
  split
  · simp
  · split <;> simp
  · simp
  · split
    · simp
    · split <;> simp

/-- No single argument asks for tables. -/
theorem ofArgument_ne_tables : ofArgument given argument ≠ .decided (.tables asked) := by
  unfold ofArgument
  split
  · exact ofLongOption_ne_tables
  · exact ofLetters_ne_tables
  · simp

/-- What is read as an option is not the mark that ends the options. -/
theorem ne_of_hyphen (hyphen : (isValue argument || argument == "--") = false) :
    argument ≠ "--" := by
  rintro rfl
  simp at hyphen

/-- Options are read on after an argument that is complete. -/
theorem ofOptions_complete (hyphen : (isValue argument || argument == "--") = false)
    (found : ofArgument given argument = .complete after) :
    ofOptions given (argument :: arguments) = ofOptions after arguments := by
  rw [ofOptions.eq_3 _ _ _ fun same => absurd same (ne_of_hyphen hyphen)]
  simp [hyphen, found]

/-- Options are read on after an argument and the value that it wants. -/
theorem ofOptions_wanting {middle : Given} (hyphen : (isValue argument || argument == "--") = false)
    (found : ofArgument given argument = .wanting middle flag) (filled : isValue value = true)
    (taken : middle.withValue flag value = some after) :
    ofOptions given (argument :: value :: arguments) = ofOptions after arguments := by
  rw [ofOptions.eq_3 _ _ _ fun same => absurd same (ne_of_hyphen hyphen)]
  simp [hyphen, found, filled, taken]

/-- What has been given without a path asks for tables of standard input, and with a path for
those of the file. -/
theorem Given.request_reading (path : String) (asks : given.request = .tables asked)
    (piped : asked.source = .standardInput) :
    given.input = none ∧
      (given.reading path).request = .tables { asked with source := .file path } := by
  cases named : given.database with
  | none => simp [request, named] at asks
  | some database =>
    simp only [request, named, Request.tables.injEq] at asks
    subst asks
    cases given' : given.input with
    | some path => simp [given'] at piped
    | none => exact ⟨rfl, by simp [request, reading, named]⟩

/-- Arguments that ask for the tables of standard input ask for those of a file beside its path. -/
theorem ofOptions_reading (path : String) (asks : ofOptions given arguments = .tables asked)
    (piped : asked.source = .standardInput) :
    given.input = none ∧
      ofOptions (given.reading path) arguments =
        .tables { asked with source := .file path } := by
  fun_induction ofOptions given arguments
  case case1 | case2 => exact Given.request_reading path asks piped
  case case3 | case6 | case8 | case9 => cases asks
  case case4 decided => exact absurd (asks ▸ decided) ofArgument_ne_tables
  case case5 given argument rest _ hyphen after found ih =>
    obtain ⟨open', same⟩ := ih asks
    have step : (ofArgument given argument).Piped := by rwa [found]
    obtain ⟨open', beside⟩ := ofArgument_reading path step
    rw [found] at beside
    exact ⟨open', (ofOptions_complete (by simpa using hyphen) beside).trans same⟩
  case case7 given argument hyphen middle flag found value rest filled after taken _ ih =>
    obtain ⟨open', same⟩ := ih asks
    obtain ⟨open', taken'⟩ := Given.withValue_reading path taken open'
    have step : (ofArgument given argument).Piped := by rwa [found]
    obtain ⟨open', beside⟩ := ofArgument_reading path step
    rw [found] at beside
    exact ⟨open', (ofOptions_wanting (by simpa using hyphen) beside filled taken').trans same⟩

/-- A path in front of the options changes the source alone. -/
theorem ofArguments_input {options : List String}
    (asks : ofArguments ("parse" :: options) = .tables asked)
    (piped : asked.source = .standardInput) (filled : isValue path = true)
    (named : path.isEmpty = false) :
    ofArguments ("parse" :: "--input" :: path :: options) =
      .tables { asked with source := .file path } := by
  have taken : ({} : Given).withValue .input path = some (({} : Given).reading path) := by
    simp [Given.withValue, Given.reading, named]
  have hyphen : (isValue "--input" || "--input" == "--") = false := by simp [isValue]
  exact (ofOptions_wanting hyphen rfl filled taken).trans (ofOptions_reading path asks piped).2

end TableCatalog.CommandLine
