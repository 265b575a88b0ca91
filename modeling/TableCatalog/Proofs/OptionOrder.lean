import Mathlib.Data.List.Induction
import TableCatalog.Table.Extraction

/-!
# The order of options

Of the options of a column two things are kept: whether any of them makes it a key, and the last
comment. So the order of the options matters among comments alone, and options of other kinds do
not matter at all, wherever they stand.
-/

namespace TableCatalog

namespace ColumnOption

/-- The text of a comment, if an option is one. -/
def commentText? : ColumnOption → Option String
  | comment text => some text
  | _ => none

/-- Whether an option makes its column a key; an option that makes it merely unique does not. -/
def isKey : ColumnOption → Bool
  | unique primary _ => primary
  | _ => false

/-- An option that makes a column a key is a unique one that says so. -/
theorem isKey_iff (option : ColumnOption) :
    option.isKey = true ↔ ∃ characteristics, option = unique true characteristics := by
  cases option <;> simp [isKey]

end ColumnOption

namespace NamedOption

/-- Whether an option is a comment. -/
def isComment (named : NamedOption) : Bool :=
  named.option.commentText?.isSome

/-- An option that is neither a comment nor a key. -/
def IsSilent (named : NamedOption) : Prop :=
  named.option.commentText? = none ∧ named.option.isKey = false

/-- Options among which further ones stand, none of them a comment or a key. -/
inductive Interspersed : List NamedOption → List NamedOption → Prop where
  | nil : Interspersed [] []
  | keep (named : NamedOption) {few many : List NamedOption} (rest : Interspersed few many) :
      Interspersed (named :: few) (named :: many)
  | insert (named : NamedOption) (silent : named.IsSilent) {few many : List NamedOption}
      (rest : Interspersed few many) : Interspersed few (named :: many)

/-- The texts of comments, in their order. -/
def commentTexts (options : List NamedOption) : List String :=
  options.filterMap (·.option.commentText?)

/-- The comments alone give the texts. -/
theorem commentTexts_filter (options : List NamedOption) :
    commentTexts (options.filter isComment) = commentTexts options := by
  rw [commentTexts, List.filterMap_filter, commentTexts]
  congr 1
  funext named
  cases text : named.option.commentText? <;> simp [isComment, text]

/-- Options without a comment change none of the comments. -/
theorem Interspersed.commentTexts_eq {few many : List NamedOption}
    (interspersed : Interspersed few many) : commentTexts many = commentTexts few := by
  induction interspersed with
  | nil => rfl
  | keep named rest ih =>
    simp only [commentTexts, List.filterMap_cons] at ih ⊢
    rw [ih]
  | insert named silent rest ih =>
    simp only [commentTexts, List.filterMap_cons, silent.1] at ih ⊢
    exact ih

/-- Options that make no key leave the key as it is. -/
theorem Interspersed.any_isKey {few many : List NamedOption}
    (interspersed : Interspersed few many) :
    many.any (·.option.isKey) = few.any (·.option.isKey) := by
  induction interspersed with
  | nil => rfl
  | keep named rest ih => rw [List.any_cons, List.any_cons, ih]
  | insert named silent rest ih => rw [List.any_cons, silent.2, Bool.false_or, ih]

end NamedOption

namespace Column

open NamedOption

/-- A later comment replaces an earlier one, and no other option does. -/
theorem commentOf_eq (options : List NamedOption) :
    commentOf (options.map (·.option)) =
      (commentTexts options).getLast?.map withoutConstantQuotes := by
  unfold commentOf
  induction options using List.reverseRecOn with
  | nil => rfl
  | append_singleton options named ih =>
    rw [List.map_append, List.foldl_append, ih, commentTexts, commentTexts, List.filterMap_append]
    cases shape : named.option <;> simp [shape, ColumnOption.commentText?]

theorem keyOf_eq (options : List NamedOption) :
    keyOf (options.map (·.option)) = options.any (·.option.isKey) := by
  rw [keyOf, List.any_map]
  rfl

/-- Options matter by their comments and their keys alone. -/
theorem ofDefinition_congr {script : List Char} {definition : ColumnDefinition}
    {options : List NamedOption} (comments : commentTexts options = commentTexts definition.options)
    (keys : options.any (·.option.isKey) = definition.options.any (·.option.isKey)) :
    ofDefinition script { definition with options := options } =
      ofDefinition script definition := by
  simp only [ofDefinition, ofParts, commentOf_eq, keyOf_eq, comments, keys]

/-- A column is a key if any option says so, and has the last comment. Options in another order, as
long as the comments keep theirs, and further options that are neither comments nor keys make the
same column. -/
theorem ofDefinition_options (script : List Char) (definition : ColumnDefinition) :
    ((ofDefinition script definition).isPrimaryKey = true ↔
        ∃ named ∈ definition.options, ∃ characteristics,
          named.option = .unique true characteristics) ∧
      (ofDefinition script definition).comment =
        (commentTexts definition.options).getLast?.map withoutConstantQuotes ∧
      (∀ options : List NamedOption, options.Perm definition.options →
        options.filter isComment = definition.options.filter isComment →
        ofDefinition script { definition with options := options } =
          ofDefinition script definition) ∧
      ∀ options : List NamedOption, Interspersed definition.options options →
        ofDefinition script { definition with options := options } =
          ofDefinition script definition := by
  refine ⟨?_, commentOf_eq definition.options, ?_, ?_⟩
  · have keys : (ofDefinition script definition).isPrimaryKey =
        definition.options.any (·.option.isKey) := keyOf_eq definition.options
    simp only [keys, List.any_eq_true, ColumnOption.isKey_iff]
  · intro options reordered comments
    apply ofDefinition_congr
    · rw [← commentTexts_filter options, comments, commentTexts_filter]
    · exact reordered.any_eq
  · intro options interspersed
    exact ofDefinition_congr interspersed.commentTexts_eq interspersed.any_isKey

/-- A key with a uniqueness and two comments, the key put behind them and other options in
between. -/
theorem ofDefinition_options_key_behind :
    let script := "CREATE TABLE a (b INT)".toList
    let key : NamedOption := ⟨none, .unique true ""⟩
    let unique : NamedOption := ⟨none, .unique false ""⟩
    let first : NamedOption := ⟨none, .comment "c"⟩
    let second : NamedOption := ⟨some (.plain "d"), .comment "e'f"⟩
    let definition : ColumnDefinition :=
      ⟨⟨"b", none, ⟨1, 18⟩⟩, .plain "INT", none, [key, unique, first, second]⟩
    let reordered := [unique, first, second, key]
    let interspersed := [⟨none, .null⟩, key, unique, first, unique, second, ⟨none, .default "1"⟩]
    reordered.Perm definition.options ∧
      reordered.filter isComment = definition.options.filter isComment ∧
      Interspersed definition.options interspersed ∧
      ofDefinition script definition = ⟨"b", "INT", some "ef", true⟩ ∧
      ofDefinition script { definition with options := reordered } =
        ofDefinition script definition ∧
      ofDefinition script { definition with options := interspersed } =
        ofDefinition script definition := by
  intro script key unique first second definition reordered interspersed
  have moved : ([unique, first, second] ++ [key]).Perm ([key] ++ [unique, first, second]) :=
    List.perm_append_comm
  have put : Interspersed definition.options interspersed :=
    .insert _ ⟨rfl, rfl⟩ (.keep _ (.keep _ (.keep _ (.insert _ ⟨rfl, rfl⟩
      (.keep _ (.insert _ ⟨rfl, rfl⟩ .nil))))))
  obtain ⟨-, -, order, insertion⟩ := ofDefinition_options script definition
  exact ⟨moved, rfl, put, by decide +kernel, order reordered moved rfl, insertion interspersed put⟩

end Column

end TableCatalog
