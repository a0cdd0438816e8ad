import CrudScripts.Proofs.Schema.Accounting
import CrudScripts.Proofs.Schema.KeyFlags
import CrudScripts.Proofs.Schema.KeyNames

/-!
Where the key names of a statement come from. A column that its clause names as the key gives its own name. Other
clauses give what the first group of theirs lists, and this is the list behind the words of a key unless a group stands
before the words: the parameters of a type, a seed, or a part of a constraint name. Then that group is taken for the
list (`Mislisted`), and in no other case (`key_origins`).
-/
namespace CrudScripts.Schema
open CrudScripts.Text

/-- A list that follows the words of a key: the first group behind them. -/
def KeyList (clause inside : List Char) : Prop :=
  ∃ before after rest, clause = before ++ after ∧ KeyWords after rest ∧ FirstGroup rest inside

/-- A group that no words of a key stand before. -/
def EarlyGroup (clause inside : List Char) : Prop :=
  ∃ lead rest, clause = lead ++ ('(' :: inside ++ ')' :: rest) ∧ inside ≠ [] ∧ ')' ∉ inside ∧ ¬ MentionsKey lead

/-- Where a key name comes from in its clause: it is the name of the column that the clause gives and names as the key,
    or a name in the list behind the words. -/
inductive KeyOrigin (clause : List Char) (key : String) : Prop where
  | column (c : Column) (given : (yieldOf clause).columns = [c]) (named : c.name = key) (mentions : MentionsKey clause)
  | listed (inside : List Char) (list : KeyList clause inside) (member : key ∈ listedNames inside)

/-- A clause whose key names all come from keys. Where it gives no column, nothing that an early group lists is among
    them. -/
structure NamesKeys (clause : List Char) : Prop where
  origin : ∀ key ∈ (yieldOf clause).keyNames, KeyOrigin clause key
  later : (yieldOf clause).columns = [] →
    ∀ inside, EarlyGroup clause inside → ∀ name ∈ listedNames inside, name ∉ (yieldOf clause).keyNames

/-- A clause that mentions the words of a key, is a key clause or no column, and whose first group is an early one that
    lists names. -/
def Mislisted (clause : List Char) : Prop :=
  MentionsKey clause ∧ (KeyShape clause ∨ ¬ IsColumn clause) ∧
    ∃ inside, FirstGroup clause inside ∧ EarlyGroup clause inside ∧ listedNames inside ≠ []

/-! ### The first group -/

theorem mentionsKey_of_front {a b : List Char} (front : a <+: b) (mentions : MentionsKey a) : MentionsKey b := by
  obtain ⟨words, whole, inside⟩ := (mentionsKey_iff_exists_words a).mp mentions
  exact (mentionsKey_iff_exists_words b).mpr ⟨words, whole, inside.trans front.isInfix⟩

/-- No group begins before the first one. -/
theorem prefix_of_group {before lead inside inside' rest rest' : List Char}
    (first : ∀ front behind, before = front ++ '(' :: behind → behind.head? = some ')') (nonempty : inside' ≠ [])
    (closed : ')' ∉ inside') (same : before ++ ('(' :: inside ++ ')' :: rest) = lead ++ ('(' :: inside' ++ ')' :: rest')) :
    before <+: lead := by
  rcases List.append_eq_append_iff.mp same with ⟨middle, rfl, -⟩ | ⟨middle, rfl, cut⟩
  · exact List.prefix_append before middle
  · cases middle with
    | nil => simp
    | cons c middle =>
      -- The other group begins inside the front of the first one, where every parenthesis is closed at once.
      exfalso
      obtain ⟨rfl, tail⟩ := List.cons.inj cut
      have next := first lead middle rfl
      obtain ⟨d, more, rfl⟩ := List.exists_cons_of_ne_nil nonempty
      obtain ⟨e, middle, rfl⟩ : ∃ e rest, middle = e :: rest := by
        cases middle with
        | nil => cases next
        | cons e middle => exact ⟨e, middle, rfl⟩
      have closing : d = ')' := (List.cons.inj tail).1.trans (Option.some.inj next)
      exact closed (by simp [closing])

/-- The first group is the list behind the words of a key, and no group is an early one; or it is an early one itself. -/
theorem keyList_or_earlyGroup {clause inside : List Char} (group : FirstGroup clause inside) :
    (KeyList clause inside ∧ ∀ inside', ¬ EarlyGroup clause inside') ∨ EarlyGroup clause inside := by
  obtain ⟨before, rest, rfl, nonempty, closed, first⟩ := group
  by_cases mentions : MentionsKey before
  · left
    constructor
    · obtain ⟨front, after, behind, rfl, words⟩ := mentions
      refine ⟨front, _, _, List.append_assoc _ _ _, words.append _, behind, rest, rfl, nonempty, closed, fun a b split => ?_⟩
      obtain ⟨letters, rfl, -⟩ := (keyWords_iff after behind).mp words
      exact first (front ++ (letters ++ a)) b (by simp [split])
    · rintro inside' ⟨lead, rest', same, nonempty', closed', early⟩
      exact early (mentionsKey_of_front (prefix_of_group first nonempty' closed' same) mentions)
  · exact .inr ⟨before, rest, rfl, nonempty, closed, mentions⟩

/-! ### Origins -/

theorem namesKeys_of_column {clause : List Char} (key : ¬ KeyShape clause) {name base : Word} {tail : List Char}
    (shape : ColumnShape clause name base tail) : NamesKeys clause := by
  have given := yieldOf_column key shape
  constructor
  · intro named member
    rw [given] at member
    obtain ⟨mentions, own⟩ := List.mem_ite_nil_right.mp member
    exact .column (columnOf name base tail) (by rw [given]) (List.mem_singleton.mp own).symm
      ((mentionsPrimaryKey_iff clause).mp mentions)
  · intro none
    rw [given] at none
    cases none

/-- A clause without key names names no other things. -/
theorem namesKeys_of_nil {clause : List Char} (none : (yieldOf clause).keyNames = []) : NamesKeys clause :=
  ⟨by simp [none], by simp [none]⟩

/-- A clause that gives its list takes the names of the list from behind the words, when no group before them lists
    any. -/
theorem namesKeys_of_keys {clause : List Char} (mentions : MentionsKey clause) (other : KeyShape clause ∨ ¬ IsColumn clause)
    (silent : ∀ inside, FirstGroup clause inside → EarlyGroup clause inside → listedNames inside = []) :
    NamesKeys clause := by
  have given := yieldOf_keys mentions other
  by_cases group : ∃ inside, FirstGroup clause inside
  · obtain ⟨inside, group⟩ := group
    have names := keyNames_of_firstGroup group
    rcases keyList_or_earlyGroup group with ⟨list, none⟩ | early
    · refine ⟨fun key member => .listed inside list ?_, fun _ inside' early => absurd early (none inside')⟩
      rwa [given, names] at member
    · exact namesKeys_of_nil (by rw [given, names, silent inside group early])
  · exact namesKeys_of_nil (by rw [given, keyNames_of_no_group group])

theorem namesKeys_iff (clause : List Char) : NamesKeys clause ↔ ¬ Mislisted clause := by
  constructor
  · rintro namesKeys ⟨mentions, other, inside, group, early, some⟩
    obtain ⟨name, names, listed⟩ := List.exists_cons_of_ne_nil some
    have given := yieldOf_keys mentions other
    refine namesKeys.later (by rw [given]) inside early name (by simp [listed]) ?_
    rw [given, keyNames_of_firstGroup group]
    simp [listed]
  · intro wellListed
    rcases yieldOf_cases clause with ⟨mentions, other, -⟩ | ⟨-, -, given⟩ | ⟨key, name, base, tail, shape, -⟩
    · refine namesKeys_of_keys mentions other fun inside group early => ?_
      by_contra some
      exact wellListed ⟨mentions, other, inside, group, early, some⟩
    · exact namesKeys_of_nil (by rw [given])
    · exact namesKeys_of_column key shape

/-- The key names of a statement are what its clauses give, in order, and its columns have the names of those that the
    clauses give. The key names of a clause come from keys exactly when it is not mislisted; a mislisted one gives no
    column, and what its early group lists. -/
theorem key_origins (sql : String) :
    (parse sql).table.keyNames = (clausesOf sql).flatMap (fun clause => (yieldOf clause).keyNames) ∧
      (parse sql).table.columns.map Column.name =
        (clausesOf sql).flatMap (fun clause => (yieldOf clause).columns.map Column.name) ∧
      ∀ clause ∈ clausesOf sql, (NamesKeys clause ↔ ¬ Mislisted clause) ∧
        (Mislisted clause → ∃ inside, EarlyGroup clause inside ∧ listedNames inside ≠ [] ∧
          yieldOf clause = ⟨[], listedNames inside, []⟩) := by
  refine ⟨parse_keyNames sql, ?_, fun clause _ => ⟨namesKeys_iff clause, ?_⟩⟩
  · rw [parse_columns, name_flagKeys, List.map_flatMap]
  · rintro ⟨mentions, other, inside, group, early, some⟩
    exact ⟨inside, early, some, by rw [yieldOf_keys mentions other, keyNames_of_firstGroup group]⟩

/-- A seed before the words of a key is taken for the list behind them. -/
example : yieldOf "[Id] INT IDENTITY(1,1) PRIMARY KEY (Id)".toList = ⟨[], ["1", "1"], []⟩ := by
  decide +kernel

end CrudScripts.Schema
