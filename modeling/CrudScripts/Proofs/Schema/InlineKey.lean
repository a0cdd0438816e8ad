import CrudScripts.Proofs.Schema.ColumnGrammar
import CrudScripts.Proofs.Schema.KeyFlags

/-!
Keys that a column definition declares itself. Its column is flagged when the words of a key are anywhere in the
clause, which is more than its modifiers: they may also stand across the gap between name and type word, in the
parameters of the type, or across the end of the type word (`mentionsKey_text`, `inline_key_iff`).
-/
namespace CrudScripts.Schema
open CrudScripts.Text

/-! ### The words of a key in a text of two parts -/

/-- The words of a key begin at the end of one text and end at the front of the next. -/
def KeyAcross (a b : List Char) : Prop :=
  ∃ here there, KeyWords (here ++ there) [] ∧ here ≠ [] ∧ there ≠ [] ∧ here <:+ a ∧ there <+: b

theorem mentionsKey_append (a b : List Char) :
    MentionsKey (a ++ b) ↔ MentionsKey a ∨ MentionsKey b ∨ KeyAcross a b := by
  simp only [mentionsKey_iff_exists_words, List.infix_append_iff]
  constructor
  · rintro ⟨words, whole, left | right | ⟨here, there, rfl, ends, begins⟩⟩
    · exact .inl ⟨words, whole, left⟩
    · exact .inr (.inl ⟨words, whole, right⟩)
    · by_cases nothing : here = []
      · subst nothing
        exact .inr (.inl ⟨there, whole, begins.isInfix⟩)
      · by_cases nothing' : there = []
        · subst nothing'
          exact .inl ⟨here, by simpa using whole, ends.isInfix⟩
        · exact .inr (.inr ⟨here, there, whole, nothing, nothing', ends, begins⟩)
  · rintro (⟨words, whole, left⟩ | ⟨words, whole, right⟩ | ⟨here, there, whole, -, -, ends, begins⟩)
    · exact ⟨words, whole, .inl left⟩
    · exact ⟨words, whole, .inr (.inl right)⟩
    · exact ⟨here ++ there, whole, .inr (.inr ⟨here, there, rfl, ends, begins⟩)⟩

theorem not_mentionsKey_of_solid {s : List Char} (solid : ∀ c ∈ s, isBlank c = false) : ¬ MentionsKey s := by
  rw [← mentionsPrimaryKey_iff, mentionsPrimaryKey_of_solid solid]
  exact Bool.false_ne_true

/-- The words of a key are in a group, before it or behind it. -/
theorem mentionsKey_group (a inside b : List Char) :
    MentionsKey (a ++ '(' :: (inside ++ ')' :: b)) ↔ MentionsKey a ∨ MentionsKey inside ∨ MentionsKey b := by
  simp only [← mentionsPrimaryKey_iff]
  rw [mentionsPrimaryKey_stop (by decide) (by decide), mentionsPrimaryKey_stop (by decide) (by decide),
    Bool.or_eq_true, Bool.or_eq_true]

/-! ### Letters at the end of a word -/

/-- But for three letters, only words have what a keyword sees as a capital. -/
theorem isWord_of_keyLetter {c k : Char} (letter : keyLetter c = k) (capital : (k.isUpper || k == '_') = true)
    (plain : k ≠ 'I' ∧ k ≠ 'S' ∧ k ≠ 'K') : isWord c = true := by
  obtain ⟨dotted, long, kelvin⟩ := plain
  unfold keyLetter at letter
  split at letter
  · exact absurd letter.symm dotted
  · split at letter
    · exact absurd letter.symm long
    · split at letter
      · exact absurd letter.symm kelvin
      · exact isWord_of_toUpper letter capital

/-- What a word does not go on with begins with none of the other letters. -/
theorem not_prefix_of_stops {s : List Char} (stops : Stops isWord s) {k : Char}
    (capital : (k.isUpper || k == '_') = true) (plain : k ≠ 'I' ∧ k ≠ 'S' ∧ k ≠ 'K') (letters : List Char) :
    ¬ k :: letters <+: s.map keyLetter := by
  rintro ⟨rest, split⟩
  cases s with
  | nil => simp at split
  | cons c s =>
    have letter : keyLetter c = k := (List.cons.inj split).1.symm
    have word : isWord c = true := isWord_of_keyLetter letter capital plain
    exact absurd word (by simpa using stops)

/-- The second word of a key does not go on behind the end of a word. -/
theorem prefix_key_append_iff (word : Word) {s : List Char} (stops : Stops isWord s) :
    "KEY".toList <+: (word.text ++ s).map keyLetter ↔ "KEY".toList <+: word.text.map keyLetter := by
  have later (k : Char) (known : k = 'E' ∨ k = 'Y') (letters : List Char) :
      ¬ k :: letters <+: s.map keyLetter := by
    rcases known with rfl | rfl <;> exact not_prefix_of_stops stops (by decide) (by decide) letters
  rw [show "KEY".toList = ['K', 'E', 'Y'] from rfl]
  match word.text, word.nonempty with
  | [c], _ => simp [List.cons_prefix_cons, later]
  | [c, d], _ => simp [List.cons_prefix_cons, later]
  | c :: d :: e :: rest, _ => simp [List.cons_prefix_cons]

/-! ### The words of a key in a column definition -/

namespace ColumnPieces

variable (p : ColumnPieces)

/-- The name of a definition with its marks. -/
def markedName : List Char := p.mark.text ++ (p.name.text ++ p.mark.text)

theorem solid_markedName : ∀ c ∈ p.markedName, isBlank c = false := by
  intro c member
  simp only [markedName, List.mem_append] at member
  rcases member with front | name | rear
  · exact p.mark.solid c front
  · exact p.name.solid name
  · exact p.mark.solid c rear

/-- The first word of a key ends a name only where no mark stands behind the name. -/
theorem suffix_markedName_iff : "PRIMARY".toList <:+ p.markedName.map keyLetter ↔
    p.mark.text = [] ∧ "PRIMARY".toList <:+ p.name.text.map keyLetter := by
  rcases p.mark.form with bare | ⟨d, marks, marked⟩
  · simp [markedName, bare]
  · refine iff_of_false ?_ fun bare => by simp [marked] at bare
    rintro ⟨front, split⟩
    have last := congrArg List.getLast? split
    simp only [markedName, marked, List.map_append, List.map_cons, List.map_nil, List.getLast?_append,
      List.getLast?_singleton, Option.some_or, show "PRIMARY".toList.getLast? = some 'Y' from rfl] at last
    exact of_isNameMark (p := fun d => some (keyLetter d) ≠ some 'Y') (by decide) marks last.symm

/-- The words of a key stand behind the gap of a definition, or on its two sides. -/
theorem mentionsKey_gap {s : List Char} (stops : Stops isBlank s) :
    MentionsKey (p.markedName ++ (p.gap.text ++ s)) ↔ MentionsKey s ∨
      (p.mark.text = [] ∧ "PRIMARY".toList <:+ p.name.text.map keyLetter) ∧ "KEY".toList <+: s.map keyLetter := by
  have solid := p.solid_markedName
  rw [← mentionsPrimaryKey_iff, mentionsPrimaryKey_gap (trimmed_of_solid solid).2 p.gap stops,
    mentionsPrimaryKey_of_solid solid, mentionsPrimaryKey_iff, suffix_markedName_iff]
  simp only [Bool.false_eq_true, false_or]

end ColumnPieces

/-- The words of a key in a definition at another place than behind its type: across the gap between a bare name and
    the type word, in the parameters, or across the end of a type word without parameters. -/
inductive KeyBeforeModifiers (p : ColumnPieces) (parameters behind : List Char) : Prop where
  | acrossGap (bare : p.mark.text = []) (ends : "PRIMARY".toList <:+ p.name.text.map keyLetter)
      (begins : "KEY".toList <+: p.base.text.map keyLetter)
  | inParameters (mentions : MentionsKey parameters)
  | acrossType (none : parameters = []) (across : KeyAcross p.base.text behind)

theorem ColumnPieces.text_eq (p : ColumnPieces) :
    p.text = p.markedName ++ (p.gap.text ++ (p.base.text ++ p.tail)) := by
  simp [text, markedName]

theorem ColumnPieces.not_mentionsKey_base (p : ColumnPieces) : ¬ MentionsKey p.base.text :=
  not_mentionsKey_of_solid fun _ member => p.base.solid member

/-- Parameters part a definition: no words of a key go on across a parenthesis. -/
theorem mentionsKey_of_parameters (p : ColumnPieces) {inside behind : List Char}
    (tail : p.tail = '(' :: inside ++ ')' :: behind) :
    MentionsKey p.text ↔ MentionsKey behind ∨ KeyBeforeModifiers p ('(' :: inside ++ [')']) behind := by
  have whole : p.text = (p.markedName ++ (p.gap.text ++ p.base.text)) ++ '(' :: (inside ++ ')' :: behind) := by
    rw [p.text_eq, tail]
    simp
  have parameters : MentionsKey ('(' :: inside ++ [')']) ↔ MentionsKey inside := by
    have group := mentionsKey_group [] inside []
    have nothing : ¬ MentionsKey [] := not_mentionsKey_of_solid (by simp)
    simpa [nothing] using group
  rw [whole, mentionsKey_group, p.mentionsKey_gap (by simpa using p.base.stops_isBlank [])]
  constructor
  · rintro ((mentions | ⟨⟨bare, ends⟩, begins⟩) | mentions | mentions)
    · exact absurd mentions p.not_mentionsKey_base
    · exact .inr (.acrossGap bare ends begins)
    · exact .inr (.inParameters (parameters.mpr mentions))
    · exact .inl mentions
  · rintro (mentions | ⟨bare, ends, begins⟩ | mentions | ⟨none, -⟩)
    · exact .inr (.inr mentions)
    · exact .inl (.inr ⟨⟨bare, ends⟩, begins⟩)
    · exact .inr (.inl (parameters.mp mentions))
    · cases none

/-- Without parameters the words of a key may begin in the type word itself. -/
theorem mentionsKey_of_no_parameters (p : ColumnPieces) :
    MentionsKey p.text ↔ MentionsKey p.tail ∨ KeyBeforeModifiers p [] p.tail := by
  rw [p.text_eq, p.mentionsKey_gap (p.base.stops_isBlank p.tail), mentionsKey_append,
    prefix_key_append_iff p.base p.stops]
  constructor
  · rintro ((mentions | mentions | across) | ⟨⟨bare, ends⟩, begins⟩)
    · exact absurd mentions p.not_mentionsKey_base
    · exact .inl mentions
    · exact .inr (.acrossType rfl across)
    · exact .inr (.acrossGap bare ends begins)
  · rintro (mentions | ⟨bare, ends, begins⟩ | mentions | ⟨-, across⟩)
    · exact .inl (.inr (.inl mentions))
    · exact .inr ⟨⟨bare, ends⟩, begins⟩
    · exact absurd mentions (not_mentionsKey_of_solid (by simp))
    · exact .inl (.inr (.inr across))

/-- A definition has the words of a key behind its type, or at one of the other places. -/
theorem mentionsKey_text (p : ColumnPieces) {parameters behind : List Char} (split : p.tail = parameters ++ behind)
    (group : ParametersAt p.tail parameters) :
    MentionsKey p.text ↔ MentionsKey behind ∨ KeyBeforeModifiers p parameters behind := by
  rcases group with ⟨inside, after, tail, -, -, rfl⟩ | ⟨-, rfl⟩
  · have rest : behind = after := by simpa [tail] using split.symm
    subst rest
    exact mentionsKey_of_parameters p tail
  · have rest : p.tail = behind := split
    subst rest
    exact mentionsKey_of_no_parameters p

/-! ### The flag of a lone column -/

/-- The column of a lone clause is flagged when the clause names it as the key. -/
theorem parse_columns_of_lone {sql : String} {clause : List Char} (only : clausesOf sql = [clause])
    (key : ¬ KeyShape clause) {name base : Word} {tail : List Char} (shape : ColumnShape clause name base tail) :
    (parse sql).table.columns =
      [{ columnOf name base tail with isKey := mentionsPrimaryKey clause }] := by
  have given := yieldOf_column key shape
  rw [parse_columns_eq, parse_keyNames, only, List.flatMap_singleton, List.flatMap_singleton, given]
  cases mentions : mentionsPrimaryKey clause <;> simp [columnOf]

/-- A column definition that is the only clause of a statement. Its column is flagged exactly when the words of a key
    are behind its type or at one of the places before; a clause that begins as a key clause gives no column. -/
theorem inline_key_iff (sql : String) (p : ColumnPieces) (only : clausesOf sql = [p.text])
    (parameters behind : List Char) (split : p.tail = parameters ++ behind) (group : ParametersAt p.tail parameters) :
    (KeyShape p.text → (parse sql).table.columns = []) ∧
      (¬ KeyShape p.text → ∃ c : Column, (parse sql).table.columns = [c] ∧ c.name = String.ofList p.name.text ∧
        c.type = String.ofList (p.base.text ++ parameters) ∧
        (c.isKey = true ↔ MentionsKey behind ∨ KeyBeforeModifiers p parameters behind)) := by
  constructor
  · intro key
    rw [parse_columns, only, List.flatMap_singleton, yieldOf_keys (mentionsKey_of_keyShape key) (.inl key)]
    rfl
  · intro key
    refine ⟨_, parse_columns_of_lone only key p.columnShape_text, rfl, ?_, ?_⟩
    · rw [group.eq_takeParameters]
      rfl
    · rw [mentionsPrimaryKey_iff, mentionsKey_text p split group]

/-- The values that a type lists flag a column that has no modifiers at all. -/
theorem flagged_by_listed_values :
    let p : ColumnPieces :=
      { mark := ⟨[], .inl rfl⟩, name := ⟨"kind".toList, by decide, List.all_eq_true.mp rfl⟩
        gap := ⟨⟨[' '], List.all_eq_true.mp rfl⟩, by decide⟩
        base := ⟨"ENUM".toList, by decide, List.all_eq_true.mp rfl⟩
        tail := "('primary key','other')".toList, stops := by decide }
    clausesOf "CREATE TABLE t (kind ENUM('primary key','other'))" = [p.text] ∧ ¬ KeyShape p.text ∧
      ParametersAt p.tail p.tail ∧ ¬ MentionsKey [] ∧
      ∃ c, (parse "CREATE TABLE t (kind ENUM('primary key','other'))").table.columns = [c] ∧ c.isKey = true := by
  intro p
  have only : clausesOf "CREATE TABLE t (kind ENUM('primary key','other'))" = [p.text] := by decide +kernel
  have key : ¬ KeyShape p.text := by
    rw [← isKeyClause_iff]
    decide
  have group : ParametersAt p.tail p.tail :=
    .inl ⟨"'primary key','other'".toList, [], rfl, by decide, by decide, rfl⟩
  have mentions : MentionsKey p.tail := (mentionsPrimaryKey_iff _).mp (by decide)
  obtain ⟨c, columns, -, -, flagged⟩ := (inline_key_iff _ p only p.tail [] (List.append_nil _).symm group).2 key
  exact ⟨only, key, group, not_mentionsKey_of_solid (by simp), c, columns, flagged.mpr (.inr (.inParameters mentions))⟩

end CrudScripts.Schema
