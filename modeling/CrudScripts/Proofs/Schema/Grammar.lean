import CrudScripts.Proofs.Text.Occurrence
import CrudScripts.Schema.Clause

/-!
The shapes of clauses, and what their readers make of them. A column definition is a name, perhaps between
two equal marks, a gap and a type word (`ColumnShape`); a key clause begins with the two words of a key,
perhaps behind a constraint name (`KeyShape`). The readers accept exactly these shapes
(`columnParts_eq_some_iff`, `isKeyClause_iff`), and a clause is read by them alone (`parseColumn_isSome_iff`,
`mentionsPrimaryKey_iff`, `keyNames_eq_nil_iff`).
-/
namespace CrudScripts.Schema
open CrudScripts.Text

/-! ### Columns -/

/-- What stands on both sides of a column name: nothing, or one of four marks. -/
structure NameMark where
  text : List Char
  form : text = [] ∨ ∃ c, isNameMark c = true ∧ text = [c]

/-- The shape of a column definition: its name, its type word, and what follows the type word. -/
def ColumnShape (clause : List Char) (name base : Word) (tail : List Char) : Prop :=
  Stops isWord tail ∧ ∃ (mark : NameMark) (gap : Gap),
    clause = mark.text ++ (name.text ++ (mark.text ++ (gap.text ++ (base.text ++ tail))))

def IsColumn (clause : List Char) : Prop := ∃ name base tail, ColumnShape clause name base tail

theorem takeRun_isWord_eq_some_iff (s run rest : List Char) :
    takeRun isWord s = some (run, rest) ↔
      ∃ word : Word, run = word.text ∧ s = word.text ++ rest ∧ Stops isWord rest := by
  rw [takeRun_eq_some_iff]
  constructor
  · rintro ⟨rfl, nonempty, word, stops⟩
    exact ⟨⟨run, nonempty, word⟩, rfl, rfl, stops⟩
  · rintro ⟨word, rfl, rfl, stops⟩
    exact ⟨rfl, word.nonempty, word.word, stops⟩

/-- What holds of the four marks holds of each letter that is one. -/
theorem of_isNameMark {p : Char → Prop} (each : p '\x60' ∧ p '"' ∧ p '[' ∧ p ']') {c : Char} (mark : isNameMark c = true) :
    p c := by
  obtain ⟨tick, quote, opening, closing⟩ := each
  simp only [isNameMark, Bool.or_eq_true, beq_iff_eq] at mark
  rcases mark with ((rfl | rfl) | rfl) | rfl
  · exact tick
  · exact quote
  · exact opening
  · exact closing

theorem isBlank_of_isNameMark {c : Char} (mark : isNameMark c = true) : isBlank c = false :=
  of_isNameMark (p := fun c => isBlank c = false) (by decide) mark

theorem isWord_of_isNameMark {c : Char} (mark : isNameMark c = true) : isWord c = false :=
  of_isNameMark (p := fun c => isWord c = false) (by decide) mark

theorem isNameMark_of_isWord {c : Char} (word : isWord c = true) : isNameMark c = false := by
  rw [Bool.eq_false_iff]
  intro mark
  simp [isWord_of_isNameMark mark] at word

/-- The marks around the names of a key are those around the names of columns. -/
theorem isKeyMark_eq : isKeyMark = isNameMark := by
  funext c
  rw [isKeyMark, isNameMark]
  ac_rfl

theorem NameMark.solid (mark : NameMark) : ∀ c ∈ mark.text, isBlank c = false := by
  intro c member
  rcases mark.form with bare | ⟨d, marks, marked⟩
  · simp [bare] at member
  · rw [marked, List.mem_singleton] at member
    exact member ▸ isBlank_of_isNameMark marks

/-- A name is bare, and ends where no word goes on, or stands between two equal marks. -/
theorem takeColumnName_eq_some_iff (s name rest : List Char) :
    takeColumnName s = some (name, rest) ↔
      ∃ (mark : NameMark) (word : Word), name = word.text ∧ s = mark.text ++ (word.text ++ (mark.text ++ rest)) ∧
        (mark.text = [] → Stops isWord rest) := by
  constructor
  · intro taken
    cases s with
    | nil => cases taken
    | cons c s =>
      simp only [takeColumnName] at taken
      by_cases mark : isNameMark c = true
      · rw [if_pos mark] at taken
        split at taken
        · rename_i run d after found
          split at taken
          · rename_i same
            obtain ⟨rfl, rfl⟩ := Prod.mk.inj (Option.some.inj taken)
            obtain ⟨word, rfl, rfl, -⟩ := (takeRun_isWord_eq_some_iff _ _ _).mp found
            exact ⟨⟨[c], .inr ⟨c, mark, rfl⟩⟩, word, rfl, by simp [same], by simp⟩
          · cases taken
        · cases taken
      · rw [if_neg mark] at taken
        obtain ⟨word, rfl, split, stops⟩ := (takeRun_isWord_eq_some_iff _ _ _).mp taken
        exact ⟨⟨[], .inl rfl⟩, word, rfl, split, fun _ => stops⟩
  · rintro ⟨⟨mark, form⟩, word, rfl, rfl, stops⟩
    obtain ⟨c, front, first⟩ := List.exists_cons_of_ne_nil word.nonempty
    rcases form with rfl | ⟨d, marked, rfl⟩
    · have plain : isNameMark c = false := isNameMark_of_isWord (word.word c (by simp [first]))
      have run := (takeRun_isWord_eq_some_iff _ word.text rest).mpr ⟨word, rfl, rfl, stops rfl⟩
      simp only [List.nil_append]
      rw [first, List.cons_append] at run ⊢
      simp only [takeColumnName, plain]
      exact run
    · have run := (takeRun_isWord_eq_some_iff _ word.text (d :: rest)).mpr
        ⟨word, rfl, rfl, by simpa using isWord_of_isNameMark marked⟩
      simp [takeColumnName, marked, run]

/-- The reader of column definitions accepts exactly their shape, with the longest type word. -/
theorem columnParts_eq_some_iff (clause : List Char) (parts : ColumnParts) :
    columnParts clause = some parts ↔
      ∃ name base tail, ColumnShape clause name base tail ∧
        parts = ⟨name.text, base.text, (takeParameters tail).1, (takeParameters tail).2.dropWhile isBlank⟩ := by
  unfold columnParts
  simp only [Option.bind_eq_bind, Option.bind_eq_some_iff, Prod.exists, Option.pure_def, Option.some.injEq]
  constructor
  · rintro ⟨_, _, named, _, dropped, _, tail, typed, rfl⟩
    obtain ⟨mark, name, rfl, rfl, -⟩ := (takeColumnName_eq_some_iff _ _ _).mp named
    obtain ⟨gap, rfl, gapped, blank, -⟩ := (dropBlanks_eq_some_iff _ _).mp dropped
    obtain ⟨base, rfl, rfl, stops⟩ := (takeRun_isWord_eq_some_iff _ _ _).mp typed
    exact ⟨name, base, tail, ⟨stops, mark, ⟨⟨gap, blank⟩, gapped⟩, rfl⟩, rfl⟩
  · rintro ⟨name, base, tail, ⟨stops, mark, gap, rfl⟩, rfl⟩
    refine ⟨name.text, gap.text ++ (base.text ++ tail), ?_, base.text ++ tail, ?_, base.text, tail, ?_, rfl⟩
    · exact (takeColumnName_eq_some_iff _ _ _).mpr ⟨mark, name, rfl, rfl, fun _ => gap.stops_isWord _⟩
    · exact gap.dropBlanks_append (base.stops_isBlank tail)
    · exact (takeRun_isWord_eq_some_iff _ _ _).mpr ⟨base, rfl, rfl, stops⟩

/-- The column of a clause with a name, a type word and what follows it. -/
def columnOf (name base : Word) (tail : List Char) : Column where
  name := String.ofList name.text
  type := String.ofList (base.text ++ (takeParameters tail).1)
  isIdentity := marksIdentity ((takeParameters tail).2.dropWhile isBlank)
  isNullable := !forbidsNull ((takeParameters tail).2.dropWhile isBlank)

theorem parseColumn_of_shape {clause : List Char} {name base : Word} {tail : List Char}
    (shape : ColumnShape clause name base tail) : parseColumn clause = some (columnOf name base tail) := by
  rw [parseColumn, (columnParts_eq_some_iff clause _).mpr ⟨name, base, tail, shape, rfl⟩]
  rfl

/-- A clause whose first word is not followed by another is no column. -/
theorem parseColumn_word_stop (name : Word) (blanks : Blanks) {c : Char} (stop : isWord c = false)
    (solid : isBlank c = false) (s : List Char) : parseColumn (name.text ++ (blanks.text ++ c :: s)) = none := by
  have ends : Stops isWord (blanks.text ++ c :: s) :=
    blanks.stops_text_append (fun _ => isWord_of_isBlank) ((stops_cons _ _ _).mpr stop)
  have named := (takeColumnName_eq_some_iff _ _ _).mpr
    ⟨⟨[], .inl rfl⟩, name, rfl, rfl, fun _ => ends⟩
  have typeless (rest : List Char) (dropped : dropBlanks (blanks.text ++ c :: s) = some rest) :
      takeRun isWord rest = none := by
    cases first : blanks.text with
    | nil =>
      rw [first, List.nil_append, (dropBlanks_eq_none_iff _).mpr ((stops_cons _ _ _).mpr solid)] at dropped
      cases dropped
    | cons d more =>
      have gap := Gap.dropBlanks_append ⟨blanks, by simp [first]⟩ (s := c :: s) ((stops_cons _ _ _).mpr solid)
      obtain rfl := Option.some.inj (dropped.symm.trans gap)
      exact (takeRun_eq_none_iff _ _).mpr ((stops_cons _ _ _).mpr stop)
  have none : columnParts (name.text ++ (blanks.text ++ c :: s)) = none := by
    unfold columnParts
    rw [List.nil_append, List.nil_append] at named
    cases dropped : dropBlanks (blanks.text ++ c :: s) with
    | none => simp [named, dropped]
    | some rest => simp [named, dropped, typeless rest dropped]
  rw [parseColumn, none]
  rfl

theorem parseColumn_isSome_iff (clause : List Char) : (parseColumn clause).isSome = true ↔ IsColumn clause := by
  rw [parseColumn, Option.isSome_map, Option.isSome_iff_exists]
  simp only [columnParts_eq_some_iff]
  constructor
  · rintro ⟨_, name, base, tail, shape, -⟩; exact ⟨name, base, tail, shape⟩
  · rintro ⟨name, base, tail, shape⟩; exact ⟨_, name, base, tail, shape, rfl⟩

/-! ### Keys -/

/-- The two words of a key at the front of a text. -/
def KeyWords (s rest : List Char) : Prop :=
  ∃ (one : List Char) (gap : Gap) (two : List Char), s = one ++ (gap.text ++ (two ++ rest)) ∧
    Spells "PRIMARY" one ∧ Spells "KEY" two

/-- The words before a key that has a constraint name. -/
def ConstraintName (lead : List Char) : Prop :=
  ∃ (word : List Char) (gap : Gap) (name : List Char) (gap' : Gap), lead = word ++ (gap.text ++ (name ++ gap'.text)) ∧
    Spells "CONSTRAINT" word ∧ name ≠ [] ∧ ∀ c ∈ name, isBlank c = false

/-- The shape of a key clause: the words of a key, perhaps behind a constraint name, that end where a word
    ends. -/
def KeyShape (clause : List Char) : Prop :=
  ∃ lead s rest, clause = lead ++ s ∧ (lead = [] ∨ ConstraintName lead) ∧ KeyWords s rest ∧ Stops continuesWord rest

theorem dropPrimaryKey_eq_some_iff (s rest : List Char) : dropPrimaryKey s = some rest ↔ KeyWords s rest :=
  dropKeywords_eq_some_iff "PRIMARY" (by decide) (by decide) s rest

theorem keyWords_of_pair (pair : KeywordPair "PRIMARY" "KEY") (rest : List Char) : KeyWords (pair.text ++ rest) rest :=
  (dropPrimaryKey_eq_some_iff _ _).mp (dropKeywords_pair pair rest)

/-- A text that mentions the words of a key somewhere. -/
def MentionsKey (s : List Char) : Prop := ∃ before after rest, s = before ++ after ∧ KeyWords after rest

theorem mentionsPrimaryKey_iff (s : List Char) : mentionsPrimaryKey s = true ↔ MentionsKey s := by
  rw [mentionsPrimaryKey, occurs_iff, MentionsKey]
  simp only [Option.isSome_iff_exists, dropPrimaryKey_eq_some_iff]
  constructor
  · rintro ⟨before, after, split, rest, words⟩; exact ⟨before, after, rest, split, words⟩
  · rintro ⟨before, after, rest, split, words⟩; exact ⟨before, after, split, rest, words⟩

theorem keyWords_iff (s rest : List Char) : KeyWords s rest ↔ ∃ words, s = words ++ rest ∧ KeyWords words [] := by
  constructor
  · rintro ⟨one, gap, two, rfl, spelled, spelled'⟩
    exact ⟨one ++ (gap.text ++ two), by simp, one, gap, two, by simp, spelled, spelled'⟩
  · rintro ⟨_, rfl, one, gap, two, rfl, spelled, spelled'⟩
    exact ⟨one, gap, two, by simp, spelled, spelled'⟩

theorem KeyWords.append {s rest : List Char} (words : KeyWords s rest) (t : List Char) : KeyWords (s ++ t) (rest ++ t) := by
  obtain ⟨front, rfl, whole⟩ := (keyWords_iff s rest).mp words
  exact (keyWords_iff _ _).mpr ⟨front, by simp, whole⟩

theorem mentionsKey_iff_exists_words (s : List Char) : MentionsKey s ↔ ∃ words, KeyWords words [] ∧ words <:+: s := by
  constructor
  · rintro ⟨before, _, rest, rfl, here⟩
    obtain ⟨words, rfl, whole⟩ := (keyWords_iff _ rest).mp here
    exact ⟨words, whole, before, rest, by simp⟩
  · rintro ⟨words, whole, before, rest, rfl⟩
    exact ⟨before, words ++ rest, rest, by simp, (keyWords_iff _ rest).mpr ⟨words, rfl, whole⟩⟩

/-- The words of a key do not stand across a character that is no letter of theirs and no blank. -/
theorem mentionsPrimaryKey_stop {c : Char} (stop : isKeyLetter c = false) (solid : isBlank c = false)
    (a b : List Char) : mentionsPrimaryKey (a ++ c :: b) = (mentionsPrimaryKey a || mentionsPrimaryKey b) :=
  occurs_keywords_stop (by decide) (by decide) (by decide) stop solid a b

/-- The words of a key stand on one side of a gap, or on its two sides. -/
theorem mentionsPrimaryKey_gap {a b : List Char} (solid : Stops isBlank a.reverse) (gap : Gap)
    (stops : Stops isBlank b) :
    mentionsPrimaryKey (a ++ (gap.text ++ b)) = true ↔ mentionsPrimaryKey a = true ∨ mentionsPrimaryKey b = true ∨
      "PRIMARY".toList <:+ a.map keyLetter ∧ "KEY".toList <+: b.map keyLetter :=
  occurs_keywords_gap (by decide) (by decide) (by decide) solid gap stops

/-- A text without blanks has no room for the words of a key. -/
theorem mentionsPrimaryKey_of_solid {s : List Char} (solid : ∀ c ∈ s, isBlank c = false) :
    mentionsPrimaryKey s = false := occurs_keywords_of_solid "PRIMARY" (by decide) (by decide) solid

theorem dropConstraint_eq_some_iff (s rest : List Char) :
    dropConstraint s = some rest ↔ ∃ lead, s = lead ++ rest ∧ ConstraintName lead ∧ Stops isBlank rest := by
  unfold dropConstraint
  simp only [Option.bind_eq_bind, Option.bind_eq_some_iff, Prod.exists, dropKeyword_eq_some_iff]
  constructor
  · rintro ⟨_, ⟨word, rfl, spelled⟩, _, dropped, _, _, taken, dropped'⟩
    obtain ⟨gap, rfl, gapped, blank, -⟩ := (dropBlanks_eq_some_iff _ _).mp dropped
    obtain ⟨rfl, nonempty, solid, -⟩ := (takeRun_eq_some_iff _ _ _ _).mp taken
    obtain ⟨gap', rfl, gapped', blank', stops⟩ := (dropBlanks_eq_some_iff _ _).mp dropped'
    refine ⟨_, ?_, ⟨word, ⟨⟨gap, blank⟩, gapped⟩, _, ⟨⟨gap', blank'⟩, gapped'⟩, rfl, spelled, nonempty, ?_⟩, stops⟩
    · simp
    · intro c member; simpa using solid c member
  · rintro ⟨_, rfl, ⟨word, gap, name, gap', rfl, spelled, nonempty, solid⟩, stops⟩
    have named : Stops isBlank (name ++ (gap'.text ++ rest)) :=
      (stops_append nonempty _).mpr fun c first => solid c (List.mem_of_mem_head? first)
    refine ⟨gap.text ++ (name ++ (gap'.text ++ rest)), ⟨word, by simp, spelled⟩, name ++ (gap'.text ++ rest),
      gap.dropBlanks_append named, name, gap'.text ++ rest, ?_, gap'.dropBlanks_append stops⟩
    refine (takeRun_eq_some_iff _ _ _ _).mpr ⟨rfl, nonempty, fun c member => by simp [solid c member], ?_⟩
    exact (stops_append gap'.nonempty rest).mpr fun c first => by simp [gap'.blank c (List.mem_of_mem_head? first)]

private theorem keyLetter_head_of_spells {word : String} {k : Char} {letters : List Char}
    (known : word.toList = k :: letters) {s : List Char} (spelled : Spells word s) :
    (s.map keyLetter).head? = some k := by
  rw [spelled, known]
  rfl

/-- A text that begins with the words of a key begins with no constraint name. -/
theorem dropConstraint_of_keyWords {s rest : List Char} (words : KeyWords s rest) : dropConstraint s = none := by
  cases dropped : dropConstraint s with
  | none => rfl
  | some after =>
    obtain ⟨one, gap, two, rfl, spelled, -⟩ := words
    obtain ⟨lead, split, ⟨word, gap', name, gap'', rfl, spelled', -⟩, -⟩ := (dropConstraint_eq_some_iff _ after).mp dropped
    obtain ⟨c, one, rfl⟩ := List.exists_cons_of_ne_nil (spelled.ne_nil (by decide))
    obtain ⟨d, word, rfl⟩ := List.exists_cons_of_ne_nil (spelled'.ne_nil (by decide))
    obtain ⟨rfl, -⟩ := List.cons.inj split
    have first := keyLetter_head_of_spells (by rfl) spelled
    have other := keyLetter_head_of_spells (by rfl) spelled'
    rw [List.map_cons, List.head?_cons] at first other
    rw [first] at other
    exact absurd other (by decide)

theorem KeyWords.rest_unique {s rest other : List Char} (words : KeyWords s rest) (words' : KeyWords s other) :
    other = rest := by
  rw [← dropPrimaryKey_eq_some_iff] at words words'
  exact (Option.some.inj (words.symm.trans words')).symm

private theorem endsKey_iff (s : List Char) :
    (match dropPrimaryKey s with
      | some (c :: _) => !continuesWord c
      | some [] => true
      | none => false) = true ↔ ∃ rest, KeyWords s rest ∧ Stops continuesWord rest := by
  cases dropped : dropPrimaryKey s with
  | none =>
    simp only [Bool.false_eq_true, false_iff]
    rintro ⟨rest, words, -⟩
    rw [(dropPrimaryKey_eq_some_iff s rest).mpr words] at dropped
    cases dropped
  | some rest =>
    have words := (dropPrimaryKey_eq_some_iff s rest).mp dropped
    constructor
    · intro ended
      refine ⟨rest, words, ?_⟩
      cases rest with
      | nil => simp
      | cons c rest => simpa using ended
    · rintro ⟨other, words', stops⟩
      obtain rfl := words.rest_unique words'
      cases other with
      | nil => rfl
      | cons c other => simpa using stops

/-- The reader of key clauses accepts exactly their shape. -/
theorem isKeyClause_iff (clause : List Char) : isKeyClause clause = true ↔ KeyShape clause := by
  refine (endsKey_iff ((dropConstraint clause).getD clause)).trans ?_
  constructor
  · rintro ⟨rest, words, stops⟩
    cases dropped : dropConstraint clause with
    | none =>
      rw [dropped] at words
      exact ⟨[], clause, rest, rfl, .inl rfl, words, stops⟩
    | some s =>
      rw [dropped] at words
      obtain ⟨lead, rfl, named, -⟩ := (dropConstraint_eq_some_iff clause s).mp dropped
      exact ⟨lead, s, rest, rfl, .inr named, words, stops⟩
  · rintro ⟨lead, s, rest, rfl, form, words, stops⟩
    refine ⟨rest, ?_, stops⟩
    rcases form with rfl | named
    · rw [List.nil_append, dropConstraint_of_keyWords words]
      exact words
    · obtain ⟨one, gap, two, rfl, spelled, spelled'⟩ := words
      have solid := spelled.stops_isBlank (by decide) (by decide) (gap.text ++ (two ++ rest))
      rw [(dropConstraint_eq_some_iff _ _).mpr ⟨lead, rfl, named, solid⟩]
      exact ⟨one, gap, two, rfl, spelled, spelled'⟩

theorem mentionsPrimaryKey_of_isKeyClause {clause : List Char} (key : isKeyClause clause = true) :
    mentionsPrimaryKey clause = true := by
  obtain ⟨lead, s, rest, rfl, -, words, -⟩ := (isKeyClause_iff clause).mp key
  exact (mentionsPrimaryKey_iff _).mpr ⟨lead, s, rest, rfl, words⟩

/-- The first group of a text: its inside is not empty, and every parenthesis before it is closed at once. -/
def FirstGroup (s inside : List Char) : Prop :=
  ∃ before rest, s = before ++ ('(' :: inside ++ ')' :: rest) ∧ inside ≠ [] ∧ ')' ∉ inside ∧
    ∀ front behind, before = front ++ '(' :: behind → behind.head? = some ')'

theorem firstMatch_takeGroup_iff (s inside : List Char) :
    (∃ rest, firstMatch takeGroup s = some (inside, rest)) ↔ FirstGroup s inside := by
  simp only [firstMatch_eq_some_iff, takeGroup_eq_some_iff]
  constructor
  · rintro ⟨rest, before, _, rfl, ⟨rfl, nonempty, closed⟩, earlier⟩
    refine ⟨before, rest, rfl, nonempty, closed, fun front behind split => ?_⟩
    have next := (takeGroup_cons_eq_none_iff (by simp)).mp (earlier front ('(' :: behind) split (by simp))
    cases behind with
    | nil => cases next
    | cons c behind => exact next
  · rintro ⟨before, rest, rfl, nonempty, closed, earlier⟩
    refine ⟨rest, before, _, rfl, ⟨rfl, nonempty, closed⟩, fun front behind split some => ?_⟩
    obtain ⟨c, behind, rfl⟩ := List.exists_cons_of_ne_nil some
    by_cases opening : c = '('
    · subst opening
      refine (takeGroup_cons_eq_none_iff (by simp)).mpr ?_
      have next := earlier front behind split
      cases behind with
      | nil => cases next
      | cons d behind => exact next
    · simp [takeGroup, opening]

theorem bareKeyName_eq_nil_iff (token : List Char) :
    bareKeyName token = [] ↔ ∀ c ∈ trim token, isKeyMark c = true := by
  simp only [bareKeyName, strip, List.reverse_eq_nil_iff, List.dropWhile_eq_nil_iff, List.mem_reverse]
  constructor
  · intro all c member
    by_cases front : c ∈ (trim token).dropWhile isKeyMark
    · exact all c front
    · rw [← List.takeWhile_append_dropWhile (p := isKeyMark) (l := trim token)] at member
      rcases List.mem_append.mp member with marked | rest
      · exact List.mem_takeWhile_imp marked
      · exact absurd rest front
  · exact fun all c member => all c ((List.dropWhile_subset isKeyMark) member)

/-- A clause lists no key when it has no group, or when nothing but marks and blanks is between the commas of
    its first one. -/
theorem keyNames_eq_nil_iff (clause : List Char) :
    keyNames clause = [] ↔
      ∀ inside, FirstGroup clause inside → ∀ token ∈ cut ',' inside, ∀ c ∈ trim token, isKeyMark c = true := by
  simp only [← firstMatch_takeGroup_iff]
  unfold keyNames
  cases found : firstMatch takeGroup clause with
  | none => simp
  | some group =>
    obtain ⟨inside, rest⟩ := group
    simp only [List.map_eq_nil_iff, List.filter_eq_nil_iff, List.mem_map, forall_exists_index, and_imp,
      forall_apply_eq_imp_iff₂, Bool.not_eq_true', Bool.not_eq_false, List.isEmpty_iff, bareKeyName_eq_nil_iff,
      Option.some.injEq, Prod.mk.injEq]
    constructor
    · rintro all _ _ rfl rfl token member; exact all token member
    · intro all token member; exact all inside rest rfl rfl token member

end CrudScripts.Schema
