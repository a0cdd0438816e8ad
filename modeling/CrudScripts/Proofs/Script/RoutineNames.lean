import CrudScripts.Proofs.Schema.Frame
import CrudScripts.Proofs.Script.RoutineText

/-!
The names of routines on tables whose names are identifiers: a word with or without marks around it, perhaps behind a
qualifier. The word of the operation is put behind the whole name, and T-SQL puts a qualifier before it. So the name
of a routine is an identifier again exactly when the last part of the table's name has no marks and T-SQL finds no
qualifier (`routine_names_iff`).
-/
namespace CrudScripts.Script
open CrudScripts.Dialect CrudScripts.Schema CrudScripts.Text

/-- The marks around a part of an identifier. -/
inductive Enclosure where
  | bare
  | brackets
  | quotes
  | backticks
deriving DecidableEq

namespace Enclosure

def opening : Enclosure → List Char
  | bare => []
  | brackets => ['[']
  | quotes => ['"']
  | backticks => ['\x60']

def closing : Enclosure → List Char
  | bare => []
  | brackets => [']']
  | quotes => ['"']
  | backticks => ['\x60']

end Enclosure

/-- A part of an identifier. -/
structure Part where
  enclosure : Enclosure
  word : Word

def Part.text (p : Part) : List Char := p.enclosure.opening ++ (p.word.text ++ p.enclosure.closing)

/-- An identifier of one part, or of two with a point between them. -/
structure Identifier where
  qualifier : Option Part
  last : Part

namespace Identifier

/-- The qualifier of an identifier with the point behind it. -/
def lead (id : Identifier) : List Char :=
  match id.qualifier with
  | some q => q.text ++ ['.']
  | none => []

def text (id : Identifier) : List Char := id.lead ++ id.last.text

def name (id : Identifier) : String := String.ofList id.text

end Identifier

/-- A word with more letters behind it. -/
def extended (w : Word) (s : List Char) (word : ∀ c ∈ s, isWord c = true) : Word where
  text := w.text ++ s
  nonempty := List.append_ne_nil_of_left_ne_nil w.nonempty s
  word := List.forall_mem_append.mpr ⟨w.word, word⟩

/-- What a routine on a table has behind the name of the table. -/
def suffix (family : Family) (operation : Operation) : List Char := ("_" ++ operationWord family operation).toList

theorem isWord_of_mem_suffix (family : Family) (operation : Operation) :
    ∀ c ∈ suffix family operation, isWord c = true := by
  cases family <;> cases operation <;> exact List.all_eq_true.mp (by decide)

/-- What a routine on a table has before the name of the table. -/
def front (family : Family) : List Char := if family = .tsql then "dbo.".toList else []

theorem toList_routineName (family : Family) (table : String) (operation : Operation) :
    (routineName family table operation).toList = front family ++ (table.toList ++ suffix family operation) := by
  rw [routineName, front, suffix]
  split <;> simp only [String.toList_append, List.append_assoc]
  rfl

/-- The schema that T-SQL routines are put into. -/
def defaultSchema : Part := ⟨.bare, ⟨"dbo".toList, by decide, List.all_eq_true.mp rfl⟩⟩

/-- The identifier of a routine on a table: the word of the operation stands within the marks of the last part, and
    there is one qualifier at most. -/
def Identifier.forRoutine (id : Identifier) (family : Family) (operation : Operation) : Identifier where
  qualifier := if family = .tsql then some (id.qualifier.getD defaultSchema) else id.qualifier
  last := ⟨id.last.enclosure, extended id.last.word (suffix family operation) (isWord_of_mem_suffix family operation)⟩

/-- A table's name that stays an identifier with something put behind it, and before it in T-SQL. -/
structure Extensible (family : Family) (id : Identifier) : Prop where
  bare : id.last.enclosure = .bare
  unqualified : family = .tsql → id.qualifier = none

/-! ### Letters of identifiers -/

theorem Part.letter_of_mem_text {p : Part} {c : Char} (member : c ∈ p.text) :
    isWord c = true ∨ c ∈ ['[', ']', '"', '\x60'] := by
  simp only [Part.text, List.mem_append] at member
  rcases member with opening | inside | closing
  · cases enclosed : p.enclosure <;> simp_all [Enclosure.opening]
  · exact .inl (p.word.word c inside)
  · cases enclosed : p.enclosure <;> simp_all [Enclosure.closing]

theorem Part.count_point (p : Part) : p.text.count '.' = 0 :=
  List.count_eq_zero.mpr fun member => p.letter_of_mem_text member |>.elim (by decide) (by decide)

namespace Identifier

variable (id : Identifier)

/-- An identifier has as many points as qualifiers. -/
theorem count_point : id.text.count '.' = id.qualifier.toList.length := by
  obtain ⟨qualifier, last⟩ := id
  cases qualifier <;> simp [text, lead, Part.count_point]

theorem letter_of_mem_text {c : Char} (member : c ∈ id.text) :
    isWord c = true ∨ c ∈ ['.', '[', ']', '"', '\x60'] := by
  have part {p : Part} (inside : c ∈ p.text) : isWord c = true ∨ c ∈ ['.', '[', ']', '"', '\x60'] :=
    p.letter_of_mem_text inside |>.imp_right (List.mem_cons_of_mem _)
  obtain ⟨_ | q, last⟩ := id
  · exact part (by simpa [text, lead] using member)
  · simp only [text, lead, List.mem_append] at member
    rcases member with (qualifier | point) | inside
    · exact part qualifier
    · exact .inr (List.mem_cons.mpr (.inl (List.mem_singleton.mp point)))
    · exact part inside

theorem isNameChar_of_mem_text {c : Char} (member : c ∈ id.text) : isNameChar c = true := by
  rcases id.letter_of_mem_text member with word | mark
  · have other : c ≠ '(' := by rintro rfl; exact absurd word (by decide)
    simp [isNameChar, isBlank_of_isWord word, other]
  · exact List.all_eq_true.mp (show ['.', '[', ']', '"', '\x60'].all isNameChar = true by decide) c mark

theorem text_ne_nil : id.text ≠ [] :=
  List.append_ne_nil_of_right_ne_nil _
    (List.append_ne_nil_of_right_ne_nil _ (List.append_ne_nil_of_left_ne_nil id.last.word.nonempty _))

end Identifier

/-! ### Ends of identifiers -/

/-- An identifier whose last part has no marks ends with a word that nothing but a point is before. -/
theorem Identifier.reverse_text_of_bare {id : Identifier} (bare : id.last.enclosure = .bare) :
    ∃ rest, id.text.reverse = id.last.word.text.reverse ++ rest ∧ Stops isWord rest ∧ ∀ c ∈ rest.head?, c = '.' := by
  obtain ⟨qualifier, ⟨enclosure, word⟩⟩ := id
  obtain rfl : enclosure = .bare := bare
  have whole : (Part.mk .bare word).text = word.text := by simp [Part.text, Enclosure.opening, Enclosure.closing]
  refine ⟨(Identifier.lead ⟨qualifier, ⟨.bare, word⟩⟩).reverse, by simp [text, whole], ?_⟩
  cases qualifier with
  | none => exact ⟨stops_nil _, nofun⟩
  | some q =>
    have point : (Identifier.lead ⟨some q, ⟨.bare, word⟩⟩).reverse = '.' :: q.text.reverse := by simp [lead]
    rw [point]
    exact ⟨(stops_cons ..).mpr (by decide), by simp⟩

/-- An identifier whose last part has marks ends with one. -/
theorem Identifier.reverse_text_of_enclosed {id : Identifier} (enclosed : id.last.enclosure ≠ .bare) :
    ∃ c rest, id.text.reverse = c :: rest ∧ isWord c = false ∧ c ≠ '.' := by
  obtain ⟨c, closing, other, point⟩ : ∃ c, id.last.enclosure.closing = [c] ∧ isWord c = false ∧ c ≠ '.' := by
    cases marks : id.last.enclosure with
    | bare => exact absurd marks enclosed
    | brackets | quotes | backticks => exact ⟨_, rfl, by decide, by decide⟩
  have ends : id.text.reverse = c :: (id.lead ++ (id.last.enclosure.opening ++ id.last.word.text)).reverse := by
    simp [text, Part.text, closing]
  exact ⟨c, _, ends, other, point⟩

/-- What ends with letters of words behind a mark is no identifier. -/
theorem not_identifier_of_enclosed {id other : Identifier} (enclosed : id.last.enclosure ≠ .bare) {s : List Char}
    (given : s ≠ []) (word : ∀ c ∈ s, isWord c = true) (before : List Char) :
    before ++ (id.text ++ s) ≠ other.text := by
  intro same
  -- From its end the text has the letters and then the mark, where an identifier has a point, or a mark before letters.
  obtain ⟨mark, rest, ends, notWord, notPoint⟩ := id.reverse_text_of_enclosed enclosed
  have reversed : s.reverse ++ (mark :: (rest ++ before.reverse)) = other.text.reverse := by
    rw [← same]
    simp [ends]
  have word' : ∀ c ∈ s.reverse, isWord c = true := fun c member => word c (List.mem_reverse.mp member)
  by_cases bare : other.last.enclosure = .bare
  · obtain ⟨rest', ends', stops, point⟩ := other.reverse_text_of_bare bare
    have behind := (run_unique word' ((stops_cons _ _ _).mpr notWord)
      (fun c member => other.last.word.word c (List.mem_reverse.mp member)) stops (reversed.trans ends')).2
    exact notPoint (point mark (by simp [← behind]))
  · obtain ⟨mark', rest', ends', notWord', -⟩ := other.reverse_text_of_enclosed bare
    obtain ⟨c, more, first⟩ := List.exists_cons_of_ne_nil (show s.reverse ≠ [] by simpa using given)
    rw [ends', first, List.cons_append] at reversed
    rw [← (List.cons.inj reversed).1, word' c (by simp [first])] at notWord'
    cases notWord'

/-! ### Names of routines -/

section
variable (family : Family) (id : Identifier) (operation : Operation)

theorem routineName_eq_of_extensible (extensible : Extensible family id) :
    routineName family id.name operation = (id.forRoutine family operation).name := by
  obtain ⟨qualifier, ⟨enclosure, word⟩⟩ := id
  obtain rfl : enclosure = .bare := extensible.bare
  rw [← String.toList_inj, toList_routineName, Identifier.name, Identifier.name, String.toList_ofList,
    String.toList_ofList]
  by_cases fixed : family = .tsql
  · obtain rfl : qualifier = none := extensible.unqualified fixed
    subst fixed
    simp [front, Identifier.text, Identifier.lead, Identifier.forRoutine, Part.text, extended, defaultSchema,
      Enclosure.opening, Enclosure.closing]
  · rw [front, if_neg fixed, List.nil_append]
    simp [Identifier.text, Identifier.lead, Identifier.forRoutine, Part.text, extended, fixed, Enclosure.opening,
      Enclosure.closing]

theorem extensible_of_routineName {other : Identifier} (same : routineName family id.name operation = other.name) :
    Extensible family id := by
  have letters : front family ++ (id.text ++ suffix family operation) = other.text := by
    have given := congrArg String.toList same
    rwa [toList_routineName, Identifier.name, Identifier.name, String.toList_ofList, String.toList_ofList] at given
  constructor
  · by_contra enclosed
    have given : suffix family operation ≠ [] := by cases family <;> cases operation <;> decide
    exact not_identifier_of_enclosed enclosed given (isWord_of_mem_suffix family operation) _ letters
  · rintro rfl
    -- The schema brings a point of its own, and an identifier has one at most.
    have points := congrArg (List.count '.') letters
    have fixed : (front .tsql).count '.' = 1 := by decide
    rw [List.count_append, List.count_append, id.count_point, other.count_point, fixed] at points
    have one : other.qualifier.toList.length ≤ 1 := by cases other.qualifier <;> simp
    have none : id.qualifier.toList.length = 0 := by omega
    simpa using none

end

/-! ### Creation -/

/-- The words that a family creates a routine with. -/
def creation : Family → String
  | .tsql => "CREATE OR ALTER PROCEDURE "
  | .mysql => "DELIMITER $$" ++ "\n" ++ "CREATE PROCEDURE "
  | .plpgsql => "CREATE OR REPLACE FUNCTION "
  | .plsql => "CREATE OR REPLACE PROCEDURE "

/-- What ends the name of a new routine: a line feed in T-SQL, else a parenthesis. -/
def nameEnd : Family → Char
  | .tsql => '\n'
  | .mysql | .plpgsql | .plsql => '('

/-- A text that creates a routine under a name. -/
def Creates (family : Family) (text name : String) : Prop :=
  nameEnd family ∉ name.toList ∧ ∃ after, text = creation family ++ name ++ String.ofList [nameEnd family] ++ after

/-- A routine begins with its creation under its name. -/
theorem exists_opening_eq (family : Family) (types : TypeMap) (table : String) (r : Routine) :
    ∃ after, r.opening family types table =
      creation family ++ routineName family table r.operation ++ String.ofList [nameEnd family] ++ after := by
  unfold Routine.opening Routine.signature creation nameEnd
  cases family with
  | tsql | mysql | plpgsql | plsql =>
    simp only [String.append_assoc, -String.reduceAppend]
    exact ⟨_, rfl⟩

theorem creates_render (family : Family) (types : TypeMap) {table : String} (r : Routine)
    (inside : nameEnd family ∉ table.toList) :
    Creates family (r.render family types table) (routineName family table r.operation) := by
  constructor
  · have fixed : nameEnd family ∉ front family ++ suffix family r.operation := by
      cases family <;> cases r.operation <;> decide
    simp only [List.mem_append, not_or] at fixed
    simp [toList_routineName, fixed, inside]
  · obtain ⟨after, opened⟩ := exists_opening_eq family types table r
    rw [Routine.render_eq, opened]
    exact ⟨after ++ "\n" ++ ("  " ++ r.bodyText) ++ "\n" ++ closing family, by simp only [String.append_assoc]⟩

/-- A text creates a routine under one name at most. -/
theorem creates_unique {family : Family} {text name name' : String} (creates : Creates family text name)
    (creates' : Creates family text name') : name = name' := by
  obtain ⟨inside, after, rfl⟩ := creates
  obtain ⟨inside', after', same⟩ := creates'
  have run {s : String} (inside : nameEnd family ∉ s.toList) : ∀ c ∈ s.toList, (c != nameEnd family) = true := by
    intro c member
    simpa using fun same : c = nameEnd family => inside (same ▸ member)
  have behind (rest : List Char) : Stops (· != nameEnd family) (nameEnd family :: rest) := by simp
  have split : name.toList ++ nameEnd family :: after.toList = name'.toList ++ nameEnd family :: after'.toList := by
    simpa using congrArg String.toList same
  exact String.toList_inj.mp (run_unique (run inside) (behind _) (run inside') (behind _) split).1

/-! ### Routines on a table with an identifier as its name -/

/-- The statement that creates a table under a name, with a text between its parentheses. -/
def createTable (name body : String) : String := "CREATE TABLE " ++ name ++ " (" ++ body ++ ")"

/-- A statement has the identifier that it creates a table under as its table name, letter by letter. -/
theorem Identifier.name_parse_createTable (id : Identifier) (body : String) :
    (parse (createTable id.name body)).table.name = id.name := by
  let frame : Frame :=
    { create := ⟨⟨"CREATE".toList, by decide, by decide, by decide⟩, ⟨⟨[' '], List.all_eq_true.mp rfl⟩, by decide⟩,
        ⟨"TABLE".toList, by decide, by decide, by decide⟩⟩
      gap := ⟨⟨[' '], List.all_eq_true.mp rfl⟩, by decide⟩
      name := id.text
      named := id.text_ne_nil
      nameChars := fun c member => id.isNameChar_of_mem_text member
      blanks := ⟨[' '], List.all_eq_true.mp rfl⟩
      trailing := []
      unclosed := by decide }
  have framed : createTable id.name body = String.ofList (frame.around body.toList) := by
    unfold createTable
    rw [← String.toList_inj]
    simp [Frame.around, Frame.front, KeywordPair.text, frame, Identifier.name]
  rw [framed, frame.parse_around]
  rfl

/-- A table keeps an identifier that it is created under as its name, and each of its routines is created under that
    name with the word of the operation behind it and, in T-SQL, a schema before it. This is an identifier if and only
    if the last part of the table's name has no marks and T-SQL finds no qualifier: then it is the one with the word of
    the operation in its last part and one qualifier at most; else no identifier is spelled so. -/
theorem routine_names_iff (id : Identifier) :
    (∀ body, (parse (createTable id.name body)).table.name = id.name) ∧
      ∀ family types columns keys, ∀ r ∈ routines family id.name columns keys,
        (∀ name, Creates family (r.render family types id.name) name ↔ name = routineName family id.name r.operation) ∧
          (routineName family id.name r.operation = (id.forRoutine family r.operation).name ↔ Extensible family id) ∧
          ((∃ other : Identifier, routineName family id.name r.operation = other.name) ↔ Extensible family id) := by
  refine ⟨id.name_parse_createTable, fun family types columns keys r _ => ?_⟩
  have inside : nameEnd family ∉ id.name.toList := by
    rw [Identifier.name, String.toList_ofList]
    intro member
    cases family <;> exact id.letter_of_mem_text member |>.elim (by decide) (by decide)
  have created := creates_render family types r inside
  have spelled := routineName_eq_of_extensible family id r.operation
  refine ⟨fun name => ⟨fun creates => creates_unique creates created, fun same => same ▸ created⟩, ?_, ?_⟩
  · exact ⟨extensible_of_routineName family id r.operation, spelled⟩
  · exact ⟨fun ⟨_, same⟩ => extensible_of_routineName family id r.operation same, fun given => ⟨_, spelled given⟩⟩

/-- T-SQL puts its schema before a name that has one: no identifier has three parts. -/
theorem no_identifier_of_qualified :
    let table : Identifier :=
      ⟨some ⟨.bare, ⟨"dbo".toList, by decide, List.all_eq_true.mp rfl⟩⟩,
        ⟨.bare, ⟨"Customers".toList, by decide, List.all_eq_true.mp rfl⟩⟩⟩
    table.name = "dbo.Customers" ∧ routineName .tsql table.name .insert = "dbo.dbo.Customers_Insert" ∧
      ¬∃ other : Identifier, routineName .tsql table.name .insert = other.name := by
  intro table
  refine ⟨by decide, by decide, fun named => ?_⟩
  have names := ((routine_names_iff table).2 .tsql sqlServerTypes [] [] _ List.mem_cons_self).2.2
  exact absurd ((names.mp named).unqualified rfl) (by decide)

end CrudScripts.Script
