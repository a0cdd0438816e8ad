import CrudScripts.Proofs.Schema.Names
import CrudScripts.Proofs.Script.RowStatements

/-!
The code of a script without routines: its lines that are neither blank nor a comment. The headings of the sections
are comments, so what is left are the lines of the three statements. A heading is a comment up to the end of its
first line only; the name of a dialect may have more than one, and then the others stand in the script as they are
(`plain_script_code`).
-/
namespace CrudScripts.Script
open CrudScripts.Dialect CrudScripts.Schema CrudScripts.Text

/-- Whether a line has something that is run: it is neither blank nor a comment. -/
def isCode (line : List Char) : Bool := !(allBlank line || "--".toList.isPrefixOf line)

/-- The lines of a script that are run. -/
def codeLines (script : String) : List (List Char) := (lines script).filter isCode

/-- What the name of a dialect has behind its first line. -/
def laterLines (name : String) : List (List Char) := (lines name).tail

/-! ### Comments and code -/

theorem codeLines_append (a b : String) : codeLines (a ++ "\n" ++ b) = codeLines a ++ codeLines b := by
  rw [codeLines, lines_append, List.filter_append]
  rfl

/-- Behind the mark of a comment, the rest of the line is a comment, and no more than that. -/
theorem codeLines_comment (lead text : String) (plain : OneLine lead) :
    codeLines ("--" ++ lead ++ text) = (laterLines text).filter isCode := by
  have mark : OneLine ("--" ++ lead) := .append (by decide) plain
  rw [codeLines, lines, String.toList_append, cut_append mark, laterLines, lines]
  obtain ⟨first, later, pieces⟩ := exists_cut '\n' text.toList
  have comment : isCode (("--" ++ lead).toList ++ first) = false := by
    rw [String.toList_append, isCode, List.append_assoc, List.isPrefixOf_iff_prefix.mpr (List.prefix_append _ _),
      Bool.or_true, Bool.not_true]
  rw [pieces, List.modifyHead_cons, List.filter_cons_of_neg (by rw [comment]; decide), List.tail_cons]

theorem laterLines_of_oneLine {text : String} (one : OneLine text) : laterLines text = [] := by
  rw [laterLines, lines_of_oneLine one, List.tail_cons]

/-- A section of a script that is headed by a comment of one line. -/
theorem codeLines_headed (comment body : String) (plain : OneLine comment) :
    codeLines ("--" ++ comment ++ "\n" ++ body) = codeLines body := by
  have heading := codeLines_comment comment "" plain
  rw [String.append_empty] at heading
  rw [codeLines_append, heading, laterLines_of_oneLine (by decide), List.filter_nil, List.nil_append]

/-- Two letters decide whether a line is code, when they are not all blank. -/
theorem isCode_append {lead : List Char} (code : isCode lead = true) (two : 2 ≤ lead.length) (rest : List Char) :
    isCode (lead ++ rest) = true := by
  -- A single hyphen at the end of `lead` could still become the mark of a comment.
  obtain ⟨a, b, more, rfl⟩ : ∃ a b more, lead = a :: b :: more := by
    match lead, two with
    | a :: b :: more, _ => exact ⟨a, b, more, rfl⟩
  simp only [isCode, allBlank, Bool.not_eq_true', Bool.or_eq_false_iff] at code ⊢
  refine ⟨?_, code.2⟩
  rw [List.all_append, code.1, Bool.false_and]

/-! ### The sections of a script -/

section
variable (d : Dialect) {t : Table} (oneTable : OneLine t.name) (names : ∀ c ∈ t.columns, OneLine c.name)
include oneTable names

/-- Every line of a statement is code. -/
theorem codeLines_statementTexts : ∀ text ∈ statementTexts d t, codeLines text = lines text := by
  have code : ∀ lead ∈ lineLeads, isCode lead.toList = true ∧ 2 ≤ lead.toList.length := by decide
  intro text member
  refine List.filter_eq_self.mpr fun line inside => ?_
  have framed := (framedLines_statementTexts d oneTable names text member).lines line inside
  obtain ⟨lead, known, more, rfl⟩ := framed.begins
  exact isCode_append (code lead known).1 (code lead known).2 more

theorem codeLines_coreSections : (coreSections d t).flatMap codeLines =
    (laterLines d.name).filter isCode ++ (statementTexts d t).flatMap lines := by
  have heading : codeLines ("-- Dialect: " ++ d.name ++ "\n-- Table: " ++ t.name) =
      (laterLines d.name).filter isCode := by
    -- Both lines open as comments. The name of the table ends on its line, that of the dialect need not.
    have dialect := codeLines_comment " Dialect: " d.name (by decide)
    have table := codeLines_comment " Table: " t.name (by decide)
    rw [laterLines_of_oneLine oneTable, List.filter_nil] at table
    rw [show "\n-- Table: " = "\n" ++ "-- Table: " from rfl, ← String.append_assoc, String.append_assoc,
      codeLines_append]
    exact (congrArg₂ _ dialect table).trans (List.append_nil _)
  have statement (comment text : String) (plain : OneLine comment) (member : text ∈ statementTexts d t) :
      codeLines ("--" ++ comment ++ "\n" ++ text) = lines text := by
    rw [codeLines_headed comment text plain, codeLines_statementTexts d oneTable names text member]
  have insert : codeLines ("-- INSERT\n" ++ scriptText (insertStatement d t)) =
      lines (scriptText (insertStatement d t)) := statement " INSERT" _ (by decide) (by simp [statementTexts])
  have update : codeLines ("-- UPDATE by PK\n" ++ scriptText (updateStatement d t)) =
      lines (scriptText (updateStatement d t)) := statement " UPDATE by PK" _ (by decide) (by simp [statementTexts])
  have select : codeLines ("-- SELECT by PK\n" ++ scriptText (selectStatement d t)) =
      lines (scriptText (selectStatement d t)) := statement " SELECT by PK" _ (by decide) (by simp [statementTexts])
  rw [coreSections, List.flatMap_cons, List.flatMap_cons, List.flatMap_cons, List.flatMap_cons, heading, insert,
    update, select]
  rfl

/-- The code of a script without routines: the later lines of the dialect's name, then the statements. -/
theorem codeLines_plain (diff : Bool) : codeLines (generate d t ⟨false, diff⟩) =
    (laterLines d.name).filter isCode ++ (statementTexts d t).flatMap lines := by
  have remark : codeLines diffPlaceholder = [] := by decide +kernel
  have sections : codeLines (generate d t ⟨false, diff⟩) =
      (coreSections d t).flatMap codeLines ++ (extraSections d t ⟨false, diff⟩).flatMap codeLines := by
    have read := @filterMap_lines_generate _ (Option.guard isCode) (by decide) d t ⟨false, diff⟩
    rw [List.filterMap_eq_filter] at read
    rw [← List.flatMap_append]
    exact read
  rw [sections, codeLines_coreSections d oneTable names]
  cases diff <;> simp [extraSections, remark]

/-- Behind a name on one line nothing is left but the statements. -/
theorem codeLines_plain_of_oneLine (one : OneLine d.name) (diff : Bool) :
    codeLines (generate d t ⟨false, diff⟩) = (statementTexts d t).flatMap lines := by
  rw [codeLines_plain d oneTable names, laterLines_of_oneLine one, List.filter_nil, List.nil_append]

end

/-- The code of a plain script is what the name of its dialect has behind its first line, and then the three
    statements; so the statements are all of it if and only if no later line of the name is code. -/
theorem plain_script_code (name sql : String) (diff : Bool) :
    let d := Dialect.named name
    let t := (parse sql).table
    codeLines (generate d t ⟨false, diff⟩) = (laterLines name).filter isCode ++ (statementTexts d t).flatMap lines ∧
      (codeLines (generate d t ⟨false, diff⟩) = (statementTexts d t).flatMap lines ↔
        ∀ line ∈ laterLines name, isCode line = false) := by
  intro d t
  have code : codeLines (generate d t ⟨false, diff⟩) =
      (laterLines name).filter isCode ++ (statementTexts d t).flatMap lines := by
    have plain := codeLines_plain d (oneLine_tableName_parse sql) (fun _ => oneLine_of_mem_parse) diff
    rwa [Dialect.name_named] at plain
  refine ⟨code, ?_⟩
  rw [code, List.append_left_eq_self, List.filter_eq_nil_iff]
  simp only [Bool.not_eq_true]

example : (laterLines "X\nDROP TABLE t;").filter isCode = ["DROP TABLE t;".toList] := by decide

end CrudScripts.Script
