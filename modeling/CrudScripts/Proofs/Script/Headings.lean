import CrudScripts.Proofs.Schema.Names
import CrudScripts.Proofs.Script.RowStatements
import CrudScripts.Proofs.Text.Marks

/-!
Taking a script apart at its headings. The text under a heading is what stands behind the first line with that
heading, up to the next empty line (`textUnder`). A line of a statement ends in a parenthesis or a semicolon and the
name of a table has no blank, so no line before a heading ends with it (`textUnder_headed`); and what a script has on
request stands behind all that it has anyway (`generate_eq_append`).
-/
namespace CrudScripts.Script
open CrudScripts.Dialect CrudScripts.Schema CrudScripts.Text

/-- The text under a heading of a script. -/
def textUnder (heading script : String) : Option String :=
  (behind ("-- " ++ heading ++ "\n").toList script.toList).map fun rest => String.ofList (trim (paragraph rest))

/-- The headings of the statements, in order. -/
def statementHeadings : List String := ["INSERT", "UPDATE by PK", "SELECT by PK"]

/-- A text of which no line ends with a heading. -/
def Without (heading text : String) : Prop := ∀ line ∈ lines text, ¬ ("-- " ++ heading).toList <:+ line

/-! ### Sections -/

section
variable {heading : String} (one : OneLine ("-- " ++ heading))
include one

theorem textUnder_append {front : String} (elsewhere : Without heading front) (rest : String) :
    textUnder heading (front ++ "\n" ++ rest) = textUnder heading rest := by
  have letters (a b : String) : (a ++ "\n" ++ b).toList = a.toList ++ '\n' :: b.toList := by
    rw [String.toList_append, String.toList_append, List.append_assoc]
    rfl
  have mark : ("-- " ++ heading ++ "\n").toList = ("-- " ++ heading).toList ++ ['\n'] := String.toList_append
  rw [textUnder, letters, mark, behind_append one elsewhere, textUnder, mark]

theorem textUnder_cons {first : String} (elsewhere : Without heading first) (next : String) (others : List String) :
    textUnder heading (join "\n\n" (first :: next :: others) ++ "\n") =
      textUnder heading (join "\n\n" (next :: others) ++ "\n") := by
  have apart : join "\n\n" (first :: next :: others) ++ "\n" =
      first ++ "\n" ++ ("" ++ "\n" ++ (join "\n\n" (next :: others) ++ "\n")) := by
    rw [join, show "\n\n" = "\n" ++ "\n" from rfl]
    simp only [String.append_assoc, String.empty_append]
  have empty : Without heading "" := by
    intro line member ends
    rw [show lines "" = [[]] from rfl, List.mem_singleton] at member
    rw [member, List.suffix_nil, String.toList_append] at ends
    cases (List.append_eq_nil_iff.mp ends).1
  rw [apart, textUnder_append one elsewhere, textUnder_append one empty]

end

/-- A heading and the text under it. -/
def headed (heading body : String) : String := "-- " ++ heading ++ "\n" ++ body

/-- A text that fills a paragraph is all that stands under its heading. -/
theorem textUnder_here (heading : String) {body : String} (trimmed : Trimmed body.toList)
    (solid : ∀ line ∈ lines body, line ≠ []) (others : List String) :
    textUnder heading (join "\n\n" (headed heading body :: others) ++ "\n") = some body := by
  have filled (rest : List Char) : paragraph (body.toList ++ rest) = body.toList ++ paragraph rest :=
    paragraph_append (fun line member => solid line (List.mem_of_mem_tail member)) rest
  have closed (after : Blanks) : String.ofList (trim (body.toList ++ after.text)) = body := by
    have stripped := trim_append trimmed ⟨[], by simp⟩ after
    rw [List.nil_append] at stripped
    rw [stripped, String.ofList_toList]
  obtain ⟨rest, same, blank⟩ : ∃ rest : String, join "\n\n" (headed heading body :: others) ++ "\n" =
      "-- " ++ heading ++ "\n" ++ (body ++ rest) ∧ ∀ c ∈ paragraph rest.toList, isBlank c = true := by
    cases others with
    | nil => exact ⟨"\n", by simp only [join, headed, String.append_assoc], List.all_eq_true.mp (by decide)⟩
    | cons next others =>
      refine ⟨"\n\n" ++ (join "\n\n" (next :: others) ++ "\n"), ?_, ?_⟩
      · simp only [join, headed, String.append_assoc]
      · rw [String.toList_append]
        exact fun c member => absurd member List.not_mem_nil
  have letters : ("-- " ++ heading ++ "\n" ++ (body ++ rest)).toList =
      ("-- " ++ heading ++ "\n").toList ++ (body.toList ++ rest.toList) := by
    rw [String.toList_append, String.toList_append (s := body)]
  rw [textUnder, same, letters, behind_mark, Option.map_some, filled]
  exact congrArg some (closed ⟨_, blank⟩)

/-- The text under a heading is found behind sections of which no line ends with it. -/
theorem textUnder_headed {heading : String} (one : OneLine ("-- " ++ heading)) {body : String}
    (trimmed : Trimmed body.toList) (solid : ∀ line ∈ lines body, line ≠ []) {before : List String}
    (elsewhere : ∀ text ∈ before, Without heading text) (after : List String) :
    textUnder heading (join "\n\n" (before ++ headed heading body :: after) ++ "\n") = some body := by
  induction before with
  | nil => exact textUnder_here heading trimmed solid after
  | cons first before ih =>
    have rest := ih fun text member => elsewhere text (List.mem_cons_of_mem _ member)
    obtain ⟨next, others, split⟩ := List.exists_cons_of_ne_nil
      (show before ++ headed heading body :: after ≠ [] by simp)
    rw [List.cons_append, split, textUnder_cons one (elsewhere first List.mem_cons_self), ← split, rest]

/-! ### Lines before a heading -/

theorem oneLine_heading {heading : String} (known : heading ∈ statementHeadings) : OneLine ("-- " ++ heading) :=
  (show ∀ heading ∈ statementHeadings, OneLine ("-- " ++ heading) by decide) heading known

theorem Framed.no_heading {line : List Char} (framed : Framed line) {heading : String}
    (known : heading ∈ statementHeadings) : ¬ ("-- " ++ heading).toList <:+ line := by
  have headings : ∀ heading ∈ statementHeadings, ("-- " ++ heading).toList ≠ [] ∧
      ∀ close ∈ lineEnds, ¬ close.toList <:+ ("-- " ++ heading).toList := by decide
  intro ends
  obtain ⟨close, listed, closes⟩ := framed.suffix (headings heading known).1 ends
  exact (headings heading known).2 close listed closes

/-- The section that names the dialect and the table. -/
def titleSection (dialect table : String) : String := "-- Dialect: " ++ dialect ++ "\n-- Table: " ++ table

theorem lines_titleSection {dialect table : String} (one : OneLine dialect) (one' : OneLine table) :
    lines (titleSection dialect table) = [("-- Dialect: " ++ dialect).toList, ("-- Table: " ++ table).toList] := by
  rw [titleSection, show "\n-- Table: " = "\n" ++ "-- Table: " from rfl, ← String.append_assoc, String.append_assoc,
    lines_append, lines_of_oneLine (.append (by decide) one), lines_of_oneLine (.append (by decide) one')]
  rfl

/-- No line that names a table ends with a heading, since the name of a table has no blank. -/
theorem table_no_heading {table : String} (solid : ' ' ∉ table.toList) {heading : String}
    (known : heading ∈ statementHeadings) : ¬ ("-- " ++ heading).toList <:+ ("-- Table: " ++ table).toList := by
  have words : ∀ heading ∈ statementHeadings, ∃ lead ∈ ["--", "-- UPDATE by", "-- SELECT by"],
      ∃ word ∈ ["INSERT", "PK"], ("-- " ++ heading).toList = lead.toList ++ ' ' :: word.toList := by decide
  have plain : ∀ word ∈ ["INSERT", "PK"], ' ' ∉ word.toList := by decide
  have elsewhere : ∀ lead ∈ ["--", "-- UPDATE by", "-- SELECT by"], ¬ lead.toList <:+ "-- Table:".toList := by decide
  obtain ⟨lead, first, word, last, same⟩ := words heading known
  rw [same, show "-- Table: " = "-- Table:" ++ " " from rfl, String.toList_append, String.toList_append,
    List.append_assoc]
  exact fun ends => elsewhere lead first (suffix_of_last_word (plain word last) solid ends)

theorem without_titleSection {dialect table : String} (supported : dialect ∈ supportedNames)
    (solid : ' ' ∉ table.toList) (one : OneLine table) {heading : String} (known : heading ∈ statementHeadings) :
    Without heading (titleSection dialect table) := by
  have dialects : ∀ name ∈ supportedNames, OneLine name ∧
      ∀ heading ∈ statementHeadings, ¬ ("-- " ++ heading).toList <:+ ("-- Dialect: " ++ name).toList := by
    decide +kernel
  rw [Without, lines_titleSection (dialects dialect supported).1 one]
  exact List.forall_mem_cons.mpr ⟨(dialects dialect supported).2 heading known,
    List.forall_mem_singleton.mpr (table_no_heading solid known)⟩

theorem without_headed {body : String} (framed : FramedLines body) {heading other : String}
    (known : heading ∈ statementHeadings) (known' : other ∈ statementHeadings) (apart : heading ≠ other) :
    Without heading (headed other body) := by
  have headings : ∀ heading ∈ statementHeadings, ∀ other ∈ statementHeadings, heading ≠ other →
      ¬ ("-- " ++ heading).toList <:+ ("-- " ++ other).toList := by decide
  rw [Without, headed, lines_append, lines_of_oneLine (oneLine_heading known')]
  exact List.forall_mem_append.mpr ⟨List.forall_mem_singleton.mpr (headings heading known other known' apart),
    fun line member => (framed.lines line member).no_heading known⟩

/-- Under different headings of statements stand the texts that were put there, whatever else follows. -/
theorem textUnder_of_mem {title : String} (untitled : ∀ heading ∈ statementHeadings, Without heading title)
    (pieces : List (String × String)) (known : ∀ piece ∈ pieces, piece.1 ∈ statementHeadings)
    (framed : ∀ piece ∈ pieces, FramedLines piece.2) (distinct : (pieces.map (·.1)).Nodup) (more : List String) :
    ∀ piece ∈ pieces, textUnder piece.1
      (join "\n\n" (title :: pieces.map (fun piece => headed piece.1 piece.2) ++ more) ++ "\n") = some piece.2 := by
  intro piece member
  obtain ⟨before, after, rfl⟩ := List.append_of_mem member
  rw [List.map_append, List.map_cons, List.cons_append, List.append_assoc, List.cons_append, ← List.cons_append]
  have shape := framed piece member
  refine textUnder_headed (oneLine_heading (known piece member)) shape.whole.trimmed
    (fun line inside => (shape.lines line inside).ne_nil) (List.forall_mem_cons.mpr ⟨?_, ?_⟩) _
  · exact untitled piece.1 (known piece member)
  · refine List.forall_mem_map.mpr fun other inside => ?_
    have listed := List.mem_append_left (piece :: after) inside
    rw [List.map_append, List.map_cons] at distinct
    refine without_headed (framed other listed) (known piece member) (known other listed) fun same => ?_
    exact (List.nodup_append.mp distinct).2.2 _ (List.mem_map_of_mem inside) _ List.mem_cons_self same.symm

/-! ### Scripts -/

/-- What a script has where a section is wanted: an empty line and the section. -/
def added (wanted : Bool) (text : String) : String := if wanted then "\n\n" ++ text else ""

section
variable (d : Dialect) (t : Table)

/-- The statements of a script stand under their headings. -/
theorem textUnder_generate (supported : d.name ∈ supportedNames) (solid : ∀ c ∈ t.name.toList, isBlank c = false)
    (names : ∀ c ∈ t.columns, OneLine c.name) (features : Features) :
    statementHeadings.map (textUnder · (generate d t features)) = (statementTexts d t).map some := by
  have oneTable : OneLine t.name := fun broken => absurd (solid _ broken) (by decide)
  have framed := framedLines_statementTexts d oneTable names
  have under := textUnder_of_mem
    (fun _ known => without_titleSection supported (fun blank => absurd (solid _ blank) (by decide)) oneTable known)
    (statementHeadings.zip (statementTexts d t)) (fun _ member => (List.of_mem_zip member).1)
    (fun _ member => framed _ (List.of_mem_zip member).2) (show statementHeadings.Nodup by decide)
    (extraSections d t features)
  -- The sections behind the first are the headings with the statements, in order.
  exact List.map_congr_left under

/-- The sections that a script has on request stand behind all the others. -/
theorem generate_eq_append (features : Features) : generate d t features = join "\n\n" (coreSections d t) ++
    added features.routines (routineSection d t.name t.nonKeyColumns t.effectiveKey) ++
    added features.diff diffPlaceholder ++ "\n" := by
  have given : coreSections d t ≠ [] := List.cons_ne_nil _ _
  rw [generate, join_append "\n\n" given]
  obtain ⟨routines, diff⟩ := features
  cases routines <;> cases diff <;> simp [extraSections, added, String.append_assoc]

end

/-- The script of a reading for a supported dialect is taken apart again: under the headings stand the three
    statements of the table. Without its last line end, the script with no sections on request is the front of every
    other, and behind it stand the routines and the remark on differences, as far as they are asked for, each after an
    empty line, and the line end. -/
theorem script_taken_apart (name sql : String) (features : Features) (supported : Dialect.isSupported name = true) :
    let d := Dialect.named name
    let t := (parse sql).table
    statementHeadings.map (textUnder · (generate d t features)) = (statementTexts d t).map some ∧
      ∃ core, generate d t ⟨false, false⟩ = core ++ "\n" ∧ generate d t features = core ++
        added features.routines (routineSection d t.name t.nonKeyColumns t.effectiveKey) ++
        added features.diff diffPlaceholder ++ "\n" := by
  intro d t
  have known : d.name ∈ supportedNames := by
    rw [Dialect.name_named]
    exact List.contains_iff_mem.mp supported
  have solid : ∀ c ∈ t.name.toList, isBlank c = false := fun c member => by
    have plain := isNameChar_of_mem_parse member
    rw [isNameChar, Bool.and_eq_true, Bool.not_eq_true'] at plain
    exact plain.1
  refine ⟨textUnder_generate d t known solid (fun _ => oneLine_of_mem_parse) features, _, ?_,
    generate_eq_append d t features⟩
  rw [generate_eq_append]
  simp [added]

/-- A script with routines and a remark on differences, taken apart. -/
theorem mysql_script_taken_apart :
    let script := generate (Dialect.named "MySQL") (parse "CREATE TABLE INSERT (id INT PRIMARY KEY, a INT)").table
      ⟨true, true⟩
    Dialect.isSupported "MySQL" = true ∧
      statementHeadings.map (textUnder · script) = [some "INSERT INTO INSERT (a)\nVALUES (?);",
        some "UPDATE INSERT SET a = ? WHERE id = ?;", some "SELECT * FROM INSERT WHERE id = ?;"] :=
  ⟨by decide, (script_taken_apart "MySQL" "CREATE TABLE INSERT (id INT PRIMARY KEY, a INT)" ⟨true, true⟩
    (by decide)).1.trans rfl⟩

end CrudScripts.Script
