import CrudScripts.Proofs.Schema.Grammar
import CrudScripts.Proofs.Schema.Splitting
import CrudScripts.Schema.Parse

/-!
The frame of a statement: the words `CREATE TABLE`, the name, the parentheses around the clauses, and
what follows them. Whatever whole clauses it holds, with whatever blanks around them, a statement is read
as its name and the readings of its clauses (`Frame.parse_sql`).
-/
namespace CrudScripts.Schema
open CrudScripts.Text

/-- What stands around the clauses of a statement. -/
structure Frame where
  create : KeywordPair "CREATE" "TABLE"
  gap : Gap
  name : List Char
  named : name ≠ []
  nameChars : ∀ c ∈ name, isNameChar c = true
  blanks : Blanks
  trailing : List Char
  unclosed : ')' ∉ trailing

namespace Frame

variable (frame : Frame)

def front : List Char := frame.create.text ++ (frame.gap.text ++ (frame.name ++ frame.blanks.text))

def around (body : List Char) : List Char := frame.front ++ '(' :: (body ++ ')' :: frame.trailing)

theorem not_allBlank (body : List Char) : allBlank (frame.around body) = false :=
  List.all_eq_false.mpr ⟨'(', by simp [around], by decide⟩

/-- The name is the one after the two keywords at the front. -/
theorem tableName_around (body : List Char) : tableName (frame.around body) = String.ofList frame.name := by
  have first : Stops isBlank (frame.name ++ (frame.blanks.text ++ '(' :: (body ++ ')' :: frame.trailing))) := by
    refine (stops_append frame.named _).mpr fun c member => ?_
    have char := frame.nameChars c (List.mem_of_mem_head? member)
    simp only [isNameChar, Bool.and_eq_true, Bool.not_eq_true'] at char
    exact char.1
  have stops : Stops isNameChar (frame.blanks.text ++ '(' :: (body ++ ')' :: frame.trailing)) :=
    frame.blanks.stops_text_append (fun c blank => by simp [isNameChar, blank]) (by simp [isNameChar])
  have words : dropKeywords "CREATE" "TABLE" (frame.around body) =
      some (frame.gap.text ++ (frame.name ++ (frame.blanks.text ++ '(' :: (body ++ ')' :: frame.trailing)))) := by
    simpa [around, front] using dropKeywords_pair frame.create _
  have run := (takeRun_eq_some_iff isNameChar _ _ _).mpr ⟨rfl, frame.named, frame.nameChars, stops⟩
  have here : nameAtFront (frame.around body) = some frame.name := by
    simp [nameAtFront, words, frame.gap.dropBlanks_append first, run]
  simp [tableName, firstMatch_of_isSome here]

theorem not_mem_front : '(' ∉ frame.front := by
  have name : '(' ∉ frame.name := fun member => absurd (frame.nameChars _ member) (by decide)
  simp [front, name, opening_not_mem_pair, opening_not_mem_blanks]

/-- The body is what stands between the parentheses of the frame. -/
theorem body_around (body : List Char) : Schema.body (frame.around body) = body := by
  have front : ∀ c ∈ frame.front, (c != '(') = true := by
    intro c member
    simpa using fun same : c = '(' => frame.not_mem_front (same ▸ member)
  have after : ∀ c ∈ frame.trailing.reverse, (c != ')') = true := by
    intro c member
    simpa using fun same : c = ')' => frame.unclosed (same ▸ List.mem_reverse.mp member)
  have opened : (frame.around body).dropWhile (· != '(') = '(' :: (body ++ ')' :: frame.trailing) :=
    dropWhile_append_stops front (by simp)
  have closed : (frame.trailing.reverse ++ ')' :: body.reverse).dropWhile (· != ')') = ')' :: body.reverse :=
    dropWhile_append_stops after (by simp)
  simp [Schema.body, opened, beforeLastClose, closed]

theorem parse_around (body : List Char) :
    parse (String.ofList (frame.around body)) = assemble (String.ofList frame.name) (readClauses body) := by
  simp only [parse, String.toList_ofList, frame.not_allBlank, frame.tableName_around, frame.body_around,
    Bool.false_eq_true, if_false]

end Frame

/-! ### Clauses in a frame -/

/-- The text of a clause: it is not empty, has no blanks at its ends and is not cut. -/
structure ClauseText where
  text : List Char
  nonempty : text ≠ []
  trimmed : Trimmed text
  whole : Whole text

/-- Something with the blanks around it. -/
structure Placed (α : Type) where
  before : Blanks
  item : α
  after : Blanks

namespace Placed

variable {α : Type} (clauseText : α → ClauseText) (placed : Placed α)

def text : List Char := placed.before.text ++ ((clauseText placed.item).text ++ placed.after.text)

theorem trim_text : trim (placed.text clauseText) = (clauseText placed.item).text :=
  trim_append (clauseText placed.item).trimmed _ _

theorem whole_text : Whole (placed.text clauseText) :=
  (whole_of_blanks placed.before).append ((clauseText placed.item).whole.append (whole_of_blanks placed.after))

end Placed

namespace Frame

variable (frame : Frame) {α : Type} (clauseText : α → ClauseText) (clauses : List (Placed α))

/-- The statement with clauses joined by commas. -/
def sql : String :=
  String.ofList (frame.around (List.intercalate [','] (clauses.map (Placed.text clauseText))))

theorem parse_sql :
    parse (frame.sql clauseText clauses) = assemble (String.ofList frame.name)
      (clauses.map fun placed => Clause.read (clauseText placed.item).text) := by
  have whole : ∀ clause ∈ clauses.map (Placed.text clauseText), Whole clause := by
    intro clause member
    obtain ⟨placed, -, rfl⟩ := List.mem_map.mp member
    exact placed.whole_text clauseText
  have trimmed : (clauses.map (Placed.text clauseText)).map trim =
      clauses.map fun placed => (clauseText placed.item).text := by
    rw [List.map_map]
    exact List.map_congr_left fun placed _ => placed.trim_text clauseText
  have all : (clauses.map fun placed => (clauseText placed.item).text).filter (fun clause => !clause.isEmpty) =
      clauses.map fun placed => (clauseText placed.item).text := by
    refine List.filter_eq_self.mpr fun clause member => ?_
    obtain ⟨placed, -, rfl⟩ := List.mem_map.mp member
    simp [(clauseText placed.item).nonempty]
  rw [sql, parse_around, readClauses, nonblank_splitTopLevel whole, trimmed, all, List.map_map]
  rfl

end Frame

end CrudScripts.Schema
