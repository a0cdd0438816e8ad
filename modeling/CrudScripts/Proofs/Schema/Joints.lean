import CrudScripts.Proofs.Schema.Splitting

/-!
What a body is cut into. Every body consists of whole parts, each with a comma behind it, and a rest without a comma at
depth zero (`exists_lead_append`); parts and rest are its clauses, unless the rest is empty. So joining the clauses gives
the body back but for a comma at its end, and the commas inside a clause all stand at another depth than zero, which may
be a negative one where more parentheses are closed than opened (`splitTopLevel_inverts_joining`).
-/
namespace CrudScripts.Schema
open CrudScripts.Text

/-- Depth counts opening parentheses against closing ones. -/
theorem depth_eq_count (s : List Char) : depth s = s.count '(' - s.count ')' := by
  have counted (d : Int) : s.foldl depthAfter d = d + s.count '(' - s.count ')' := by
    induction s generalizing d with
    | nil => simp
    | cons c s ih =>
      rw [List.foldl_cons, ih, List.count_cons, List.count_cons, depthAfter]
      by_cases opening : c = '('
      · subst opening
        simp
        omega
      · by_cases closing : c = ')'
        · subst closing
          simp
          omega
        · simp [opening, closing]
  simpa [depth] using counted 0

theorem whole_iff_count (s : List Char) : Whole s ↔ s.count '(' = s.count ')' ∧ Uncut s := by
  have balanced : depth s = 0 ↔ s.count '(' = s.count ')' := by
    rw [depth_eq_count]
    omega
  constructor
  · exact fun whole => ⟨balanced.mp whole.balanced, whole.uncut⟩
  · exact fun ⟨even, uncut⟩ => ⟨balanced.mpr even, uncut⟩

/-- Where a comma stands at depth zero, there is a first one. -/
theorem exists_first_joint {part : List Char} (rest : List Char) (balanced : depth part = 0) :
    ∃ first later, part ++ ',' :: rest = first ++ ',' :: later ∧ Whole first := by
  by_cases uncut : Uncut part
  · exact ⟨part, rest, rfl, balanced, uncut⟩
  · simp only [Uncut, not_forall, not_not] at uncut
    obtain ⟨before, after, rfl, zero⟩ := uncut
    obtain ⟨first, later, split, whole⟩ := exists_first_joint (after ++ ',' :: rest) zero
    exact ⟨first, later, by simpa using split, whole⟩
termination_by part.length

/-- Every body consists of whole parts with a comma behind each of them, and an uncut rest. -/
theorem exists_lead_append (s : List Char) :
    ∃ parts last, s = lead parts ++ last ∧ (∀ part ∈ parts, Whole part) ∧ Uncut last := by
  by_cases uncut : Uncut s
  · exact ⟨[], s, rfl, by simp, uncut⟩
  · simp only [Uncut, not_forall, not_not] at uncut
    obtain ⟨before, after, rfl, zero⟩ := uncut
    obtain ⟨first, later, split, whole⟩ := exists_first_joint after zero
    have shorter : later.length < (before ++ ',' :: after).length := by
      rw [split, List.length_append, List.length_cons]
      omega
    obtain ⟨parts, last, rfl, all, uncut⟩ := exists_lead_append later
    refine ⟨first :: parts, last, ?_, List.forall_mem_cons.mpr ⟨whole, all⟩, uncut⟩
    rw [split, lead_cons, List.append_assoc, List.cons_append]
termination_by s.length

/-- A text in front that is balanced does not change the depth. -/
theorem depth_append_of_balanced {a : List Char} (balanced : depth a = 0) (b : List Char) : depth (a ++ b) = depth b := by
  rw [depth_append, balanced]
  rfl

theorem depth_lead {parts : List (List Char)} (whole : ∀ part ∈ parts, Whole part) : depth (lead parts) = 0 := by
  induction parts with
  | nil => rfl
  | cons part parts ih =>
    rw [lead_cons, depth_append_of_balanced (whole part List.mem_cons_self).balanced]
    exact ih fun other member => whole other (List.mem_cons_of_mem _ member)

/-- A body that ends with a comma at depth zero. -/
def EndsInJoint (s : List Char) : Prop := ∃ front, s = front ++ [','] ∧ depth front = 0

/-- The uncut rest of a body is empty when the body ends with a comma at depth zero, and when nothing is in it. -/
theorem endsInJoint_lead_iff {parts : List (List Char)} {last : List Char} (whole : ∀ part ∈ parts, Whole part)
    (uncut : Uncut last) : EndsInJoint (lead parts ++ last) ↔ last = [] ∧ parts ≠ [] := by
  constructor
  · rintro ⟨front, ended, zero⟩
    have empty : last = [] := by
      by_contra some
      -- The last character of the rest would be the comma, which the rest does not have at depth zero.
      obtain ⟨before, c, rfl⟩ := (List.eq_nil_or_concat' last).resolve_left some
      rw [← List.append_assoc] at ended
      obtain ⟨rfl, same⟩ := List.append_inj' ended rfl
      obtain rfl : c = ',' := List.singleton_inj.mp same
      rw [depth_append_of_balanced (depth_lead whole)] at zero
      exact uncut before [] rfl zero
    refine ⟨empty, ?_⟩
    rintro rfl
    simp [empty, lead] at ended
  · rintro ⟨rfl, some⟩
    obtain ⟨earlier, part, rfl⟩ := (List.eq_nil_or_concat' parts).resolve_left some
    obtain ⟨front, final⟩ := List.forall_mem_append.mp whole
    refine ⟨lead earlier ++ part, by simp [lead_concat], ?_⟩
    rw [depth_append_of_balanced (depth_lead front), (final part List.mem_cons_self).balanced]

theorem splitTopLevel_lead {parts : List (List Char)} {last : List Char} (whole : ∀ part ∈ parts, Whole part)
    (uncut : Uncut last) : splitTopLevel (lead parts ++ last) = if last = [] then parts else parts ++ [last] := by
  simp only [splitTopLevel, piecesFrom_lead whole uncut, List.getLast?_concat, Option.some.injEq, List.dropLast_concat]

/-- Joining the clauses of a body gives the body, but for a comma at depth zero at its end. -/
theorem intercalate_splitTopLevel (s : List Char) :
    (¬ EndsInJoint s → List.intercalate [','] (splitTopLevel s) = s) ∧
      (EndsInJoint s → List.intercalate [','] (splitTopLevel s) ++ [','] = s) := by
  obtain ⟨parts, last, rfl, whole, uncut⟩ := exists_lead_append s
  rw [endsInJoint_lead_iff whole uncut, splitTopLevel_lead whole uncut]
  by_cases empty : last = []
  · subst empty
    rcases List.eq_nil_or_concat' parts with rfl | ⟨earlier, part, rfl⟩
    · simp [lead]
    · simp [intercalate_concat, lead_concat]
  · simp [empty, intercalate_concat]

theorem intercalate_splitTopLevel_eq_iff (s : List Char) :
    List.intercalate [','] (splitTopLevel s) = s ↔ ¬ EndsInJoint s := by
  obtain ⟨whole, ended⟩ := intercalate_splitTopLevel s
  refine ⟨fun same ends => ?_, whole⟩
  have lengths := congrArg List.length (ended ends)
  rw [same, List.length_append, List.length_singleton] at lengths
  omega

theorem intercalate_splitTopLevel_eq_dropLast_iff (s : List Char) :
    s ≠ [] ∧ List.intercalate [','] (splitTopLevel s) = s.dropLast ↔ EndsInJoint s := by
  obtain ⟨whole, ended⟩ := intercalate_splitTopLevel s
  constructor
  · rintro ⟨given, shorter⟩
    by_contra other
    have lengths := congrArg List.length ((whole other).symm.trans shorter)
    have positive := List.length_pos_iff.mpr given
    rw [List.length_dropLast] at lengths
    omega
  · intro ends
    have split := ended ends
    refine ⟨fun empty => by simp [empty] at split, ?_⟩
    exact List.dropLast_concat.symm.trans (congrArg List.dropLast split)

theorem splitTopLevel_prefix (s : List Char) : splitTopLevel s <+: piecesFrom 0 s := by
  simp only [splitTopLevel]
  split
  · exact List.dropLast_prefix _
  · exact List.prefix_rfl

/-- A clause of a body stands in it behind the earlier ones, which are whole, and is uncut itself. -/
theorem part_of_splitTopLevel {s part : List Char} {earlier later : List (List Char)}
    (cut : splitTopLevel s = earlier ++ part :: later) :
    (∀ other ∈ earlier, Whole other) ∧ Uncut part ∧ lead earlier ++ part <+: s := by
  obtain ⟨parts, last, rfl, whole, uncut⟩ := exists_lead_append s
  obtain ⟨more, pieces⟩ := splitTopLevel_prefix (lead parts ++ last)
  rw [cut, piecesFrom_lead whole uncut, List.append_assoc, List.cons_append] at pieces
  rcases List.eq_nil_or_concat' (later ++ more) with final | ⟨between, final, split⟩
  · rw [final] at pieces
    obtain ⟨rfl, same⟩ := List.append_inj' pieces rfl
    obtain rfl := List.singleton_inj.mp same
    exact ⟨whole, uncut, List.prefix_rfl⟩
  · rw [split, ← List.cons_append, ← List.append_assoc] at pieces
    obtain ⟨rfl, -⟩ := List.append_inj' pieces rfl
    obtain ⟨front, rest⟩ := List.forall_mem_append.mp whole
    refine ⟨front, (rest part List.mem_cons_self).uncut, ',' :: lead between ++ last, ?_⟩
    simp [lead]

/-- Joining the clauses of a body gives the body back exactly when it does not end with a comma at depth zero, and the
    body without that comma exactly when it does; and no comma of the body inside a clause stands at depth zero. The
    other way round, cutting a joined list gives the list, when its texts have as many opening as closing parentheses
    and no comma at depth zero, and the last of them is not empty. -/
theorem splitTopLevel_inverts_joining :
    (∀ s, (List.intercalate [','] (splitTopLevel s) = s ↔ ¬ EndsInJoint s) ∧
        (s ≠ [] ∧ List.intercalate [','] (splitTopLevel s) = s.dropLast ↔ EndsInJoint s) ∧
        ∀ earlier part later, splitTopLevel s = earlier ++ part :: later →
          lead earlier ++ part <+: s ∧
            ∀ before after, part = before ++ ',' :: after → depth (lead earlier ++ before) ≠ 0) ∧
      ∀ parts : List (List Char),
        (∀ part ∈ parts, part.count '(' = part.count ')' ∧
          ∀ before after, part = before ++ ',' :: after → depth before ≠ 0) →
        parts.getLast? ≠ some [] → splitTopLevel (List.intercalate [','] parts) = parts := by
  constructor
  · intro s
    refine ⟨intercalate_splitTopLevel_eq_iff s, intercalate_splitTopLevel_eq_dropLast_iff s, ?_⟩
    intro earlier part later cut
    obtain ⟨front, uncut, inside⟩ := part_of_splitTopLevel cut
    refine ⟨inside, fun before after split => ?_⟩
    rw [depth_append_of_balanced (depth_lead front)]
    exact uncut before after split
  · intro parts balanced last
    exact splitTopLevel_intercalate (fun part member => (whole_iff_count part).mpr (balanced part member)) last

/-- The commas between the parameters of a type and between the names of a key are no joints; nor is one behind a
    parenthesis that was never opened. -/
theorem splitTopLevel_of_nested_commas :
    let parts := ["a INT".toList, "price DECIMAL(18,2)".toList, "PRIMARY KEY (a,price)".toList]
    (∀ part ∈ parts, part.count '(' = part.count ')' ∧
        ∀ before after, part = before ++ ',' :: after → depth before ≠ 0) ∧
      splitTopLevel (List.intercalate [','] parts) = parts ∧
      splitTopLevel "a),b".toList = ["a),b".toList] ∧ depth "a)".toList ≠ 0 := by
  intro parts
  have grouped (front inside : List Char) (plain : ∀ c ∈ front, c ≠ '(' ∧ c ≠ ')' ∧ c ≠ ',')
      (plain' : ∀ c ∈ inside, c ≠ '(' ∧ c ≠ ')') : Whole (front ++ ('(' :: inside ++ [')'])) :=
    (whole_of_plain plain).append (whole_group plain')
  have column : Whole "a INT".toList := whole_of_plain (by simp)
  have price : Whole "price DECIMAL(18,2)".toList :=
    grouped "price DECIMAL".toList "18,2".toList (by simp) (by simp)
  have key : Whole "PRIMARY KEY (a,price)".toList :=
    grouped "PRIMARY KEY ".toList "a,price".toList (by simp) (by simp)
  have whole : ∀ part ∈ parts, Whole part :=
    List.forall_mem_cons.mpr ⟨column, List.forall_mem_cons.mpr ⟨price, List.forall_mem_singleton.mpr key⟩⟩
  have counted := fun part member => (whole_iff_count part).mp (whole part member)
  have one : splitTopLevel "a),b".toList = ["a),b".toList] := by decide
  refine ⟨counted, splitTopLevel_inverts_joining.2 parts counted (by decide), one, ?_⟩
  exact ((splitTopLevel_inverts_joining.1 _).2.2 [] _ [] one).2 "a)".toList "b".toList rfl

end CrudScripts.Schema
