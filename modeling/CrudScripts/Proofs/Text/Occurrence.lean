import CrudScripts.Proofs.Text.Layout

/-!
Where keywords occur in a text. A character that no keyword has cuts a text into two sides that are
searched apart (`occurs_keyword_stop`, `occurs_keywords_stop`). Two keywords may also stand on the two
sides of a gap, the first at the end of what is before it and the second at the front of what is after it
(`occurs_keywords_gap`); in a row of tokens with gaps before them there is no third way
(`occurs_keywords_row`).
-/
namespace CrudScripts.Text

variable {α : Type}

/-! ### Searching -/

theorem occurs_nil (step : List Char → Option α) : occurs step [] = (step []).isSome := rfl

theorem occurs_cons (step : List Char → Option α) (c : Char) (s : List Char) :
    occurs step (c :: s) = ((step (c :: s)).isSome || occurs step s) := by
  unfold occurs
  rw [firstMatch]
  cases step (c :: s) <;> simp

/-- A step occurs in a text when it succeeds behind some front of it. -/
theorem occurs_iff (step : List Char → Option α) (s : List Char) :
    occurs step s = true ↔ ∃ before after, s = before ++ after ∧ (step after).isSome = true := by
  induction s with
  | nil =>
    rw [occurs_nil]
    constructor
    · intro here; exact ⟨[], [], rfl, here⟩
    · rintro ⟨before, after, empty, here⟩
      rwa [(List.append_eq_nil_iff.mp empty.symm).2] at here
  | cons c s ih =>
    rw [occurs_cons, Bool.or_eq_true, ih]
    constructor
    · rintro (here | ⟨before, after, rfl, there⟩)
      · exact ⟨[], c :: s, rfl, here⟩
      · exact ⟨c :: before, after, rfl, there⟩
    · rintro ⟨before, after, split, there⟩
      cases before with
      | nil => exact .inl (by rwa [show c :: s = after from split])
      | cons d before =>
        obtain ⟨-, rfl⟩ := List.cons.inj split
        exact .inr ⟨before, after, rfl, there⟩

/-- A step that fails at every character of a front finds what it finds behind the front. -/
theorem firstMatch_append {step : List Char → Option α} {front : List Char}
    (fails : ∀ c ∈ front, ∀ s, step (c :: s) = none) (s : List Char) :
    firstMatch step (front ++ s) = firstMatch step s := by
  induction front with
  | nil => rfl
  | cons c front ih =>
    rw [List.cons_append, firstMatch, fails c List.mem_cons_self]
    exact ih fun d member => fails d (List.mem_cons_of_mem c member)

theorem occurs_append {step : List Char → Option α} {front : List Char}
    (fails : ∀ c ∈ front, ∀ s, step (c :: s) = none) (s : List Char) :
    occurs step (front ++ s) = occurs step s := by
  rw [occurs, firstMatch_append fails, occurs]

theorem firstMatch_of_isSome {step : List Char → Option α} {s : List Char} {a : α} (here : step s = some a) :
    firstMatch step s = some a := by
  cases s with
  | nil => exact here
  | cons c s => rw [firstMatch, here]

/-- A step is found at the leftmost place where it succeeds. -/
theorem firstMatch_eq_some_iff (step : List Char → Option α) (s : List Char) (a : α) :
    firstMatch step s = some a ↔ ∃ before after, s = before ++ after ∧ step after = some a ∧
      ∀ front behind, before = front ++ behind → behind ≠ [] → step (behind ++ after) = none := by
  induction s with
  | nil =>
    rw [firstMatch]
    constructor
    · intro here; exact ⟨[], [], rfl, here, by simp⟩
    · rintro ⟨before, after, empty, here, -⟩
      rwa [(List.append_eq_nil_iff.mp empty.symm).2] at here
  | cons c s ih =>
    rw [firstMatch]
    cases first : step (c :: s) with
    | some b =>
      constructor
      · intro found; exact ⟨[], c :: s, rfl, first.trans found, by simp⟩
      · rintro ⟨before, after, split, here, earlier⟩
        cases before with
        | nil => rw [← here, ← show c :: s = after from split, first]
        | cons d before =>
          have none := earlier [] (d :: before) rfl (by simp)
          rw [← split, first] at none
          cases none
    | none =>
      rw [ih]
      constructor
      · rintro ⟨before, after, rfl, here, earlier⟩
        refine ⟨c :: before, after, rfl, here, fun front behind split nonempty => ?_⟩
        cases front with
        | nil => rw [← show c :: before = behind from split]; exact first
        | cons d front => exact earlier front behind (List.cons.inj split).2 nonempty
      · rintro ⟨before, after, split, here, earlier⟩
        cases before with
        | nil => rw [← show c :: s = after from split, first] at here; cases here
        | cons d before =>
          obtain ⟨rfl, rfl⟩ := List.cons.inj split
          exact ⟨before, after, rfl, here, fun front behind tail => earlier (c :: front) behind (by rw [tail]; rfl)⟩

/-! ### One text in another -/

theorem contains_iff (part s : String) : contains part s = true ↔ part.toList <:+: s.toList := by
  have here (after : List Char) : (if part.toList.isPrefixOf after then some () else none).isSome = true ↔
      part.toList <+: after := by
    rw [← List.isPrefixOf_iff_prefix]
    cases part.toList.isPrefixOf after <;> simp
  unfold contains
  simp only [occurs_iff, here]
  constructor
  · rintro ⟨before, after, split, begins⟩
    rw [split]
    exact List.infix_append_of_infix_right begins.isInfix
  · rintro ⟨before, after, split⟩
    exact ⟨before, part.toList ++ after, by rw [← split, List.append_assoc], List.prefix_append _ _⟩

/-- A text stands on one side of a character that it does not have. -/
theorem infix_append_cons_iff {part : List Char} {c : Char} (absent : c ∉ part) (a b : List Char) :
    part <:+: a ++ c :: b ↔ part <:+: a ∨ part <:+: b := by
  rw [List.infix_append_iff, List.infix_cons_iff, List.prefix_cons_iff]
  constructor
  · rintro (left | ((rfl | ⟨rest, rfl, -⟩) | right) | ⟨here, there, rfl, ends, begins⟩)
    · exact .inl left
    · exact .inl List.nil_infix
    · exact absurd List.mem_cons_self absent
    · exact .inr right
    · rcases List.prefix_cons_iff.mp begins with rfl | ⟨rest, rfl, -⟩
      · rw [List.append_nil]
        exact .inl ends.isInfix
      · exact absurd (List.mem_append_right _ List.mem_cons_self) absent
  · rintro (left | right)
    · exact .inl left
    · exact .inr (.inl (.inr right))

/-! ### One keyword -/

theorem dropKeyword_cons_stop {word : List Char} (capitals : Capitals word) (nonempty : word ≠ []) {c : Char}
    (stop : isKeyLetter c = false) (s : List Char) : dropKeyword word (c :: s) = none := by
  have stopped := dropKeyword_append_stop capitals stop [] s
  cases word with
  | nil => exact absurd rfl nonempty
  | cons k word => simpa [dropKeyword] using stopped

theorem occurs_keyword_stop {word : List Char} (capitals : Capitals word) (nonempty : word ≠ []) {c : Char}
    (stop : isKeyLetter c = false) (a b : List Char) :
    occurs (dropKeyword word) (a ++ c :: b) = (occurs (dropKeyword word) a || occurs (dropKeyword word) b) := by
  induction a with
  | nil =>
    have none : dropKeyword word [] = none := by
      cases word with
      | nil => exact absurd rfl nonempty
      | cons k word => rfl
    simp [occurs_cons, occurs_nil, dropKeyword_cons_stop capitals nonempty stop, none]
  | cons d a ih =>
    have front := dropKeyword_append_stop capitals stop (d :: a) b
    rw [List.cons_append] at front ⊢
    rw [occurs_cons, occurs_cons, ih, front, Option.isSome_map, Bool.or_assoc]

/-- A keyword occurs where its letters stand next to each other. -/
theorem occurs_keyword_iff (word s : List Char) :
    occurs (dropKeyword word) s = true ↔ word <:+: s.map keyLetter := by
  rw [occurs_iff]
  simp only [isSome_dropKeyword_iff]
  constructor
  · rintro ⟨before, after, rfl, begins⟩
    rw [List.map_append]
    exact List.infix_append_of_infix_right begins.isInfix
  · rintro ⟨before, after, spelled⟩
    rw [List.append_assoc] at spelled
    obtain ⟨front, rest, rfl, -, behind⟩ := List.map_eq_append_iff.mp spelled.symm
    exact ⟨front, rest, rfl, after, behind.symm⟩

theorem dropKeyword_append_gap {word : List Char} (capitals : Capitals word) (a : List Char) (gap : Gap)
    (b : List Char) :
    dropKeyword word (a ++ (gap.text ++ b)) = (dropKeyword word a).map (· ++ (gap.text ++ b)) := by
  obtain ⟨c, rest, split⟩ := List.exists_cons_of_ne_nil gap.nonempty
  have stop : isKeyLetter c = false := isKeyLetter_of_isBlank (gap.blank c (by simp [split]))
  rw [split, List.cons_append]
  exact dropKeyword_append_stop capitals stop a (rest ++ b)

/-- What stands before and behind a gap is searched apart for a keyword. -/
theorem occurs_keyword_gap {word : List Char} (capitals : Capitals word) (nonempty : word ≠ []) (a : List Char)
    (gap : Gap) (b : List Char) :
    occurs (dropKeyword word) (a ++ (gap.text ++ b)) =
      (occurs (dropKeyword word) a || occurs (dropKeyword word) b) := by
  obtain ⟨c, rest, split⟩ := List.exists_cons_of_ne_nil gap.nonempty
  have stop (d : Char) (member : d ∈ gap.text) : isKeyLetter d = false := isKeyLetter_of_isBlank (gap.blank d member)
  have skip : ∀ d ∈ rest, ∀ s, dropKeyword word (d :: s) = none := fun d member =>
    dropKeyword_cons_stop capitals nonempty (stop d (by simp [split, member]))
  rw [split, List.cons_append, occurs_keyword_stop capitals nonempty (stop c (by simp [split])),
    occurs_append skip]

/-! ### Two keywords with blanks between them -/

theorem dropBlanks_append {a : List Char} (nonempty : a ≠ []) (solid : Stops isBlank a.reverse) (b : List Char) :
    dropBlanks (a ++ b) = (dropBlanks a).map (· ++ b) := by
  cases dropped : dropBlanks a with
  | none =>
    rw [dropBlanks_eq_none_iff] at dropped
    exact (dropBlanks_eq_none_iff _).mpr ((stops_append nonempty b).mpr dropped)
  | some rest =>
    obtain ⟨gap, rfl, gapped, blank, stops⟩ := (dropBlanks_eq_some_iff a rest).mp dropped
    have more : rest ≠ [] := by
      rintro rfl
      rw [List.append_nil] at solid
      have last := List.getLast_mem gapped
      have head : gap.reverse.head? = some (gap.getLast gapped) := by
        rw [List.head?_reverse, List.getLast?_eq_some_getLast gapped]
      exact absurd (blank _ last) (by simp [solid _ head])
    refine (dropBlanks_eq_some_iff _ _).mpr ⟨gap, by simp, gapped, blank, (stops_append more b).mpr stops⟩

theorem dropBlanks_append_stop {c : Char} (solid : isBlank c = false) (a b : List Char) :
    dropBlanks (a ++ c :: b) = (dropBlanks a).map (· ++ c :: b) := by
  cases dropped : dropBlanks a with
  | none =>
    rw [dropBlanks_eq_none_iff] at dropped
    refine (dropBlanks_eq_none_iff _).mpr ?_
    cases a with
    | nil => simpa using solid
    | cons d a => simpa using dropped
  | some rest =>
    obtain ⟨gap, rfl, gapped, blank, stops⟩ := (dropBlanks_eq_some_iff a rest).mp dropped
    refine (dropBlanks_eq_some_iff _ _).mpr ⟨gap, by simp, gapped, blank, ?_⟩
    cases rest with
    | nil => simpa using solid
    | cons d rest => simpa using stops

theorem dropKeywords_eq (first second : String) (s : List Char) :
    dropKeywords first second s =
      ((dropKeyword first.toList s).bind dropBlanks).bind (dropKeyword second.toList) := by
  unfold dropKeywords
  cases dropKeyword first.toList s with
  | none => rfl
  | some s =>
    cases dropped : dropBlanks s with
    | none => simp [dropped]
    | some s => simp [dropped]

/-- Two keywords at the front of a text, with a gap between them. -/
theorem dropKeywords_eq_some_iff (first : String) {second : String} (capitals : Capitals second.toList)
    (nonempty : second ≠ "") (s rest : List Char) :
    dropKeywords first second s = some rest ↔
      ∃ (one : List Char) (gap : Gap) (two : List Char), s = one ++ (gap.text ++ (two ++ rest)) ∧
        Spells first one ∧ Spells second two := by
  rw [dropKeywords_eq, Option.bind_eq_some_iff]
  simp only [Option.bind_eq_some_iff, dropKeyword_eq_some_iff]
  constructor
  · rintro ⟨_, ⟨_, ⟨one, rfl, spelled⟩, dropped⟩, two, rfl, spelled'⟩
    obtain ⟨gap, rfl, gapped, blank, -⟩ := (dropBlanks_eq_some_iff _ _).mp dropped
    exact ⟨one, ⟨⟨gap, blank⟩, gapped⟩, two, rfl, spelled, spelled'⟩
  · rintro ⟨one, gap, two, rfl, spelled, spelled'⟩
    have stops : Stops isBlank (two ++ rest) := spelled'.stops_isBlank capitals nonempty rest
    exact ⟨two ++ rest, ⟨gap.text ++ (two ++ rest), ⟨one, rfl, spelled⟩, gap.dropBlanks_append stops⟩, two, rfl, spelled'⟩

theorem dropKeywords_pair {first second : String} (pair : KeywordPair first second) (rest : List Char) :
    dropKeywords first second (pair.text ++ rest) = some rest :=
  (dropKeywords_eq_some_iff first pair.two.capitals pair.two.known _ rest).mpr
    ⟨pair.one.text, pair.gap, pair.two.text, pair.text_append rest, pair.one.spells, pair.two.spells⟩

theorem dropKeywords_cons_stop {first : String} (capitals : Capitals first.toList) (nonempty : first ≠ "")
    {c : Char} (stop : isKeyLetter c = false) (second : String) (s : List Char) :
    dropKeywords first second (c :: s) = none := by
  have letters : first.toList ≠ [] := by simpa using nonempty
  rw [dropKeywords_eq, dropKeyword_cons_stop capitals letters stop]
  rfl

theorem dropKeywords_nil {first : String} (nonempty : first ≠ "") (second : String) :
    dropKeywords first second [] = none := by
  rw [dropKeywords_eq]
  cases letters : first.toList with
  | nil => exact absurd (by simpa using letters) nonempty
  | cons k word => rfl

/-- A text without blanks has no room for two keywords. -/
theorem occurs_keywords_of_solid (first : String) {second : String} (capitals : Capitals second.toList)
    (nonempty : second ≠ "") {s : List Char} (solid : ∀ c ∈ s, isBlank c = false) :
    occurs (dropKeywords first second) s = false := by
  rw [Bool.eq_false_iff]
  intro found
  obtain ⟨before, after, rfl, here⟩ := (occurs_iff _ s).mp found
  obtain ⟨rest, here⟩ := Option.isSome_iff_exists.mp here
  obtain ⟨one, gap, two, rfl, -⟩ := (dropKeywords_eq_some_iff first capitals nonempty after rest).mp here
  obtain ⟨c, blanks, split⟩ := List.exists_cons_of_ne_nil gap.nonempty
  have blank : isBlank c = true := gap.blank c (by simp [split])
  exact absurd blank (by simp [solid c (by simp [split])])

section
variable {first second : String} (capitals : Capitals first.toList) (capitals' : Capitals second.toList)
include capitals capitals'

theorem dropKeywords_append_stop {c : Char} (stop : isKeyLetter c = false) (solid : isBlank c = false)
    (a b : List Char) :
    dropKeywords first second (a ++ c :: b) = (dropKeywords first second a).map (· ++ c :: b) := by
  rw [dropKeywords_eq, dropKeywords_eq, dropKeyword_append_stop capitals stop]
  cases dropKeyword first.toList a with
  | none => rfl
  | some a =>
    simp only [Option.map_some, Option.bind_some, dropBlanks_append_stop solid]
    cases dropBlanks a with
    | none => rfl
    | some a => simp only [Option.map_some, Option.bind_some, dropKeyword_append_stop capitals' stop]

/-- At a gap, the first keyword is all of what stands before the gap, or both keywords are before it. -/
theorem dropKeywords_append_gap {a b : List Char} (solid : Stops isBlank a.reverse) (gap : Gap)
    (stops : Stops isBlank b) :
    (dropKeywords first second (a ++ (gap.text ++ b))).isSome = true ↔
      (dropKeywords first second a).isSome = true ∨
        a.map keyLetter = first.toList ∧ (dropKeyword second.toList b).isSome = true := by
  rw [dropKeywords_eq, dropKeywords_eq, dropKeyword_append_gap capitals]
  cases dropped : dropKeyword first.toList a with
  | none =>
    have other : a.map keyLetter ≠ first.toList := by
      intro spelled
      have here := (dropKeyword_eq_some_iff first.toList a []).mpr ⟨a, by simp, spelled⟩
      simp [dropped] at here
    simp [other]
  | some rest =>
    obtain ⟨one, rfl, spelled⟩ := (dropKeyword_eq_some_iff first.toList a rest).mp dropped
    simp only [Option.map_some, Option.bind_some]
    by_cases ended : rest = []
    · subst ended
      rw [List.nil_append, gap.dropBlanks_append stops, List.append_nil, spelled]
      simp [dropBlanks]
    · have more : one.map keyLetter ++ rest.map keyLetter ≠ first.toList := by
        intro whole
        have lengths := congrArg List.length (whole.trans spelled.symm)
        have positive := List.length_pos_iff.mpr ended
        simp only [List.length_append, List.length_map] at lengths
        omega
      have solid' : Stops isBlank rest.reverse := by
        rw [List.reverse_append] at solid
        exact (stops_append (by simpa using ended) _).mp solid
      rw [dropBlanks_append ended solid']
      cases dropBlanks rest with
      | none => simp [more]
      | some rest' => simp [more, dropKeyword_append_gap capitals']

/-- What stands before and behind a character that is no keyword letter and no blank is searched apart. -/
theorem occurs_keywords_stop (nonempty : first ≠ "") {c : Char} (stop : isKeyLetter c = false)
    (solid : isBlank c = false) (a b : List Char) :
    occurs (dropKeywords first second) (a ++ c :: b) =
      (occurs (dropKeywords first second) a || occurs (dropKeywords first second) b) := by
  induction a with
  | nil =>
    simp [occurs_cons, occurs_nil, dropKeywords_cons_stop capitals nonempty stop, dropKeywords_nil nonempty]
  | cons d a ih =>
    have front := dropKeywords_append_stop capitals capitals' stop solid (d :: a) b
    rw [List.cons_append] at front ⊢
    rw [occurs_cons, occurs_cons, ih, front, Option.isSome_map, Bool.or_assoc]

/-- At a gap, two keywords occur before it, behind it, or on its two sides. -/
theorem occurs_keywords_gap (nonempty : first ≠ "") {a b : List Char} (solid : Stops isBlank a.reverse)
    (gap : Gap) (stops : Stops isBlank b) :
    occurs (dropKeywords first second) (a ++ (gap.text ++ b)) = true ↔
      occurs (dropKeywords first second) a = true ∨ occurs (dropKeywords first second) b = true ∨
        first.toList <:+ a.map keyLetter ∧ second.toList <+: b.map keyLetter := by
  rw [← isSome_dropKeyword_iff second.toList b]
  have skip : ∀ c ∈ gap.text, ∀ s, dropKeywords first second (c :: s) = none := fun c member =>
    dropKeywords_cons_stop capitals nonempty (isKeyLetter_of_isBlank (gap.blank c member)) second
  induction a with
  | nil =>
    rw [List.nil_append, occurs_append skip, occurs_nil, dropKeywords_nil nonempty]
    simp [nonempty]
  | cons d a ih =>
    have front := dropKeywords_append_gap capitals capitals' solid gap stops
    have rest : Stops isBlank a.reverse := by
      by_cases ended : a = []
      · simp [ended]
      · rw [List.reverse_cons] at solid
        exact (stops_append (by simpa using ended) _).mp solid
    rw [List.cons_append] at front ⊢
    rw [occurs_cons, occurs_cons, Bool.or_eq_true, Bool.or_eq_true, front, List.map_cons,
      List.suffix_cons_iff, eq_comm (a := first.toList)]
    have tail := ih rest
    constructor
    · rintro ((here | ⟨whole, after⟩) | there)
      · exact .inl (.inl here)
      · exact .inr (.inr ⟨.inl whole, after⟩)
      · rcases tail.mp there with before | behind | ⟨ending, after⟩
        · exact .inl (.inr before)
        · exact .inr (.inl behind)
        · exact .inr (.inr ⟨.inr ending, after⟩)
    · rintro ((here | before) | behind | ⟨whole | ending, after⟩)
      · exact .inl (.inl here)
      · exact .inr (tail.mpr (.inl before))
      · exact .inr (tail.mpr (.inr (.inl behind)))
      · exact .inl (.inr ⟨whole, after⟩)
      · exact .inr (tail.mpr (.inr (.inr ⟨ending, after⟩)))

/-- Two keywords occur in a row of tokens only inside one of them, when no token ends with the first keyword
    before one that begins with the second. -/
theorem occurs_keywords_row (nonempty : first ≠ "") {a : List Char} (solid : Stops isBlank a.reverse)
    (row : List (Gap × List Char)) (tokens : ∀ piece ∈ row, piece.2 ≠ [] ∧ Trimmed piece.2)
    (apart : ∀ piece ∈ row, second.toList <+: piece.2.map keyLetter →
      ∀ token ∈ a :: row.map (·.2), ¬ first.toList <:+ token.map keyLetter) :
    occurs (dropKeywords first second) (a ++ rowText row) =
      (occurs (dropKeywords first second) a || row.any fun piece => occurs (dropKeywords first second) piece.2) := by
  induction row generalizing a with
  | nil => simp
  | cons piece row ih =>
    obtain ⟨gap, token⟩ := piece
    obtain ⟨more, trimmed⟩ := tokens _ List.mem_cons_self
    have stops : Stops isBlank (token ++ rowText row) := (stops_append more _).mpr trimmed.1
    have rest := ih trimmed.2 (fun piece member => tokens piece (List.mem_cons_of_mem _ member))
      (fun piece member begins other inside => apart piece (List.mem_cons_of_mem _ member) begins other
        (List.mem_cons_of_mem _ inside))
    have parted : ¬ (first.toList <:+ a.map keyLetter ∧ second.toList <+: (token ++ rowText row).map keyLetter) := by
      rintro ⟨ends, begins⟩
      refine apart (gap, token) List.mem_cons_self ?_ a List.mem_cons_self ends
      rw [← isSome_dropKeyword_iff] at begins ⊢
      cases row with
      | nil => simpa using begins
      | cons next row =>
        rw [rowText_cons, dropKeyword_append_gap capitals', Option.isSome_map] at begins
        exact begins
    rw [rowText_cons, Bool.eq_iff_iff, occurs_keywords_gap capitals capitals' nonempty solid gap stops, rest]
    simp only [parted, or_false, List.any_cons, Bool.or_eq_true]

/-- Two keywords hold two others when these are at their ends. -/
theorem occurs_keywords_pair (nonempty : first ≠ "") (nonempty' : second ≠ "") {word word' : String}
    (pair : KeywordPair word word') :
    occurs (dropKeywords first second) pair.text =
      decide (first.toList <:+ word.toList ∧ second.toList <+: word'.toList) := by
  have alone {word : String} (keyword : Keyword word) : occurs (dropKeywords first second) keyword.text = false :=
    occurs_keywords_of_solid first capitals' nonempty' fun _ member => keyword.solid member
  rw [Bool.eq_iff_iff, KeywordPair.text, occurs_keywords_gap capitals capitals' nonempty pair.one.trimmed.2 pair.gap
    pair.two.trimmed.1, alone pair.one, alone pair.two, pair.one.spells, pair.two.spells, decide_eq_true_iff]
  simp

end

end CrudScripts.Text
