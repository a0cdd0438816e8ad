import CrudScripts.Proofs.Service.Answers

/-!
What a request without the entitlement cookie learns from its wishes for routines and a comparison: nothing. Two
bodies that differ in these wishes only get one answer from each endpoint, unless one of them has no field at all,
which is refused for another reason; and no script of an answer holds what was wished for
(`answers_ignore_wishes`).
-/
namespace CrudScripts.Service
open CrudScripts.Check CrudScripts.Data CrudScripts.Run CrudScripts.Settings

/-! ### The cookie -/

section
variable {config : Config} {cookies : Cookies}

/-- The cookies hold the configured one, and its value is the configured one as a text. -/
def CarriesCookie (config : Config) (cookies : Cookies) : Prop :=
  ∃ name value content, config.setting "entitlement" "cookie_name" (.text "SQLGen_Pro") = .ok (.text name) ∧
    config.setting "entitlement" "cookie_value" (.text "1") = .ok value ∧
    value.display config.machine.nesting = .ok content ∧ cookies.lookup name = some content

theorem findCookie_eq_ok_some_iff {name : Value} {content : String} :
    findCookie cookies name = .ok (some content) ↔ ∃ s, name = .text s ∧ cookies.lookup s = some content := by
  constructor
  · intro found
    unfold findCookie at found
    split at found
    · rename_i s
      exact ⟨s, rfl, Except.ok.inj found⟩
    · split at found
      · cases Except.ok.inj found
      · cases found
  · rintro ⟨s, rfl, present⟩
    exact congrArg Except.ok present

theorem isEntitled_eq_ok_true_iff : isEntitled config cookies = .ok true ↔ CarriesCookie config cookies := by
  constructor
  · intro entitled
    obtain ⟨name, named, entitled⟩ := bind_eq_ok_iff.mp entitled
    obtain ⟨value, valued, entitled⟩ := bind_eq_ok_iff.mp entitled
    obtain ⟨content, shown, entitled⟩ := bind_eq_ok_iff.mp entitled
    obtain ⟨found, search, equal⟩ := bind_eq_ok_iff.mp entitled
    obtain rfl := eq_of_beq (pure_eq_ok_iff.mp equal)
    obtain ⟨s, rfl, present⟩ := findCookie_eq_ok_some_iff.mp search
    exact ⟨s, value, content, named, valued, shown, present⟩
  · rintro ⟨s, value, content, named, valued, shown, present⟩
    have search : findCookie cookies (.text s) = .ok (some content) :=
      findCookie_eq_ok_some_iff.mpr ⟨s, rfl, present⟩
    refine bind_eq_ok_iff.mpr ⟨_, named, bind_eq_ok_iff.mpr ⟨_, valued, bind_eq_ok_iff.mpr ⟨_, shown, ?_⟩⟩⟩
    exact bind_eq_ok_iff.mpr ⟨_, search, pure_eq_ok_iff.mpr (beq_self_eq_true _)⟩

theorem eq_false_of_isEntitled (without : ¬ CarriesCookie config cookies) {entitled : Bool}
    (known : isEntitled config cookies = .ok entitled) : entitled = false := by
  cases entitled with
  | false => rfl
  | true => exact absurd (isEntitled_eq_ok_true_iff.mp known) without

end

/-! ### Wishes -/

/-- A wish in a body is a truth value, or absent. -/
def IsWish (field : Option Value) : Prop := ∀ value, field = some value → ∃ b, value = .bool b

/-- Two bodies that are equal apart from their wishes. -/
structure DifferInWishes (p q : List (String × Value)) : Prop where
  others : ∀ name, name ≠ "include_procedures" → name ≠ "include_diff" → p.lookup name = q.lookup name
  wishes : ∀ fields ∈ [p, q], IsWish (fields.lookup "include_procedures") ∧ IsWish (fields.lookup "include_diff")

section
variable {p q : List (String × Value)}

theorem IsWish.exists_getD {field : Option Value} (wish : IsWish field) : ∃ b, field.getD (.bool true) = .bool b := by
  cases field with
  | none => exact ⟨true, rfl⟩
  | some value => exact wish value rfl

theorem exists_readFeatures (routines : IsWish (p.lookup "include_procedures")) (diff : IsWish (p.lookup "include_diff")) :
    ∃ wishes, readFeatures (.dict p) = .ok wishes := by
  obtain ⟨a, first⟩ := routines.exists_getD
  obtain ⟨b, second⟩ := diff.exists_getD
  refine ⟨⟨a, b⟩, bind_eq_ok_iff.mpr ⟨.bool a, congrArg Except.ok first, ?_⟩⟩
  exact bind_eq_ok_iff.mpr ⟨.bool b, congrArg Except.ok second, rfl⟩

theorem readSql_eq_ok_iff {sql : String} : readSql (.dict p) = .ok sql ↔ p.lookup "create_sql" = some (.text sql) := by
  constructor
  · intro read
    obtain ⟨found, search, read⟩ := bind_eq_ok_iff.mp read
    obtain rfl := Except.ok.inj search
    split at read
    · rename_i present
      rw [present, pure_eq_ok_iff.mp read]
    · cases read
  · intro present
    exact bind_eq_ok_iff.mpr ⟨_, congrArg Except.ok present, rfl⟩

theorem DifferInWishes.readSql_eq (alike : DifferInWishes p q) : readSql (.dict p) = readSql (.dict q) := by
  rw [readSql, readSql, Value.member, Value.member, alike.others "create_sql" (by decide) (by decide)]

theorem DifferInWishes.readTargets_eq (alike : DifferInWishes p q) : readTargets (.dict p) = readTargets (.dict q) := by
  rw [readTargets, readTargets, Value.memberD, Value.memberD, Value.member, Value.member,
    alike.others "targets" (by decide) (by decide)]

end

/-! ### Requests without the cookie -/

section
variable {config : Config} {cookies : Cookies}

theorem exists_of_readRequest {payload : Value} {request : GenerationRequest}
    (read : readRequest config payload cookies = .ok request) :
    readSql payload = .ok request.sql ∧ readTargets payload = .ok request.targets ∧
      ∃ wishes entitled, isEntitled config cookies = .ok entitled ∧ request.features = grantedFeatures entitled wishes := by
  unfold readRequest at read
  split at read
  · cases read
  · obtain ⟨sql, first, read⟩ := bind_eq_ok_iff.mp read
    obtain ⟨targets, second, read⟩ := bind_eq_ok_iff.mp read
    obtain ⟨wishes, -, read⟩ := bind_eq_ok_iff.mp read
    obtain ⟨entitled, known, read⟩ := bind_eq_ok_iff.mp read
    obtain rfl := pure_eq_ok_iff.mp read
    exact ⟨first, second, wishes, entitled, known, rfl⟩

theorem features_of_readRequest (without : ¬ CarriesCookie config cookies) {payload : Value} {request : GenerationRequest}
    (read : readRequest config payload cookies = .ok request) : request.features = ⟨false, false⟩ := by
  obtain ⟨-, -, wishes, entitled, known, granted⟩ := exists_of_readRequest read
  rw [granted, eq_false_of_isEntitled without known]
  rfl

theorem DifferInWishes.readRequest_eq {p q : List (String × Value)} (alike : DifferInWishes p q)
    (without : ¬ CarriesCookie config cookies) (some : p ≠ []) (others : q ≠ []) :
    readRequest config (.dict p) cookies = readRequest config (.dict q) cookies := by
  have present {fields : List (String × Value)} (nonempty : fields ≠ []) : (!(Value.dict fields).truthy) = false := by
    cases fields with
    | nil => exact absurd rfl nonempty
    | cons field fields => rfl
  have read (fields : List (String × Value)) (member : fields ∈ [p, q]) :
      ∃ wishes, readFeatures (.dict fields) = .ok wishes :=
    exists_readFeatures (alike.wishes fields member).1 (alike.wishes fields member).2
  obtain ⟨wishes, first⟩ := read p (by simp)
  obtain ⟨wishes', second⟩ := read q (by simp)
  rw [readRequest, readRequest, present some, present others, alike.readSql_eq, alike.readTargets_eq, first, second]
  cases known : isEntitled config cookies with
  | error failure => rfl
  | ok entitled =>
    obtain rfl := eq_false_of_isEntitled without known
    rfl

end

/-! ### Answers -/

section
variable (config : Config) (checker : Checker) (cookies : Cookies)

/-- Both endpoints refuse a body for a reason. -/
def Refused (fields : List (String × Value)) (reason : String) : Prop :=
  generateAnswer config checker (.dict fields) cookies = .ok (refusal 400 reason) ∧
    downloadAnswer config checker (.dict fields) cookies = .ok (refusal 400 reason)

theorem refused_nil : Refused config checker cookies [] "No JSON data provided" := ⟨rfl, rfl⟩

theorem refused_of_lookup {fields : List (String × Value)} (nonempty : fields ≠ [])
    (absent : fields.lookup "create_sql" = none) :
    Refused config checker cookies fields "Missing required field: create_sql (string)" := by
  have read : readRequest config (.dict fields) cookies =
      .error (.badValue "Missing required field: create_sql (string)") := by
    obtain ⟨field, fields, rfl⟩ := List.exists_cons_of_ne_nil nonempty
    rw [readRequest, readSql, Value.member, absent]
    rfl
  rw [Refused, generateAnswer, downloadAnswer, read]
  exact ⟨rfl, rfl⟩

end

/-- The script of a statement for a target, without routines and without a comparison. -/
def plainScript (sql : String) (target : Value) : String :=
  Script.generate (Dialect.ofTarget target) (Schema.parse sql).table ⟨false, false⟩

theorem GenerationRequest.script_of_plain {request : GenerationRequest} (plain : request.features = ⟨false, false⟩) :
    request.script = plainScript request.sql := by
  funext target
  rw [GenerationRequest.script, plain, plainScript]

/-- Without the entitlement cookie, two bodies that differ in their wishes only are answered alike by both
    endpoints, unless one of them is empty: this one is refused for having no data, and the other one for having no
    statement. A generated body says that nothing was granted, and the scripts that it holds, or an archive holds,
    are the plain ones of the targets. -/
theorem answers_ignore_wishes {config : Config} (checker : Checker) {cookies : Cookies} {p q : List (String × Value)}
    (without : ¬ CarriesCookie config cookies) (alike : DifferInWishes p q) :
    ((p = [] ↔ q = []) →
      generateAnswer config checker (.dict p) cookies = generateAnswer config checker (.dict q) cookies ∧
      downloadAnswer config checker (.dict p) cookies = downloadAnswer config checker (.dict q) cookies) ∧
    (p = [] → q ≠ [] → Refused config checker cookies p "No JSON data provided" ∧
      Refused config checker cookies q "Missing required field: create_sql (string)") ∧
    (∀ content, generateAnswer config checker (.dict p) cookies = .ok (.body 200 content) →
      ∃ sql requested targets fields, p.lookup "create_sql" = some (.text sql) ∧
        readTargets (.dict p) = .ok requested ∧ resolveTargets config requested = .ok targets ∧
        content = .dict fields ∧ fields.lookup "pro" = some (.bool false) ∧
        fields.lookup "include_procedures" = some (.bool false) ∧ fields.lookup "include_diff" = some (.bool false) ∧
        fields.lookup "results" = some (.dict (Fields.ofPairs
          (targets.map fun target => (memberName target, .text (plainScript sql target)))))) ∧
    (∀ mediaType title packed,
      downloadAnswer config checker (.dict p) cookies = .ok (.attachment mediaType title packed) →
      ∃ sql requested targets, p.lookup "create_sql" = some (.text sql) ∧
        readTargets (.dict p) = .ok requested ∧ resolveTargets config requested = .ok targets ∧
        packed.entries = Fields.ofPairs (targets.map fun target =>
          (scriptFileName (Schema.parse sql).table.name (targetName target), plainScript sql target))) := by
  refine ⟨fun both => ?_, fun empty nonempty => ?_, fun content generated => ?_,
    fun mediaType title packed downloaded => ?_⟩
  · by_cases empty : p = []
    · rw [empty, both.mp empty]
      exact ⟨rfl, rfl⟩
    · rw [generateAnswer, generateAnswer, downloadAnswer, downloadAnswer,
        alike.readRequest_eq without empty (mt both.mpr empty)]
      exact ⟨rfl, rfl⟩
  · subst empty
    refine ⟨refused_nil config checker cookies, refused_of_lookup config checker cookies nonempty ?_⟩
    exact (alike.others "create_sql" (by decide) (by decide)).symm
  · obtain ⟨request, targets, entitled, fields, read, resolved, known, body, pro, routines, diff, results⟩ :=
      exists_of_generateAnswer generated
    obtain ⟨stated, requested, -⟩ := exists_of_readRequest read
    have plain := features_of_readRequest without read
    rw [eq_false_of_isEntitled without known] at pro
    rw [plain] at routines diff
    rw [GenerationRequest.script_of_plain plain] at results
    exact ⟨request.sql, request.targets, targets, fields, readSql_eq_ok_iff.mp stated, requested, resolved, body, pro,
      routines, diff, results⟩
  · obtain ⟨request, targets, read, resolved, written⟩ := exists_of_downloadAnswer downloaded
    obtain ⟨stated, requested, -⟩ := exists_of_readRequest read
    rw [GenerationRequest.script_of_plain (features_of_readRequest without read)] at written
    exact ⟨request.sql, request.targets, targets, readSql_eq_ok_iff.mp stated, requested, resolved, written⟩

theorem answers_ignore_wish_for_routines :
    let config : Config := { sections := [], machine := .plain "/srv/app" String.utf8ByteSize, openLog := some "logs" }
    let p := [("create_sql", Value.text "CREATE TABLE t (id INT)")]
    let q := [("create_sql", Value.text "CREATE TABLE t (id INT)"), ("include_procedures", Value.bool false)]
    ¬ CarriesCookie config [("SQLGen_Pro", "0")] ∧ DifferInWishes p q ∧
      generateAnswer config (fun _ _ => .accepted) (.dict p) [("SQLGen_Pro", "0")] =
        generateAnswer config (fun _ _ => .accepted) (.dict q) [("SQLGen_Pro", "0")] := by
  intro config p q
  have without : ¬ CarriesCookie config [("SQLGen_Pro", "0")] := by
    rw [← isEntitled_eq_ok_true_iff]
    exact fun entitled => absurd (Except.ok.inj entitled) (by decide)
  have alike : DifferInWishes p q := by
    refine ⟨fun name routines _ => ?_, ?_⟩
    · simp [p, q, List.lookup_cons, beq_eq_false_iff_ne.mpr routines]
    · simp [p, q, IsWish, List.lookup_cons]
  exact ⟨without, alike, ((answers_ignore_wishes _ without alike).1 (by decide)).1⟩

/-- A body without fields differs in its wishes only from one that has nothing but a wish. -/
theorem answers_tell_empty_body :
    let config : Config := { sections := [], machine := .plain "/srv/app" String.utf8ByteSize, openLog := some "logs" }
    let q := [("include_diff", Value.bool true)]
    ¬ CarriesCookie config [] ∧ DifferInWishes [] q ∧
      generateAnswer config (fun _ _ => .accepted) (.dict []) [] ≠
        generateAnswer config (fun _ _ => .accepted) (.dict q) [] := by
  intro config q
  refine ⟨?_, ⟨fun name _ diff => ?_, ?_⟩, fun same => ?_⟩
  · rw [← isEntitled_eq_ok_true_iff]
    exact fun entitled => absurd (Except.ok.inj entitled) (by decide)
  · simp [q, List.lookup_cons, beq_eq_false_iff_ne.mpr diff]
  · simp [q, IsWish, List.lookup_cons]
  · have reasons : refusal 400 "No JSON data provided" = refusal 400 "Missing required field: create_sql (string)" :=
      Except.ok.inj same
    simp [refusal] at reasons

end CrudScripts.Service
