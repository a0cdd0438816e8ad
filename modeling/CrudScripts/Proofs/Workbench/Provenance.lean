import CrudScripts.Proofs.Workbench.Exchanges
import CrudScripts.Workbench.App

/-!
Where the generated value and the archive of a session come from. They come from one wish, made with the
entitlement that the session has (`Consistent`); every action of a run keeps this, so it holds after every run from
a fresh start (`generated_and_archive_from_one_wish`).
-/
namespace CrudScripts.Workbench
open CrudScripts.Data

/-! ### Where generated values come from -/

/-- The exchange that gave a session its generated value: no later one gave a value, and the entitlement was sent
    along exactly if the session has it now. -/
structure DataFrom (client : Client) (s : Session) (history : List (Request × Reply)) (payload cookies : Value)
    (after : List (Request × Reply)) : Prop where
  exchange : ∃ before reply, history = before ++ (.post client.generateUrl payload cookies, reply) :: after ∧
    replyValue? reply = some s.data
  latest : ∀ e ∈ after, ¬ Yields client e
  wished : ∃ w : Wish, w.payload = .ok payload
  entitled : cookies = .dict [(client.cookieName, .text "1")] ↔ s.isEntitled = true

/-- A value without an error field, or with an absent error in it. -/
def Faultless (data : Value) : Prop := ∃ fault, data.memberD "error" .null = .ok fault ∧ fault.truthy = false

/-- The exchange that gave a session its archive: it comes right after generation, asks for the same, and is not
    refused; and what was generated reports no error. -/
structure ArchiveFrom (client : Client) (s : Session) (payload cookies : Value) (after : List (Request × Reply)) :
    Prop where
  exchange : ∃ r name later, after = (.post client.downloadUrl payload cookies, .response r) :: later ∧
    r.refusal? = none ∧ attachmentName r "scripts.zip" = .ok name ∧
    s.archive = .list [.bytes r.body, .text name]
  faultless : Faultless s.data

/-- What a session holds comes from the exchanges so far: the generated value from the last one that gave a value,
    and the archive from the one after it. There is no archive without a generated value. -/
structure Consistent (client : Client) (s : Session) (history : List (Request × Reply)) : Prop where
  generated : s.data ≠ .null → ∃ payload cookies after, DataFrom client s history payload cookies after ∧
    (s.archive ≠ .null → ArchiveFrom client s payload cookies after)
  together : s.archive ≠ .null → s.data ≠ .null

section
variable {client : Client}

theorem Consistent.of_null {s : Session} (data : s.data = .null) (archive : s.archive = .null)
    (history : List (Request × Reply)) : Consistent client s history :=
  ⟨fun some => absurd data some, fun some => absurd archive some⟩

/-- A session without its archive. -/
theorem Consistent.forget {s s' : Session} {history : List (Request × Reply)} (consistent : Consistent client s history)
    (data : s'.data = s.data) (isEntitled : s'.isEntitled = s.isEntitled) (archive : s'.archive = .null) :
    Consistent client s' history where
  generated := by
    intro some
    rw [data] at some
    obtain ⟨payload, cookies, after, source, -⟩ := consistent.generated some
    refine ⟨payload, cookies, after, ⟨?_, source.latest, source.wished, ?_⟩, fun some => absurd archive some⟩
    · rw [data]
      exact source.exchange
    · rw [isEntitled]
      exact source.entitled
  together := fun some => absurd archive some

theorem Consistent.quiet {s s' : Session} {history more : List (Request × Reply)}
    (consistent : Consistent client s history) (alike : s.Alike s') (none : ∀ e ∈ more, ¬ Yields client e) :
    Consistent client s' (history ++ more) where
  generated := by
    rw [alike.data, alike.archive]
    intro some
    obtain ⟨payload, cookies, after, source, archived⟩ := consistent.generated some
    obtain ⟨before, reply, split, given⟩ := source.exchange
    refine ⟨payload, cookies, after ++ more, ⟨⟨before, reply, ?_, ?_⟩, ?_, source.wished, ?_⟩, fun some => ?_⟩
    · rw [split, List.append_assoc, List.cons_append]
    · rw [alike.data, given]
    · exact List.forall_mem_append.mpr ⟨source.latest, none⟩
    · rw [alike.isEntitled]
      exact source.entitled
    · obtain ⟨⟨r, name, later, first, accepted, named, held⟩, faultless⟩ := archived some
      refine ⟨⟨r, name, later ++ more, ?_, accepted, named, ?_⟩, ?_⟩
      · rw [first, List.cons_append]
      · rw [alike.archive, held]
      · rw [alike.data]
        exact faultless
  together := by
    rw [alike.data, alike.archive]
    exact consistent.together

end

/-! ### What a run keeps -/

/-- The session of a desk comes from the exchanges before the run and in it. -/
def Desk.Holds (client : Client) (past : List (Request × Reply)) (d : Desk) : Prop :=
  Consistent client d.session (past ++ d.exchanges)

variable {client : Client} {past : List (Request × Reply)}

theorem Desk.Holds.quiet {d d' : Desk} (holds : d.Holds client past) (quiet : Quiet client d d') :
    d'.Holds client past := by
  obtain ⟨alike, more, grown, none⟩ := quiet
  rw [Desk.Holds, grown, ← List.append_assoc]
  exact Consistent.quiet holds alike none

theorem entitlementCookies_eq_iff (client : Client) (entitled : Value) :
    client.entitlementCookies entitled = .dict [(client.cookieName, .text "1")] ↔ entitled.truthy = true := by
  unfold Client.entitlementCookies
  split <;> simp_all

/-- A desk whose session holds what was just generated for a wish. -/
structure Desk.Fresh (client : Client) (past : List (Request × Reply)) (w : Wish) (payload : Value) (d : Desk) :
    Prop where
  exchange : ∃ before reply,
    past ++ d.exchanges = before ++ [(.post client.generateUrl payload (client.entitlementCookies w.entitled), reply)] ∧
      replyValue? reply = some d.session.data
  wished : w.payload = .ok payload
  isEntitled : d.session.isEntitled = w.entitled.truthy
  archive : d.session.archive = .null

theorem Desk.Fresh.dataFrom {w : Wish} {payload : Value} {d : Desk} (fresh : d.Fresh client past w payload)
    {s : Session} (data : s.data = d.session.data) (isEntitled : s.isEntitled = d.session.isEntitled)
    {more : List (Request × Reply)} (none : ∀ e ∈ more, ¬ Yields client e) :
    DataFrom client s (past ++ d.exchanges ++ more) payload (client.entitlementCookies w.entitled) more := by
  obtain ⟨before, reply, last, given⟩ := fresh.exchange
  refine ⟨⟨before, reply, ?_, ?_⟩, none, ⟨w, fresh.wished⟩, ?_⟩
  · rw [last, List.append_assoc, List.singleton_append]
  · rw [data, given]
  · rw [isEntitled, fresh.isEntitled]
    exact entitlementCookies_eq_iff client w.entitled

theorem Desk.Fresh.holds {w : Wish} {payload : Value} {d : Desk} (fresh : d.Fresh client past w payload) :
    d.Holds client past := by
  have source := fresh.dataFrom rfl rfl (List.forall_mem_nil _)
  rw [List.append_nil] at source
  exact ⟨fun _ => ⟨_, _, [], source, fun held => absurd fresh.archive held⟩, fun held => absurd fresh.archive held⟩

theorem not_yields_download (payload cookies : Value) (reply : Reply) :
    ∀ e ∈ [(Request.post client.downloadUrl payload cookies, reply)], ¬ Yields client e := by
  intro e member
  rw [List.mem_singleton.mp member]
  rintro ⟨_, _, same, -⟩
  exact client.downloadUrl_ne_generateUrl (Request.post.inj same).1

/-- A desk with the archive for what was just generated. -/
theorem Desk.Fresh.holds_archived {w : Wish} {payload : Value} {d d' : Desk} (fresh : d.Fresh client past w payload)
    (given : d.session.data ≠ .null) (faultless : Faultless d.session.data) {r : Response} {name : String}
    (accepted : r.refusal? = none) (named : attachmentName r "scripts.zip" = .ok name)
    (data : d'.session.data = d.session.data) (isEntitled : d'.session.isEntitled = d.session.isEntitled)
    (archive : d'.session.archive = .list [.bytes r.body, .text name])
    (grown : d'.exchanges =
      d.exchanges ++ [(.post client.downloadUrl payload (client.entitlementCookies w.entitled), .response r)]) :
    d'.Holds client past := by
  have source := fresh.dataFrom data isEntitled
    (not_yields_download payload (client.entitlementCookies w.entitled) (.response r))
  rw [List.append_assoc, ← grown] at source
  refine ⟨fun _ => ⟨_, _, _, source, fun _ => ⟨⟨r, name, [], rfl, accepted, named, archive⟩, ?_⟩⟩, fun _ => ?_⟩
  · rw [data]
    exact faultless
  · rw [data]
    exact given

/-- Asks for the archive of what was just generated, and keeps it unless it is empty. -/
def keepArchive (client : Client) (w : Wish) : Act Unit := do
  match ← downloadScripts client w with
  | some (content, name) =>
    if content != "" then
      change fun s => { s with download := some (.list [.bytes content, .text name]) }
  | none => pure ()

/-- Generation asks for the archive last. -/
theorem generateNow_eq (client : Client) (w : Wish) : generateNow client w = (do
    let data ← generateScripts client w
    change fun s => { s with generated := some data }
    if data.truthy then
      if !(← hasError data) then
        keepArchive client w) := rfl

theorem Desk.Fresh.holds_keepArchive {w : Wish} {payload : Value} {d : Desk} (fresh : d.Fresh client past w payload)
    (given : d.session.data ≠ .null) (faultless : Faultless d.session.data) :
    ((keepArchive client w).run d).2.Holds client past := by
  have still := still_receiveArchive (nextReply d.replies).1
    (d.exchanged (.post client.downloadUrl payload (client.entitlementCookies w.entitled)))
  rw [← run_downloadScripts client fresh.wished] at still
  -- Whatever the reply is, asking alone leaves the session as it is.
  have asked : Quiet client d ((downloadScripts client w).run d).2 :=
    ⟨still.session ▸ .refl _, _, still.exchanges, not_yields_download _ _ _⟩
  refine desk_bind (fun _ _ => fresh.holds.quiet asked) fun result ended => ?_
  split
  · rename_i content name
    split
    · rw [run_downloadScripts client fresh.wished] at ended
      obtain ⟨r, replied, accepted, rfl, named⟩ := response_of_receiveArchive ended
      have data : ((downloadScripts client w).run d).2.session.data = d.session.data :=
        congrArg Session.data still.session
      have isEntitled : ((downloadScripts client w).run d).2.session.isEntitled = d.session.isEntitled :=
        congrArg Session.isEntitled still.session
      rw [run_change]
      refine fresh.holds_archived given faultless accepted named data isEntitled rfl ?_
      rw [← replied]
      exact still.exchanges
    · exact fresh.holds.quiet asked
  · exact fresh.holds.quiet asked

theorem run_hasError (data : Value) (d : Desk) : (hasError data).run d = match data.memberD "error" .null with
    | .ok fault => (.ok fault.truthy, d)
    | .error cause => (.error (.failure cause), d) := by
  unfold hasError
  rw [run_bind]
  cases data.memberD "error" .null <;> rfl

/-- What follows generation. -/
theorem Desk.Fresh.holds_rest {w : Wish} {payload data : Value} {d : Desk} (fresh : d.Fresh client past w payload)
    (same : d.session.data = data) : Desk.Holds client past ((do
      if data.truthy then
        if !(← hasError data) then
          keepArchive client w : Act Unit).run d).2 := by
  subst same
  split
  · rename_i present
    have given : d.session.data ≠ .null := by
      intro null
      rw [null] at present
      cases present
    have reading := run_hasError d.session.data d
    cases read : d.session.data.memberD "error" .null with
    | error cause =>
      rw [read] at reading
      rw [run_bind, reading]
      exact fresh.holds
    | ok fault =>
      rw [read] at reading
      rw [run_bind, reading]
      dsimp only
      split
      · rename_i faultless
        exact fresh.holds_keepArchive given ⟨fault, read, by simpa using faultless⟩
      · exact fresh.holds
  · exact fresh.holds

/-- Generation for the entitlement of the session, after its archive was forgotten. -/
theorem holds_generateNow {w : Wish} {d : Desk} (holds : d.Holds client past) (archive : d.session.archive = .null)
    (isEntitled : d.session.isEntitled = w.entitled.truthy) :
    Desk.Holds client past ((generateNow client w).run d).2 := by
  rw [generateNow_eq]
  cases known : w.payload with
  | error cause =>
    have unsent : (generateScripts client w).run d = (.error (.failure cause), d) := by
      rw [generateScripts, run_bind, known]
      rfl
    rw [run_bind, unsent]
    exact holds
  | ok payload =>
    have still := moves_receive (R := Still) moves_showBrokenReader (nextReply d.replies).1
      (d.exchanged (.post client.generateUrl payload (client.entitlementCookies w.entitled)))
    have value := toOption_receive (nextReply d.replies).1
      (d.exchanged (.post client.generateUrl payload (client.entitlementCookies w.entitled)))
    rw [← run_generateScripts client known] at still value
    refine desk_bind (fun stop ended => ?_) fun data ended => ?_
    -- A reply without a value stops the run, and the session keeps the value that it has.
    · rw [ended] at value
      refine holds.quiet ⟨still.session ▸ .refl _, _, still.exchanges, fun e member => ?_⟩
      rw [List.mem_singleton.mp member]
      rintro ⟨_, _, -, yields⟩
      exact yields value.symm
    · rw [ended] at value
      rw [run_bind, run_change]
      refine Desk.Fresh.holds_rest ⟨?_, known, ?_, ?_⟩ rfl
      · refine ⟨past ++ d.exchanges, (nextReply d.replies).1, ?_, value.symm⟩
        rw [List.append_assoc]
        exact congrArg _ still.exchanges
      · exact (congrArg Session.isEntitled still.session).trans isEntitled
      · exact (congrArg Session.archive still.session).trans archive

/-! ### Runs -/

/-- An action after which the session still comes from the exchanges. -/
def Keeps (client : Client) (past : List (Request × Reply)) {α : Type} (action : Act α) : Prop :=
  ∀ d, d.Holds client past → ((action.run d).2).Holds client past

section
variable {α β : Type}

theorem Keeps.bind {action : Act α} {next : α → Act β} (first : Keeps client past action)
    (rest : ∀ a, Keeps client past (next a)) : Keeps client past (action >>= next) := fun d holds =>
  desk_bind (fun _ _ => first d holds) fun a _ => rest a _ (first d holds)

theorem Moves.keeps {action : Act α} (moves : Moves (Quiet client) action) : Keeps client past action := fun d holds =>
  holds.quiet (moves d)

theorem Moves.bindKeeps {action : Act α} {next : α → Act β} (first : Moves (Quiet client) action)
    (rest : ∀ a, Keeps client past (next a)) : Keeps client past (action >>= next) := first.keeps.bind rest

end

/-- Changing the entitlement forgets what was generated under the other one. -/
theorem keeps_entitlementToggle : Keeps client past entitlementToggle := by
  refine moves_session.bindKeeps fun s => (moves_put _).bindKeeps fun _ =>
    (moves_answer _ _).bindKeeps fun entitled => ?_
  split
  · intro d holds
    rw [run_bind, run_change]
    exact Consistent.of_null rfl rfl _
  · exact (moves_pure _).keeps

theorem quiet_currentPage : Moves (Quiet client) currentPage := by
  refine moves_session.bind fun s => ?_
  have home : Moves (Quiet client) (do
      change fun s => { s with page := some (.text "Home") }
      pure .home : Act Page) := (quiet_turn _).bind fun _ => moves_pure _
  dsimp only
  split
  · refine (moves_fail _).bind fun _ => ?_
    split
    · exact moves_pure _
    · exact home
  · split
    · exact moves_pure _
    · exact home

theorem quiet_pageButton (page : Page) : Moves (Quiet client) (pageButton page) := by
  refine moves_session.bind fun s => (moves_put _).bind fun _ => (moves_answer _ _).bind fun pressed => ?_
  split
  · exact (quiet_turn _).bind fun _ => moves_startOver
  · exact moves_pure _

theorem quiet_started : Moves (Quiet client) (change Session.started) := by
  refine quiet_change fun s => ⟨rfl, rfl, ?_⟩
  cases entitled : s.entitled <;> simp [Session.isEntitled, Session.started, entitled, Value.truthy]

/-- A press on the button of the page, for the entitlement of the session. -/
theorem holds_press {w : Wish} {d : Desk} (holds : d.Holds client past)
    (isEntitled : d.session.isEntitled = w.entitled.truthy) {rest : Act Unit} (quiet : Moves (Quiet client) rest) : Desk.Holds client past ((do
      change fun s => { s with statement := some w.sql, download := some .null }
      put (.spinner "Generating…")
      inside .spinner (generateNow client w)
      rest : Act Unit).run d).2 := by
  rw [run_bind, run_change]
  dsimp only
  rw [run_bind, run_put]
  dsimp only
  have forgotten :
      Consistent client { d.session with statement := some w.sql, download := some .null } (past ++ d.exchanges) :=
    Consistent.forget holds rfl rfl rfl
  have generated : Desk.Holds client past ((inside .spinner (generateNow client w)).run
      (({ d with session := { d.session with statement := some w.sql, download := some .null } } : Desk).shown
        (.spinner "Generating…"))).2 := by
    rw [run_inside]
    exact holds_generateNow forgotten rfl isEntitled
  exact desk_bind (fun _ _ => generated) fun _ _ => quiet.keeps _ generated

/-- An action on a desk with a given entitlement after which the session still comes from the exchanges. -/
def KeepsFor (client : Client) (past : List (Request × Reply)) (isEntitled : Bool) {α : Type} (action : Act α) : Prop :=
  ∀ d, d.Holds client past → d.session.isEntitled = isEntitled → ((action.run d).2).Holds client past

theorem Moves.bindFor {α β : Type} {isEntitled : Bool} {action : Act α} {next : α → Act β}
    (first : Moves (Quiet client) action) (rest : ∀ a, KeepsFor client past isEntitled (next a)) :
    KeepsFor client past isEntitled (action >>= next) := by
  intro d holds entitled
  refine desk_bind (fun _ _ => first.keeps d holds) fun a _ => rest a _ (first.keeps d holds) ?_
  exact (first d).session.isEntitled.trans entitled

theorem keeps_generatePage : Keeps client past (generatePage client) := by
  have showing : Moves (Quiet client) (do
      let data := (← session).generated.getD .null
      if data.truthy then
        if ← hasError data then
          showFault client data
        else showGenerated data) := by
    refine moves_session.bind fun s => ?_
    dsimp only
    split
    · refine (moves_hasError _).bind fun faulty => ?_
      split
      · exact moves_showFault client _
      · exact moves_showGenerated _
    · exact moves_pure _
  refine (moves_say _ _).bindKeeps fun _ => (moves_askStatement _).bindKeeps fun sql =>
    quiet_listDialects.bindKeeps fun dialects => (moves_put _).bindKeeps fun _ =>
    (moves_answer _ _).bindKeeps fun targets => ?_
  -- The entitlement is read here, and nothing before the press changes it.
  intro d holds
  rw [run_bind, run_session]
  refine (?_ : KeepsFor client past d.session.isEntitled _) d holds rfl
  refine (moves_put _).bindFor fun _ => (moves_askFeature _ _ _ _).bindFor fun routines =>
    (moves_askFeature _ _ _ _).bindFor fun diff => (moves_askButton _ _ _).bindFor fun pressed => ?_
  split
  · intro e held entitled
    exact holds_press (w := ⟨sql, targets, routines, diff, d.session.entitled.getD .null⟩) held entitled showing
  · exact fun e held _ => showing.keeps e held

theorem keeps_render (page : Page) : Keeps client past (page.render client) := by
  cases page with
  | home => exact moves_homePage.keeps
  | generate => exact keeps_generatePage
  | inspect => exact quiet_inspectPage.keeps

theorem keeps_sidebar : Keeps client past sidebar :=
  keeps_entitlementToggle.bind fun _ => (quiet_pageButton _).bindKeeps fun _ => (moves_put _).bindKeeps fun _ =>
    (quiet_pageButton _).bindKeeps fun _ => (quiet_pageButton _).keeps

theorem keeps_app : Keeps client past (app client) :=
  (moves_put _).bindKeeps fun _ => (moves_put _).bindKeeps fun _ => quiet_started.bindKeeps fun _ =>
    quiet_currentPage.bindKeeps fun page => keeps_sidebar.bind fun _ => keeps_render page

/-- One run, however it ends. -/
theorem consistent_runApp {s : Session} (consistent : Consistent client s past) (input : Input) :
    Consistent client (runApp client s input).2.session (past ++ (runApp client s input).2.exchanges) := by
  have kept : ((perform (app client) s input).2).Holds client past := by
    refine keeps_app _ ?_
    rw [Desk.Holds, List.append_nil]
    exact consistent
  have same : (runApp client s input).2 = (perform (app client) s input).2 := by
    unfold runApp
    split <;> simp [*]
  rw [same]
  exact kept

theorem consistent_of_runAll {s : Session} (consistent : Consistent client s past) {inputs : List Input}
    {before after : List (Ending × Desk)} {run : Ending × Desk} (runs : runAll client s inputs = before ++ run :: after) :
    Consistent client run.2.session (past ++ (before ++ [run]).flatMap fun run => run.2.exchanges) := by
  induction inputs generalizing s past before with
  | nil => cases before <;> cases runs
  | cons input inputs ih =>
    have next := consistent_runApp consistent input
    cases before with
    | nil =>
      obtain ⟨rfl, -⟩ := List.cons.inj runs
      simpa using next
    -- For the later runs, the exchanges of the first one are part of the past.
    | cons first before =>
      obtain ⟨rfl, later⟩ := List.cons.inj runs
      have kept := ih next later
      rw [List.append_assoc] at kept
      simpa using kept

/-- After every run of the workbench from a fresh start, what the session holds comes from the exchanges of the
    runs so far: the generated value from the last request for generation that gave one, sent with the entitlement
    of the session, and the archive from the request after it, for the same wish. -/
theorem generated_and_archive_from_one_wish (client : Client) (inputs : List Input)
    {before after : List (Ending × Desk)} {run : Ending × Desk} (runs : runAll client {} inputs = before ++ run :: after) :
    Consistent client run.2.session ((before ++ [run]).flatMap fun run => run.2.exchanges) := by
  have fresh : Consistent client {} [] := Consistent.of_null rfl rfl []
  simpa using consistent_of_runAll fresh runs

/-- A press that leads to the page for generation, and a press there that generates. -/
theorem archive_after_two_presses :
    let response (url body : String) : Reply := .response ⟨200, "OK", url, [], body, fun _ => '\ufffd', "", none⟩
    let inputs : List Input :=
      [⟨[("nav_btn_generate_sql", .bool true)], []⟩,
       ⟨[("generate_btn", .bool true)],
        [response "http://localhost:5001/api/v1/dialects" "\x7b\x7d",
         response "http://localhost:5001/api/v1/sql/generate" "\x7b\"status\": \"success\"\x7d",
         response "http://localhost:5001/api/v1/sql/generate/download" "archive"]⟩]
    ∃ first second, runAll {} {} inputs = [first] ++ second :: [] ∧ second.2.session.archive.truthy = true ∧
      Consistent {} second.2.session (([first] ++ [second]).flatMap fun run => run.2.exchanges) := by
  intro response inputs
  refine ⟨_, _, rfl, ?_, generated_and_archive_from_one_wish {} inputs rfl⟩
  decide +kernel +revert

end CrudScripts.Workbench
