import CrudScripts.Proofs.Workbench.Steps

/-!
What the workbench exchanges with the service. A request for generation is sent with what was wished for, and so is
the request for its archive (`run_generateScripts`, `run_downloadScripts`). No other action of a page has anything
generated (`Quiet`).
-/
namespace CrudScripts.Workbench
open CrudScripts.Data

namespace Client

def generateUrl (client : Client) : String := client.address "sql/generate"

def downloadUrl (client : Client) : String := client.address "sql/generate/download"

theorem address_inj {client : Client} {path other : String} :
    client.address path = client.address other ↔ path = other := by
  rw [address, address, String.append_assoc, String.append_assoc, String.append_right_inj, String.append_right_inj]

theorem downloadUrl_ne_generateUrl (client : Client) : client.downloadUrl ≠ client.generateUrl :=
  fun same => absurd (address_inj.mp same) (by decide)

theorem endpointUrl_text (client : Client) (path : String) :
    client.endpointUrl (.text path) = .ok (client.address path) := rfl

end Client

/-! ### Replies and their values -/

/-- The value of a refusal: its body, or what is known about it. -/
def refusalValue? (r : Response) : Option Value :=
  match r.value with
  | .ok v => some v
  | .error .tooDeep => none
  | .error _ => some (.dict [("error", .text r.body), ("status_code", .int r.status)])

/-- The value that a reply gives; without one, the run is over. -/
def replyValue? : Reply → Option Value
  | .statusFault _ | .otherFault _ => none
  | .callFault text => some (errorValue text)
  | .response r => match r.refusal? with
    | some _ => refusalValue? r
    | none => match r.value with
      | .ok v => some v
      | .error (.notJson text) => some (errorValue text)
      | .error (.brokenReader _) => some
        (.dict [("error", .text "Failed to decode JSON response"), ("raw_response", .text r.body)])
      | .error .tooDeep => none

theorem toOption_receive (reply : Reply) (d : Desk) :
    ((receive showBrokenReader reply).run d).1.toOption = replyValue? reply := by
  unfold receive replyValue?
  cases reply with
  | statusFault text => rfl
  | callFault text => rfl
  | otherFault name => rfl
  | response r =>
    dsimp only
    cases r.refusal? with
    | some text =>
      dsimp only
      unfold showRefusal refusalValue?
      rw [run_bind]
      cases r.value with
      | ok v => rfl
      | error fault => cases fault <;> rfl
    | none =>
      cases r.value with
      | ok v => rfl
      | error fault => cases fault <;> rfl

/-! ### Requests and their replies -/

section
variable {client : Client} {endpoint : Value}

theorem run_postRequest {url : String} (worded : client.endpointUrl endpoint = .ok url) (payload cookies : Value)
    (d : Desk) : (postRequest client endpoint payload cookies).run d =
      (receive showBrokenReader (nextReply d.replies).1).run (d.exchanged (.post url payload cookies)) := by
  unfold postRequest
  rw [worded]
  dsimp only
  rw [run_bind, run_send]

end

/-- An exchange of a request for generation whose reply gives a value. -/
def Yields (client : Client) (e : Request × Reply) : Prop :=
  ∃ payload cookies, e.1 = .post client.generateUrl payload cookies ∧ replyValue? e.2 ≠ none

/-! ### What a session holds -/

/-- The generated value of a session; nothing was generated when it is null. -/
def Session.data (s : Session) : Value := s.generated.getD .null

/-- The archive of a session and its name; there is none when it is null. -/
def Session.archive (s : Session) : Value := s.download.getD .null

def Session.isEntitled (s : Session) : Bool := (s.entitled.getD .null).truthy

/-- Sessions that hold the same for what is generated. -/
structure Session.Alike (s s' : Session) : Prop where
  data : s'.data = s.data
  archive : s'.archive = s.archive
  isEntitled : s'.isEntitled = s.isEntitled

/-- Desks between which nothing was generated. -/
structure Quiet (client : Client) (d d' : Desk) : Prop where
  session : d.session.Alike d'.session
  exchanges : ∃ more, d'.exchanges = d.exchanges ++ more ∧ ∀ e ∈ more, ¬ Yields client e

/-- Desks that differ in what is on their screens. -/
structure Still (d d' : Desk) : Prop where
  session : d'.session = d.session
  exchanges : d'.exchanges = d.exchanges

theorem Session.Alike.refl (s : Session) : s.Alike s := ⟨rfl, rfl, rfl⟩

instance : Screenless Still where
  refl _ := ⟨rfl, rfl⟩
  trans _ _ _ first second := ⟨second.session.trans first.session, second.exchanges.trans first.exchanges⟩
  shows _ _ := ⟨rfl, rfl⟩

instance (client : Client) : Screenless (Quiet client) where
  refl d := ⟨.refl _, [], by simp⟩
  trans _ _ _ first second := by
    obtain ⟨⟨data, archive, entitled⟩, more, grown, none⟩ := first
    obtain ⟨⟨data', archive', entitled'⟩, more', grown', none'⟩ := second
    refine ⟨⟨data'.trans data, archive'.trans archive, entitled'.trans entitled⟩, more ++ more', ?_, ?_⟩
    · rw [grown', grown, List.append_assoc]
    · exact List.forall_mem_append.mpr ⟨none, none'⟩
  shows _ _ := ⟨.refl _, [], by simp [Desk.shown]⟩

/-! ### Actions that generate nothing -/

section
variable {client : Client}

theorem quiet_change {f : Session → Session} (alike : ∀ s : Session, s.Alike (f s)) :
    Moves (Quiet client) (change f) := fun d =>
  ⟨alike d.session, [], by simp [run_change]⟩

theorem quiet_turn (title : Value) : Moves (Quiet client) (change fun s => { s with page := some title }) :=
  quiet_change fun _ => ⟨rfl, rfl, rfl⟩

theorem quiet_keepStatement (sql : Value) : Moves (Quiet client) (change fun s => { s with statement := some sql }) :=
  quiet_change fun _ => ⟨rfl, rfl, rfl⟩

theorem quiet_send {request : Request} (other : ∀ payload cookies, request ≠ .post client.generateUrl payload cookies) :
    Moves (Quiet client) (send request) := fun d => by
  refine ⟨.refl _, [(request, (nextReply d.replies).1)], rfl, fun e member => ?_⟩
  rw [List.mem_singleton.mp member]
  rintro ⟨payload, cookies, same, -⟩
  exact other payload cookies same

theorem quiet_listDialects : Moves (Quiet client) (listDialects client) := by
  have sent (url : String) : Moves (Quiet client) (send (.get url .null)) := quiet_send fun _ _ => nofun
  have asked : Moves (Quiet client) (getRequest client (.text "dialects") .null) :=
    (sent _).bind fun reply => moves_receive (fun _ _ => moves_fail _) reply
  exact asked.bind fun _ => (moves_need _).bind fun _ => moves_pure _

theorem quiet_parseStatement (sql : Value) : Moves (Quiet client) (parseStatement client sql) := by
  have elsewhere : client.address "sql/parse" ≠ client.generateUrl :=
    fun same => absurd (Client.address_inj.mp same) (by decide)
  exact (quiet_send fun _ _ same => elsewhere (Request.post.inj same).1).bind fun reply =>
    moves_receive moves_showBrokenReader reply

theorem quiet_inspectPage : Moves (Quiet client) (inspectPage client) := by
  refine (moves_say _ _).bind fun _ => (moves_say _ _).bind fun _ => (moves_askStatement _).bind fun sql =>
    (moves_askButton _ _ _).bind fun pressed => ?_
  split
  · refine (quiet_keepStatement sql).bind fun _ => (moves_put _).bind fun _ =>
      ((quiet_parseStatement sql).inside _).bind fun response => (moves_hasError _).bind fun faulty => ?_
    split
    · exact moves_showFault client _
    · exact moves_showTable client _
  · exact moves_pure _

end

/-! ### Generation and its archive -/

theorem run_need_ok {α : Type} {result : Except Failure α} {a : α} (known : result = .ok a) (d : Desk) :
    (need result).run d = (.ok a, d) := by
  rw [known]
  rfl

/-- Generation is asked for with what was wished for. -/
theorem run_generateScripts (client : Client) {w : Wish} {payload : Value} (known : w.payload = .ok payload) (d : Desk) :
    (generateScripts client w).run d = (receive showBrokenReader (nextReply d.replies).1).run
      (d.exchanged (.post client.generateUrl payload (client.entitlementCookies w.entitled))) := by
  rw [generateScripts, run_bind, run_need_ok known]
  exact run_postRequest (client.endpointUrl_text _) payload _ d

/-- What the reply to a request for an archive comes to. -/
def receiveArchive : Reply → Act (Option (String × String))
  | .statusFault text => showDownloadFault text
  | .callFault text => showDownloadFault text
  | .otherFault name => fail (.transport name)
  | .response r => match r.refusal? with
    | some text => showDownloadFault text
    | none => do return some (r.body, ← need (attachmentName r "scripts.zip"))

theorem still_receiveArchive (reply : Reply) : Moves Still (receiveArchive reply) := by
  have fault (text : String) : Moves Still (showDownloadFault text) := (moves_say _ _).bind fun _ => moves_pure _
  unfold receiveArchive
  split
  · exact fault _
  · exact fault _
  · exact moves_fail _
  · split
    · exact fault _
    · exact (moves_need _).bind fun _ => moves_pure _

/-- An archive is the body of a response that is no refusal. -/
theorem response_of_receiveArchive {reply : Reply} {d : Desk} {content name : String}
    (received : ((receiveArchive reply).run d).1 = .ok (some (content, name))) :
    ∃ r, reply = .response r ∧ r.refusal? = none ∧ r.body = content ∧
      attachmentName r "scripts.zip" = .ok name := by
  cases reply with
  | statusFault text => cases received
  | callFault text => cases received
  | otherFault name => cases received
  | response r =>
    unfold receiveArchive at received
    dsimp only at received
    cases accepted : r.refusal? with
    | some text =>
      rw [accepted] at received
      cases received
    | none =>
      rw [accepted] at received
      dsimp only at received
      cases named : attachmentName r "scripts.zip" with
      | error cause =>
        rw [run_bind, named] at received
        cases received
      | ok given =>
        rw [run_bind, run_need_ok named] at received
        cases received
        exact ⟨r, rfl, accepted, rfl, named⟩

/-- An archive is asked for with what was wished for. -/
theorem run_downloadScripts (client : Client) {w : Wish} {payload : Value} (known : w.payload = .ok payload) (d : Desk) :
    (downloadScripts client w).run d = (receiveArchive (nextReply d.replies).1).run
      (d.exchanged (.post client.downloadUrl payload (client.entitlementCookies w.entitled))) := by
  rw [downloadScripts, run_bind, run_need_ok known]
  dsimp only
  rw [run_bind, run_send]
  rfl

end CrudScripts.Workbench
