import CrudScripts.Workbench.Pages
import Mathlib.Order.Defs.Unbundled

/-!
What actions do to a desk. Each action of the desk has an equation for its run. An action moves along a relation
between desks when the desk after it is related to the one before, however it ends (`Moves`); a chain of such
actions moves along the relation too, since what stops it comes after a move.
-/
namespace CrudScripts.Workbench
open CrudScripts.Data

variable {α β : Type}

/-! ### Runs of actions -/

theorem run_bind (action : Act α) (next : α → Act β) (d : Desk) :
    (action >>= next).run d = match (action.run d).1 with
      | .ok a => (next a).run (action.run d).2
      | .error stop => (.error stop, (action.run d).2) := by
  rw [ExceptT.run_bind]
  rcases ended : action.run d with ⟨stop | a, after⟩
  · simp only [bind, StateT.bind, ended]
    rfl
  · simp only [bind, StateT.bind, ended]

theorem run_tryCatch (action : Act α) (handle : Stop → Act α) (d : Desk) :
    (tryCatch action handle : Act α).run d = match (action.run d).1 with
      | .ok a => (.ok a, (action.run d).2)
      | .error stop => (handle stop).run (action.run d).2 := by
  rw [ExceptT.run_tryCatch]
  rcases ended : action.run d with ⟨stop | a, after⟩
  · simp only [bind, StateT.bind, ended]
  · simp only [bind, StateT.bind, ended]
    rfl

/-- A desk with one more element on its screen. -/
def Desk.shown (d : Desk) (e : Element) : Desk := { d with screen := d.screen ++ [e] }

/-- A desk after an exchange with the service. -/
def Desk.exchanged (d : Desk) (request : Request) : Desk :=
  { d with
    replies := (nextReply d.replies).2
    exchanges := d.exchanges ++ [(request, (nextReply d.replies).1)] }

theorem run_put (e : Element) (d : Desk) : (put e).run d = (.ok (), d.shown e) := rfl

theorem run_session (d : Desk) : session.run d = (.ok d.session, d) := rfl

theorem run_change (f : Session → Session) (d : Desk) :
    (change f).run d = (.ok (), { d with session := f d.session }) := rfl

theorem run_send (request : Request) (d : Desk) :
    (send request).run d = (.ok (nextReply d.replies).1, d.exchanged request) := rfl

theorem run_inside (region : Region) (action : Act α) (d : Desk) :
    (inside region action).run d =
      ((action.run (d.shown (.enter region))).1, (action.run (d.shown (.enter region))).2.shown (.leave region)) := by
  unfold inside
  simp only [run_bind, run_put, run_tryCatch]
  rcases ended : action.run (d.shown (.enter region)) with ⟨stop | a, after⟩ <;> rfl

/-- The desk after a chain is the one after its first action, where this one stops. -/
theorem desk_bind {Q : Desk → Prop} {action : Act α} {next : α → Act β} {d : Desk}
    (stopped : ∀ stop, (action.run d).1 = .error stop → Q (action.run d).2)
    (went : ∀ a, (action.run d).1 = .ok a → Q ((next a).run (action.run d).2).2) :
    Q ((action >>= next).run d).2 := by
  rw [run_bind]
  cases result : (action.run d).1 with
  | error stop => exact stopped stop result
  | ok a => exact went a result

/-! ### Moves -/

/-- Relations between desks that chains of actions keep and that what is shown does not matter to. -/
class Screenless (R : Desk → Desk → Prop) : Prop extends IsPreorder Desk R where
  shows : ∀ d e, R d (d.shown e)

/-- However an action ends, the desk after it is related to the one before. -/
def Moves (R : Desk → Desk → Prop) (action : Act α) : Prop := ∀ d, R d (action.run d).2

section
variable {R : Desk → Desk → Prop} [Screenless R]

theorem Moves.bind {action : Act α} {next : α → Act β} (first : Moves R action) (rest : ∀ a, Moves R (next a)) :
    Moves R (action >>= next) := fun d =>
  desk_bind (fun _ _ => first d) fun a _ => trans_of R (first d) (rest a _)

theorem Moves.inside (region : Region) {action : Act α} (moves : Moves R action) : Moves R (inside region action) := by
  intro d
  rw [run_inside]
  exact trans_of R (trans_of R (Screenless.shows d _) (moves _)) (Screenless.shows _ _)

theorem moves_pure (a : α) : Moves R (pure a : Act α) := fun d => refl_of R d

theorem moves_put (e : Element) : Moves R (put e) := fun d => Screenless.shows d e

theorem moves_say (kind : TextKind) (content : String) : Moves R (say kind content) := moves_put _

theorem moves_fail (cause : Failure) : Moves R (fail cause : Act α) := fun d => refl_of R d

theorem moves_need (result : Except Failure α) : Moves R (need result) := by
  cases result with
  | error cause => exact moves_fail cause
  | ok a => exact moves_pure a

theorem moves_session : Moves R session := fun d => refl_of R d

theorem moves_answer (key : String) (default : Value) : Moves R (answer key default) := fun d => refl_of R d

theorem moves_startOver : Moves R (startOver : Act α) := fun d => Screenless.shows d .rerun

/-! ### Elements of a form -/

theorem moves_askStatement (key : String) : Moves R (askStatement key) :=
  moves_session.bind fun _ => (moves_put _).bind fun _ => moves_answer _ _

theorem moves_askButton (label key : String) (isPrimary : Bool) : Moves R (askButton label key isPrimary) :=
  (moves_put _).bind fun _ => (moves_answer _ _).bind fun _ => moves_pure _

theorem moves_askFeature (column : Nat) (label : String) (entitled : Value) (key : String) :
    Moves R (askFeature column label entitled key) := (moves_put _).bind fun _ => moves_answer _ _

/-! ### Pages that only show -/

theorem moves_homePage : Moves R homePage := by
  refine (moves_say _ _).bind fun _ => (moves_say _ _).bind fun _ => moves_session.bind fun s => ?_
  split
  · exact moves_say _ _
  · exact moves_say _ _

theorem moves_hasError (data : Value) : Moves R (hasError data) := (moves_need _).bind fun _ => moves_pure _

theorem moves_showInferredKey (data : Value) : Moves R (showInferredKey data) := by
  refine (moves_need _).bind fun t => (moves_need _).bind fun inferred => ?_
  split
  · exact (moves_need _).bind fun _ => (moves_need _).bind fun _ => moves_say _ _
  · exact moves_pure _

theorem moves_showTabs (index : Nat) (scripts : List (String × Value)) : Moves R (showTabs index scripts) := by
  induction scripts generalizing index with
  | nil => exact moves_pure _
  | cons script scripts ih => exact ((moves_put _).inside _).bind fun _ => ih _

theorem moves_showScripts (data : Value) : Moves R (showScripts data) := by
  refine (moves_need _).bind fun scripts => ?_
  split
  · exact (moves_need _).bind fun _ => (moves_put _).bind fun _ => (moves_need _).bind fun _ => moves_showTabs _ _
  · exact moves_pure _

theorem moves_showIssues (data : Value) : Moves R (showIssues data) := by
  refine (moves_need _).bind fun issues => ?_
  split
  · exact (moves_need _).bind fun _ => (moves_put _).bind fun _ => (moves_put _).inside _
  · exact moves_pure _

theorem moves_showDownload : Moves R showDownload := by
  refine moves_session.bind fun s => ?_
  split
  · exact moves_pure _
  · split
    · split
      · exact moves_put _
      · exact moves_fail _
      · exact moves_fail _
    · exact moves_pure _

theorem moves_showGenerated (data : Value) : Moves R (showGenerated data) := by
  have rest : Moves R (do showInferredKey data; showScripts data; showIssues data; showDownload) :=
    (moves_showInferredKey _).bind fun _ => (moves_showScripts _).bind fun _ =>
      (moves_showIssues _).bind fun _ => moves_showDownload
  refine (moves_need _).bind fun status => ?_
  split
  · exact (moves_need _).bind fun _ => (moves_put _).bind fun _ => rest
  · exact (moves_need _).bind fun _ => (moves_put _).bind fun _ => rest

theorem moves_showFault (client : Client) (data : Value) : Moves R (showFault client data) :=
  (moves_need _).bind fun _ => (moves_need _).bind fun _ => moves_say _ _

theorem moves_showTable (client : Client) (response : Value) : Moves R (showTable client response) :=
  (moves_need _).bind fun _ => (moves_need _).bind fun _ => (moves_need _).bind fun _ => (moves_say _ _).bind fun _ =>
    (moves_need _).bind fun _ => (moves_put _).bind fun _ => moves_put _

theorem moves_showCallFault (text : String) : Moves R (showCallFault text) :=
  (moves_say _ _).bind fun _ => moves_pure _

theorem moves_showRefusal (r : Response) (text : String) : Moves R (showRefusal r text) := by
  refine (moves_say _ _).bind fun _ => ?_
  split
  · exact moves_pure _
  · exact moves_fail _
  · exact moves_pure _

theorem moves_receive {onBrokenReader : Response → String → Act Value}
    (broken : ∀ r text, Moves R (onBrokenReader r text)) (reply : Reply) : Moves R (receive onBrokenReader reply) := by
  unfold receive
  split
  · exact moves_fail _
  · exact moves_showCallFault _
  · exact moves_fail _
  · split
    · exact moves_showRefusal _ _
    · split
      · exact moves_pure _
      · exact moves_showCallFault _
      · exact broken _ _
      · exact moves_fail _

theorem moves_showBrokenReader (r : Response) (text : String) : Moves R (showBrokenReader r text) :=
  (moves_say _ _).bind fun _ => moves_pure _

end

end CrudScripts.Workbench
