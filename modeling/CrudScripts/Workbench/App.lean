import CrudScripts.Workbench.Pages

/-!
The workbench: page set-up, the session of a fresh start, the sidebar, and the current page. A press
in the sidebar changes the session and starts the run over.
-/
namespace CrudScripts.Workbench
open CrudScripts.Data

inductive Page where
  | home
  | generate
  | inspect
deriving DecidableEq

namespace Page

def title : Page → String
  | .home => "Home"
  | .generate => "Generate SQL"
  | .inspect => "Inspect Schema"

def buttonKey : Page → String
  | .home => "nav_btn_home_main"
  | .generate => "nav_btn_generate_sql"
  | .inspect => "nav_btn_inspect_schema"

/-- The words on the button that leads to a page. -/
def buttonLabel : Page → String
  | .home => "🏠 Home"
  | page => page.title

def render (client : Client) : Page → Act Unit
  | .home => homePage
  | .generate => generatePage client
  | .inspect => inspectPage client

def ofTitle? (title : Value) : Option Page :=
  [home, generate, inspect].find? fun page => title.same (.text page.title)

end Page

def styleSheet : String :=
  "\n            <style>\n            /* Hide deploy button from toolbar if present */\n" ++
  "            div[data-testid=\"stToolbar\"] button[title*=\"Deploy\"] \x7b\n" ++
  "                display: none !important;\n            \x7d\n            </style>\n            "

/-- The session with the fields of a fresh start where it has none. -/
def Session.started (s : Session) : Session :=
  { s with
    generated := some (s.generated.getD .null)
    download := some (s.download.getD .null)
    page := some (s.page.getD (.text "Home"))
    entitled := some (s.entitled.getD (.bool false)) }

/-- The toggle for the entitlement. Changing it forgets what was generated. -/
def entitlementToggle : Act Unit := do
  let before := (← session).entitled.getD .null
  put (.sidebarToggle "Pro license" before "pro_toggle_sidebar")
  let entitled ← answer "pro_toggle_sidebar" before
  if !entitled.same before then
    change fun s =>
      { s with entitled := some entitled, generated := some .null, download := some .null }
    startOver

def pageButton (page : Page) : Act Unit := do
  let current := ((← session).page.getD .null).same (.text page.title)
  put (.sidebarButton page.buttonLabel page.buttonKey current)
  if (← answer page.buttonKey (.bool false)).truthy then
    change fun s => { s with page := some (.text page.title) }
    startOver

def sidebar : Act Unit := do
  entitlementToggle
  pageButton .home
  put (.sidebarText "**🛠️ Workbench**")
  pageButton .generate
  pageButton .inspect

/-- The current page; an unknown title leads to the first page. -/
def currentPage : Act Page := do
  let title := (← session).page.getD .null
  if !title.isKey then fail (.unhashable title.kind)
  match Page.ofTitle? title with
  | some page => return page
  | none =>
    change fun s => { s with page := some (.text "Home") }
    return .home

/-- One run of the workbench. -/
def app (client : Client) : Act Unit := do
  put (.pageSetup "SQLGen - CRUD Script Generator")
  put (.style styleSheet)
  change Session.started
  let page ← currentPage
  sidebar
  page.render client

inductive Ending where
  | finished
  | rerun
  | failure (cause : Failure)

/-- What goes into a run besides the session: the answers of the form elements and the replies of
    the service. -/
structure Input where
  answers : List (String × Value)
  replies : List Reply

/-- Runs an action on a fresh desk: its result and the desk after it. -/
def perform {α : Type} (action : Act α) (session : Session) (input : Input) :
    Except Stop α × Desk :=
  action.run ⟨session, input.answers, input.replies, [], []⟩

/-- Runs the workbench: how the run ends and the desk after it. -/
def runApp (client : Client) (session : Session) (input : Input) : Ending × Desk :=
  match perform (app client) session input with
  | (.ok (), desk) => (.finished, desk)
  | (.error .rerun, desk) => (.rerun, desk)
  | (.error (.failure cause), desk) => (.failure cause, desk)

/-- The runs of the workbench on one input after the other, each on the session that the one before
    left behind. -/
def runAll (client : Client) (session : Session) : List Input → List (Ending × Desk)
  | [] => []
  | input :: rest =>
    let run := runApp client session input
    run :: runAll client run.2.session rest

end CrudScripts.Workbench
