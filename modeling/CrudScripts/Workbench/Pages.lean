import CrudScripts.Text.Scan
import CrudScripts.Workbench.Client

/-!
The pages of the workbench.
-/
namespace CrudScripts.Workbench
open CrudScripts.Data CrudScripts.Text

def sampleStatement : String :=
  "CREATE TABLE Users (\n    UserId INT IDENTITY(1,1) PRIMARY KEY,\n" ++
    "    Email NVARCHAR(255) NOT NULL,\n    DisplayName NVARCHAR(100),\n" ++
    "    Balance DECIMAL(18,2) NOT NULL,\n    IsActive BIT NOT NULL,\n" ++
    "    CreatedAt DATETIME2 NOT NULL\n)"

/-- A form element for the statement; it starts from the statement that was last worked on. -/
def askStatement (key : String) : Act Value := do
  let value := (← session).statement.getD (.text sampleStatement)
  put (.textArea "CREATE TABLE statement" value 220 key)
  answer key value

/-- A button of a page, and whether it was pressed. -/
def askButton (label key : String) (isPrimary : Bool) : Act Bool := do
  put (.button label key isPrimary)
  return (← answer key (.bool false)).truthy

/-- A box to tick, and its answer; without an entitlement it cannot be ticked. -/
def askFeature (column : Nat) (label : String) (entitled : Value) (key : String) : Act Value := do
  put (.checkbox column label entitled (!entitled.truthy) key)
  answer key entitled

def welcomeText : String :=
  "\n        SQLGen turns a single `CREATE TABLE` statement into parameterized\n" ++
  "        INSERT / UPDATE / SELECT statements for eight SQL dialects.\n\n" ++
  "        **Key Features:**\n\n" ++
  "        *   **Parameterized CRUD:** placeholders in each dialect's native style " ++
  "(`@name`, `$1`, `?`, `:name`).\n" ++
  "        *   **Stored Procedures (Pro):** INSERT / UPDATE / DELETE procedures for SQL Server, " ++
  "MySQL, MariaDB, PostgreSQL and Oracle.\n" ++
  "        *   **Schema Inspection:** see exactly which columns and keys were recognised.\n\n" ++
  "        Use the sidebar to navigate through the different modules of the application.\n        "

def homePage : Act Unit := do
  say .title "Welcome to SQLGen!"
  say .markdown welcomeText
  if ((← session).entitled.getD .null).truthy then
    say .info "Pro features are enabled for this session."
  else
    say .info ("You are using the free tier. Toggle the Pro license in the sidebar to unlock " ++
      "procedures and the diff stub.")

/-- Whether a generated value has something in its error field. -/
def hasError (data : Value) : Act Bool := do
  return (← need (data.memberD "error" .null)).truthy

/-- Shows what a value has in its error field. -/
def showFault (client : Client) (data : Value) : Act Unit := do
  say .error ("Error: " ++ (← need (client.shown (← need (data.memberD "error" .null)))))

/-- Asks for scripts, and for the archive of the same request when there are scripts. -/
def generateNow (client : Client) (w : Wish) : Act Unit := do
  let data ← generateScripts client w
  change fun s => { s with generated := some data }
  if data.truthy then
    if !(← hasError data) then
      match ← downloadScripts client w with
      | some (content, name) =>
        if content != "" then
          change fun s => { s with download := some (.list [.bytes content, .text name]) }
      | none => pure ()

/-- The failure for an item of a listing that is no text. -/
def unlistedItem (index : Nat) (item : Value) : Failure :=
  .wrongType ("sequence item " ++ toString index ++ ": expected str instance, " ++ item.kind ++
    " found")

/-- The texts of a value in one line. -/
def listing (v : Value) : Except Failure String :=
  match v.elements with
  | .error _ => .error (.wrongType "can only join an iterable")
  | .ok items => match items.zipIdx.find? fun item => item.1.text?.isNone with
    | some (item, index) => .error (unlistedItem index item)
    | none => .ok (join ", " (items.filterMap Value.text?))

/-- Shows the key that statements use where none is declared. -/
def showInferredKey (data : Value) : Act Unit := do
  let t ← need (data.memberD "table" (.dict []))
  if (← need (t.memberD "primary_key_inferred" .null)).truthy then
    let names ← need (listing (← need (t.memberD "effective_primary_keys" (.list []))))
    say .info ("No primary key declared; using " ++ names ++ " as the key.")

def showTabs : Nat → List (String × Value) → Act Unit
  | _, [] => pure ()
  | index, (_, script) :: rest => do
    inside (.tab index) (put (.code script))
    showTabs (index + 1) rest

/-- Shows the scripts of a generated value under their targets. -/
def showScripts (data : Value) : Act Unit := do
  let scripts ← need (data.memberD "results" (.dict []))
  if scripts.truthy then
    put (.tabs (← need scripts.elements))
    showTabs 0 (← need scripts.fields)

def showIssues (data : Value) : Act Unit := do
  let issues ← need (data.memberD "syntax_issues" .null)
  if issues.truthy then
    let count ← need issues.size
    put (.expander ("Syntax check (" ++ toString count ++ " issue(s))"))
    inside .expander (put (.json issues))

/-- Why so many parts are no content and name. -/
def unpackingRefusal (count : Nat) : String :=
  if count < 2 then "not enough values to unpack (expected 2, got " ++ toString count ++ ")"
  else "too many values to unpack (expected 2)"

def showDownload : Act Unit := do
  match (← session).download with
  | none => pure ()
  | some download =>
    if download.truthy then
      match download.elements with
      | .ok [content, name] =>
        put (.download "Download all (.zip)" content name "application/zip" "download_zip_btn")
      | .ok parts => fail (.badValue (unpackingRefusal parts.length))
      | .error _ =>
        fail (.wrongType ("cannot unpack non-iterable " ++ download.kind ++ " object"))

/-- Shows what was generated: its message, its scripts, its issues and its archive. -/
def showGenerated (data : Value) : Act Unit := do
  let status ← need (data.memberD "status" .null)
  if status.same (.text "success") then
    put (.text .success (← need (data.memberD "message" (.text "Done."))))
  else
    put (.text .warning (← need (data.memberD "message" (.text "Finished with warnings."))))
  showInferredKey data
  showScripts data
  showIssues data
  showDownload

def generatePage (client : Client) : Act Unit := do
  say .header "Generate SQL"
  let sql ← askStatement "gen_create_sql"
  let dialects ← listDialects client
  put (.multiselect "Target dialects" dialects "gen_targets")
  let targets ← answer "gen_targets" dialects
  let entitled := (← session).entitled.getD .null
  put (.columns 2)
  let routines ← askFeature 0 "Stored procedures (Pro)" entitled "gen_procs"
  let diff ← askFeature 1 "DDL diff placeholder (Pro)" entitled "gen_diff"
  if ← askButton "Generate" "generate_btn" true then
    change fun s => { s with statement := some sql, download := some .null }
    put (.spinner "Generating…")
    inside .spinner (generateNow client ⟨sql, targets, routines, diff, entitled⟩)
  let data := (← session).generated.getD .null
  if data.truthy then
    if ← hasError data then
      showFault client data
    else showGenerated data

/-- Shows the table of a statement as the service reads it. -/
def showTable (client : Client) (response : Value) : Act Unit := do
  let t ← need (response.memberD "table" (.dict []))
  say .subheader ("Table: " ++ (← need (client.shown (← need (t.memberD "name" .null)))))
  put (.dataframe (← need (t.memberD "columns" (.list []))))
  put (.json response)

def inspectPage (client : Client) : Act Unit := do
  say .header "Inspect Schema"
  say .caption "Shows how the parser reads your statement: columns, types, flags and keys."
  let sql ← askStatement "inspect_create_sql"
  if ← askButton "Parse" "parse_btn" false then
    change fun s => { s with statement := some sql }
    put (.spinner "Parsing…")
    let response ← inside .spinner (parseStatement client sql)
    if ← hasError response then
      showFault client response
    else showTable client response

end CrudScripts.Workbench
