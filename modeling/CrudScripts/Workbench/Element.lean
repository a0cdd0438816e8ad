import CrudScripts.Data.Value

/-!
What the workbench puts on its screen, element by element.
-/
namespace CrudScripts.Workbench
open CrudScripts.Data

/-- The kinds of a line of text. -/
inductive TextKind where
  | title
  | header
  | subheader
  | caption
  | markdown
  | info
  | success
  | warning
  | error
deriving DecidableEq

/-- A part of the screen that holds the elements put on it until it is left. -/
inductive Region where
  | spinner
  | expander
  | tab (index : Nat)
deriving DecidableEq

/-- An element of the screen, or the opening or closing of a part of it. -/
inductive Element where
  | pageSetup (title : String)
  | style (sheet : String)
  | text (kind : TextKind) (content : Value)
  | sidebarToggle (label : String) (value : Value) (key : String)
  | sidebarButton (label key : String) (isPrimary : Bool)
  | sidebarText (content : String)
  | textArea (label : String) (value : Value) (height : Nat) (key : String)
  | multiselect (label : String) (options : Value) (key : String)
  | columns (count : Nat)
  | checkbox (column : Nat) (label : String) (value : Value) (disabled : Bool) (key : String)
  | button (label key : String) (isPrimary : Bool)
  | spinner (label : String)
  | expander (label : String)
  | tabs (labels : List Value)
  | enter (region : Region)
  | leave (region : Region)
  | code (script : Value)
  | json (value : Value)
  | dataframe (rows : Value)
  | download (label : String) (data name : Value) (mime key : String)
  | rerun

end CrudScripts.Workbench
