import CrudScripts.Data.Double
import CrudScripts.Data.Failure

/-!
Values whose kind is known only when the program runs: settings, request bodies, answers of form
elements. `truthy` says which values count as present, `same` compares values as the program does
(a truth value is the number 0 or 1, and a number has one value however it is written), and the
readers fail with the cause that the surrounding program reports.
-/
namespace CrudScripts.Data

/-- A value of unknown kind. The fields of a dictionary are in order of arrival. -/
inductive Value where
  | null
  | bool (b : Bool)
  | int (n : Int)
  | real (x : Double)
  | text (s : String)
  | bytes (content : String)
  | list (items : List Value)
  | dict (fields : List (String × Value))

namespace Value

instance : Inhabited Value := ⟨.null⟩

/-- Whether a value counts as present: null, false, zero and everything empty do not. -/
def truthy : Value → Bool
  | .null => false
  | .bool b => b
  | .int n => n != 0
  | .real x => !x.isZero
  | .text s => s != ""
  | .bytes s => s != ""
  | .list items => !items.isEmpty
  | .dict fields => !fields.isEmpty

/-- The word for the kind of a value. -/
def kind : Value → String
  | .null => "NoneType"
  | .bool _ => "bool"
  | .int _ => "int"
  | .real _ => "float"
  | .text _ => "str"
  | .bytes _ => "bytes"
  | .list _ => "list"
  | .dict _ => "dict"

/-- Whether a value is a truth value or a number. -/
def isNumber : Value → Bool
  | .bool _ => true
  | .int _ => true
  | .real _ => true
  | _ => false

/-- Whether a value is a given whole number. -/
def isWhole (n : Int) : Value → Bool
  | .bool b => n == if b then 1 else 0
  | .int k => n == k
  | .real x => x.isWhole n
  | _ => false

/-- Whether a value is a given number in double precision. -/
def isReal (x : Double) : Value → Bool
  | .bool b => x.isWhole (if b then 1 else 0)
  | .int k => x.isWhole k
  | .real y => x.same y
  | _ => false

mutual

/-- Whether two values are equal; the order of the fields of a dictionary does not count. -/
def same : Value → Value → Bool
  | .null, .null => true
  | .text s, .text t => s == t
  | .bytes s, .bytes t => s == t
  | .list items, .list others => sameItems items others
  | .dict fields, .dict others => fields.length == others.length && sameFields fields others
  | .bool b, w => w.isWhole (if b then 1 else 0)
  | .int n, w => w.isWhole n
  | .real x, w => w.isReal x
  | _, _ => false
termination_by structural v => v

/-- Whether two lists of values are equal. -/
def sameItems : List Value → List Value → Bool
  | [], [] => true
  | v :: items, w :: others => v.same w && sameItems items others
  | _, _ => false
termination_by structural items => items

/-- Whether every field has an equal one among others. -/
def sameFields : List (String × Value) → List (String × Value) → Bool
  | [], _ => true
  | field :: rest, others => sameField field others && sameFields rest others
termination_by structural fields => fields

/-- Whether a field has an equal one among others. -/
def sameField : String × Value → List (String × Value) → Bool
  | (name, v), others => match others.lookup name with
    | some w => v.same w
    | none => false
termination_by structural field => field

end

/-- The text of a textual value. -/
def text? : Value → Option String
  | .text s => some s
  | _ => none

/-- Whether a value can be looked up in a table: lists and dictionaries cannot. -/
def isKey : Value → Bool
  | .list _ => false
  | .dict _ => false
  | _ => true

/-- The member of a dictionary under a name, if there is one. -/
def member (v : Value) (name : String) : Except Failure (Option Value) :=
  match v with
  | .dict fields => .ok (fields.lookup name)
  | other => .error (.noMember other.kind "get")

/-- The member of a dictionary under a name, or a default. -/
def memberD (v : Value) (name : String) (default : Value) : Except Failure Value := do
  return (← v.member name).getD default

/-- The fields of a dictionary. -/
def fields (v : Value) : Except Failure (List (String × Value)) :=
  match v with
  | .dict fields => .ok fields
  | other => .error (.noMember other.kind "items")

/-- What a value yields when it is read element by element: the items of a list, the characters of
    a text, the names of a dictionary. -/
def elements : Value → Except Failure (List Value)
  | .list items => .ok items
  | .text s => .ok (s.toList.map fun c => .text (String.singleton c))
  | .bytes s => .ok (s.toUTF8.toList.map fun b => .int b.toNat)
  | .dict fields => .ok (fields.map fun f => .text f.1)
  | other => .error (.notIterable other.kind)

/-- The number of elements of a value. -/
def size (v : Value) : Except Failure Nat :=
  match v.elements with
  | .ok items => .ok items.length
  | .error _ => .error (.wrongType ("object of type '" ++ v.kind ++ "' has no len()"))

end Value

end CrudScripts.Data
