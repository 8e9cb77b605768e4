import FormulaGrid.Number.Basic
import FormulaGrid.Text.Quoted

/-!
Contract: values of unknown shape.

Owns:
- the values that may arrive where a text, a number or rows of cells are wanted
  (`Datum`);
- the name of their kind (`Datum.kindName`), their written form (`Datum.shown`)
  with the integers in it (`Datum.integers`), and their elements
  (`Datum.elements?`).

Does not own: the checks that turn such a value into a domain type; those belong
to the operation that wants it.
-/

namespace FormulaGrid

/-- A value as it arrives. An expression is known by its text. -/
inductive Datum where
  | null
  | bool (value : Bool)
  | int (value : Int)
  | float (value : Float)
  | text (value : String)
  | list (items : List Datum)
  | record (fields : List (String × Datum))
  | expression (text : String)
deriving Inhabited

namespace Datum

/-- The kind of a value, as messages name it. -/
def kindName : Datum → String
  | null => "NoneType"
  | bool _ => "bool"
  | int _ => "int"
  | float _ => "float"
  | text _ => "str"
  | list _ => "list"
  | record _ => "dict"
  | expression _ => "Expression"

mutual

/-- The written form of a value. -/
def shown : Datum → String
  | null => "None"
  | bool value => if value then "True" else "False"
  | int value => Numeral.integer value
  | float value => floatText value
  | text value => Text.quoted value
  | list items => "[" ++ ", ".intercalate (shownItems items) ++ "]"
  | record fields => "\x7b" ++ ", ".intercalate (shownFields fields) ++ "\x7d"
  | expression value => value

/-- The written forms of the items of a list. -/
def shownItems : List Datum → List String
  | [] => []
  | item :: items => shown item :: shownItems items

/-- The written forms of the fields of a record, each with its name. -/
def shownFields : List (String × Datum) → List String
  | [] => []
  | (name, value) :: fields =>
      (Text.quoted name ++ ": " ++ shown value) :: shownFields fields

end

mutual

/-- The integers that the written form of a value is written from. -/
def integers : Datum → List Int
  | int value => [value]
  | list items => itemsIntegers items
  | record fields => fieldsIntegers fields
  | null | bool _ | float _ | text _ | expression _ => []

/-- The integers in the items of a list. -/
def itemsIntegers : List Datum → List Int
  | [] => []
  | item :: items => integers item ++ itemsIntegers items

/-- The integers in the fields of a record. -/
def fieldsIntegers : List (String × Datum) → List Int
  | [] => []
  | (_, value) :: fields => integers value ++ fieldsIntegers fields

end

/-- What a value holds when it is gone through: a text its characters, a list its
items, a record its field names. Other values hold nothing. -/
def elements? : Datum → Option (List Datum)
  | text value => some (value.toList.map fun character => text (String.singleton character))
  | list items => some items
  | record fields => some (fields.map fun field => text field.1)
  | _ => none

end Datum

end FormulaGrid
