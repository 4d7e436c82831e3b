/-
Module: ModalLanguage.Datum
Purpose: Plain values that a caller may hand over where a limit or a truth value is wanted. A value
  has a text for messages and a truth value: nothing, zero and whatever is empty count as false.
Main exports: Datum, Datum.render, Datum.isTrue
-/
import ModalLanguage.Text.Decimal
import ModalLanguage.Text.Quoted

namespace ModalLanguage

/-- A plain value. Whole numbers are unbounded and stay apart from floating-point ones, and the
    fields of an object keep their order. -/
inductive Datum where
  | null
  | bool (value : Bool)
  | int (value : Int)
  | float (value : Float)
  | text (value : String)
  | list (items : List Datum)
  | object (fields : List (String × Datum))

namespace Datum

mutual

/-- The text of a value: texts are quoted, lists and objects are written on one line. -/
def render : Datum → String
  | null => "None"
  | bool true => "True"
  | bool false => "False"
  | int i => toString i
  | float x => floatText x
  | text s => quoted s
  | list items => "[" ++ ", ".intercalate (renderItems items) ++ "]"
  | object fields => "\x7b" ++ ", ".intercalate (renderFields fields) ++ "\x7d"

/-- The texts of the items of a list. -/
def renderItems : List Datum → List String
  | [] => []
  | item :: items => item.render :: renderItems items

/-- The texts of the fields of an object, each behind its quoted key. -/
def renderFields : List (String × Datum) → List String
  | [] => []
  | (key, value) :: fields => (quoted key ++ ": " ++ value.render) :: renderFields fields

end

/-- The truth value of a plain value. -/
def isTrue : Datum → Bool
  | null => false
  | bool value => value
  | int i => i != 0
  | float x => x != 0
  | text s => s != ""
  | list items => !items.isEmpty
  | object fields => !fields.isEmpty

end Datum

end ModalLanguage
