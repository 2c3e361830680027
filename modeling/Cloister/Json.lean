import Cloister.Binary64
import Cloister.Text.Json

/-! # JSON values

* `Json`: null, truth values, numbers, texts, lists and objects.
* `Json.written`: the text of a value, on one line, with a space after every comma and colon.
-/

namespace Cloister
set_option autoImplicit false

/-- A JSON value. Its texts may hold halves of pairs. -/
inductive Json where
  | null
  | bool (b : Bool)
  | int (n : Int)
  | real (x : Binary64)
  | text (s : Text.Points)
  | list (items : List Json)
  | object (fields : List (Text.Points × Json))
  deriving Inhabited

namespace Json

/-- The text of a binary number; the infinities and the value that is no number have words. -/
def realWritten : Binary64 → String
  | .infinite negative => if negative then "-Infinity" else "Infinity"
  | .nan => "NaN"
  | x => x.text

mutual

def written : Json → List Char
  | null => "null".toList
  | bool true => "true".toList
  | bool false => "false".toList
  | int n => (toString n).toList
  | real x => (realWritten x).toList
  | text s => Text.jsonString s
  | list [] => ['[', ']']
  | list (j :: js) => '[' :: written j ++ writtenItems js
  | object [] => ['\x7b', '\x7d']
  | object ((k, j) :: fs) => '\x7b' :: Text.jsonString k ++ ':' :: ' ' :: written j ++ writtenFields fs

/-- The further items of a list, and its end. -/
def writtenItems : List Json → List Char
  | [] => [']']
  | j :: js => ',' :: ' ' :: written j ++ writtenItems js

/-- The further fields of an object, and its end. -/
def writtenFields : List (Text.Points × Json) → List Char
  | [] => ['\x7d']
  | (k, j) :: fs => ',' :: ' ' :: Text.jsonString k ++ ':' :: ' ' :: written j ++ writtenFields fs

end

/-- A text, or null where there is none. -/
def ofText? : Option Text.Points → Json
  | some s => .text s
  | none => .null

end Json
end Cloister
