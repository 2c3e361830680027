import Cloister.Console.Color
import Cloister.Text.Blank

/-! # Styles

A style is named by words: attributes of text, each switched on or off, a colour, the colour of the
background, and a link. The words may come in any order, and the last one of its kind counts.

* `Style`: what a name says.
* `Style.read`: the style of a name, or why the words make none.
* `Style.name`: the name of a style, with its words in a fixed order.
* `Style.normal`: the normal form of a name, so that two names of one style agree.
-/

namespace Cloister
set_option autoImplicit false

/-- What the words of a name say. -/
structure Style where
  attributes : List (String × Bool) := []
  color : Option String := none
  background : Option String := none
  link : Option String := none
  deriving DecidableEq, Repr

namespace Style

/-- The attributes of text, in the order in which they are listed, with the words for each. -/
def attributeWords : List (String × List String) :=
  [("bold", ["bold", "b"]), ("dim", ["dim", "d"]), ("italic", ["italic", "i"]),
    ("underline", ["underline", "u"]), ("blink", ["blink"]), ("blink2", ["blink2"]),
    ("reverse", ["reverse", "r"]), ("conceal", ["conceal", "c"]), ("strike", ["strike", "s"]),
    ("underline2", ["underline2", "uu"]), ("frame", ["frame"]), ("encircle", ["encircle"]),
    ("overline", ["overline", "o"])]

def attribute? (word : String) : Option String :=
  (attributeWords.find? fun a => a.2.contains word).map (·.1)

/-- The style without any words. -/
def plainName : String := "none"

/-- The words of a name: the pieces between white space. -/
def wordsOf (name : List Char) : List String :=
  ((Text.cut ' ' (name.map fun c => if Text.isBlank c then ' ' else c)).filter
    (!·.isEmpty)).map String.ofList

def switch (s : Style) (word : String) (on : Bool) : Style :=
  { s with attributes := (word, on) :: s.attributes }

/-- Reads words one after another, on top of a style. Two of them need a word after them: `on` the
colour of the background, and `not` an attribute in its own spelling. -/
def readWords (s : Style) : List String → Except Color.Flaw Style
  | [] => .ok s
  | [word] =>
    match attribute? (Text.toLower word) with
    | some a => .ok (s.switch a true)
    | none => (Color.normal word).map fun c => { s with color := some c }
  | word :: next :: rest =>
    let lower := Text.toLower word
    if lower = "on" then
      match Color.normal next with
      | .ok c => readWords { s with background := some c } rest
      | .error e => .error e
    else if lower = "not" then
      match attribute? next with
      | some a => readWords (s.switch a false) rest
      | none => .error .unknown
    else if lower = "link" then readWords { s with link := some next } rest
    else
      match attribute? lower with
      | some a => readWords (s.switch a true) (next :: rest)
      | none =>
        match Color.normal word with
        | .ok c => readWords { s with color := some c } (next :: rest)
        | .error e => .error e
  termination_by words => words.length

def read (name : List Char) : Except Color.Flaw Style :=
  if Text.trimChars name = plainName.toList then .ok {} else readWords {} (wordsOf name)

/-- The words of a style in their order: the attributes, the colours, the link. -/
def words (s : Style) : List String :=
  (attributeWords.filterMap fun (a, _) =>
    (s.attributes.lookup a).map fun on => if on then a else "not " ++ a) ++
    s.color.toList ++ (s.background.map ("on " ++ ·)).toList ++ (s.link.map ("link " ++ ·)).toList

def name (s : Style) : String :=
  if s.words.isEmpty then plainName else Text.join ' ' s.words

/-- The normal form of a name: the name of its style, or the text in lower case if the words make
none. A mixture with a missing part is refused. -/
def normal (name : List Char) : Except Color.Flaw (List Char) :=
  match read name with
  | .ok s => .ok s.name.toList
  | .error .unknown => .ok (Text.toLower (String.ofList (Text.trimChars name))).toList
  | .error e => .error e

end Style
end Cloister
