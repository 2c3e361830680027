import Cloister.Console.EmojiTable
import Cloister.Screen.Manual
import Cloister.Text.Case

/-! # Pictures by name

A name between colons stands for a picture. A suffix asks for its form as a text or as a picture,
and names of people may tell a tone of skin.

* `Emoji.picture?`: the picture of a name.
* `Emoji.code?`: the picture of what stands between two colons.
* `Emoji.replace`: a text with pictures in the place of names.
-/

namespace Cloister.Emoji
set_option autoImplicit false

/-- A name, its picture, and whether there is a variant for every tone of skin. -/
structure Entry where
  name : String
  picture : List Char
  toned : Bool

def entry (word picture : String) : Entry :=
  match word.toList.reverse with
  | '~' :: name => ⟨String.ofList name.reverse, picture.toList, true⟩
  | _ => ⟨word, picture.toList, false⟩

def entriesOf : List String → List Entry
  | name :: picture :: rest => entry name picture :: entriesOf rest
  | _ => []

def entries : List Entry := Console.emojiWords.flatMap fun line => entriesOf (Text.pieces ' ' line)

def tones : List (String × Char) :=
  [("_dark_skin_tone", '🏿'), ("_medium-dark_skin_tone", '🏾'), ("_medium_skin_tone", '🏽'),
    ("_medium-light_skin_tone", '🏼'), ("_light_skin_tone", '🏻')]

/-- The mark after a character that is to be shown as a picture. -/
def pictureMark : Char := '\uFE0F'

/-- The mark after a character that is to be shown as text. -/
def textMark : Char := '\uFE0E'

/-- A picture with a tone of skin, which stands after the first character and in the place of a
mark there. -/
def withTone (tone : Char) : List Char → List Char
  | c :: rest => c :: tone :: rest.dropWhile (· == pictureMark)
  | [] => []

/-- The text before an ending, if it is there. -/
def stem? (ending : List Char) (s : List Char) : Option (List Char) :=
  if ending.isSuffixOf s then some (s.take (s.length - ending.length)) else none

/-- The picture of a name with an ending for a tone of skin. -/
def toned? (name : String) : Option (List Char) :=
  tones.findSome? fun (ending, tone) =>
    match stem? ending.toList name.toList with
    | none => none
    | some stem =>
      (entries.find? fun e => e.toned && e.name.toList == stem).map fun e => withTone tone e.picture

def picture? (name : String) : Option (List Char) :=
  match entries.find? (·.name == name) with
  | some e => some e.picture
  | none => toned? name

/-- The suffixes that ask for a form, with the mark for each. -/
def forms : List (String × Char) := [("-emoji", pictureMark), ("-text", textMark)]

/-- What stands between two colons: the name, and the mark that its suffix asks for. -/
def nameAndMark (body : List Char) : List Char × List Char :=
  (forms.findSome? fun (ending, mark) =>
    (stem? ending.toList body).map fun stem => (stem, [mark])).getD (body, [])

def code? (body : List Char) : Option (List Char) :=
  let (name, mark) := nameAndMark body
  (picture? (Text.toLower (String.ofList name))).map (· ++ mark)

/-- A text with pictures in the place of names, of which the first `skip` characters are dealt with
already. Colons around something else stay, and belong to it. -/
def replaceFrom (skip : Nat) : List Char → List Char
  | [] => []
  | c :: cs =>
    if 0 < skip then replaceFrom (skip - 1) cs
    else if c = ':' then
      match Screen.readName cs with
      | some body =>
        (code? body).getD (':' :: body ++ [':']) ++ replaceFrom (body.length + 1) cs
      | none => c :: replaceFrom 0 cs
    else c :: replaceFrom 0 cs

def replace (s : List Char) : List Char := replaceFrom 0 s

end Cloister.Emoji
