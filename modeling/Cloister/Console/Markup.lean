import Cloister.Console.Emoji
import Cloister.Console.Handler
import Cloister.Console.Layout
import Cloister.Console.Style

/-! # Markup of console messages

Messages on the console may hold tags in square brackets. An opening tag starts a style, a closing
tag ends the last one of its name, and the tags themselves are not shown. A backslash before a tag
makes it plain text, and names between colons stand for pictures.

* `Markup.Piece`, `Markup.pieces`: the text and the tags of a message.
* `Markup.Tag`: a tag that is open.
* `Markup.shownText`: what the pieces show.
* `Markup.render`: what the console shows of a message.
* `Markup.Failure`: why a message cannot be shown.
-/

namespace Cloister.Markup
set_option autoImplicit false

/-! ## Pieces -/

/-- A part of a message: text, or a tag at its place in the message. -/
inductive Piece where
  | text (s : List Char)
  | tag (position : Nat) (body : List Char)
  deriving DecidableEq, Repr

/-- Text without one backslash before each bracket. -/
def unescape : List Char → List Char
  | [] => []
  | '\\' :: '[' :: cs => '[' :: unescape cs
  | c :: cs => c :: unescape cs

/-- The control characters that are never shown. -/
def isSilent (c : Char) : Bool :=
  c == '\x07' || c == '\x08' || c == '\x0b' || c == '\x0c' || c == '\x0d'

def shown (s : List Char) : List Char := (Emoji.replace (unescape s)).filter (!isSilent ·)

/-- A stretch of text, unless it is empty, given its characters, the last one first. -/
def textPiece : List Char → List Piece
  | [] => []
  | s => [.text (shown s.reverse)]

/-- The pieces for `slashes` backslashes and a tag after them: every two stand for one, and an odd
one makes the tag plain text. -/
def tagPieces (slashes position : Nat) (body : List Char) : List Piece :=
  textPiece (List.replicate (slashes / 2) '\\') ++
    [if slashes % 2 = 0 then .tag position body else .text (shown ('[' :: body ++ [']']))]

/-- The pieces of what is left of a message from a position on, after a stretch of text, the last
character first; the first `skip` characters belong to the tag read last. -/
def piecesFrom (position : Nat) (stretch : List Char) (skip : Nat) : List Char → List Piece
  | [] => textPiece stretch
  | c :: cs =>
    if 0 < skip then piecesFrom (position + 1) [] (skip - 1) cs
    else
      match if c = '[' then Screen.readTag cs else none with
      | some body =>
        let slashes := (stretch.takeWhile (· == '\\')).length
        textPiece (stretch.drop slashes) ++ tagPieces slashes position body ++
          piecesFrom (position + 1) [] (body.length + 1) cs
      | none => piecesFrom (position + 1) (c :: stretch) 0 cs

def pieces (message : List Char) : List Piece := piecesFrom 0 [] 0 message

/-! ## Tags -/

/-- A tag: its name, and what stands after an equals sign. -/
structure Tag where
  name : List Char
  parameters : Option (List Char)
  deriving DecidableEq, Repr

def Tag.ofBody (body : List Char) : Tag :=
  match body.dropWhile (· ≠ '=') with
  | [] => ⟨body, none⟩
  | _ :: parameters => ⟨body.takeWhile (· ≠ '='), some parameters⟩

def Tag.style (t : Tag) : List Char :=
  match t.parameters with
  | some p => t.name ++ ' ' :: p
  | none => t.name

/-- Why a message cannot be shown. -/
inductive Failure where
  /-- A closing tag without an opening one of its name. -/
  | unmatched (body : List Char) (position : Nat)
  /-- A closing tag where no tag is open. -/
  | nothingOpen (position : Nat)
  | handler (f : Handler.Failure)
  /-- A colour with a missing part. -/
  | color
  deriving DecidableEq, Repr

def Failure.message : Failure → String
  | unmatched body position =>
    "closing tag '[" ++ String.ofList body ++ "]' at position " ++ toString position ++
      " doesn't match any open tag"
  | nothingOpen position =>
    "closing tag '[/]' at position " ++ toString position ++ " has nothing to close"
  | handler f => f.message
  | color => Color.missingPartMessage

def normalName (name : List Char) : Except Failure (List Char) :=
  match Style.normal name with
  | .ok n => .ok n
  | .error _ => .error .color

def Tag.close (t : Tag) : Except Failure Unit :=
  if Handler.isEvent t.name then
    match Handler.check (t.parameters.getD []) with
    | .ok _ => .ok ()
    | .error f => .error (.handler f)
  else .ok ()

/-- The tags that are open, the last one first, and the styles of all tags that have one. -/
structure State where
  opened : List Tag := []
  styles : List (List Char) := []

/-- The state after a closed tag, which is the first open one of its kind. -/
def State.close (s : State) (t : Tag) : Except Failure State :=
  (t.close).map fun _ =>
    { opened := s.opened.eraseP (·.name == t.name)
      styles := if Handler.isEvent t.name then s.styles else t.style :: s.styles }

def State.apply (s : State) (position : Nat) (body : List Char) : Except Failure State :=
  let t := Tag.ofBody body
  match t.name with
  | '/' :: closed =>
    match Text.trimChars closed with
    | [] =>
      match s.opened with
      | [] => .error (.nothingOpen position)
      | last :: _ => s.close last
    | style =>
      match normalName style with
      | .error e => .error e
      | .ok name =>
        match s.opened.find? (·.name == name) with
        | none => .error (.unmatched body position)
        | some open_ => s.close open_
  | opened =>
    (normalName opened).map fun name => { s with opened := ⟨name, t.parameters⟩ :: s.opened }

/-! ## Text -/

/-- What the pieces show after a state, and the state in the end. -/
def shownText (s : State) : List Piece → Except Failure (List Char × State)
  | [] => .ok ([], s)
  | .text t :: ps => (shownText s ps).map fun (u, end_) => (t ++ u, end_)
  | .tag position body :: ps =>
    match s.apply position body with
    | .ok s => shownText s ps
    | .error e => .error e

def isFlawed (style : List Char) : Bool :=
  match Style.read style with
  | .error .missingPart => true
  | _ => false

/-- The styles of all tags, those that are left open included. -/
def State.allStyles (s : State) : List (List Char) := s.opened.map Tag.style ++ s.styles

/-- What a console of some width shows of a message, or why it cannot be shown. -/
def render (width : Nat) (message : String) : Except Failure String :=
  match shownText {} (pieces message.toList) with
  | .error e => .error e
  | .ok (s, state) =>
    if state.allStyles.any isFlawed then .error .color
    else .ok (String.ofList (Console.layOut width s))

end Cloister.Markup
