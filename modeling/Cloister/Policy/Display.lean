import Cloister.Text.Quoted

/-! # Display protocols

* `DisplaySystem`: the choices among display protocols, with what each of them exposes.
* `DisplaySelection`: the name that was chosen and the system it stands for.
* `DisplaySelection.choose`: a valid explicit choice wins over the type of the session.
-/

namespace Cloister
set_option autoImplicit false

/-- The choices among display protocols. -/
inductive DisplaySystem where
  | x11
  | wayland
  | none
  | any
  deriving DecidableEq, Repr

namespace DisplaySystem

def name : DisplaySystem → String
  | x11 => "x11"
  | wayland => "wayland"
  | none => "none"
  | any => "any"

def ofName? : String → Option DisplaySystem
  | "x11" => some x11
  | "wayland" => some wayland
  | "none" => some none
  | "any" => some any
  | _ => Option.none

/-- Whether X11 clients may reach their server. -/
def allowsX11 : DisplaySystem → Bool
  | x11 | any => true
  | wayland | none => false

def allowsWayland : DisplaySystem → Bool
  | wayland | any => true
  | x11 | none => false

/-- The complaint about a word that stands for no choice. -/
def unknownMessage (word : String) : String := Text.quoted word ++ " is not a valid WindowSystem"

end DisplaySystem

/-- The name that was chosen and the system it stands for. -/
structure DisplaySelection where
  name : String
  system : DisplaySystem
  deriving DecidableEq, Repr

namespace DisplaySelection

/-- The selection of a name; a name that stands for no choice exposes nothing. -/
def ofName (name : String) : DisplaySelection := ⟨name, (DisplaySystem.ofName? name).getD .none⟩

/-- A valid explicit choice wins; otherwise the type of the session is taken as it is. -/
def choose (explicit session : Option String) : DisplaySelection :=
  match explicit.bind fun w => (DisplaySystem.ofName? w).map fun s => DisplaySelection.mk w s with
  | some selection => selection
  | none => ofName (session.getD "")

end DisplaySelection
end Cloister
