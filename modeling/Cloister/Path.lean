import Cloister.Text.Pieces

/-! # Paths

Paths are texts whose components are separated by slashes.

* `Path.isAbsolute`, `Path.join`: the leading slash, and a path taken relative to a directory.
* `Path.settle`: components with the empty ones and `.` dropped and every `..` resolved.
* `Path.normal`: the normal text of a relative path.
* `Path.beneath`: an entry of a list placed strictly inside its base directory, or refused.
* `Path.baseName`, `Path.stem`: the last component, and the same without its extension.
-/

namespace Cloister.Path
set_option autoImplicit false

def slash : Char := '/'

def here : List Char := ['.']

def above : List Char := ['.', '.']

def isAbsolute (p : String) : Bool := p.toList.head? == some slash

/-- A path seen from a base: an absolute one replaces the base, any other follows it after one
slash, which is left out if the base is empty or ends in one. -/
def joinChars (base p : List Char) : List Char :=
  if p.head? = some slash then p
  else if base = [] ∨ base.getLast? = some slash then base ++ p
  else base ++ slash :: p

def join (base p : String) : String := String.ofList (joinChars base.toList p.toList)

@[simp] theorem toList_join (base p : String) :
    (join base p).toList = joinChars base.toList p.toList := by
  simp [join]

/-! ## Normal form of a relative path -/

/-- Reads components from left to right: `..` takes back the component kept last, unless that is a
`..` itself or there is none. The kept components are listed with the last one first. -/
def settle (kept : List (List Char)) : List (List Char) → List (List Char)
  | [] => kept.reverse
  | c :: cs =>
    if c = [] ∨ c = here then settle kept cs
    else if c = above then
      match kept with
      | [] => settle [c] cs
      | k :: ks => if k = above then settle (c :: k :: ks) cs else settle ks cs
    else settle (c :: kept) cs

/-- The normal text of a relative path; without a component left it is `.`. -/
def normal (p : List Char) : List Char :=
  match Text.glue slash (settle [] (Text.cut slash p)) with
  | [] => here
  | q => q

/-- Whether a normal relative path leads to the directory it starts from, or out of it. -/
def escapes (rel : List Char) : Bool :=
  rel == here || rel == [] || rel == above || (above ++ [slash]).isPrefixOf rel

/-- An entry placed beneath a base directory. Leading slashes do not count; an entry that leads to
the base itself or above it has no place. -/
def beneathChars (base name : List Char) : Option (List Char) :=
  let rel := normal (name.dropWhile (· = slash))
  if escapes rel then none else some (joinChars base rel)

/-- An entry placed beneath a base directory, never outside it. -/
def beneath (base name : String) : Option String :=
  (beneathChars base.toList name.toList).map String.ofList

/-! ## The last component -/

section LastComponent
variable {α : Type} [DecidableEq α]

/-- The last component of a path, whose components are separated by a sign. -/
def baseName (sep : α) (p : List α) : List α :=
  (p.reverse.takeWhile (· ≠ sep)).reverse

/-- A file name without its last extension, which starts with a dot; dots at the start of the name
begin no extension. -/
def stem (dot : α) (name : List α) : List α :=
  let dots := name.takeWhile (· = dot)
  let tail := name.dropWhile (· = dot)
  match (tail.reverse.dropWhile (· ≠ dot)).reverse with
  | [] => name
  | cs => dots ++ cs.dropLast

end LastComponent

end Cloister.Path
