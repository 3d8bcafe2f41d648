/-!
# Paths

A path is text with parts between slashes.  Empty parts and parts of a single point count for nothing, except
that a relative path may start with a point.  Taking the parent keeps the text in front of the last part as it
is written.
-/

namespace SupplyRisk

structure FilePath where
  text : String
deriving DecidableEq

namespace FilePath

/-- The texts between slashes. -/
def pieces (p : FilePath) : List (List Char) := p.text.toList.splitOn '/'

def ofPieces (ps : List (List Char)) : FilePath :=
  ⟨String.ofList (List.intercalate ['/'] ps)⟩

def isAbsolute (p : FilePath) : Bool := p.text.toList.head? = some '/'

/-- Whether the piece at a place is a part of the path. -/
def isPart (place : Nat) (piece : List Char) : Bool :=
  piece ≠ [] && (piece ≠ ['.'] || place = 0)

/-- The places of the parts among the pieces. -/
def partPlaces (p : FilePath) : List Nat :=
  (p.pieces.zipIdx.filter (fun piece => isPart piece.2 piece.1)).map (·.2)

/-- The path up to and including the piece at a place. -/
def upTo (p : FilePath) (place : Nat) : FilePath := ofPieces (p.pieces.take (place + 1))

/-- The path without any parts. -/
def base (p : FilePath) : FilePath := ⟨if p.isAbsolute then "/" else ""⟩

/-- The path and its successive parents, the nearest first. -/
def lineage (p : FilePath) : List FilePath :=
  match p.partPlaces.reverse with
  | [] => [p]
  | _ :: places => p :: places.map p.upTo ++ [p.base]

def parent? (p : FilePath) : Option FilePath := p.lineage[1]?

/-- The first `depth` entries of the lineage. -/
def ancestors (p : FilePath) (depth : Nat) : List FilePath := p.lineage.take depth

/-- A path below a directory; an absolute path stands for itself. -/
def join (directory p : FilePath) : FilePath :=
  if p.isAbsolute then p
  else if directory.text = "" ∨ directory.text.toList.getLast? = some '/' then
    ⟨directory.text ++ p.text⟩
  else ⟨directory.text ++ "/" ++ p.text⟩

/-- The place of the last part, if that is a name. -/
def namePlace? (p : FilePath) : Option Nat :=
  match p.partPlaces.getLast? with
  | some place =>
      let name := p.pieces.getD place []
      if name = ['.'] ∨ name = ['.', '.'] then none else some place
  | none => none

/-- The name at the end of a path. -/
def fileName? (p : FilePath) : Option (List Char) := p.namePlace?.map (p.pieces.getD · [])

/-- A name in front of and behind its last point; a name that only starts with a point is not divided. -/
def splitName (name : List Char) : List Char × Option (List Char) :=
  let after := (name.reverse.takeWhile (· ≠ '.')).reverse
  let before := name.take (name.length - after.length - 1)
  if after.length = name.length ∨ before = [] then (name, none) else (before, some after)

/-- What stands behind the last point of the name at the end. -/
def extension? (p : FilePath) : Option (List Char) := p.fileName?.bind (fun name => (splitName name).2)

/-- The path with another extension; a path that does not end in a name stays as it is. -/
def withExtension (p : FilePath) (extension : String) : FilePath :=
  match p.namePlace? with
  | none => p
  | some place =>
      let stem := (splitName (p.pieces.getD place [])).1
      ofPieces (p.pieces.take place ++ [stem ++ '.' :: extension.toList])

end FilePath

end SupplyRisk
