/-!
# Source locations

Positions in a C source file as a front end reports them. Declarations that a
compiler made up itself have no position; those carry `Location.unknown`.
-/

namespace ForeignBindings

/-- A position in a source file; lines and columns count from one. -/
structure Location where
  file : String := ""
  line : UInt32 := 0
  column : UInt32 := 0
deriving DecidableEq, Repr, Inhabited

namespace Location

/-- The place of a declaration without a recorded position. -/
def unknown : Location := {}

/-- A location is known when it names a file and a line. -/
def isKnown (location : Location) : Bool := location.file != "" && location.line != 0

/-- File, line and column, or a mark in place of an unknown location. -/
def display (location : Location) : String :=
  if location.isKnown then
    location.file ++ ":" ++ toString location.line.toNat ++ ":" ++
      toString location.column.toNat
  else "<unknown>"

/-- The location if it is known, else the given one. -/
def orElse (location fallback : Location) : Location :=
  if location.isKnown then location else fallback

end Location

end ForeignBindings
