/-!
# Lowering policy

The switches that decide which declarations are lowered, and how.
-/

namespace ForeignBindings

/-- The switches of the lowering of one file. -/
structure LoweringPolicy where
  /-- Typedefs with a standard name are refined outside system headers too. -/
  allowCustomFixedSizeInt : Bool := false
  /-- Functions and variables without C linkage are treated as if they had it. -/
  assumeExternC : Bool := false
  /-- A declaration that is skipped for lack of C linkage is reported. -/
  warnNoCLinkage : Bool := true
  /-- A declaration that is skipped for lack of external linkage is reported. -/
  warnNoExternalFormalLinkage : Bool := false
  /-- Declarations from included headers belong to the interface. -/
  headerGroup : Bool := false
deriving DecidableEq, Repr, Inhabited

end ForeignBindings
