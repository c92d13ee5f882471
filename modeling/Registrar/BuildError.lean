import Registrar.Event

/-!
# Why a build fails

Every way in which a stream of annotations can be rejected, and the message for it.
-/

namespace Registrar

/-- A fault in a stream of annotations. -/
inductive BuildError where
  /-- an occurrence does not carry exactly one annotation -/
  | cardinality (kind : Kind) (found : Nat)
  /-- a second module is declared -/
  | duplicateModule
  /-- a second plugin is declared for one generated file -/
  | duplicatePlugin (output : Path)
  /-- a generated file has members and no plugin -/
  | missingPlugin (output : Path)
  /-- the enumeration of a member has no values -/
  | emptyEnum (member : String)
  deriving DecidableEq, Repr

/-- The text of the message. -/
def BuildError.message : BuildError → String
  | .cardinality kind found =>
    "expected exactly 1 @" ++ kind.title ++ " annotation per occurrence, found " ++ toString found
  | .duplicateModule => "@Module annotation declared more than once in this build"
  | .duplicatePlugin output => "output '" ++ output.text ++ "' already has a @Plugin annotation"
  | .missingPlugin output =>
    "output '" ++ output.text ++ "' has members but no @Plugin annotation"
  | .emptyEnum member => "enum type for '" ++ member ++ "' has no values"

end Registrar
