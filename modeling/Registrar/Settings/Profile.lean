import Registrar.Text.Lowercase

/-!
# Profiles

A profile chooses the settings file that is read before the main one. Two profiles have names of
their own, in a long and a short form; every other name is a profile too. Case does not count.
-/

namespace Registrar

/-- The circumstances that settings are meant for. -/
inductive Profile where
  | development
  | production
  | custom (name : String)
  deriving DecidableEq, Repr

/-- The name of the profile. -/
def Profile.name : Profile → String
  | .development => "development"
  | .production => "production"
  | .custom name => name

/-- The profile of a name. -/
def Profile.ofName (name : String) : Profile :=
  let lowered := Text.lowercase name
  if lowered = "production" || lowered = "prod" then .production
  else if lowered = "development" || lowered = "dev" then .development
  else .custom lowered

end Registrar
