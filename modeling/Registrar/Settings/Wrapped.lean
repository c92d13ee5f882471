import Registrar.Settings.Tree

/-!
# Wrapped settings

In a settings file a table may wrap a value: an entry of a name of its own holds the value, and the
table stands for it, whatever else it holds. Another such name is for the number of an origin, which
no file can spell, so that a table with this name is refused. The outermost table is no wrapper.
-/

namespace Registrar.Settings

/-- The name under which a wrapper holds its value. -/
def wrappedName : String :=
  "___figment_value_value"

/-- The name under which a wrapper would hold the number of its origin. -/
def wrappedOriginName : String :=
  "___figment_value_id"

mutual

/-- What a tree stands for, without the wrappers inside. -/
def Tree.unwrap? : Tree → Option Tree
  | .leaf origin value => some (.leaf origin value)
  | .array origin items => do return .array origin (← unwrapAll? items)
  | .table origin entries => do
    let entries ← unwrapNamed? entries
    if (entries.lookup wrappedOriginName).isSome then none
    else return (entries.lookup wrappedName).getD (.table origin entries)

/-- What several trees stand for. -/
def unwrapAll? : List Tree → Option (List Tree)
  | [] => some []
  | tree :: rest => do return (← tree.unwrap?) :: (← unwrapAll? rest)

/-- What the trees under several names stand for. -/
def unwrapNamed? : List (String × Tree) → Option (List (String × Tree))
  | [] => some []
  | (name, tree) :: rest => do return (name, ← tree.unwrap?) :: (← unwrapNamed? rest)

end

/-- A tree whose entries are replaced by what they stand for. -/
def Tree.unwrapEntries? : Tree → Option Tree
  | .table origin entries => do return .table origin (← unwrapNamed? entries)
  | tree => tree.unwrap?

end Registrar.Settings
