import Registrar.Path

/-!
# Values by path

A finite map from paths, kept as the list of its entries in the order of paths. Two spellings of one
place are one key; the spelling that came first stays. Main statement: `find?_insert`.
-/

namespace Registrar

/-- Entries in ascending order of their paths. -/
abbrev PathMap (α : Type) := List (Path × α)

namespace PathMap

variable {α β : Type}

/-- The value of a path. -/
def find? (map : PathMap α) (path : Path) : Option α :=
  (List.find? (fun entry => entry.1.order path = .eq) map).map Prod.snd

/-- Sets the value of a path. -/
def insert : PathMap α → Path → α → PathMap α
  | [], path, value => [(path, value)]
  | (key, old) :: rest, path, value =>
    match key.order path with
    | .lt => (key, old) :: insert rest path value
    | .eq => (key, value) :: rest
    | .gt => (path, value) :: (key, old) :: rest

/-- The map of a list of entries, later ones replacing earlier ones. -/
def ofList (entries : List (Path × α)) : PathMap α :=
  entries.foldl (fun map entry => map.insert entry.1 entry.2) []

/-- Applies a function to every value. -/
def mapValues (f : α → β) (map : PathMap α) : PathMap β :=
  map.map fun entry => (entry.1, f entry.2)

/-- A path finds what was set last under any spelling of it; every other path finds what it found
before. -/
theorem find?_insert (map : PathMap α) (p q : Path) (value : α) :
    (map.insert p value).find? q = if p.order q = .eq then some value else map.find? q := by
  induction map with
  | nil => by_cases h : p.order q = .eq <;> simp [insert, find?, h]
  | cons entry rest ih =>
    obtain ⟨key, old⟩ := entry
    unfold insert
    split
    · next hlt =>
      have hkey : key.order q = .eq → p.order q ≠ .eq := by
        intro hk hp
        rw [Path.order_eq_iff] at hk hp
        have : key.order p = .eq := Path.order_eq_iff.mpr (hk.trans hp.symm)
        rw [this] at hlt
        cases hlt
      by_cases hk : key.order q = .eq
      · simp [find?, hk, hkey hk]
      · simpa [find?, hk] using ih
    · next heq =>
      rw [Path.order_eq_iff] at heq
      have hiff : key.order q = .eq ↔ p.order q = .eq := by
        rw [Path.order_eq_iff, Path.order_eq_iff, heq]
      by_cases hk : key.order q = .eq
      · simp [find?, hk, hiff.mp hk]
      · simp [find?, hk, mt hiff.mpr hk]
    · by_cases h : p.order q = .eq <;> simp [find?, h]

end PathMap

end Registrar
