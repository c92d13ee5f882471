/-!
# Cutting text at a mark

`split` cuts text at every occurrence of a mark and `join` puts the pieces together again. The
pieces of a text without the mark are that text alone. Main statements: `join_split`, and
`mark_not_mem_of_mem_split`: no piece holds the mark. The other way about, pieces without the mark
are found again behind one another, each with a mark behind it (`split_flatMap`).
-/

namespace Registrar.Text

variable {α : Type} [DecidableEq α]

/-- The pieces between the marks, of which there is always one more than there are marks. -/
def split (mark : α) : List α → List (List α)
  | [] => [[]]
  | c :: rest =>
    if c = mark then [] :: split mark rest
    else
      match split mark rest with
      | [] => [[c]]
      | piece :: pieces => (c :: piece) :: pieces

/-- The pieces with the mark between neighbours. -/
def join (mark : α) : List (List α) → List α
  | [] => []
  | [piece] => piece
  | piece :: pieces => piece ++ mark :: join mark pieces

theorem split_ne_nil (mark : α) (cs : List α) : split mark cs ≠ [] := by
  cases cs with
  | nil => simp [split]
  | cons c rest =>
    unfold split
    split
    · simp
    · split <;> simp

theorem join_split (mark : α) (cs : List α) : join mark (split mark cs) = cs := by
  induction cs with
  | nil => rfl
  | cons c rest ih =>
    have hne := split_ne_nil mark rest
    unfold split
    split
    · next h =>
      subst h
      revert ih hne
      cases split c rest with
      | nil => intro _ hne; exact absurd rfl hne
      | cons piece pieces => intro ih _; simp [join, ih]
    · split
      · next h => exact absurd h hne
      · next piece pieces h =>
        rw [h] at ih
        cases pieces with
        | nil => simpa [join] using ih
        | cons next more => simpa [join] using ih

theorem mark_not_mem_of_mem_split {mark : α} {cs piece : List α} (h : piece ∈ split mark cs) :
    mark ∉ piece := by
  induction cs generalizing piece with
  | nil => simp [split] at h; simp [h]
  | cons c rest ih =>
    unfold split at h
    split at h
    · rcases List.mem_cons.mp h with rfl | h
      · simp
      · exact ih h
    · next hc =>
      split at h
      · next h' => exact absurd h' (split_ne_nil mark rest)
      · next first pieces h' =>
        rcases List.mem_cons.mp h with rfl | h
        · have : mark ∉ first := ih (by simp [h'])
          simp [this, Ne.symm hc]
        · exact ih (by simp [h', h])

theorem length_split (mark : α) (cs : List α) : (split mark cs).length = cs.count mark + 1 := by
  induction cs with
  | nil => rfl
  | cons c rest ih =>
    unfold split
    split
    · next h => rw [h, List.count_cons_self, List.length_cons, ih]
    · next h =>
      rw [List.count_cons_of_ne h]
      split
      · next h' => exact absurd h' (split_ne_nil mark rest)
      · next h' =>
        rw [h'] at ih
        exact ih

/-- A piece without the mark ends at the first mark. -/
theorem split_append_mark {mark : α} {piece : List α} (h : mark ∉ piece) (rest : List α) :
    split mark (piece ++ mark :: rest) = piece :: split mark rest := by
  induction piece with
  | nil => simp [split]
  | cons c piece ih =>
    rw [List.mem_cons, not_or] at h
    obtain ⟨hc, hpiece⟩ := h
    rw [List.cons_append, split, if_neg (Ne.symm hc), ih hpiece]

/-- Words without the mark, each with a mark behind it, are told apart by what follows them. -/
theorem append_mark_inj {mark : α} {u v r s : List α} (hu : mark ∉ u) (hv : mark ∉ v)
    (h : u ++ mark :: r = v ++ mark :: s) : u = v ∧ r = s := by
  have hpieces : u :: split mark r = v :: split mark s := by
    rw [← split_append_mark hu, h, split_append_mark hv]
  obtain ⟨huv, hrest⟩ := List.cons.inj hpieces
  refine ⟨huv, ?_⟩
  rw [← join_split mark r, hrest, join_split]

/-- Pieces that end with a mark and hold no other are the pieces that they are cut into. -/
theorem split_flatMap {mark : α} {pieces : List (List α)} (h : ∀ piece ∈ pieces, mark ∉ piece) :
    split mark (pieces.flatMap (· ++ [mark])) = pieces ++ [[]] := by
  induction pieces with
  | nil => rfl
  | cons piece pieces ih =>
    obtain ⟨hpiece, hpieces⟩ := List.forall_mem_cons.mp h
    rw [List.flatMap_cons, List.append_assoc, List.singleton_append, split_append_mark hpiece,
      ih hpieces]
    rfl

end Registrar.Text
