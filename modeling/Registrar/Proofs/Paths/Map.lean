import Mathlib.Data.List.Basic
import Mathlib.Data.List.Pairwise
import Registrar.PathMap

/-!
# Maps by path in their order

The entries of a map stand in strictly ascending order (`PathMap.Sorted`), and every operation keeps
them so. In such a map looking up a path is finding the one entry that stands at its place.
-/

namespace Registrar

namespace Path

theorem order_self (p : Path) : p.order p = .eq :=
  order_eq_iff.mpr rfl

theorem order_lt_trans {p q r : Path} (hpq : p.order q = .lt) (hqr : q.order r = .lt) :
    p.order r = .lt := by
  unfold order at *
  exact Std.TransCmp.lt_trans hpq hqr

theorem order_gt_iff {p q : Path} : p.order q = .gt ↔ q.order p = .lt := by
  unfold order
  exact Std.OrientedCmp.gt_iff_lt

/-- Whether a path stands before another one or at its place. -/
def atMost (p q : Path) : Bool :=
  (p.order q).isLE

theorem atMost_trans (p q r : Path) (hpq : p.atMost q) (hqr : q.atMost r) : p.atMost r := by
  unfold atMost order at *
  exact Std.TransCmp.isLE_trans hpq hqr

theorem atMost_total (p q : Path) : p.atMost q || q.atMost p := by
  rw [atMost, atMost]
  cases h : p.order q with
  | lt | eq => rfl
  | gt => rw [order_gt_iff.mp h]; rfl

theorem order_lt_of_atMost {p q : Path} (h : p.atMost q) (hne : p.order q ≠ .eq) :
    p.order q = .lt := by
  rw [atMost, Ordering.isLE_iff_eq_lt_or_eq_eq] at h
  exact h.resolve_right hne

theorem order_lt_irrefl (p : Path) : p.order p ≠ .lt := by
  rw [order_self]
  exact Ordering.noConfusion

/-- Paths at one place have one order to all others. -/
theorem order_congr_right {p q : Path} (h : p.order q = .eq) (r : Path) :
    r.order p = r.order q := by
  rw [order, order, order_eq_iff.mp h]

end Path

namespace PathMap

variable {α β : Type}

/-- The paths of a map. -/
def keys (map : PathMap α) : List Path :=
  map.map Prod.fst

/-- The entries stand in strictly ascending order. -/
def Sorted (map : PathMap α) : Prop :=
  map.keys.Pairwise fun p q => p.order q = .lt

theorem sorted_nil : Sorted ([] : PathMap α) :=
  List.Pairwise.nil

theorem sorted_cons {key : Path} {value : α} {rest : PathMap α} :
    Sorted ((key, value) :: rest) ↔
      (∀ p ∈ rest.keys, key.order p = .lt) ∧ rest.Sorted :=
  List.pairwise_cons

theorem mem_keys_insert {map : PathMap α} {p q : Path} {value : α}
    (h : q ∈ (map.insert p value).keys) : q = p ∨ q ∈ map.keys := by
  induction map with
  | nil => exact .inl (List.mem_singleton.mp h)
  | cons entry rest ih =>
    obtain ⟨key, old⟩ := entry
    unfold insert at h
    split at h
    · rcases List.mem_cons.mp h with rfl | h
      · exact .inr (List.mem_cons_self ..)
      · exact (ih h).imp_right (List.mem_cons_of_mem _)
    · exact .inr h
    · exact List.mem_cons.mp h

/-- An entry after a value is set is at the place of its path, or was there before. -/
theorem mem_insert {map : PathMap α} {p : Path} {value : α} {entry : Path × α}
    (h : entry ∈ map.insert p value) : entry.1.order p = .eq ∧ entry.2 = value ∨ entry ∈ map := by
  induction map with
  | nil =>
    obtain rfl := List.mem_singleton.mp h
    exact .inl ⟨Path.order_self p, rfl⟩
  | cons first rest ih =>
    obtain ⟨key, old⟩ := first
    unfold insert at h
    split at h
    · rcases List.mem_cons.mp h with rfl | h
      · exact .inr (List.mem_cons_self ..)
      · exact (ih h).imp_right (List.mem_cons_of_mem _)
    · next heq =>
      rcases List.mem_cons.mp h with rfl | h
      · exact .inl ⟨heq, rfl⟩
      · exact .inr (List.mem_cons_of_mem _ h)
    · rcases List.mem_cons.mp h with rfl | h
      · exact .inl ⟨Path.order_self p, rfl⟩
      · exact .inr h

theorem Sorted.insert {map : PathMap α} (h : map.Sorted) (p : Path) (value : α) :
    (map.insert p value).Sorted := by
  induction map with
  | nil => exact List.pairwise_singleton _ _
  | cons entry rest ih =>
    obtain ⟨key, old⟩ := entry
    obtain ⟨hkey, hrest⟩ := sorted_cons.mp h
    unfold PathMap.insert
    split
    · next hlt =>
      refine sorted_cons.mpr ⟨fun q hq => ?_, ih hrest⟩
      rcases mem_keys_insert hq with rfl | hq
      · exact hlt
      · exact hkey q hq
    · exact sorted_cons.mpr ⟨hkey, hrest⟩
    · next hgt =>
      have hlt : p.order key = .lt := Path.order_gt_iff.mp hgt
      refine sorted_cons.mpr ⟨fun q hq => ?_, h⟩
      rcases List.mem_cons.mp hq with rfl | hq
      · exact hlt
      · exact Path.order_lt_trans hlt (hkey q hq)

/-- What was set last under a path is all that counts. -/
theorem insert_insert (map : PathMap α) (p : Path) (first last : α) :
    (map.insert p first).insert p last = map.insert p last := by
  induction map with
  | nil => simp [insert, Path.order_self]
  | cons entry rest ih =>
    obtain ⟨key, old⟩ := entry
    cases hkey : key.order p with
    | lt => simp [insert, hkey, ih]
    | eq => simp [insert, hkey]
    | gt => simp [insert, hkey, Path.order_self]

theorem exists_mem_of_find?_eq_some {map : PathMap α} {p : Path} {value : α}
    (h : map.find? p = some value) : ∃ key, (key, value) ∈ map ∧ key.order p = .eq := by
  obtain ⟨⟨key, found⟩, hfind, rfl⟩ := Option.map_eq_some_iff.mp h
  exact ⟨key, List.mem_of_find?_eq_some hfind, by simpa using List.find?_some hfind⟩

/-- An entry of a sorted map is what its path finds. -/
theorem Sorted.find?_of_mem {map : PathMap α} (h : map.Sorted) {key : Path} {value : α}
    (hmem : (key, value) ∈ map) {p : Path} (hp : key.order p = .eq) : map.find? p = some value := by
  induction map with
  | nil => exact absurd hmem List.not_mem_nil
  | cons entry rest ih =>
    obtain ⟨first, old⟩ := entry
    obtain ⟨hfirst, hrest⟩ := sorted_cons.mp h
    rcases List.mem_cons.mp hmem with heq | hmem
    · obtain ⟨rfl, rfl⟩ := Prod.mk.inj heq
      simp [find?, hp]
    · have hlt : first.order key = .lt := hfirst key (List.mem_map_of_mem hmem)
      have hne : first.order p ≠ .eq := by
        rw [← Path.order_congr_right hp first, hlt]
        exact Ordering.noConfusion
      simpa [find?, hne] using ih hrest hmem

theorem find?_eq_none_iff {map : PathMap α} {p : Path} :
    map.find? p = none ↔ ∀ q ∈ map.keys, q.order p ≠ .eq := by
  simp [find?, keys]

/-! ## Functions on the values -/

theorem keys_mapValues (f : α → β) (map : PathMap α) : (map.mapValues f).keys = map.keys := by
  simp [mapValues, keys]

theorem Sorted.mapValues {map : PathMap α} (h : map.Sorted) (f : α → β) :
    (map.mapValues f).Sorted := by
  rw [Sorted, keys_mapValues]
  exact h

theorem find?_mapValues (f : α → β) (map : PathMap α) (p : Path) :
    (map.mapValues f).find? p = (map.find? p).map f := by
  induction map with
  | nil => rfl
  | cons entry rest ih =>
    obtain ⟨key, value⟩ := entry
    by_cases hkey : key.order p = .eq
    · simp [PathMap.mapValues, find?, hkey]
    · simpa [PathMap.mapValues, find?, hkey] using ih

theorem insert_mapValues (f : α → β) (map : PathMap α) (p : Path) (value : α) :
    (map.mapValues f).insert p (f value) = (map.insert p value).mapValues f := by
  induction map with
  | nil => rfl
  | cons entry rest ih =>
    obtain ⟨key, old⟩ := entry
    have hcons : ∀ (q : Path) (v : α) (more : PathMap α),
        mapValues f ((q, v) :: more) = (q, f v) :: mapValues f more :=
      fun _ _ _ => rfl
    cases hkey : key.order p with
    | lt => simp only [hcons, insert, hkey, ih]
    | eq => simp only [hcons, insert, hkey]
    | gt => simp only [hcons, insert, hkey]

end PathMap

end Registrar
