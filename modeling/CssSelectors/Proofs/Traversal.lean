import Mathlib.Data.List.Forall2

-- A traversal that may fail does so at the first element that fails.
namespace CssSelectors

variable {ε α β : Type} {f : α → Except ε β} {item : α} {items : List α} {value : β} {values : List β}
  {failure other : ε}

theorem mapM_cons_ok (first : f item = .ok value) :
    (item :: items).mapM f = (items.mapM f).map (value :: ·) := by
  rw [List.mapM_cons, first]
  cases items.mapM f <;> rfl

theorem mapM_cons_error (first : f item = .error failure) : (item :: items).mapM f = .error failure := by
  rw [List.mapM_cons, first]
  rfl

theorem map_cons_ok_iff {result : Except ε (List β)} : result.map (value :: ·) = .ok values ↔
    ∃ others, result = .ok others ∧ values = value :: others := by
  cases result with
  | error => simp [Except.map]
  | ok others => simp [Except.map, eq_comm]

theorem mapM_ok_iff :
    items.mapM f = .ok values ↔ List.Forall₂ (fun item value => f item = .ok value) items values := by
  induction items generalizing values with
  | nil =>
      rw [List.forall₂_nil_left_iff]
      exact ⟨fun same => (Except.ok.inj same).symm, fun none => none ▸ rfl⟩
  | cons item items ih =>
      rw [List.forall₂_cons_left_iff]
      cases first : f item with
      | error failure => simp [mapM_cons_error first]
      | ok value => simp [mapM_cons_ok first, map_cons_ok_iff, ih]

-- The first element that fails does so with a failure. All before it pass.
def FailsFirst (f : α → Except ε β) (items : List α) (failure : ε) : Prop :=
  ∃ front item back, items = front ++ item :: back ∧ (∀ earlier ∈ front, ∃ value, f earlier = .ok value) ∧
    f item = .error failure

theorem failsFirst_nil : ¬ FailsFirst f [] failure := by
  rintro ⟨front, item, back, empty, _⟩
  simp at empty

theorem failsFirst_cons_error (first : f item = .error other) :
    FailsFirst f (item :: items) failure ↔ other = failure := by
  constructor
  · rintro ⟨front, last, back, same, fine, failed⟩
    cases front with
    | nil =>
        obtain ⟨rfl, _⟩ := List.cons.inj same
        exact Except.error.inj (first.symm.trans failed)
    | cons earlier front =>
        obtain ⟨rfl, _⟩ := List.cons.inj same
        obtain ⟨value, passed⟩ := fine _ List.mem_cons_self
        rw [first] at passed
        cases passed
  · rintro rfl
    exact ⟨[], item, items, rfl, nofun, first⟩

theorem failsFirst_cons_ok (first : f item = .ok value) :
    FailsFirst f (item :: items) failure ↔ FailsFirst f items failure := by
  constructor
  · rintro ⟨front, last, back, same, fine, failed⟩
    cases front with
    | nil =>
        obtain ⟨rfl, _⟩ := List.cons.inj same
        rw [first] at failed
        cases failed
    | cons earlier front =>
        obtain ⟨_, rfl⟩ := List.cons.inj same
        exact ⟨front, last, back, rfl, (List.forall_mem_cons.mp fine).2, failed⟩
  · rintro ⟨front, last, back, rfl, fine, failed⟩
    exact ⟨item :: front, last, back, rfl, List.forall_mem_cons.mpr ⟨⟨value, first⟩, fine⟩, failed⟩

theorem mapM_error_iff : items.mapM f = .error failure ↔ FailsFirst f items failure := by
  induction items with
  | nil => exact iff_of_false nofun failsFirst_nil
  | cons item items ih =>
      cases first : f item with
      | error other => rw [mapM_cons_error first, failsFirst_cons_error first, Except.error.injEq]
      | ok value =>
          rw [mapM_cons_ok first, failsFirst_cons_ok first, ← ih]
          cases items.mapM f <;> simp [Except.map]

end CssSelectors
