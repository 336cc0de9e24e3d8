import Mathlib.Data.List.Forall2
import BatchInference.Params.Verify

/-!
Checks in a row. A row of checks passes if each of them does, and what it gives is told by what they give.
-/

namespace BatchInference

variable {ε α β : Type} {x : Except ε α} {f : α → Except ε β}

theorem bind_eq_ok {b : β} : (x >>= f) = .ok b ↔ ∃ a, x = .ok a ∧ f a = .ok b := by
  cases x <;> simp [bind, Except.bind]

theorem bind_eq_error {e : ε} : (x >>= f) = .error e ↔ x = .error e ∨ ∃ a, x = .ok a ∧ f a = .error e := by
  cases x <;> simp [bind, Except.bind]

theorem map_eq_ok {x : Except ε α} {g : α → β} {b : β} : g <$> x = .ok b ↔ ∃ a, x = .ok a ∧ g a = b := by
  cases x <;> simp [Functor.map, Except.map]

/-- A check of every item of a list passes if it passes for each of them. -/
theorem mapM_eq_ok {l : List α} {l' : List β} :
    l.mapM f = .ok l' ↔ List.Forall₂ (fun a b => f a = .ok b) l l' := by
  induction l generalizing l' with
  | nil =>
    rw [List.mapM_nil, List.forall₂_nil_left_iff]
    constructor
    · intro h
      cases h
      rfl
    · rintro rfl
      rfl
  | cons a rest ih =>
    rw [List.mapM_cons, bind_eq_ok]
    constructor
    · rintro ⟨b, hb, h⟩
      obtain ⟨bs, hbs, h⟩ := bind_eq_ok.mp h
      cases h
      exact .cons hb (ih.mp hbs)
    · intro h
      cases h with
      | cons hb hrest => exact ⟨_, hb, bind_eq_ok.mpr ⟨_, ih.mpr hrest, rfl⟩⟩

/-- Where one of two lists that go together has an item, so has the other. -/
theorem exists_getElem?_of_forall₂ {R : α → β → Prop} {l : List α} {l' : List β}
    (h : List.Forall₂ R l l') {i : Nat} {b : β} (hb : l'[i]? = some b) : ∃ a, l[i]? = some a ∧ R a b := by
  obtain ⟨hi', rfl⟩ := List.getElem?_eq_some_iff.mp hb
  obtain ⟨hlength, hall⟩ := List.forall₂_iff_get.mp h
  have hi : i < l.length := hlength ▸ hi'
  exact ⟨l[i], List.getElem?_eq_getElem hi, hall i hi hi'⟩

theorem map_eq_error {x : Except ε α} {g : α → β} {e : ε} : g <$> x = .error e ↔ x = .error e := by
  cases x <;> simp [Functor.map, Except.map]

/-- A check of every item of a list fails as it does for the first item that does not pass. -/
theorem mapM_eq_error {l : List α} {e : ε} : l.mapM f = .error e ↔
    ∃ (i : Nat) (a : α), l[i]? = some a ∧ f a = .error e ∧ ∀ j < i, ∀ a', l[j]? = some a' → ∃ b, f a' = .ok b := by
  induction l with
  | nil =>
    constructor
    · intro h
      cases h
    · rintro ⟨i, a, ha, _⟩
      cases ha
  | cons first rest ih =>
    rw [List.mapM_cons, bind_eq_error]
    constructor
    · rintro (hfirst | ⟨b, hb, h⟩)
      · exact ⟨0, first, rfl, hfirst, fun j hj => absurd hj (Nat.not_lt_zero j)⟩
      · rcases bind_eq_error.mp h with hrest | ⟨_, _, hpure⟩
        · obtain ⟨i, a, ha, hfails, hearlier⟩ := ih.mp hrest
          refine ⟨i + 1, a, ha, hfails, ?_⟩
          intro j hj a' ha'
          cases j with
          | zero =>
            cases ha'
            exact ⟨b, hb⟩
          | succ j => exact hearlier j (by omega) a' ha'
        · cases hpure
    · rintro ⟨i, a, ha, hfails, hearlier⟩
      cases i with
      | zero =>
        cases ha
        exact .inl hfails
      | succ i =>
        obtain ⟨b, hb⟩ := hearlier 0 (by omega) first rfl
        have hrest := ih.mpr ⟨i, a, ha, hfails, fun j hj => hearlier (j + 1) (by omega)⟩
        exact .inr ⟨b, hb, bind_eq_error.mpr (.inl hrest)⟩

theorem exists_of_mapM_eq_error {l : List α} {e : ε} (h : l.mapM f = .error e) : ∃ a ∈ l, f a = .error e := by
  obtain ⟨i, a, ha, hfails, _⟩ := mapM_eq_error.mp h
  exact ⟨a, List.mem_of_getElem? ha, hfails⟩

theorem require_eq_ok {holds : Bool} {e : CallError} {u : Unit} : require holds e = .ok u ↔ holds = true := by
  cases holds <;> simp [require]

theorem require_eq_error {holds : Bool} {e e' : CallError} : require holds e = .error e' ↔ holds = false ∧ e = e' := by
  cases holds <;> simp [require]

theorem forM_require_eq_ok {l : List α} {holds : α → Bool} {cause : α → CallError} {u : Unit} :
    (forM l fun a => require (holds a) (cause a)) = .ok u ↔ ∀ a ∈ l, holds a = true := by
  induction l with
  | nil => simp [pure, Except.pure]
  | cons first rest ih => simp [List.forM_cons, bind_eq_ok, require_eq_ok, ih]

/-- A row of conditions fails with the cause of the first that does not hold. -/
theorem forM_require_eq_error {l : List α} {holds : α → Bool} {cause : α → CallError} {e : CallError} :
    (forM l fun a => require (holds a) (cause a)) = .error e ↔
      ∃ earlier a later, l = earlier ++ a :: later ∧ (∀ a' ∈ earlier, holds a' = true) ∧ holds a = false ∧
        cause a = e := by
  induction l with
  | nil =>
    constructor
    · intro h
      cases h
    · rintro ⟨earlier, a, later, h, _⟩
      simp at h
  | cons first rest ih =>
    rw [List.forM_cons, bind_eq_error, require_eq_error]
    constructor
    · rintro (⟨hfails, hcause⟩ | ⟨_, hfirst, hrest⟩)
      · exact ⟨[], first, rest, rfl, by simp, hfails, hcause⟩
      · obtain ⟨earlier, a, later, rfl, hearlier, hfails⟩ := ih.mp hrest
        exact ⟨first :: earlier, a, later, rfl, List.forall_mem_cons.mpr ⟨require_eq_ok.mp hfirst, hearlier⟩, hfails⟩
    · rintro ⟨earlier, a, later, hl, hearlier, hfails⟩
      cases earlier with
      | nil =>
        cases hl
        exact .inl hfails
      | cons _ earlier =>
        cases hl
        obtain ⟨hfirst, hearlier⟩ := List.forall_mem_cons.mp hearlier
        exact .inr ⟨(), require_eq_ok.mpr hfirst, ih.mpr ⟨earlier, a, later, rfl, hearlier, hfails⟩⟩

end BatchInference
