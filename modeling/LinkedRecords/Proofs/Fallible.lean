import Mathlib.Data.List.Perm.Basic

/-! # Computations that can fail

How a chain of fallible steps over a list succeeds, and where it fails.

* `mapM_eq_ok` — a list succeeds with the results of its members, in order.
* `mapM_eq_error` — a list fails with the `FirstError` of its members.
* `exists_mapM_of_perm` — in another order, a list succeeds with the same results.
-/

namespace LinkedRecords

variable {ε α β γ : Type}

theorem bind_eq_ok {x : Except ε α} {f : α → Except ε β} {b : β} :
    x >>= f = .ok b ↔ ∃ a, x = .ok a ∧ f a = .ok b := by
  cases x with
  | error e => simp [bind, Except.bind]
  | ok a => simp [bind, Except.bind]

theorem bind_eq_error {x : Except ε α} {f : α → Except ε β} {e : ε} :
    x >>= f = .error e ↔ x = .error e ∨ ∃ a, x = .ok a ∧ f a = .error e := by
  cases x with
  | error e' => simp [bind, Except.bind]
  | ok a => simp [bind, Except.bind]

theorem map_eq_ok {x : Except ε α} {f : α → β} {b : β} :
    x.map f = .ok b ↔ ∃ a, x = .ok a ∧ f a = b := by
  cases x with
  | error e => simp [Except.map]
  | ok a => simp [Except.map]

theorem map_eq_error {x : Except ε α} {f : α → β} {e : ε} :
    x.map f = .error e ↔ x = .error e := by
  cases x with
  | error e' => simp [Except.map]
  | ok a => simp [Except.map]

theorem mapM_eq_ok {f : α → Except ε β} {as : List α} {bs : List β} :
    as.mapM f = .ok bs ↔ List.Forall₂ (fun a b => f a = .ok b) as bs := by
  induction as generalizing bs with
  | nil => simp [pure, Except.pure, eq_comm]
  | cons a as ih =>
      rw [List.mapM_cons, bind_eq_ok, List.forall₂_cons_left_iff]
      constructor
      · rintro ⟨b, hb, h⟩
        rcases bind_eq_ok.1 h with ⟨bs', hbs, heq⟩
        cases heq
        exact ⟨b, bs', hb, ih.1 hbs, rfl⟩
      · rintro ⟨b, bs', hb, hbs, rfl⟩
        exact ⟨b, hb, bind_eq_ok.2 ⟨bs', ih.2 hbs, rfl⟩⟩

/-- If `as.mapM f` fails with `e`, then `f` fails with `e` at some member. -/
theorem exists_error_of_mapM {f : α → Except ε β} {as : List α} {e : ε}
    (h : as.mapM f = .error e) : ∃ a ∈ as, f a = .error e := by
  induction as with
  | nil => simp [pure, Except.pure] at h
  | cons a as ih =>
      rw [List.mapM_cons] at h
      -- either the head fails, or the rest does; putting the results together never fails
      rcases bind_eq_error.1 h with ha | ⟨b, -, htail⟩
      · exact ⟨a, List.mem_cons_self, ha⟩
      · rcases bind_eq_error.1 htail with has | ⟨bs, -, hpure⟩
        · rcases ih has with ⟨a', ha', he⟩
          exact ⟨a', List.mem_cons_of_mem a ha', he⟩
        · cases hpure

/-- The error of the first member of a list that has one, where `fails a e` says that `a` has the
error `e`. -/
inductive FirstError (fails : α → ε → Prop) : List α → ε → Prop
  | here {a : α} {as : List α} {e : ε} (h : fails a e) : FirstError fails (a :: as) e
  | later {a : α} {as : List α} {e : ε} (hok : ∀ e', ¬fails a e') (h : FirstError fails as e) :
      FirstError fails (a :: as) e

namespace FirstError

variable {fails : α → ε → Prop}

theorem cons_iff {a : α} {as : List α} {e : ε} :
    FirstError fails (a :: as) e ↔ fails a e ∨ (∀ e', ¬fails a e') ∧ FirstError fails as e := by
  constructor
  · intro h
    cases h with
    | here h => exact .inl h
    | later hok h => exact .inr ⟨hok, h⟩
  · rintro (h | ⟨hok, h⟩)
    · exact .here h
    · exact .later hok h

theorem exists_fails {as : List α} {e : ε} (h : FirstError fails as e) : ∃ a ∈ as, fails a e := by
  induction h with
  | here h => exact ⟨_, List.mem_cons_self, h⟩
  | later _ _ ih =>
      rcases ih with ⟨a, ha, h⟩
      exact ⟨a, List.mem_cons_of_mem _ ha, h⟩

/-- Members without an error may be left out: `p` needs to keep only those that fail. -/
theorem filter_iff {p : α → Bool} {as : List α} {e : ε}
    (h : ∀ a ∈ as, p a = false → ∀ e', ¬fails a e') :
    FirstError fails (as.filter p) e ↔ FirstError fails as e := by
  induction as with
  | nil => rfl
  | cons a as ih =>
      have hrest := ih fun b hb => h b (List.mem_cons_of_mem a hb)
      cases hp : p a with
      | true => rw [List.filter_cons_of_pos hp, cons_iff, cons_iff, hrest]
      | false =>
          -- `a` is left out, so it is one that does not fail
          have hok : ∀ e', ¬fails a e' := h a List.mem_cons_self hp
          rw [List.filter_cons_of_neg (by simp [hp]), hrest, cons_iff]
          constructor
          · intro hlater
            exact .inr ⟨hok, hlater⟩
          · rintro (hhere | ⟨-, hlater⟩)
            · exact absurd hhere (hok e)
            · exact hlater

end FirstError

/-- The error of `as.mapM f` is the first error among the members of `as`. -/
theorem mapM_eq_error {f : α → Except ε β} {as : List α} {e : ε} :
    as.mapM f = .error e ↔ FirstError (fun a e => f a = .error e) as e := by
  induction as with
  | nil =>
      constructor
      · intro h
        cases h
      · intro h
        cases h
  | cons a as ih =>
      rw [List.mapM_cons, FirstError.cons_iff, bind_eq_error, ← ih]
      -- at a head that fails the rest is not asked, otherwise the error is that of the rest
      cases ha : f a with
      | error e' => simp
      | ok b => simp [bind_eq_error, pure, Except.pure]

theorem ok_of_mapM {f : α → Except ε β} {as : List α} {bs : List β} (h : as.mapM f = .ok bs)
    {a : α} (ha : a ∈ as) : ∃ b ∈ bs, f a = .ok b := by
  have hall := mapM_eq_ok.1 h
  -- the results stand in the order of the members, so both lists are taken apart together
  induction hall with
  | nil => simp at ha
  | @cons a' b as bs hb _ ih =>
      rcases List.mem_cons.1 ha with rfl | ha
      · exact ⟨b, List.mem_cons_self, hb⟩
      · rcases ih (mapM_eq_ok.2 ‹_›) ha with ⟨b', hb', hab⟩
        exact ⟨b', List.mem_cons_of_mem b hb', hab⟩

theorem exists_of_mem_mapM {f : α → Except ε β} {as : List α} {bs : List β}
    (h : as.mapM f = .ok bs) {b : β} (hb : b ∈ bs) : ∃ a ∈ as, f a = .ok b := by
  have hall := mapM_eq_ok.1 h
  induction hall with
  | nil => simp at hb
  | @cons a b' as bs hab _ ih =>
      rcases List.mem_cons.1 hb with rfl | hb
      · exact ⟨a, List.mem_cons_self, hab⟩
      · rcases ih (mapM_eq_ok.2 ‹_›) hb with ⟨a', ha', heq⟩
        exact ⟨a', List.mem_cons_of_mem a ha', heq⟩

/-- If `f` succeeds at every member, `as.mapM f` succeeds. -/
theorem exists_mapM_of_forall {f : α → Except ε β} {as : List α}
    (h : ∀ a ∈ as, ∃ b, f a = .ok b) : ∃ bs, as.mapM f = .ok bs := by
  induction as with
  | nil => exact ⟨[], rfl⟩
  | cons a as ih =>
      rcases h a List.mem_cons_self with ⟨b, hb⟩
      rcases ih fun a' ha' => h a' (List.mem_cons_of_mem a ha') with ⟨bs, hbs⟩
      refine ⟨b :: bs, mapM_eq_ok.2 ?_⟩
      exact .cons hb (mapM_eq_ok.1 hbs)

/-- For a permutation `as'` of `as`, `as'.mapM f` succeeds with a permutation of the results. -/
theorem exists_mapM_of_perm {f : α → Except ε β} {as as' : List α} {bs : List β}
    (h : as.mapM f = .ok bs) (hperm : as'.Perm as) :
    ∃ bs', as'.mapM f = .ok bs' ∧ bs'.Perm bs := by
  rcases List.perm_comp_forall₂ hperm (mapM_eq_ok.1 h) with ⟨bs', hall, hbs⟩
  exact ⟨bs', mapM_eq_ok.2 hall, hbs⟩

end LinkedRecords
