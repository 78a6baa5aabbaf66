import Mathlib.Data.List.Nodup

/-! # Lists without repetitions

How `List.eraseDups` behaves under filters, images and other orders, and what it is: the list of the
same members in which each stands once, in the order in which they first come.

* `eraseDups_cons_eq_filter` — the form of `List.eraseDups` that an induction on the list can use.
* `eraseDups_map`, `eraseDups_perm` — the distinct members of an image and of another order.
* `firstOccurrences_iff` — `FirstOccurrences as bs` holds of `as.eraseDups` and of no other list.
-/

namespace LinkedRecords

variable {α β : Type} [BEq α] [BEq β]

/-! ## The order in which members first come -/

/-- Whether `bs` holds the members of `as`, each once and in the order in which they first come. -/
structure FirstOccurrences (as bs : List α) : Prop where
  mem_iff : ∀ a, a ∈ bs ↔ a ∈ as
  order : bs.Pairwise fun a b => as.idxOf a < as.idxOf b

namespace FirstOccurrences

variable {as bs : List α}

theorem nodup (h : FirstOccurrences as bs) : bs.Nodup := by
  refine h.order.imp ?_
  rintro a b hlt rfl
  exact Nat.lt_irrefl _ hlt

/-- Two lists of the first occurrences in `as` are equal: members and order leave no choice. -/
theorem unique {cs : List α} (h : FirstOccurrences as bs) (h' : FirstOccurrences as cs) :
    bs = cs := by
  have hperm : bs.Perm cs := by
    rw [List.perm_ext_iff_of_nodup h.nodup h'.nodup]
    intro a
    rw [h.mem_iff, h'.mem_iff]
  -- both are sorted by where their members first come in `as`
  refine hperm.eq_of_pairwise ?_ h.order h'.order
  intro a b _ _ hab hba
  exact absurd hba (Nat.lt_asymm hab)

end FirstOccurrences

/-! ## Lists without their repetitions -/

variable [LawfulBEq α] [LawfulBEq β]

theorem eraseDups_filter (p : α → Bool) (as : List α) :
    (as.filter p).eraseDups = as.eraseDups.filter p := by
  match as with
  | [] => rfl
  | a :: as =>
      -- `eraseDups` goes on with a filtered tail, so the lemma is used at that shorter list
      have ih := eraseDups_filter p (as.filter fun b => !b == a)
      rw [List.eraseDups_cons, List.filter_cons, List.filter_cons, ← ih]
      by_cases hp : p a = true
      · rw [if_pos hp, if_pos hp, List.eraseDups_cons, List.filter_filter, List.filter_filter]
        simp only [Bool.and_comm]
      · -- whatever passes `p` is not `a`, so leaving out `a` first makes no difference
        rw [if_neg hp, if_neg hp, List.filter_filter]
        refine congrArg List.eraseDups (List.filter_congr ?_)
        intro b _
        by_cases hb : b = a
        · simp [hb, hp]
        · simp [hb]
termination_by as.length
decreasing_by exact Nat.lt_succ_of_le (List.length_filter_le _ _)

theorem eraseDups_cons_eq_filter (a : α) (as : List α) :
    (a :: as).eraseDups = a :: as.eraseDups.filter fun b => !b == a := by
  rw [List.eraseDups_cons, eraseDups_filter]

theorem nodup_eraseDups (as : List α) : as.eraseDups.Nodup := by
  induction as with
  | nil => exact List.nodup_nil
  | cons a as ih =>
      rw [eraseDups_cons_eq_filter, List.nodup_cons]
      exact ⟨by simp, ih.sublist List.filter_sublist⟩

theorem eraseDups_append_singleton (as : List α) (a : α) :
    (as ++ [a]).eraseDups = if a ∈ as then as.eraseDups else as.eraseDups ++ [a] := by
  rw [List.eraseDups_append]
  by_cases h : a ∈ as
  · simp [List.removeAll, h]
  · simp [List.removeAll, List.eraseDups_cons, h]

/-- A map `f` that tells the members of `as` apart keeps its distinct members. -/
theorem eraseDups_map {f : α → β} {as : List α}
    (h : ∀ a ∈ as, ∀ b ∈ as, f a = f b → a = b) :
    (as.map f).eraseDups = as.eraseDups.map f := by
  induction as with
  | nil => rfl
  | cons a as ih =>
      have htail : ∀ b ∈ as, ∀ c ∈ as, f b = f c → b = c := fun b hb c hc =>
        h b (List.mem_cons_of_mem a hb) c (List.mem_cons_of_mem a hc)
      rw [List.map_cons, eraseDups_cons_eq_filter, ih htail, eraseDups_cons_eq_filter, List.map_cons,
        List.filter_map]
      refine congrArg (fun l => f a :: l.map f) (List.filter_congr ?_)
      intro b hb
      have hb' : b ∈ as := List.mem_eraseDups.1 hb
      have hiff : f b = f a ↔ b = a :=
        ⟨h b (List.mem_cons_of_mem a hb') a List.mem_cons_self, fun heq => heq ▸ rfl⟩
      simp [hiff]

/-- Lists that are permutations of each other have the same distinct members. -/
theorem eraseDups_perm {as bs : List α} (h : as.Perm bs) : as.eraseDups.Perm bs.eraseDups := by
  rw [List.perm_ext_iff_of_nodup (nodup_eraseDups as) (nodup_eraseDups bs)]
  intro a
  rw [List.mem_eraseDups, List.mem_eraseDups]
  exact h.mem_iff

theorem eraseDups_of_nodup {as : List α} (h : as.Nodup) : as.eraseDups = as := by
  induction as with
  | nil => rfl
  | cons a as ih =>
      rw [List.nodup_cons] at h
      rw [eraseDups_cons_eq_filter, ih h.2, List.filter_eq_self.2]
      intro b hb
      simpa using fun hba : b = a => h.1 (hba ▸ hb)

/-! ## The distinct members are the first occurrences -/

theorem firstOccurrences_eraseDups (as : List α) : FirstOccurrences as as.eraseDups := by
  refine ⟨fun a => List.mem_eraseDups, ?_⟩
  induction as with
  | nil => exact .nil
  | cons a as ih =>
      have hne : ∀ b ∈ as.eraseDups.filter fun b => !b == a, a ≠ b := by
        rintro b hb rfl
        simp at hb
      rw [eraseDups_cons_eq_filter, List.pairwise_cons]
      constructor
      · intro b hb
        rw [List.idxOf_cons_self, List.idxOf_cons_ne _ (hne b hb)]
        exact Nat.succ_pos _
      · -- behind the head, all places are one further on
        refine (ih.filter _).imp_of_mem ?_
        intro b c hb hc hlt
        rw [List.idxOf_cons_ne _ (hne b hb), List.idxOf_cons_ne _ (hne c hc)]
        exact Nat.succ_lt_succ hlt

theorem firstOccurrences_iff {as bs : List α} : FirstOccurrences as bs ↔ bs = as.eraseDups := by
  constructor
  · intro h
    exact h.unique (firstOccurrences_eraseDups as)
  · rintro rfl
    exact firstOccurrences_eraseDups as

/-- A list holds the first occurrences of its own members just if no member comes again. -/
theorem firstOccurrences_self_iff {as : List α} : FirstOccurrences as as ↔ as.Nodup := by
  constructor
  · exact fun h => h.nodup
  · intro h
    rw [firstOccurrences_iff, eraseDups_of_nodup h]

end LinkedRecords
