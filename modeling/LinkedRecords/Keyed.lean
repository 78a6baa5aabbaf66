/-! # Values under keys

A small table of values, one to a key, in the order in which the keys first came. What it holds is
told by `get?`; each operation has a lemma that says what it does to that view.
-/

namespace LinkedRecords

variable {α β : Type} [DecidableEq α]

/-- The entries with the value put under the key: in place of its old value, or else at the end. -/
def putEntry (key : α) (value : β) : List (α × β) → List (α × β)
  | [] => [(key, value)]
  | (k, v) :: rest => if k = key then (key, value) :: rest else (k, v) :: putEntry key value rest

theorem mem_keys_putEntry (key k : α) (value : β) (es : List (α × β)) :
    k ∈ (putEntry key value es).map (·.1) ↔ k = key ∨ k ∈ es.map (·.1) := by
  induction es with
  | nil => simp [putEntry]
  | cons e es ih =>
    obtain ⟨k', v⟩ := e
    by_cases h : k' = key
    · simp [putEntry, h]
    · simp only [putEntry, h, if_false, List.map_cons, List.mem_cons, ih]
      exact or_left_comm

theorem nodup_keys_putEntry (key : α) (value : β) {es : List (α × β)}
    (h : (es.map (·.1)).Nodup) : ((putEntry key value es).map (·.1)).Nodup := by
  induction es with
  | nil => simp [putEntry]
  | cons e es ih =>
    obtain ⟨k, v⟩ := e
    rw [List.map_cons, List.nodup_cons] at h
    by_cases hk : k = key
    · subst hk
      simpa [putEntry] using h
    · have hnew : k ∉ (putEntry key value es).map (·.1) := by
        rw [mem_keys_putEntry]
        exact fun hor => hor.elim hk h.1
      simpa [putEntry, hk] using ⟨by simpa using hnew, by simpa using ih h.2⟩

theorem lookup_cons_eq_ite (key k : α) (v : β) (es : List (α × β)) :
    ((k, v) :: es).lookup key = if k = key then some v else es.lookup key := by
  rw [List.lookup_cons]
  by_cases h : k = key
  · simp [h]
  · rw [beq_false_of_ne (Ne.symm h), if_neg h]

theorem lookup_putEntry (key k : α) (value : β) (es : List (α × β)) :
    (putEntry key value es).lookup k = if key = k then some value else es.lookup k := by
  induction es with
  | nil => exact lookup_cons_eq_ite ..
  | cons e es ih =>
    obtain ⟨k', v⟩ := e
    by_cases h' : k' = key
    · by_cases h : key = k <;> simp [putEntry, lookup_cons_eq_ite, h', h]
    · by_cases h : k' = k
      · subst h; simp [putEntry, h', Ne.symm h']
      · simp [putEntry, lookup_cons_eq_ite, h', h, ih]

theorem lookup_filter_ne (key k : α) (es : List (α × β)) :
    (es.filter (·.1 ≠ key)).lookup k = if key = k then none else es.lookup k := by
  induction es with
  | nil => simp
  | cons e es ih =>
    obtain ⟨k', v⟩ := e
    by_cases h' : k' = key
    · subst h'
      by_cases h : k' = k
      · simpa [h] using ih
      · simpa [lookup_cons_eq_ite, h] using ih
    · by_cases h : k' = k
      · subst h; simp [h', Ne.symm h']
      · simpa [lookup_cons_eq_ite, h', h] using ih

/-- Values under keys, one value to a key, in the order in which the keys came. -/
structure Keyed (α β : Type) [DecidableEq α] where
  entries : List (α × β)
  distinct : (entries.map (·.1)).Nodup

namespace Keyed

/-- Nothing under any key. -/
def empty : Keyed α β := ⟨[], List.nodup_nil⟩

instance : EmptyCollection (Keyed α β) := ⟨empty⟩
instance : Inhabited (Keyed α β) := ⟨empty⟩

/-- The value under a key. -/
def get? (t : Keyed α β) (key : α) : Option β := t.entries.lookup key

/-- Whether there is a value under a key. -/
def contains (t : Keyed α β) (key : α) : Bool := (t.get? key).isSome

/-- The value put under a key, in place of the one that was there. -/
def put (t : Keyed α β) (key : α) (value : β) : Keyed α β :=
  ⟨putEntry key value t.entries, nodup_keys_putEntry key value t.distinct⟩

/-- Nothing under a key any more. -/
def remove (t : Keyed α β) (key : α) : Keyed α β :=
  ⟨t.entries.filter (·.1 ≠ key), t.distinct.sublist (List.filter_sublist.map _)⟩

/-- The value under a key changed, or made from nothing. -/
def alter (t : Keyed α β) (key : α) (change : Option β → β) : Keyed α β :=
  t.put key (change (t.get? key))

@[simp] theorem get?_empty (key : α) : (empty : Keyed α β).get? key = none := rfl

@[simp] theorem get?_put (t : Keyed α β) (key k : α) (value : β) :
    (t.put key value).get? k = if key = k then some value else t.get? k :=
  lookup_putEntry key k value t.entries

@[simp] theorem get?_remove (t : Keyed α β) (key k : α) :
    (t.remove key).get? k = if key = k then none else t.get? k :=
  lookup_filter_ne key k t.entries

@[simp] theorem get?_alter (t : Keyed α β) (key k : α) (change : Option β → β) :
    (t.alter key change).get? k = if key = k then some (change (t.get? key)) else t.get? k :=
  get?_put ..

end Keyed

end LinkedRecords
