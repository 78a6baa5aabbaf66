import LinkedRecords.Json.Record
import LinkedRecords.Proofs.Fallible
import Mathlib.Data.List.Induction

/-! # Records read from objects

The members of an object come in any order, and those that no slot knows are passed over. A record
is put together member by member; the main statement says what it holds in the end: for each slot
the only value under its name or, if there is none, what its absence stands for.

* `Slot.reads_iff_of_spells` — a slot whose values are told apart reads a member of its name.
* `Draft.filledBy_append_iff` — the step: what one more member does to a record in the making.
* `Json.Decoder.members_eq_ok` — from the step, what all members together leave in the draft.
* `Json.Decoder.record_object_eq_ok` — the main statement.
-/

namespace LinkedRecords

namespace Json

/-! ## The members of an object -/

/-- The values under `key` among the members `ms`, in order. -/
def valuesAt (ms : List (String × Value)) (key : String) : List Value :=
  (ms.filter fun m => m.1 = key).map (·.2)

/-- Whether the member of `ms` under `key` is `v`, where one that is not there stands for
`absent`. -/
def HasMember (ms : List (String × Value)) (key : String) (absent : Option Value) (v : Value) :
    Prop :=
  valuesAt ms key = [v] ∨ valuesAt ms key = [] ∧ absent = some v

theorem valuesAt_append_of_ne {ms : List (String × Value)} {key : String} {m : String × Value}
    (h : m.1 ≠ key) : valuesAt (ms ++ [m]) key = valuesAt ms key := by
  simp [valuesAt, h]

theorem valuesAt_append_self (ms : List (String × Value)) (m : String × Value) :
    valuesAt (ms ++ [m]) m.1 = valuesAt ms m.1 ++ [m.2] := by
  simp [valuesAt]

/-- Leaving out members under other keys makes no difference to the values under `key`. -/
theorem valuesAt_filter {ms : List (String × Value)} {keep : String × Value → Bool} {key : String}
    (h : ∀ m ∈ ms, keep m = false → m.1 ≠ key) :
    valuesAt (ms.filter keep) key = valuesAt ms key := by
  have hfilter : (ms.filter keep).filter (fun m => m.1 = key) = ms.filter fun m => m.1 = key := by
    rw [List.filter_filter]
    apply List.filter_congr
    intro m hm
    cases hkeep : keep m with
    | true => rw [Bool.and_true]
    | false => simp [h m hm hkeep]
  rw [valuesAt, hfilter, valuesAt]

/-- Leaving out the member under `key` makes no difference if its value `v` is what `absent` stands
for. -/
theorem HasMember.filter {ms : List (String × Value)} {keep : String × Value → Bool} {key : String}
    {absent : Option Value} {v : Value} (h : HasMember ms key absent v)
    (hdrop : ∀ m ∈ ms, keep m = false → m.1 = key → m.2 = v → absent = some v) :
    HasMember (ms.filter keep) key absent v := by
  have hsublist : (valuesAt (ms.filter keep) key).Sublist (valuesAt ms key) :=
    (List.filter_sublist.filter _).map _
  -- of at most one value, a sublist keeps it or is empty
  rcases h with hone | ⟨hnone, habsent⟩
  · rw [hone, List.sublist_singleton] at hsublist
    rcases hsublist with hdropped | hkept
    · right
      refine ⟨hdropped, ?_⟩
      -- the member is there, so it is one of those that are left out
      have hmem : v ∈ valuesAt ms key := by rw [hone]; exact List.mem_singleton_self v
      rcases List.mem_map.1 hmem with ⟨m, hm, rfl⟩
      rcases List.mem_filter.1 hm with ⟨hm, hkey⟩
      refine hdrop m hm ?_ (of_decide_eq_true hkey) rfl
      rw [← Bool.not_eq_true]
      intro hkeep
      have hstays : m.2 ∈ valuesAt (ms.filter keep) key :=
        List.mem_map_of_mem (List.mem_filter.2 ⟨List.mem_filter.2 ⟨hm, hkeep⟩, hkey⟩)
      rw [hdropped] at hstays
      cases hstays
    · exact .inl hkept
  · rw [hnone, List.sublist_nil] at hsublist
    exact .inr ⟨hsublist, habsent⟩

namespace Decoder

variable {α β : Type}

theorem bind_eq_ok {d : Decoder α} {k : α → Decoder β} {v : Value} {b : β} :
    (d >>= k) v = .ok b ↔ ∃ a, d v = .ok a ∧ k a v = .ok b :=
  LinkedRecords.bind_eq_ok

/-! ## Values that are told apart -/

/-- Whether the decoder `d` accepts what `write` writes, as what was written, and nothing else. -/
def Spells (d : Decoder α) (write : α → Value) : Prop := ∀ v a, d v = .ok a ↔ v = write a

theorem spells_string : Decoder.string.Spells Value.string := by
  intro v s
  cases v <;> simp [Decoder.string]

theorem spells_bool : Decoder.bool.Spells Value.bool := by
  intro v b
  cases v <;> simp [Decoder.bool]

/-- What `d` spells is spelled under another name, too, where `f` and `g` are inverse to each
other. -/
theorem Spells.map {d : Decoder α} {write : α → Value} (h : d.Spells write) (f : α → β) (g : β → α)
    (hleft : ∀ a, g (f a) = a) (hright : ∀ b, f (g b) = b) :
    (f <$> d).Spells fun b => write (g b) := by
  intro v b
  have hmap : (f <$> d) v = (d v).map f := rfl
  rw [hmap, map_eq_ok]
  simp only [h v]
  constructor
  · rintro ⟨a, rfl, rfl⟩
    rw [hleft]
  · intro hv
    exact ⟨g b, hv, hright b⟩

theorem Spells.optional {d : Decoder α} {write : α → Value} (h : d.Spells write)
    (hnull : ∀ a, write a ≠ .null) :
    (Decoder.optional d).Spells fun a => (a.map write).getD .null := by
  intro v a
  -- `null` stands for nothing and is written for nothing else; any other value goes to `d`
  by_cases hv : v = .null
  · subst hv
    cases a with
    | none => simp [Decoder.optional]
    | some a => simpa [Decoder.optional] using (hnull a).symm
  · have hmap : Decoder.optional d v = (d v).map some := by
      cases v <;> first | rfl | exact absurd rfl hv
    rw [hmap, map_eq_ok]
    cases a with
    | none => simpa using hv
    | some a => simp [h v]

theorem Spells.list {d : Decoder α} {write : α → Value} (h : d.Spells write) :
    (Decoder.list d).Spells fun as => .array (as.map write) := by
  intro v as
  cases v with
  | array items =>
      rw [Decoder.list, mapM_eq_ok, Value.array.injEq, ← List.forall₂_eq_eq_eq,
        List.forall₂_map_right_iff]
      simp only [h _ _]
  | null | bool | number | string | object => simp [Decoder.list]

end Decoder

end Json

open Json

/-! ## Slots -/

namespace Slot

variable {s : Slot Decoder} {ms : List (String × Value)} {m : String × Value}

/-- Whether the slot `s` reads `x` from the members `ms` of an object. -/
def Reads (s : Slot Decoder) (ms : List (String × Value)) (x : s.type) : Prop :=
  (∃ v, valuesAt ms s.name = [v] ∧ s.decode v = .ok x) ∨
    valuesAt ms s.name = [] ∧ s.absent = some x

/-- Whether the slot `s` is filled as the members `ms` say: by one value under its name, or not at
all. -/
def FilledBy (s : Slot Decoder) (ms : List (String × Value)) : Option s.type → Prop
  | none => valuesAt ms s.name = []
  | some x => ∃ v, valuesAt ms s.name = [v] ∧ s.decode v = .ok x

theorem filledBy_append_of_ne (h : m.1 ≠ s.name) {x : Option s.type} :
    s.FilledBy (ms ++ [m]) x ↔ s.FilledBy ms x := by
  cases x <;> simp only [FilledBy, valuesAt_append_of_ne h]

/-- A member `m` of its name fills the slot `s`, which must have been free before. -/
theorem filledBy_append_self (h : s.name = m.1) {x : Option s.type} :
    s.FilledBy (ms ++ [m]) x ↔
      s.FilledBy ms none ∧ ∃ y, s.decode m.2 = .ok y ∧ x = some y := by
  cases x with
  | none => simp [FilledBy, h, valuesAt_append_self]
  | some x =>
      simp only [FilledBy, h, valuesAt_append_self, List.append_eq_singleton_iff]
      simp

theorem reads_iff {x : s.type} :
    s.Reads ms x ↔ ∃ y, s.FilledBy ms y ∧ (y <|> s.absent) = some x := by
  constructor
  · rintro (⟨v, hv, hx⟩ | ⟨hnone, habsent⟩)
    · exact ⟨some x, ⟨v, hv, hx⟩, rfl⟩
    · exact ⟨none, hnone, habsent⟩
  · rintro ⟨_ | y, hfilled, hx⟩
    · exact .inr ⟨hfilled, hx⟩
    · cases hx
      exact .inl hfilled

/-- A slot whose values `write` tells apart reads `x` if the member of its name is `write x`. -/
theorem reads_iff_of_spells {write : s.type → Value} (h : s.decode.Spells write) {x : s.type} :
    s.Reads ms x ↔ HasMember ms s.name (s.absent.map write) (write x) := by
  have habsent : s.absent = some x ↔ s.absent.map write = some (write x) := by
    constructor
    · intro hx
      rw [hx, Option.map_some]
    · intro hx
      rcases Option.map_eq_some_iff.1 hx with ⟨y, hy, hwrite⟩
      -- what is written for `y` and `x` alike is read as both
      have hboth := (h (write x) y).2 hwrite.symm
      rw [(h (write x) x).2 rfl, Except.ok.injEq] at hboth
      rw [hboth, hy]
  rw [Reads, HasMember, ← habsent]
  simp only [h _ x, exists_eq_right]

end Slot

/-! ## Records -/

namespace Draft

/-- The `draft` with one more member `m` of an object. -/
def accept (slots : List (Slot Decoder)) (draft : Draft slots) (m : String × Value) :
    Except Mismatch (Draft slots) :=
  match Draft.put m.1 slots draft with
  | .place decode => decode m.2
  | .repeated => .error (.duplicateField m.1)
  | .unknown => .ok draft

theorem accept_cons (s : Slot Decoder) (slots : List (Slot Decoder)) (x : Option s.type)
    (rest : Draft slots) (m : String × Value) :
    accept (s :: slots) (x, rest) m =
      if s.name = m.1 then
        if x.isSome then .error (.duplicateField m.1)
        else (s.decode m.2).map fun y => (some y, rest)
      else (accept slots rest m).map (x, ·) := by
  -- a slot is asked only if no slot before it has the name
  by_cases hname : s.name = m.1
  · by_cases hx : x.isSome = true
    · simp only [accept, put, if_pos hname, if_pos hx]
      rfl
    · simp only [accept, put, if_pos hname, if_neg hx]
      rfl
  · simp only [accept, put, if_neg hname]
    cases put m.1 slots rest <;> rfl

/-- Whether each of the `slots` is filled in the draft as the members of an object say. -/
def FilledBy : (slots : List (Slot Decoder)) → List (String × Value) → Draft slots → Prop
  | [], _, _ => True
  | s :: slots, ms, (x, rest) => s.FilledBy ms x ∧ FilledBy slots ms rest

theorem filledBy_nil_iff {slots : List (Slot Decoder)} {draft : Draft slots} :
    FilledBy slots [] draft ↔ draft = empty slots := by
  induction slots with
  | nil => exact ⟨fun _ => rfl, fun _ => trivial⟩
  | cons s slots ih =>
      rcases draft with ⟨x, rest⟩
      have hslot : s.FilledBy [] x ↔ x = none := by
        cases x <;> simp [Slot.FilledBy, valuesAt]
      rw [FilledBy, hslot, ih]
      constructor
      · rintro ⟨rfl, rfl⟩
        rfl
      · intro h
        cases h
        exact ⟨rfl, rfl⟩

theorem filledBy_append_of_not_mem {slots : List (Slot Decoder)} {ms : List (String × Value)}
    {m : String × Value} (h : m.1 ∉ slots.map (·.name)) {draft : Draft slots} :
    FilledBy slots (ms ++ [m]) draft ↔ FilledBy slots ms draft := by
  -- no slot has the name, so each is filled as before
  induction slots with
  | nil => rfl
  | cons s slots ih =>
      rcases draft with ⟨x, rest⟩
      rw [List.map_cons, List.mem_cons, not_or] at h
      rw [FilledBy, FilledBy, Slot.filledBy_append_of_ne h.1, ih h.2]

/-- One more member `m` fills the slot of its name, if that is free, and no other. -/
theorem filledBy_append_iff {slots : List (Slot Decoder)} (hnodup : (slots.map (·.name)).Nodup)
    {ms : List (String × Value)} {m : String × Value} {draft : Draft slots} :
    FilledBy slots (ms ++ [m]) draft ↔
      ∃ before, FilledBy slots ms before ∧ accept slots before m = .ok draft := by
  induction slots with
  | nil => exact ⟨fun _ => ⟨(), trivial, rfl⟩, fun _ => trivial⟩
  | cons s slots ih =>
      rcases draft with ⟨x, rest⟩
      rw [List.map_cons, List.nodup_cons] at hnodup
      by_cases hname : s.name = m.1
      · -- no other slot has this name, so what is in the others stays as it is
        have hothers : m.1 ∉ slots.map (·.name) := hname ▸ hnodup.1
        rw [FilledBy, Slot.filledBy_append_self hname, filledBy_append_of_not_mem hothers]
        constructor
        · rintro ⟨⟨hfree, y, hy, rfl⟩, hrest⟩
          refine ⟨(none, rest), ⟨hfree, hrest⟩, ?_⟩
          rw [accept_cons, if_pos hname, hy]
          rfl
        · rintro ⟨⟨x', rest'⟩, ⟨hfilled, hrest⟩, haccept⟩
          rw [accept_cons, if_pos hname] at haccept
          cases x' with
          | some y => cases haccept -- a slot that is taken refuses the member
          | none =>
              rcases map_eq_ok.1 haccept with ⟨y, hy, heq⟩
              cases heq
              exact ⟨⟨hfilled, y, hy, rfl⟩, hrest⟩
      · rw [FilledBy, Slot.filledBy_append_of_ne (Ne.symm hname), ih hnodup.2]
        constructor
        · rintro ⟨hfilled, rest', hrest, haccept⟩
          refine ⟨(x, rest'), ⟨hfilled, hrest⟩, ?_⟩
          rw [accept_cons, if_neg hname, haccept]
          rfl
        · rintro ⟨⟨x', rest'⟩, ⟨hfilled, hrest⟩, haccept⟩
          rw [accept_cons, if_neg hname] at haccept
          rcases map_eq_ok.1 haccept with ⟨rest'', haccept, heq⟩
          cases heq
          exact ⟨hfilled, rest', hrest, haccept⟩

end Draft

/-- Whether a record holds in each of the `slots` what the slot reads from the members of an
object. -/
def Filled.Reads : (slots : List (Slot Decoder)) → List (String × Value) → Filled slots → Prop
  | [], _, _ => True
  | s :: slots, ms, (x, rest) => s.Reads ms x ∧ Reads slots ms rest

theorem Filled.reads_iff {slots : List (Slot Decoder)} {ms : List (String × Value)}
    {filled : Filled slots} :
    Filled.Reads slots ms filled ↔
      ∃ draft, Draft.FilledBy slots ms draft ∧ Draft.complete slots draft = .ok filled := by
  induction slots with
  | nil => exact ⟨fun _ => ⟨(), trivial, rfl⟩, fun _ => trivial⟩
  | cons s slots ih =>
      rcases filled with ⟨x, rest⟩
      rw [Reads, Slot.reads_iff, ih]
      constructor
      · rintro ⟨⟨y, hfilled, hx⟩, draft, hrest, hcomplete⟩
        refine ⟨(y, draft), ⟨hfilled, hrest⟩, ?_⟩
        simp only [Draft.complete, hx, hcomplete]
        rfl
      · rintro ⟨⟨y, draft⟩, ⟨hfilled, hrest⟩, hcomplete⟩
        -- completing a draft fails at a slot that is free and must not be
        rw [Draft.complete] at hcomplete
        split at hcomplete
        case h_1 x' hx =>
          rcases map_eq_ok.1 hcomplete with ⟨rest', hrest', heq⟩
          cases heq
          exact ⟨⟨y, hfilled, hx⟩, draft, hrest, hrest'⟩
        case h_2 => cases hcomplete

namespace Json.Decoder

theorem members_eq_ok {slots : List (Slot Decoder)} (hnodup : (slots.map (·.name)).Nodup)
    {ms : List (String × Value)} {draft : Draft slots} :
    Decoder.members slots ms = .ok draft ↔ Draft.FilledBy slots ms draft := by
  have hmembers : Decoder.members slots ms = ms.foldlM (Draft.accept slots) (.empty slots) := rfl
  rw [hmembers]
  -- the last member is accepted into the draft that the members before it have filled
  induction ms using List.reverseRecOn generalizing draft with
  | nil =>
      rw [Draft.filledBy_nil_iff, List.foldlM_nil]
      exact ⟨fun h => (Except.ok.inj h).symm, fun h => congrArg _ h.symm⟩
  | append_singleton ms m ih =>
      rw [List.foldlM_append, LinkedRecords.bind_eq_ok, Draft.filledBy_append_iff hnodup]
      simp only [ih rfl, List.foldlM_cons, List.foldlM_nil, bind_pure]

/-- A record `r` is read from an object just as its slots read from the members `ms`. -/
theorem record_object_eq_ok {r : Record Decoder} (hnodup : (r.slots.map (·.name)).Nodup)
    {ms : List (String × Value)} {filled : Filled r.slots} :
    Decoder.record r (.object ms) = .ok filled ↔ Filled.Reads r.slots ms filled := by
  rw [Filled.reads_iff, Decoder.record, LinkedRecords.bind_eq_ok]
  apply exists_congr
  intro draft
  rw [members_eq_ok hnodup]
  cases Draft.complete r.slots draft <;> simp [Except.mapError]

end Json.Decoder

end LinkedRecords
