import LinkedRecords.Compile.Fragments
import LinkedRecords.Proofs.Distinct
import Mathlib.Data.List.Induction

/-! # Adding fragments

An assembly knows the aliases of its joins. Pushed in turn, the first fragment with an alias is
added and all later ones are refused, so what has been collected is what the added fragments bring,
and no two of its joins have one alias.

* `Assembly.Collects` — the invariant of a run of pushes.
* `Assembly.Collects.push_of_not_mem`, `Assembly.Collects.push_of_mem` — the step, accepted or
  refused.
* `Assembly.after_accumulates` — the main statement: what any run of pushes comes to.
-/

namespace LinkedRecords

open Sql

namespace Assembly

/-! ## Added fragments -/

/-- The assembly to which just `fragments` have been added, in order. -/
def ofFragments (fragments : List Fragment) : Assembly :=
  ⟨fragments.flatMap (·.items), fragments.map (·.join), fragments.map (·.label)⟩

/-- A fragment `f` whose alias is new is accepted, and stands behind `fragments` from then on. -/
theorem push_ofFragments {fragments : List Fragment} {f : Fragment}
    (h : f.label ∉ fragments.map (·.label)) :
    (ofFragments fragments).push f = (true, ofFragments (fragments ++ [f])) := by
  have hnew : f.label ∉ (ofFragments fragments).labels := h
  rw [push, if_neg hnew]
  simp [ofFragments]

/-- A fragment `f` whose alias is known is refused, and nothing of it is kept. -/
theorem push_ofFragments_of_mem {fragments : List Fragment} {f : Fragment}
    (h : f.label ∈ fragments.map (·.label)) :
    (ofFragments fragments).push f = (false, ofFragments fragments) := by
  have hknown : f.label ∈ (ofFragments fragments).labels := h
  rw [push, if_pos hknown]

theorem foldl_addItem (items : List SelectItem) (q : Query) :
    items.foldl .addItem q = { q with items := q.items ++ items } := by
  induction items generalizing q with
  | nil => cases q; simp
  | cons item items ih => simp [ih, Query.addItem]

theorem foldl_addJoin (joins : List (Join Query)) (q : Query) :
    joins.foldl .addJoin q = { q with joins := q.joins ++ joins } := by
  induction joins generalizing q with
  | nil => cases q; simp
  | cons join joins ih => simp [ih, Query.addJoin]

/-- Everything that `a` has added stands behind what `base` selects and joins. -/
theorem finish_eq (a : Assembly) (base : Query) :
    a.finish base =
      { base with items := base.items ++ a.items, joins := base.joins ++ a.joins } := by
  rw [finish, foldl_addItem, foldl_addJoin]

/-! ## A run of pushes -/

/-- The assembly `a` after `fragments` have been pushed in turn. -/
def after (a : Assembly) (fragments : List Fragment) : Assembly :=
  fragments.foldl (fun a f => (a.push f).2) a

/-- The members of a list of fragments for which `push` answers that they were added. -/
def added (a : Assembly) : List Fragment → List Fragment
  | [] => []
  | f :: fragments =>
    if (a.push f).1 then f :: (a.push f).2.added fragments else (a.push f).2.added fragments

theorem after_concat (a : Assembly) (fragments : List Fragment) (f : Fragment) :
    a.after (fragments ++ [f]) = ((a.after fragments).push f).2 := by
  rw [after, List.foldl_append]
  rfl

theorem added_concat (a : Assembly) (fragments : List Fragment) (f : Fragment) :
    a.added (fragments ++ [f]) =
      if ((a.after fragments).push f).1 then a.added fragments ++ [f] else a.added fragments := by
  induction fragments generalizing a with
  | nil => rfl
  | cons g fragments ih =>
      have hafter : a.after (g :: fragments) = (a.push g).2.after fragments := rfl
      rw [List.cons_append, added, added, ih, hafter]
      -- the answers to `g` and to `f` do not depend on each other
      cases (a.push g).1 <;> cases (((a.push g).2.after fragments).push f).1 <;> rfl

/-- What a run of pushes has led to: just the fragments `added` are in `a`, and they have the
aliases of all that were `pushed`, each once. -/
structure Collects (a : Assembly) (pushed added : List Fragment) : Prop where
  state : a = ofFragments added
  labels : added.map (·.label) = (pushed.map (·.label)).eraseDups

namespace Collects

variable {a : Assembly} {pushed added : List Fragment}

theorem mem_labels (h : a.Collects pushed added) {label : String} :
    label ∈ added.map (·.label) ↔ label ∈ pushed.map (·.label) := by
  rw [h.labels, List.mem_eraseDups]

/-- One push more adds `f`, if no fragment pushed before has the alias of `f`. -/
theorem push_of_not_mem (h : a.Collects pushed added) {f : Fragment}
    (hnew : f.label ∉ pushed.map (·.label)) :
    a.push f = (true, ofFragments (added ++ [f])) ∧
      (ofFragments (added ++ [f])).Collects (pushed ++ [f]) (added ++ [f]) := by
  refine ⟨?_, rfl, ?_⟩
  · rw [h.state]
    exact push_ofFragments fun hmem => hnew (h.mem_labels.1 hmem)
  · rw [List.map_append, List.map_append, List.map_singleton, eraseDups_append_singleton,
      if_neg hnew, h.labels]

/-- One push more refuses `f` and changes nothing, if a fragment pushed before has the alias of
`f`. -/
theorem push_of_mem (h : a.Collects pushed added) {f : Fragment}
    (hknown : f.label ∈ pushed.map (·.label)) :
    a.push f = (false, a) ∧ a.Collects (pushed ++ [f]) added := by
  refine ⟨?_, h.state, ?_⟩
  · rw [h.state]
    exact push_ofFragments_of_mem (h.mem_labels.2 hknown)
  · rw [List.map_append, List.map_singleton, eraseDups_append_singleton, if_pos hknown, h.labels]

/-- The push of `f` is answered by yes just if no fragment pushed before has the alias of `f`. -/
theorem push_fst_iff (h : a.Collects pushed added) (f : Fragment) :
    (a.push f).1 = true ↔ ∀ g ∈ pushed, g.label ≠ f.label := by
  have hmem : f.label ∈ pushed.map (·.label) ↔ ∃ g ∈ pushed, g.label = f.label := List.mem_map
  -- whether the alias is known decides the answer, by one of the two steps
  by_cases hknown : f.label ∈ pushed.map (·.label)
  · rw [(h.push_of_mem hknown).1]
    rcases hmem.1 hknown with ⟨g, hg, hlabel⟩
    simpa using ⟨g, hg, hlabel⟩
  · rw [(h.push_of_not_mem hknown).1]
    simpa using fun g hg hlabel => hknown (hmem.2 ⟨g, hg, hlabel⟩)

end Collects

/-- Every run of pushes from the empty assembly collects just what `added` lists. -/
theorem collects_after (fragments : List Fragment) :
    (after {} fragments).Collects fragments (added {} fragments) := by
  -- the run grows at its end, so the induction takes the last push off
  induction fragments using List.reverseRecOn with
  | nil => exact ⟨rfl, rfl⟩
  | append_singleton fragments f ih =>
      rw [after_concat, added_concat]
      by_cases hknown : f.label ∈ fragments.map (·.label)
      · rcases ih.push_of_mem hknown with ⟨hpush, hcollects⟩
        rw [hpush]
        exact hcollects
      · rcases ih.push_of_not_mem hknown with ⟨hpush, hcollects⟩
        rw [hpush]
        exact hcollects

/-! ## What a run comes to -/

/-- If every fragment joins under its own `label`, the aliases of the joins are these labels. -/
theorem joinAliases_ofFragments {fragments : List Fragment}
    (h : ∀ f ∈ fragments, f.join.target.qualifier? = some f.label) :
    (ofFragments fragments).joinAliases = fragments.map (·.label) := by
  rw [joinAliases, ofFragments, List.filterMap_map, ← List.filterMap_eq_map]
  exact List.filterMap_congr h

/-- The fragments that are `added` stand in the order in which they were pushed. -/
theorem added_sublist (a : Assembly) (fragments : List Fragment) :
    (a.added fragments).Sublist fragments := by
  induction fragments generalizing a with
  | nil => exact .slnil
  | cons f fragments ih =>
      rw [added]
      split
      · exact (ih _).cons_cons f
      · exact (ih _).cons f

/-- The assembly `a` after a run of pushes, of which those of `added` were answered by yes. -/
structure Accumulates (a : Assembly) (pushed added : List Fragment) : Prop where
  /-- The next push of `f` is answered by yes just if the alias of `f` is new. -/
  answer_iff : ∀ f, (a.push f).1 = true ↔ ∀ g ∈ pushed, g.label ≠ f.label
  /-- A fragment that is refused leaves nothing behind. -/
  refused : ∀ f, (a.push f).1 = false → (a.push f).2 = a
  items_eq : a.items = added.flatMap (·.items)
  joins_eq : a.joins = added.map (·.join)
  /-- Where every join has the alias of its fragment, no alias comes twice. -/
  aliases : (∀ f ∈ pushed, f.join.target.qualifier? = some f.label) →
    a.joinAliases = added.map (·.label) ∧ a.joinAliases.Nodup
  /-- The finished `base` keeps all that it has, and gets what was added behind it. -/
  finish_eq : ∀ base, a.finish base = { base with
    items := base.items ++ added.flatMap (·.items)
    joins := base.joins ++ added.map (·.join) }

/-- After any run of pushes from nothing, the first fragment with each alias has been added and
nothing else. -/
theorem after_accumulates (pushed : List Fragment) :
    (after {} pushed).Accumulates pushed (added {} pushed) := by
  have hcollects := collects_after pushed
  have hstate := hcollects.state
  constructor
  case answer_iff => exact hcollects.push_fst_iff
  case refused =>
    intro f hrefused
    by_cases hknown : f.label ∈ pushed.map (·.label)
    · rw [(hcollects.push_of_mem hknown).1]
    · rw [(hcollects.push_of_not_mem hknown).1] at hrefused
      cases hrefused
  case items_eq => rw [hstate, ofFragments]
  case joins_eq => rw [hstate, ofFragments]
  case aliases =>
    intro hqualified
    have haliases : (after {} pushed).joinAliases = (added {} pushed).map (·.label) := by
      rw [hstate, joinAliases_ofFragments]
      -- what was added was pushed, so it joins under its own alias too
      exact fun f hf => hqualified f ((added_sublist {} pushed).mem hf)
    refine ⟨haliases, ?_⟩
    rw [haliases, hcollects.labels]
    exact nodup_eraseDups _
  case finish_eq =>
    intro base
    rw [finish_eq, hstate, ofFragments]

end Assembly

/-- The files of one field, those of another, and the first ones again. -/
def fileRun : List Fragment :=
  [fileFragment {} ⟨"photos"⟩, fileFragment {} ⟨"scans"⟩, fileFragment {} ⟨"photos"⟩]

theorem after_accumulates_files :
    Assembly.added {} fileRun = [fileFragment {} ⟨"photos"⟩, fileFragment {} ⟨"scans"⟩] ∧
      (∀ f ∈ fileRun, f.join.target.qualifier? = some f.label) ∧
      (Assembly.after {} fileRun).joinAliases.Nodup ∧
      ((Assembly.after {} fileRun).push (fileFragment {} ⟨"scans"⟩)).2 = .after {} fileRun := by
  have hrun := Assembly.after_accumulates fileRun
  have hqualified : ∀ f ∈ fileRun, f.join.target.qualifier? = some f.label := by
    intro f hf
    simp only [fileRun, List.mem_cons, List.not_mem_nil, or_false] at hf
    rcases hf with rfl | rfl | rfl <;> rfl
  refine ⟨by rfl, hqualified, (hrun.aliases hqualified).2, hrun.refused _ ?_⟩
  rfl

end LinkedRecords
