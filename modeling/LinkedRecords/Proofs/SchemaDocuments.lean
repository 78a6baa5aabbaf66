import LinkedRecords.Schema.Document
import LinkedRecords.Proofs.Fallible
import LinkedRecords.Proofs.SchemaIndex
import Mathlib.Data.List.Nodup

/-! # Schemas from documents

A text is read as field documents, which are made sense of one by one. Whether this happens behind
the reading of the whole text or field by field on the way makes no difference to what is accepted:
a reader that makes sense of what it reads accepts what the plain reader accepts and what can be
made sense of. For the loader that reads everything first, the documents tell the error.

* `Resolves` — the relation of a reader to one that makes sense of what it reads.
* `Resolves.list`, `Schema.resolves_reader` — it passes from fields to lists of them, and to
  schemas.
* `Schema.ofDocuments_eq_error` — which error the field documents give.
* `Schema.loaders_agree` — the main statement: one set of accepted texts, and the error of a
  refusal.
-/

namespace LinkedRecords

open Json

variable {α β γ : Type}

/-! ## Readers that make sense of what they read -/

namespace Json.Reader

theorem bind_eq_ok {p : Reader α} {k : α → Reader β} {cs rest : List Char} {b : β} :
    (p >>= k) cs = .ok (b, rest) ↔ ∃ a cs', p cs = .ok (a, cs') ∧ k a cs' = .ok (b, rest) := by
  have hbind : (p >>= k) cs = p cs >>= fun r => k r.1 r.2 := rfl
  rw [hbind, LinkedRecords.bind_eq_ok, Prod.exists]

theorem pure_eq_ok {a b : α} {cs rest : List Char} :
    (pure a : Reader α) cs = .ok (b, rest) ↔ a = b ∧ cs = rest := by
  have hpure : (pure a : Reader α) cs = .ok (a, cs) := rfl
  rw [hpure, Except.ok.injEq, Prod.mk.injEq]

theorem run_eq_ok {p : Reader α} {text : String} {a : α} :
    p.run text = .ok a ↔
      ∃ rest, p text.toList = .ok (a, rest) ∧ (skipBlanks rest).isEmpty = true := by
  have hrun : p.run text = p text.toList >>= fun r =>
    if (skipBlanks r.2).isEmpty = true then .ok r.1 else .error .malformed := rfl
  rw [hrun, LinkedRecords.bind_eq_ok, Prod.exists]
  constructor
  · rintro ⟨a', rest, hp, hrest⟩
    split at hrest
    · cases hrest
      exact ⟨rest, hp, ‹_›⟩
    · cases hrest
  · rintro ⟨rest, hp, hempty⟩
    exact ⟨a, rest, hp, if_pos hempty⟩

theorem unexpected_ne_ok (expected : String) (cs : List Char) (r : α × List Char) :
    (unexpected expected : Reader α) cs ≠ .ok r := by
  intro h
  rcases bind_eq_ok.1 h with ⟨found, cs', -, hthrow⟩
  cases hthrow

end Json.Reader

theorem Reader.accept_eq_ok {result : Except SchemaError α} {cs rest : List Char} {a : α} :
    Reader.accept result cs = .ok (a, rest) ↔ result = .ok a ∧ cs = rest := by
  -- accepting reads nothing, so what is left of the text is as before
  cases result with
  | ok a' =>
      have haccept : Reader.accept (.ok a') cs = (pure a' : Reader α) cs := rfl
      rw [haccept, Json.Reader.pure_eq_ok, Except.ok.injEq]
  | error e =>
      constructor
      · intro h
        cases h
      · rintro ⟨h, -⟩
        cases h

/-- Whether the reader `q` accepts what `p` accepts and `f` makes sense of, and reads just as
far. -/
def Resolves (p : Reader α) (f : α → Except SchemaError β) (q : Reader β) : Prop :=
  ∀ cs b rest, q cs = .ok (b, rest) ↔ ∃ a, p cs = .ok (a, rest) ∧ f a = .ok b

namespace Resolves

variable {p : Reader α} {f : α → Except SchemaError β} {q : Reader β}

theorem accept (p : Reader α) (f : α → Except SchemaError β) :
    Resolves p f (do Reader.accept (f (← p))) := by
  intro cs b rest
  rw [Reader.bind_eq_ok]
  constructor
  · rintro ⟨a, cs', hp, haccept⟩
    rcases Reader.accept_eq_ok.1 haccept with ⟨hf, rfl⟩
    exact ⟨a, hp, hf⟩
  · rintro ⟨a, hp, hf⟩
    exact ⟨a, rest, hp, Reader.accept_eq_ok.2 ⟨hf, rfl⟩⟩

theorem trans {g : β → Except SchemaError γ} {s : Reader γ} (hpq : Resolves p f q)
    (hqs : Resolves q g s) : Resolves p (fun a => f a >>= g) s := by
  intro cs c rest
  rw [hqs cs c rest]
  constructor
  · rintro ⟨b, hq, hg⟩
    rcases (hpq cs b rest).1 hq with ⟨a, hp, hf⟩
    exact ⟨a, hp, bind_eq_ok.2 ⟨b, hf, hg⟩⟩
  · rintro ⟨a, hp, hfg⟩
    rcases bind_eq_ok.1 hfg with ⟨b, hf, hg⟩
    exact ⟨b, (hpq cs b rest).2 ⟨a, hp, hf⟩, hg⟩

/-- If `q c` resolves `p c` for every `c`, it still does behind a reader `r` that yields `c`. -/
theorem behind (r : Reader γ) {p : γ → Reader α} {q : γ → Reader β}
    (h : ∀ c, Resolves (p c) f (q c)) : Resolves (r >>= p) f (r >>= q) := by
  intro cs b rest
  simp only [Reader.bind_eq_ok]
  constructor
  · rintro ⟨c, cs', hr, hq⟩
    rcases (h c cs' b rest).1 hq with ⟨a, hp, hf⟩
    exact ⟨a, ⟨c, cs', hr, hp⟩, hf⟩
  · rintro ⟨a, ⟨c, cs', hr, hp⟩, hf⟩
    exact ⟨c, cs', hr, (h c cs' b rest).2 ⟨a, hp, hf⟩⟩

/-- If `q` resolves `p`, it still does in front of a reader `r` whose result is dropped. -/
theorem before (h : Resolves p f q) (r : Reader γ) :
    Resolves (do let a ← p; let _ ← r; return a) f (do let b ← q; let _ ← r; return b) := by
  intro cs b rest
  simp only [Reader.bind_eq_ok, Reader.pure_eq_ok]
  constructor
  · rintro ⟨b', cs', hq, c, cs'', hr, rfl, rfl⟩
    rcases (h cs b' cs').1 hq with ⟨a, hp, hf⟩
    exact ⟨a, ⟨a, cs', hp, c, cs'', hr, rfl, rfl⟩, hf⟩
  · rintro ⟨a, ⟨a', cs', hp, c, cs'', hr, rfl, rfl⟩, hf⟩
    exact ⟨b, cs', (h cs b cs').2 ⟨a', hp, hf⟩, c, cs'', hr, rfl, rfl⟩

/-- Items are made sense of one by one by `q`, where the plain reader `p` goes on to the next. -/
theorem itemsFrom (h : Resolves p f q) (first : Bool) (fuel : Nat) :
    Resolves (Reader.itemsFrom p first fuel) (·.mapM f) (Reader.itemsFrom q first fuel) := by
  -- the fuel bounds the number of items, and only the first one comes without a comma
  induction fuel generalizing first with
  | zero =>
      intro cs bs rest
      constructor
      · -- without fuel both readers fail
        intro hq
        cases hq
      · rintro ⟨as, hp, -⟩
        cases hp
  | succ fuel ih =>
      refine behind (Reader.hasItem first) fun more => ?_
      cases more with
      | false =>
          rw [if_neg Bool.false_ne_true, if_neg Bool.false_ne_true]
          intro cs bs rest
          simp only [Reader.pure_eq_ok]
          constructor
          · rintro ⟨rfl, rfl⟩
            exact ⟨[], ⟨rfl, rfl⟩, mapM_eq_ok.2 .nil⟩
          · rintro ⟨_, ⟨rfl, rfl⟩, hnil⟩
            exact ⟨(List.forall₂_nil_left_iff.1 (mapM_eq_ok.1 hnil)).symm, rfl⟩
      | true =>
          rw [if_pos rfl, if_pos rfl]
          intro cs bs rest
          simp only [Reader.bind_eq_ok, Reader.pure_eq_ok]
          constructor
          · rintro ⟨b, cs', hq, bs', cs'', hitems, rfl, rfl⟩
            rcases (h cs b cs').1 hq with ⟨a, hp, hf⟩
            rcases (ih false cs' bs' cs'').1 hitems with ⟨as, hitems, hfs⟩
            -- the item that `q` reads is one that `p` reads, and `f` makes sense of it
            have hall : (a :: as).mapM f = .ok (b :: bs') :=
              mapM_eq_ok.2 (.cons hf (mapM_eq_ok.1 hfs))
            exact ⟨a :: as, ⟨a, cs', hp, as, cs'', hitems, rfl, rfl⟩, hall⟩
          · rintro ⟨_, ⟨a, cs', hp, as, cs'', hitems, rfl, rfl⟩, hfs⟩
            rcases List.forall₂_cons_left_iff.1 (mapM_eq_ok.1 hfs) with ⟨b, bs', hf, hall, rfl⟩
            have hq := (h cs b cs').2 ⟨a, hp, hf⟩
            have htail := (ih false cs' bs' cs'').2 ⟨as, hitems, mapM_eq_ok.2 hall⟩
            exact ⟨b, cs', hq, bs', cs'', htail, rfl, rfl⟩

theorem list (h : Resolves p f q) :
    Resolves (Reader.list p) (·.mapM f) (Reader.list q) := by
  refine behind Reader.peek fun next => ?_
  by_cases hnext : next = some '['
  · rw [if_pos hnext, if_pos hnext]
    refine behind Reader.advance fun _ => behind Reader.fuel fun n => ?_
    exact (h.itemsFrom true n).before (Reader.expect ']')
  · rw [if_neg hnext, if_neg hnext]
    intro cs bs rest
    constructor
    · -- a text that opens no list is refused by both
      intro hq
      exact absurd hq (Reader.unexpected_ne_ok _ cs _)
    · rintro ⟨as, hp, -⟩
      exact absurd hp (Reader.unexpected_ne_ok _ cs _)

/-- Of a whole `text`, the same is accepted in one step by `q` and in two by `p` and then `f`. -/
theorem run (h : Resolves p f q) (text : String) (b : β) :
    q.run text = .ok b ↔ ∃ a, p.run text = .ok a ∧ f a = .ok b := by
  simp only [Reader.run_eq_ok]
  constructor
  · rintro ⟨rest, hq, hrest⟩
    rcases (h text.toList b rest).1 hq with ⟨a, hp, hf⟩
    exact ⟨a, ⟨rest, hp, hrest⟩, hf⟩
  · rintro ⟨a, ⟨rest, hp, hrest⟩, hf⟩
    exact ⟨rest, (h text.toList b rest).2 ⟨a, hp, hf⟩, hrest⟩

end Resolves

/-- Making sense of each field at once, as `Schema.reader` does, reads what `Schema.ofDocuments`
makes of all of them afterwards. -/
theorem Schema.resolves_reader (depth : Nat) :
    Resolves (Json.Reader.list (FieldDocument.reader (depth - 1))) Schema.ofDocuments
      (Schema.reader depth) := by
  have hfield : Resolves (FieldDocument.reader (depth - 1)) FieldDocument.field
    (Field.reader (depth - 1)) := Resolves.accept _ _
  exact hfield.list.trans (Resolves.accept _ _)

/-! ## The errors of the loader that reads everything first -/

/-- Whether the kind of the field document `doc` cannot be made sense of, and with what error. -/
inductive FieldDocument.Unresolved (doc : FieldDocument) : SchemaError → Prop
  | unknownKind (h : FieldKind.decoder? doc.typeName = none) :
      Unresolved doc (.unknownKind doc.id doc.typeName)
  | invalidOption {decode : Decoder FieldKind} {why : Mismatch}
      (h : FieldKind.decoder? doc.typeName = some decode)
      (hoption : decode (presentOption doc.option) = .error why) :
      Unresolved doc (.invalidOption doc.id doc.typeName why)

theorem FieldDocument.field_eq_error {doc : FieldDocument} {e : SchemaError} :
    doc.field = .error e ↔ doc.Unresolved e := by
  rw [field, map_eq_error, FieldKind.ofParts]
  cases hdecoder : FieldKind.decoder? doc.typeName with
  | none =>
      constructor
      · intro h
        cases h
        exact .unknownKind hdecoder
      · intro h
        cases h with
        | unknownKind => rfl
        | invalidOption h => simp [hdecoder] at h
  | some decode =>
      cases hoption : decode (presentOption doc.option) with
      | ok kind =>
          -- the option is accepted, so neither case of `Unresolved` applies
          constructor
          · intro h
            simp [hoption, Except.mapError] at h
          · intro h
            cases h with
            | unknownKind h => simp [hdecoder] at h
            | invalidOption h h' =>
                rw [hdecoder, Option.some.injEq] at h
                rw [← h, hoption] at h'
                cases h'
      | error why =>
          constructor
          · intro h
            simp only [hoption, Except.mapError, Except.error.injEq] at h
            subst h
            exact .invalidOption hdecoder hoption
          · intro h
            cases h with
            | unknownKind h => simp [hdecoder] at h
            | invalidOption h h' =>
                rw [hdecoder, Option.some.injEq] at h
                rw [← h, hoption, Except.error.injEq] at h'
                simp [hoption, Except.mapError, h']

theorem FieldDocument.id_of_field {doc : FieldDocument} {f : Field} (h : doc.field = .ok f) :
    f.id = doc.id := by
  rcases map_eq_ok.1 h with ⟨kind, -, rfl⟩
  rfl

theorem FieldDocument.ids_of_mapM {docs : List FieldDocument} {fields : List Field}
    (h : docs.mapM FieldDocument.field = .ok fields) :
    fields.map (·.id) = docs.map (·.id) := by
  have hall := mapM_eq_ok.1 h
  induction hall with
  | nil => rfl
  | cons hfield hrest ih =>
      rw [List.map_cons, List.map_cons, id_of_field hfield, ih (mapM_eq_ok.2 hrest)]

theorem Schema.ofDocuments_eq_error {docs : List FieldDocument} {e : SchemaError} :
    Schema.ofDocuments docs = .error e ↔
      FirstError FieldDocument.Unresolved docs e ∨
        ∃ id, (∀ doc ∈ docs, ∀ e, ¬doc.Unresolved e) ∧ FirstRepeat (docs.map (·.id)) id ∧
          e = .duplicateField id := by
  have hkinds : docs.mapM FieldDocument.field = .error e ↔
      FirstError FieldDocument.Unresolved docs e := by
    simp only [mapM_eq_error, FieldDocument.field_eq_error]
  rw [Schema.ofDocuments, bind_eq_error, hkinds]
  refine or_congr_right ?_
  constructor
  · rintro ⟨fields, hfields, hdup⟩
    cases hschema : Schema.ofFields fields with
    | ok s => simp [hschema, Except.mapError] at hdup
    | error id =>
        simp only [hschema, Except.mapError, Except.error.injEq] at hdup
        -- all kinds were made sense of, so the ids of the fields are those of the documents
        refine ⟨id, ?_, FieldDocument.ids_of_mapM hfields ▸ ofFields_eq_error.1 hschema, hdup.symm⟩
        intro doc hdoc e' hunresolved
        rcases ok_of_mapM hfields hdoc with ⟨f, -, hf⟩
        rw [FieldDocument.field_eq_error.2 hunresolved] at hf
        cases hf
  · rintro ⟨id, hresolved, hagain, rfl⟩
    -- no kind is in error, so the fields are there and only the ids can be wrong
    have hok : ∀ doc ∈ docs, ∃ f, doc.field = .ok f := by
      intro doc hdoc
      cases hfield : doc.field with
      | ok f => exact ⟨f, rfl⟩
      | error e' => exact absurd (FieldDocument.field_eq_error.1 hfield) (hresolved doc hdoc e')
    rcases exists_mapM_of_forall hok with ⟨fields, hfields⟩
    rw [← FieldDocument.ids_of_mapM hfields] at hagain
    refine ⟨fields, hfields, ?_⟩
    rw [ofFields_eq_error.2 hagain]
    rfl

/-- The field documents that `text` holds, or why it cannot be read as a list of them. -/
def fieldDocuments (text : String) : Except Fault (List FieldDocument) :=
  (Json.Reader.list (FieldDocument.reader (Json.Reader.nestingLimit - 1))).run text

/-- The error that `text` gets in place of a schema. What is wrong with the text comes before any
kind, and every kind before any id; among kinds and among ids, the first in order is reported. -/
inductive Schema.Refused (text : String) : SchemaError → Prop
  | document {fault : Fault} (h : fieldDocuments text = .error fault) :
      Refused text (.document fault)
  | kind {docs : List FieldDocument} {e : SchemaError} (h : fieldDocuments text = .ok docs)
      (first : FirstError FieldDocument.Unresolved docs e) : Refused text e
  | id {docs : List FieldDocument} {id : FieldId} (h : fieldDocuments text = .ok docs)
      (kinds : ∀ doc ∈ docs, ∀ e, ¬doc.Unresolved e) (again : FirstRepeat (docs.map (·.id)) id) :
      Refused text (.duplicateField id)

theorem Schema.ofJson_eq_ok {text : String} {s : Schema} :
    Schema.ofJson text = .ok s ↔
      ∃ docs, fieldDocuments text = .ok docs ∧ Schema.ofDocuments docs = .ok s := by
  have hload : Schema.ofJson text =
    (fieldDocuments text).mapError .document >>= Schema.ofDocuments := rfl
  rw [hload]
  cases fieldDocuments text with
  | error fault => simp [Except.mapError, bind, Except.bind]
  | ok docs => simp [Except.mapError, bind, Except.bind]

theorem Schema.ofJson_eq_error {text : String} {e : SchemaError} :
    Schema.ofJson text = .error e ↔ Refused text e := by
  have hload : Schema.ofJson text =
    (fieldDocuments text).mapError .document >>= Schema.ofDocuments := rfl
  rw [hload]
  cases hdocs : fieldDocuments text with
  | error fault =>
      constructor
      · intro h
        cases h
        exact .document hdocs
      · intro h
        cases h with
        | document h =>
            rw [hdocs, Except.error.injEq] at h
            rw [h]
            rfl
        | kind h => simp [hdocs] at h
        | id h => simp [hdocs] at h
  | ok docs =>
      -- the text was read, so what is left are the errors of the documents
      have hrest : (Except.ok docs : Except Fault _).mapError SchemaError.document >>=
        Schema.ofDocuments = Schema.ofDocuments docs := rfl
      rw [hrest, ofDocuments_eq_error]
      constructor
      · rintro (hfirst | ⟨id, hkinds, hagain, rfl⟩)
        · exact .kind hdocs hfirst
        · exact .id hdocs hkinds hagain
      · intro h
        cases h with
        | document h => simp [hdocs] at h
        | kind h hfirst =>
            rw [hdocs, Except.ok.injEq] at h
            exact .inl (h ▸ hfirst)
        | id h hkinds hagain =>
            rw [hdocs, Except.ok.injEq] at h
            subst h
            exact .inr ⟨_, hkinds, hagain, rfl⟩

/-- The two loaders accept the same texts with the same schemas; where `Schema.ofJson`, which reads
everything first, refuses a text, it does so with the error that comes first. -/
theorem Schema.loaders_agree (text : String) :
    (∀ s, Schema.ofJson text = .ok s ↔
      (Schema.reader Json.Reader.nestingLimit).run text = .ok s) ∧
    (∀ e, Schema.ofJson text = .error e ↔ Schema.Refused text e) := by
  constructor
  · intro s
    rw [ofJson_eq_ok, (resolves_reader Json.Reader.nestingLimit).run text s]
    rfl
  · intro e
    exact ofJson_eq_error

end LinkedRecords
