import LinkedRecords.Proofs.RecordMembers
import LinkedRecords.Schema.Document

/-! # Field kinds in documents

What an object says about a field of some type is told here member by member. The option that is
written for a kind says that it is this kind, and an option is read as the kind that it describes;
so what is written is read back. What an option says does not change with members that its type does
not know, nor with members that are no more than what their absence stands for.

* `FieldKind.ofParts_object_eq_ok_iff` — an object is read as a kind just if it describes the kind.
* `FieldKind.describedBy_option` — the option written for a kind describes it.
* `FieldKind.DescribedBy.filter` — which members can be left out of an object that describes a kind.
* `FieldKind.ofParts_persistent` — the main statement: kinds are read back, and survive unknown and
  vacant members.
-/

namespace LinkedRecords

open Json

/-! ## What an object says -/

variable (ms : List (String × Value))

/-- Whether the members `ms` describe the reference `r`. -/
structure Reference.DescribedBy (r : Reference) : Prop where
  isOwner : HasMember ms "isOwner" (some (.bool false)) (.bool r.isOwner)
  foreign : HasMember ms "foreignTableId" none (.string r.foreignTable.text)
  symmetric : HasMember ms "symmetricFieldId" (some .null) (.ofOption (r.symmetric.map (·.text)))
  display : HasMember ms "displayFieldIds" (some (.strings [])) (.strings (r.display.map (·.text)))

/-- Whether the members `ms` describe the end `h` of a hierarchy, whose other end is named under
`partnerKey`. -/
structure Hierarchy.DescribedBy (partnerKey : String) (h : Hierarchy) : Prop where
  foreign : HasMember ms "foreignTableId" (some .null) (.ofOption (h.foreignTable.map (·.text)))
  partner : HasMember ms partnerKey (some .null) (.ofOption (h.partner.map (·.text)))
  display : HasMember ms "displayFieldIds" (some (.strings [])) (.strings (h.display.map (·.text)))

/-- Whether the members `ms` describe what an attached field shows. -/
def Attached.DescribedBy : Attached → Prop
  | lookup ids => HasMember ms "displayFieldIds" (some (.strings [])) (.strings (ids.map (·.text)))
  | count => True
  | sum source | average source => HasMember ms "aggregateFieldId" none (.string source.text)

/-- Whether the members `ms` describe a kind of field, as far as its type leaves anything to be
said. -/
def FieldKind.DescribedBy : FieldKind → Prop
  | scalar _ | attachment => True
  | relation (.reference r) => r.DescribedBy ms
  | relation (.tree h) => h.DescribedBy ms "parentFieldId"
  | relation (.parent h) => h.DescribedBy ms "treeFieldId"
  | attached owner shows =>
    HasMember ms "referenceFieldId" none (.string owner.text) ∧ shows.DescribedBy ms

/-- The keys that the options of the type `typeName` know. -/
def FieldKind.optionKeys : (typeName : String) → List String
  | "reference" => ["isOwner", "foreignTableId", "symmetricFieldId", "displayFieldIds"]
  | "tree" => ["foreignTableId", "parentFieldId", "displayFieldIds"]
  | "parent" => ["foreignTableId", "treeFieldId", "displayFieldIds"]
  | "lookup" => ["referenceFieldId", "displayFieldIds"]
  | "count" => ["referenceFieldId"]
  | "sum" | "average" => ["referenceFieldId", "aggregateFieldId"]
  | _ => []

/-! ## Reading -/

section Reading

variable {ms}

/-- The decoder `FieldId.decoder` reads an id from its `text` and from nothing else. -/
theorem FieldId.spells_decoder : FieldId.decoder.Spells fun id => .string id.text :=
  Decoder.spells_string.map FieldId.mk (·.text) (fun _ => rfl) (fun _ => rfl)

theorem TableId.spells_decoder : TableId.decoder.Spells fun id => .string id.text :=
  Decoder.spells_string.map TableId.mk (·.text) (fun _ => rfl) (fun _ => rfl)

section Slots

variable {α : Type} {key : String} {decode : Decoder α} {text : α → String}

theorem reads_flag_iff {b : Bool} :
    Slot.Reads ⟨Bool, key, Decoder.bool, some false⟩ ms b ↔
      HasMember ms key (some (.bool false)) (.bool b) :=
  (Slot.reads_iff_of_spells Decoder.spells_bool).trans Iff.rfl

theorem reads_id_iff (h : decode.Spells fun a => .string (text a)) {a : α} :
    Slot.Reads ⟨α, key, decode, none⟩ ms a ↔ HasMember ms key none (.string (text a)) :=
  (Slot.reads_iff_of_spells h).trans Iff.rfl

theorem reads_optionalId_iff (h : decode.Spells fun a => .string (text a)) {a : Option α} :
    Slot.Reads ⟨Option α, key, Decoder.optional decode, some none⟩ ms a ↔
      HasMember ms key (some .null) (.ofOption (a.map text)) := by
  -- no text is spelled `null`, so the spelling of a missing id is told apart
  refine (Slot.reads_iff_of_spells (h.optional fun _ => Value.noConfusion)).trans ?_
  cases a <;> rfl

theorem reads_displaySlot_iff {ids : List FieldId} :
    displaySlot.Reads ms ids ↔
      HasMember ms "displayFieldIds" (some (.strings [])) (.strings (ids.map (·.text))) := by
  refine (Slot.reads_iff_of_spells FieldId.spells_decoder.list).trans ?_
  rw [Value.strings, Value.strings, List.map_map]
  rfl

end Slots

theorem Reference.decoder_eq_ok_iff {r : Reference} :
    Reference.decoder (.object ms) = .ok r ↔ r.DescribedBy ms := by
  have hnodup : (Reference.record.slots.map (·.name)).Nodup := by decide
  unfold Reference.decoder
  rw [Decoder.bind_eq_ok]
  -- the keys of a record are distinct, so each slot can be read by itself
  simp only [Decoder.record_object_eq_ok hnodup]
  constructor
  · rintro ⟨⟨isOwner, foreign, symmetric, display, ⟨⟩⟩, hreads, heq⟩
    cases heq
    rcases hreads with ⟨hisOwner, hforeign, hsymmetric, hdisplay, -⟩
    exact ⟨reads_flag_iff.1 hisOwner, (reads_id_iff TableId.spells_decoder).1 hforeign,
      (reads_optionalId_iff FieldId.spells_decoder).1 hsymmetric,
      reads_displaySlot_iff.1 hdisplay⟩
  · rintro ⟨hisOwner, hforeign, hsymmetric, hdisplay⟩
    refine ⟨(r.isOwner, r.foreignTable, r.symmetric, r.display, ()), ?_, rfl⟩
    exact ⟨reads_flag_iff.2 hisOwner, (reads_id_iff TableId.spells_decoder).2 hforeign,
      (reads_optionalId_iff FieldId.spells_decoder).2 hsymmetric,
      reads_displaySlot_iff.2 hdisplay, trivial⟩

theorem Hierarchy.decoder_eq_ok_iff {title partnerKey : String}
    (hnodup : ["foreignTableId", partnerKey, "displayFieldIds"].Nodup) {h : Hierarchy} :
    Hierarchy.decoder title partnerKey (.object ms) = .ok h ↔ h.DescribedBy ms partnerKey := by
  unfold Hierarchy.decoder
  rw [Decoder.bind_eq_ok]
  have hrecord : ((Hierarchy.record title partnerKey).slots.map (·.name)).Nodup := hnodup
  simp only [Decoder.record_object_eq_ok hrecord]
  constructor
  · rintro ⟨⟨foreign, partner, display, ⟨⟩⟩, hreads, heq⟩
    cases heq
    rcases hreads with ⟨hforeign, hpartner, hdisplay, -⟩
    exact ⟨(reads_optionalId_iff TableId.spells_decoder).1 hforeign,
      (reads_optionalId_iff FieldId.spells_decoder).1 hpartner, reads_displaySlot_iff.1 hdisplay⟩
  · rintro ⟨hforeign, hpartner, hdisplay⟩
    refine ⟨(h.foreignTable, h.partner, h.display, ()), ?_, rfl⟩
    exact ⟨(reads_optionalId_iff TableId.spells_decoder).2 hforeign,
      (reads_optionalId_iff FieldId.spells_decoder).2 hpartner, reads_displaySlot_iff.2 hdisplay,
      trivial⟩

/-- The option of an attached field names its owner under `referenceFieldId`, and has what else the
`slots` of its type ask for. -/
theorem Attached.decoder_eq_ok_iff (title : String) (slots : List (Slot Decoder))
    (make : Filled slots → Attached)
    (hnodup : ("referenceFieldId" :: slots.map (·.name)).Nodup) {kind : FieldKind} :
    (do
      let (owner, filled) ← Decoder.record ⟨title, fieldSlot "referenceFieldId" :: slots⟩
      return FieldKind.attached owner (make filled) : Decoder FieldKind) (.object ms) = .ok kind ↔
    ∃ owner filled, kind = .attached owner (make filled) ∧
      HasMember ms "referenceFieldId" none (.string owner.text) ∧ Filled.Reads slots ms filled := by
  have hrecord : ((⟨title, fieldSlot "referenceFieldId" :: slots⟩ : Record Decoder).slots.map
    (·.name)).Nodup := hnodup
  -- the owner is the first slot, whatever slots the type puts behind it
  rw [Decoder.bind_eq_ok]
  simp only [Decoder.record_object_eq_ok hrecord]
  constructor
  · rintro ⟨⟨owner, filled⟩, ⟨howner, hreads⟩, heq⟩
    cases heq
    exact ⟨owner, filled, rfl, (reads_id_iff FieldId.spells_decoder).1 howner, hreads⟩
  · rintro ⟨owner, filled, rfl, howner, hreads⟩
    exact ⟨(owner, filled), ⟨(reads_id_iff FieldId.spells_decoder).2 howner, hreads⟩, rfl⟩

theorem Attached.lookupDecoder_eq_ok_iff {kind : FieldKind} :
    Attached.lookupDecoder (.object ms) = .ok kind ↔
      ∃ owner ids, kind = .attached owner (.lookup ids) ∧ kind.DescribedBy ms := by
  refine (Attached.decoder_eq_ok_iff _ [displaySlot] (fun filled => .lookup filled.1)
    (by decide)).trans ?_
  constructor
  · rintro ⟨owner, ⟨ids, ⟨⟩⟩, rfl, howner, hids, -⟩
    exact ⟨owner, ids, rfl, howner, reads_displaySlot_iff.1 hids⟩
  · rintro ⟨owner, ids, rfl, howner, hids⟩
    exact ⟨owner, (ids, ()), rfl, howner, reads_displaySlot_iff.2 hids, trivial⟩

theorem Attached.countDecoder_eq_ok_iff {kind : FieldKind} :
    Attached.countDecoder (.object ms) = .ok kind ↔
      ∃ owner, kind = .attached owner .count ∧ kind.DescribedBy ms := by
  refine (Attached.decoder_eq_ok_iff _ [] (fun _ => .count) (by decide)).trans ?_
  constructor
  · rintro ⟨owner, ⟨⟩, rfl, howner, -⟩
    exact ⟨owner, rfl, howner, trivial⟩
  · rintro ⟨owner, rfl, howner, -⟩
    exact ⟨owner, (), rfl, howner, trivial⟩

/-- Sums and means are read alike: `make` is either of them, and their source stands under
`aggregateFieldId`. -/
theorem Attached.sourceDecoder_eq_ok_iff {title : String} {make : FieldId → Attached}
    (hmake : ∀ source, (make source).DescribedBy ms ↔
      HasMember ms "aggregateFieldId" none (.string source.text)) {kind : FieldKind} :
    (do
      let (owner, source, ()) ← Decoder.record (Attached.sourceRecord title)
      return FieldKind.attached owner (make source) : Decoder FieldKind) (.object ms) = .ok kind ↔
    ∃ owner source, kind = .attached owner (make source) ∧ kind.DescribedBy ms := by
  refine (Attached.decoder_eq_ok_iff _ [fieldSlot "aggregateFieldId"] (fun filled => make filled.1)
    (by decide)).trans ?_
  constructor
  · rintro ⟨owner, ⟨source, ⟨⟩⟩, rfl, howner, hsource, -⟩
    exact ⟨owner, source, rfl, howner,
      (hmake source).2 ((reads_id_iff FieldId.spells_decoder).1 hsource)⟩
  · rintro ⟨owner, source, rfl, howner, hsource⟩
    exact ⟨owner, (source, ()), rfl, howner,
      (reads_id_iff FieldId.spells_decoder).2 ((hmake source).1 hsource), trivial⟩

namespace FieldKind

variable {id : FieldId} {typeName : String} {option : Value} {kind : FieldKind}

theorem ofParts_eq_ok_iff :
    ofParts id typeName option = .ok kind ↔
      ∃ decode, decoder? typeName = some decode ∧ decode (presentOption option) = .ok kind := by
  rw [ofParts]
  cases decoder? typeName with
  | none => simp
  | some decode =>
      cases hdecode : decode (presentOption option) <;> simp [hdecode, Except.mapError]

/-- An option that is `null` is read like one without members: only `presentOption option`
counts. -/
theorem ofParts_of_presentOption (h : presentOption option = .object ms) :
    ofParts id typeName option = ofParts id typeName (.object ms) := by
  rw [ofParts, ofParts, h]
  rfl

/-- Whatever `option` looks like, `ofParts` reads it as a kind of the type `typeName`. -/
theorem typeName_of_ofParts (h : ofParts id typeName option = .ok kind) :
    kind.typeName = typeName := by
  rcases ofParts_eq_ok_iff.1 h with ⟨decode, hdecode, hkind⟩
  unfold decoder? at hdecode
  split at hdecode
  all_goals cases hdecode
  -- either the option is not asked, or the kind is made of what is read from it
  all_goals
    first
    | cases hkind
      rfl
    | rcases map_eq_ok.1 hkind with ⟨read, -, rfl⟩
      rfl

/-- The decoder of the type of `kind` reads an object as `kind` just if the object describes it. -/
theorem ofParts_typeName_object_eq_ok_iff :
    ofParts id kind.typeName (.object ms) = .ok kind ↔ kind.DescribedBy ms := by
  -- each type has one decoder, which reads just what describes a kind of this type
  have hdecoder : ∀ decode, decoder? kind.typeName = some decode →
      (ofParts id kind.typeName (.object ms) = .ok kind ↔ decode (.object ms) = .ok kind) := by
    intro decode hdecode
    rw [ofParts_eq_ok_iff, hdecode]
    simp [presentOption]
  rcases kind with kind | _ | (r | t | p) | ⟨owner, _ | _ | _ | _⟩
  · have hscalar : decoder? kind.typeName = some (pure (.scalar kind)) := by cases kind <;> rfl
    exact (hdecoder _ hscalar).trans (iff_of_true rfl trivial)
  · exact (hdecoder _ rfl).trans (iff_of_true rfl trivial)
  · refine (hdecoder _ rfl).trans (map_eq_ok.trans ?_)
    simp [Reference.decoder_eq_ok_iff, DescribedBy]
  · refine (hdecoder _ rfl).trans (map_eq_ok.trans ?_)
    simp [Hierarchy.treeDecoder, Hierarchy.decoder_eq_ok_iff, DescribedBy]
  · refine (hdecoder _ rfl).trans (map_eq_ok.trans ?_)
    simp [Hierarchy.parentDecoder, Hierarchy.decoder_eq_ok_iff, DescribedBy]
  · refine (hdecoder _ rfl).trans (Attached.lookupDecoder_eq_ok_iff.trans ?_)
    simp
  · refine (hdecoder _ rfl).trans (Attached.countDecoder_eq_ok_iff.trans ?_)
    simp
  · refine (hdecoder _ rfl).trans ((Attached.sourceDecoder_eq_ok_iff fun _ => Iff.rfl).trans ?_)
    simp
  · refine (hdecoder _ rfl).trans ((Attached.sourceDecoder_eq_ok_iff fun _ => Iff.rfl).trans ?_)
    simp

/-- An object is read as `kind` under `typeName` just if that is the type of `kind` and the object
describes it. -/
theorem ofParts_object_eq_ok_iff :
    ofParts id typeName (.object ms) = .ok kind ↔
      kind.typeName = typeName ∧ kind.DescribedBy ms := by
  constructor
  · intro h
    have htype := typeName_of_ofParts h
    subst htype
    exact ⟨rfl, ofParts_typeName_object_eq_ok_iff.1 h⟩
  · rintro ⟨rfl, h⟩
    exact ofParts_typeName_object_eq_ok_iff.2 h

end FieldKind

end Reading

/-! ## Writing -/

theorem Reference.describedBy_option (r : Reference) :
    ∃ ms, r.option = .object ms ∧ r.DescribedBy ms := by
  refine ⟨_, rfl, ?_⟩
  -- neither an id that is missing nor an empty list is written
  rcases r with ⟨isOwner, foreign, _ | symmetric, _ | ⟨id, ids⟩⟩
  all_goals
    constructor <;>
      simp [HasMember, valuesAt, displayMember, idMember, Value.ofOption, Value.strings]

theorem Hierarchy.describedBy_option (h : Hierarchy) (partnerKey : String)
    (hnodup : ["foreignTableId", partnerKey, "displayFieldIds"].Nodup) :
    ∃ ms, h.option partnerKey = .object ms ∧ h.DescribedBy ms partnerKey := by
  -- the key of the partner is none of the two that every hierarchy has
  have hforeign : partnerKey ≠ "foreignTableId" := by
    rintro rfl
    simp at hnodup
  have hdisplay : partnerKey ≠ "displayFieldIds" := by
    rintro rfl
    simp at hnodup
  refine ⟨_, rfl, ?_⟩
  rcases h with ⟨_ | foreign, _ | partner, _ | ⟨id, ids⟩⟩
  all_goals
    constructor <;>
      simp [HasMember, valuesAt, displayMember, idMember, Value.ofOption, Value.strings, hforeign,
        hforeign.symm, hdisplay, hdisplay.symm]

/-- The option that is written for `kind` describes it; a kind that needs no option is described by
no members. -/
theorem FieldKind.describedBy_option (kind : FieldKind) :
    ∃ ms, presentOption kind.option = .object ms ∧ kind.DescribedBy ms := by
  rcases kind with kind | _ | (r | t | p) | ⟨owner, _ | _ | _ | _⟩
  · exact ⟨[], rfl, trivial⟩
  · exact ⟨[], rfl, trivial⟩
  · rcases r.describedBy_option with ⟨ms, hoption, h⟩
    exact ⟨ms, congrArg presentOption hoption, h⟩
  · rcases t.describedBy_option "parentFieldId" (by decide) with ⟨ms, hoption, h⟩
    exact ⟨ms, congrArg presentOption hoption, h⟩
  · rcases p.describedBy_option "treeFieldId" (by decide) with ⟨ms, hoption, h⟩
    exact ⟨ms, congrArg presentOption hoption, h⟩
  -- an attached field always writes its members, so there is nothing to tell apart
  all_goals
    refine ⟨_, rfl, ?_⟩
    simp [FieldKind.DescribedBy, Attached.DescribedBy, HasMember, valuesAt]

/-! ## Leaving members out -/

/-- Whether the value `v` may stand for nothing: it is `null` or an empty array. -/
def Json.Value.Vacant (v : Value) : Prop := v = .null ∨ v = .array []

namespace Json

variable {absent : Option Value}

/-- A flag is never `Vacant`, so nothing is asked of what its absence stands for. -/
theorem vacant_flag {b : Bool} (h : (Value.bool b).Vacant) : absent = some (.bool b) := by
  rcases h with h | h <;> cases h

/-- An id that must be there is never `Vacant`, so nothing is asked of what its absence stands
for. -/
theorem vacant_id {text : String} (h : (Value.string text).Vacant) :
    absent = some (.string text) := by
  rcases h with h | h <;> cases h

/-- An optional id that is `Vacant` is missing, and its absence stands for `null`. -/
theorem vacant_optionalId {text : Option String} (h : (Value.ofOption text).Vacant) :
    some .null = some (Value.ofOption text) := by
  cases text with
  | none => rfl
  | some text => exact vacant_id h

/-- A list of ids that is `Vacant` is empty, and its absence stands for the empty list. -/
theorem vacant_ids {texts : List String} (h : (Value.strings texts).Vacant) :
    some (.strings []) = some (Value.strings texts) := by
  rcases h with h | h
  · cases h
  · cases texts with
    | nil => rfl
    | cons text texts => cases h

end Json

/-- If `ms` describes `kind` and `ms'` has every member of `ms` under a key that the type knows,
then `ms'` describes `kind` too. A member that is `Vacant` counts as one that is absent. -/
theorem FieldKind.DescribedBy.transport {ms ms' : List (String × Value)} {kind : FieldKind}
    (h : kind.DescribedBy ms)
    (hmembers : ∀ key ∈ optionKeys kind.typeName, ∀ absent v, (v.Vacant → absent = some v) →
      HasMember ms key absent v → HasMember ms' key absent v) : kind.DescribedBy ms' := by
  rcases kind with kind | _ | (r | t | p) | ⟨owner, _ | _ | _ | _⟩
  -- for each type, `hmembers` gives the transport of the members under its keys
  all_goals
    simp only [typeName, Relation.kindName, optionKeys, List.forall_mem_cons] at hmembers
  · trivial
  · trivial
  · rcases hmembers with ⟨hisOwner, hforeign, hsymmetric, hdisplay, -⟩
    exact ⟨hisOwner _ _ vacant_flag h.isOwner, hforeign _ _ vacant_id h.foreign,
      hsymmetric _ _ vacant_optionalId h.symmetric, hdisplay _ _ vacant_ids h.display⟩
  · rcases hmembers with ⟨hforeign, hpartner, hdisplay, -⟩
    exact ⟨hforeign _ _ vacant_optionalId h.foreign, hpartner _ _ vacant_optionalId h.partner,
      hdisplay _ _ vacant_ids h.display⟩
  · rcases hmembers with ⟨hforeign, hpartner, hdisplay, -⟩
    exact ⟨hforeign _ _ vacant_optionalId h.foreign, hpartner _ _ vacant_optionalId h.partner,
      hdisplay _ _ vacant_ids h.display⟩
  · exact ⟨hmembers.1 _ _ vacant_id h.1, hmembers.2.1 _ _ vacant_ids h.2⟩
  · exact ⟨hmembers.1 _ _ vacant_id h.1, trivial⟩
  · exact ⟨hmembers.1 _ _ vacant_id h.1, hmembers.2.1 _ _ vacant_id h.2⟩
  · exact ⟨hmembers.1 _ _ vacant_id h.1, hmembers.2.1 _ _ vacant_id h.2⟩

namespace FieldKind

variable {ms : List (String × Value)} {keep : String × Value → Bool} {kind : FieldKind}

/-- Leaving out members that the type of `kind` does not know changes nothing about what is
described. -/
theorem describedBy_filter_iff
    (hdrop : ∀ m ∈ ms, keep m = false → m.1 ∉ optionKeys kind.typeName) :
    kind.DescribedBy (ms.filter keep) ↔ kind.DescribedBy ms := by
  have hvalues : ∀ key ∈ optionKeys kind.typeName,
      valuesAt (ms.filter keep) key = valuesAt ms key := by
    intro key hkey
    apply valuesAt_filter
    rintro m hm hkeep rfl
    exact hdrop m hm hkeep hkey
  -- the values under known keys are the same, so the transport works both ways
  constructor
  · intro h
    refine h.transport ?_
    intro key hkey absent v _ hmember
    rwa [HasMember, ← hvalues key hkey]
  · intro h
    refine h.transport ?_
    intro key hkey absent v _ hmember
    rwa [HasMember, hvalues key hkey]

/-- If `ms` describes `kind`, then leaving out members that are `Vacant` or unknown to the type
keeps the description. -/
theorem DescribedBy.filter (h : kind.DescribedBy ms)
    (hdrop : ∀ m ∈ ms, keep m = false → m.1 ∉ optionKeys kind.typeName ∨ m.2.Vacant) :
    kind.DescribedBy (ms.filter keep) := by
  refine h.transport ?_
  intro key hkey absent v hvacant hmember
  refine hmember.filter ?_
  rintro m hm hkeep rfl rfl
  -- a member that was left out is unknown, which its key is not, or stands for its absence
  rcases hdrop m hm hkeep with hunknown | hnothing
  · exact absurd hkey hunknown
  · exact hvacant hnothing

/-- Whatever kind is written with `kind.option` is read back, and whatever is read is of the type it
was read for and is the same when it is written and read again; so members that the type does not
know make no difference, nor do members that are `null` or an empty list once the object has been
accepted with them. -/
theorem ofParts_persistent :
    (∀ id kind, ofParts id kind.typeName kind.option = .ok kind) ∧
    (∀ id typeName option kind, ofParts id typeName option = .ok kind →
      kind.typeName = typeName ∧ ofParts id typeName kind.option = .ok kind) ∧
    (∀ id typeName ms keep, (∀ m ∈ ms, keep m = false → m.1 ∉ optionKeys typeName) →
      ∀ kind, ofParts id typeName (.object (ms.filter keep)) = .ok kind ↔
        ofParts id typeName (.object ms) = .ok kind) ∧
    ∀ id typeName ms keep kind, ofParts id typeName (.object ms) = .ok kind →
      (∀ m ∈ ms, keep m = false →
        m.1 ∉ optionKeys typeName ∨ m.2 = .null ∨ m.2 = .array []) →
      ofParts id typeName (.object (ms.filter keep)) = .ok kind := by
  have hwritten : ∀ id kind, ofParts id kind.typeName kind.option = .ok kind := by
    intro id kind
    rcases kind.describedBy_option with ⟨ms, hoption, h⟩
    rw [ofParts_of_presentOption hoption]
    exact ofParts_typeName_object_eq_ok_iff.2 h
  refine ⟨hwritten, ?_, ?_, ?_⟩
  · -- what is read has the type it was read for, and is then a written kind
    intro id typeName option kind h
    have htype := typeName_of_ofParts h
    subst htype
    exact ⟨rfl, hwritten id kind⟩
  · intro id typeName ms keep hdrop kind
    rw [ofParts_object_eq_ok_iff, ofParts_object_eq_ok_iff]
    -- only the description depends on the members, the type does not
    apply and_congr_right
    rintro rfl
    exact describedBy_filter_iff hdrop
  · intro id typeName ms keep kind h hdrop
    rw [ofParts_object_eq_ok_iff] at h ⊢
    rcases h with ⟨rfl, h⟩
    exact ⟨rfl, h.filter hdrop⟩

/-- A tree whose option has a member too many, a `foreignTableId` that is `null` and no fields to
show. -/
theorem ofParts_persistent_tree :
    ∃ ms kind,
      ofParts ⟨"replies"⟩ "tree" (.object ms) = .ok kind ∧
      ms.map (·.1) = ["color", "displayFieldIds", "foreignTableId", "parentFieldId"] ∧
      kind = .relation (.tree ⟨none, some ⟨"answers"⟩, []⟩) ∧
      kind.option = .object [("parentFieldId", .string "answers")] ∧
      ofParts ⟨"replies"⟩ "tree" kind.option = .ok kind ∧
      ofParts ⟨"replies"⟩ "tree" (.object (ms.filter (·.1 ≠ "color"))) = .ok kind ∧
      ofParts ⟨"replies"⟩ "tree" (.object (ms.filter (·.1 = "parentFieldId"))) = .ok kind := by
  rcases ofParts_persistent with ⟨-, hread, hunknown, hvacant⟩
  have hkind : ofParts ⟨"replies"⟩ "tree" (.object [("color", .string "red"),
      ("displayFieldIds", .array []), ("foreignTableId", .null),
      ("parentFieldId", .string "answers")]) =
        .ok (.relation (.tree ⟨none, some ⟨"answers"⟩, []⟩)) := by rfl
  refine ⟨_, _, hkind, rfl, rfl, rfl, (hread _ _ _ _ hkind).2, ?_, ?_⟩
  · refine (hunknown _ _ _ _ ?_ _).2 hkind
    simp [optionKeys]
  · refine hvacant _ _ _ _ _ hkind ?_
    simp [optionKeys]

end FieldKind

end LinkedRecords
