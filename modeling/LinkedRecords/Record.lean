/-! # Records with named members

A record has slots: named members of different types, some of which may be absent. How a member is
decoded is left open, so that the same slots serve every format.
-/

namespace LinkedRecords

/-- A member of a record, decoded by an action of kind `S`. -/
structure Slot (S : Type → Type) where
  type : Type
  name : String
  decode : S type
  /-- What an absent member stands for; a member without it is required. -/
  absent : Option type

/-- A record under construction: some of its members. -/
def Draft {S : Type → Type} : List (Slot S) → Type
  | [] => Unit
  | s :: slots => Option s.type × Draft slots

/-- A complete record. -/
def Filled {S : Type → Type} : List (Slot S) → Type
  | [] => Unit
  | s :: slots => s.type × Filled slots

/-- What a name means to a record under construction. -/
inductive Placement (α : Type) where
  /-- No slot has the name. -/
  | unknown
  /-- The member is there already. -/
  | repeated
  /-- The action decodes the member and puts it into the record. -/
  | place (action : α)

/-- The placement with another action. -/
def Placement.map {α β : Type} (f : α → β) : Placement α → Placement β
  | unknown => unknown
  | repeated => repeated
  | place action => place (f action)

namespace Draft

variable {S : Type → Type}

/-- The record with no member yet. -/
def empty : (slots : List (Slot S)) → Draft slots
  | [] => ()
  | _ :: slots => (none, empty slots)

/-- What to do with a member of this name. -/
def put [Functor S] (name : String) :
    (slots : List (Slot S)) → Draft slots → Placement (S (Draft slots))
  | [], _ => .unknown
  | s :: slots, (member, rest) =>
    if s.name = name then
      if member.isSome then .repeated else .place ((fun x => (some x, rest)) <$> s.decode)
    else (put name slots rest).map (Functor.map fun rest => (member, rest))

/-- The complete record, or the name of the first slot that is required and absent. -/
def complete : (slots : List (Slot S)) → Draft slots → Except String (Filled slots)
  | [], _ => .ok ()
  | s :: slots, (member, rest) =>
    match member <|> s.absent with
    | some x => (complete slots rest).map (x, ·)
    | none => .error s.name

end Draft

/-- A record type: what messages call it, and its slots. -/
structure Record (S : Type → Type) where
  title : String
  slots : List (Slot S)

end LinkedRecords
