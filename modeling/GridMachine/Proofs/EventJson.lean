import GridMachine.Machine.EventJson
import GridMachine.Proofs.JsonText
import GridMachine.Proofs.SideBySide

/-!
Events written as JSON and read again. A text is read as an event if it is a JSON text that writes
one: a name alone, or an object that gives the name once and roles at most once, whatever else is in
it. An event is written in one way only, and what is read from that is the event, with the same
roles or as open to everybody as before.
-/

namespace GridMachine

open Document InOrder

/-! ### Documents as JSON values -/

namespace Json

theorem itemsOf?_eq_some_iff {depth : Nat} {nodes : List (Node Leaf)} {items : List Json} :
    itemsOf? depth nodes = some items ↔
      List.Forall₂ (fun node item => ofNode? depth node = some item) nodes items := by
  induction nodes generalizing items with
  | nil => simp [itemsOf?, eq_comm]
  | cons node nodes ih =>
      rw [itemsOf?, List.forall₂_cons_left_iff]
      simp only [bind, Option.bind_eq_some_iff, ih, Option.some.injEq, @eq_comm _ items,
        exists_and_left]

/-- What is read as the members of an object is a record of names and values. -/
theorem exists_fields_of_membersOf? {depth : Nat} :
    ∀ {nodes : List (Node Leaf)} {members : List (String × Json)},
      membersOf? depth nodes = some members → ∃ fields, nodes = memberNodes fields ∧
        List.Forall₂ (fun field member => field.1 = member.1 ∧
          ofNode? depth field.2 = some member.2) fields members
  | [], members, h => by
      cases h
      exact ⟨[], rfl, .nil⟩
  | .leaf (.text name) :: node :: nodes, members, h => by
      rw [membersOf?] at h
      simp only [bind, Option.bind_eq_some_iff, Option.some.injEq] at h
      obtain ⟨value, hvalue, rest, hrest, rfl⟩ := h
      obtain ⟨fields, rfl, hfields⟩ := exists_fields_of_membersOf? hrest
      exact ⟨(name, node) :: fields, rfl, .cons ⟨rfl, hvalue⟩ hfields⟩
  | [.leaf (.text _)], _, h => by simp [membersOf?] at h
  | .leaf .null :: _, _, h => by simp [membersOf?] at h
  | .leaf (.bool _) :: _, _, h => by simp [membersOf?] at h
  | .leaf (.numeral _) :: _, _, h => by simp [membersOf?] at h
  | .leaf .brokenText :: _, _, h => by simp [membersOf?] at h
  | .list _ :: _, _, h => by simp [membersOf?] at h
  | .record _ :: _, _, h => by simp [membersOf?] at h
  | .cut :: _, _, h => by simp [membersOf?] at h

theorem ofNode?_texts {depth : Nat} (hdepth : depth ≠ 0) (items : List String) :
    ofNode? depth (.list (items.map fun s => .leaf (.text s))) =
      some (.array (items.map .text)) := by
  have hitems : itemsOf? (depth - 1) (items.map fun s => .leaf (.text s)) =
      some (items.map .text) := by
    rw [itemsOf?_eq_some_iff, List.forall₂_map_left_iff, List.forall₂_map_right_iff,
      List.forall₂_same]
    exact fun _ _ => rfl
  rw [ofNode?, if_neg hdepth, hitems]
  rfl

theorem membersOf?_memberNodes {depth : Nat} {fields : List (String × Node Leaf)}
    {members : List (String × Json)}
    (h : List.Forall₂ (fun field member => field.1 = member.1 ∧
      ofNode? depth field.2 = some member.2) fields members) :
    membersOf? depth (memberNodes fields) = some members := by
  induction h with
  | nil => rfl
  | @cons field member fields members hhead _ ih =>
      obtain ⟨name, node⟩ := field
      obtain ⟨_, value⟩ := member
      obtain ⟨rfl, hvalue⟩ := hhead
      change membersOf? depth (.leaf (.text name) :: node :: memberNodes fields) = _
      rw [membersOf?, hvalue, ih]
      rfl

/-- An object that is read is a record in which every name has a value. -/
theorem exists_fields_of_ofNode? {depth : Nat} {items : List (Node Leaf)} {value : Json}
    (h : ofNode? depth (.record items) = some value) :
    ∃ fields, items = memberNodes fields ∧ ∀ field ∈ fields, field.2 ≠ .cut := by
  rw [ofNode?] at h
  split at h
  · cases h
  · obtain ⟨members, hmembers, -⟩ := Option.map_eq_some_iff.1 h
    obtain ⟨fields, rfl, hfields⟩ := exists_fields_of_membersOf? hmembers
    refine ⟨fields, rfl, fun field hfield hcut => ?_⟩
    obtain ⟨member, -, -, hmember⟩ := exists_left_of_forall₂ hfields.flip hfield
    rw [hcut] at hmember
    cases hmember

/-! ### Fields that are given once -/

theorem memberNodes_injective : Function.Injective memberNodes := by
  intro fields
  induction fields with
  | nil =>
      intro others h
      cases others with
      | nil => rfl
      | cons other others => cases h
  | cons field fields ih =>
      intro others h
      cases others with
      | nil => cases h
      | cons other others =>
          obtain ⟨name, value⟩ := field
          obtain ⟨otherName, otherValue⟩ := other
          simp only [memberNodes, List.flatMap_cons, List.cons_append, List.nil_append,
            List.cons.injEq, Node.leaf.injEq, Leaf.text.injEq] at h
          obtain ⟨rfl, rfl, hrest⟩ := h
          rw [ih hrest]

/-- The values that a record gives to a name. -/
def valuesOf (name : String) (fields : List (String × Node Leaf)) : List (Node Leaf) :=
  (fields.filter (·.1 = name)).map Prod.snd

theorem valuesOf_cons (name : String) (field : String × Node Leaf)
    (fields : List (String × Node Leaf)) :
    valuesOf name (field :: fields) =
      (if field.1 = name then [field.2] else []) ++ valuesOf name fields := by
  unfold valuesOf
  by_cases h : field.1 = name <;> simp [h]

end Json

namespace Document.Reading

variable {α β : Type} {name : String} {read : Node α → Except Fault β} {values : List (Node α)}
  {final : Option β}

/-- A field that has been read is not given again. -/
theorem foldlM_once_some_eq_ok_iff {value : β} :
    values.foldlM (once name · read ·) (some value) = .ok final ↔
      values = [] ∧ final = some value := by
  cases values with
  | nil => simp [pure, Except.pure, eq_comm]
  | cons node values => simp [once, bind, Except.bind]

theorem foldlM_once_eq_ok_iff :
    values.foldlM (once name · read ·) none = .ok final ↔
      values = [] ∧ final = none ∨
        ∃ node value, values = [node] ∧ read node = .ok value ∧ final = some value := by
  cases values with
  | nil => simp [pure, Except.pure, eq_comm]
  | cons node values =>
      rw [List.foldlM_cons, bind_eq_ok_iff]
      cases hread : read node with
      | error fault => simp [once, hread, Functor.map, Except.map]
      | ok value =>
          have honce : once name none read node = .ok (some value) := by
            rw [once, hread]
            rfl
          rw [honce]
          simp [foldlM_once_some_eq_ok_iff, hread]

end Document.Reading

namespace Event

/-- What the values of the field for roles say: left out and null both leave the event to everybody,
which an empty list does not. -/
inductive GivesRoles : List (Node Json.Leaf) → Option (List String) → Prop where
  | omitted : GivesRoles [] none
  | null : GivesRoles [.leaf .null] none
  | listed (roles : List String) :
      GivesRoles [.list (roles.map fun role => .leaf (.text role))] (some roles)

/-- The events that nodes write: a name alone, or a record that gives a name once and roles at most
once, whatever other fields it has. -/
inductive Writes : Node Json.Leaf → Event → Prop where
  | bare (name : String) : Writes (.leaf (.text name)) (unrestricted name)
  | full {fields : List (String × Node Json.Leaf)} {name : String} {roles : Option (List String)}
      (named : Json.valuesOf "name" fields = [.leaf (.text name)])
      (givesRoles : GivesRoles (Json.valuesOf "roles" fields) roles) :
      Writes (.record (Json.memberNodes fields)) ⟨name, roles⟩

theorem givesRoles_iff {values : List (Node Json.Leaf)} {roles : Option (List String)} :
    (∃ read, values.foldlM
      (Reading.once "roles" · (Json.reading.optional Json.reading.texts) ·) none = .ok read ∧
        read.getD none = roles) ↔ GivesRoles values roles := by
  simp only [Reading.foldlM_once_eq_ok_iff, Json.optional_texts_eq_ok_iff]
  constructor
  · rintro ⟨read, ⟨rfl, rfl⟩ | ⟨node, value, rfl, ⟨rfl, rfl⟩ | ⟨roles, rfl, rfl⟩, rfl⟩, rfl⟩
    · exact .omitted
    · exact .null
    · exact .listed roles
  · intro h
    cases h with
    | omitted => exact ⟨none, .inl ⟨rfl, rfl⟩, rfl⟩
    | null => exact ⟨some none, .inr ⟨_, _, rfl, .inl ⟨rfl, rfl⟩, rfl⟩, rfl⟩
    | listed roles => exact ⟨some (some roles), .inr ⟨_, _, rfl, .inr ⟨_, rfl, rfl⟩, rfl⟩, rfl⟩

/-- One more field is read on its own; of the others, those that were read stay as they are. -/
theorem Draft.readField_eq_ok_iff {draft next : Draft} {name : String} {value : Node Json.Leaf}
    (hvalue : value ≠ .cut) :
    draft.readField name value = .ok next ↔
      (if name = "name" then [value] else []).foldlM
          (Reading.once "name" · Json.reading.text ·) draft.name = .ok next.name ∧
        (if name = "roles" then [value] else []).foldlM
          (Reading.once "roles" · (Json.reading.optional Json.reading.texts) ·) draft.roles =
            .ok next.roles := by
  obtain ⟨readName, readRoles⟩ := draft
  obtain ⟨nextName, nextRoles⟩ := next
  unfold readField
  split
  next =>
    cases honce : Reading.once "name" readName Json.reading.text value <;>
      simp [honce, bind, Except.bind, pure, Except.pure]
  next =>
    cases honce :
        Reading.once "roles" readRoles (Json.reading.optional Json.reading.texts) value <;>
      simp [honce, bind, Except.bind, pure, Except.pure]
  next hname hroles =>
    have hskip : Reading.skip value = .ok () := by
      cases value with
      | cut => contradiction
      | _ => rfl
    rw [hskip, if_neg hname, if_neg hroles]
    simp [bind, Except.bind, pure, Except.pure]

theorem Draft.foldlM_readField_eq_ok_iff {fields : List (String × Node Json.Leaf)}
    (hwhole : ∀ field ∈ fields, field.2 ≠ .cut) {draft final : Draft} :
    fields.foldlM (fun draft field => draft.readField field.1 field.2) draft = .ok final ↔
      (Json.valuesOf "name" fields).foldlM
          (Reading.once "name" · Json.reading.text ·) draft.name = .ok final.name ∧
        (Json.valuesOf "roles" fields).foldlM
          (Reading.once "roles" · (Json.reading.optional Json.reading.texts) ·) draft.roles =
            .ok final.roles := by
  induction fields generalizing draft with
  | nil =>
      obtain ⟨name, roles⟩ := draft
      obtain ⟨name', roles'⟩ := final
      simp [Json.valuesOf, pure, Except.pure]
  | cons field fields ih =>
      obtain ⟨hfield, hfields⟩ := List.forall_mem_cons.1 hwhole
      rw [List.foldlM_cons, bind_eq_ok_iff, Json.valuesOf_cons, Json.valuesOf_cons,
        List.foldlM_append, List.foldlM_append, bind_eq_ok_iff, bind_eq_ok_iff]
      simp only [ih hfields, Draft.readField_eq_ok_iff hfield]
      constructor
      · rintro ⟨next, ⟨hname, hroles⟩, hnames, hrest⟩
        exact ⟨⟨_, hname, hnames⟩, _, hroles, hrest⟩
      · rintro ⟨⟨name, hname, hnames⟩, roles, hroles, hrest⟩
        exact ⟨⟨name, roles⟩, ⟨hname, hroles⟩, hnames, hrest⟩

theorem Writes.record_iff {fields : List (String × Node Json.Leaf)} {event : Event} :
    Writes (.record (Json.memberNodes fields)) event ↔
      Json.valuesOf "name" fields = [.leaf (.text event.name)] ∧
        GivesRoles (Json.valuesOf "roles" fields) event.roles := by
  constructor
  · intro h
    generalize hnode : Node.record (Json.memberNodes fields) = node at h
    cases h with
    | bare name => cases hnode
    | full named givesRoles =>
        obtain rfl := Json.memberNodes_injective (Node.record.inj hnode)
        exact ⟨named, givesRoles⟩
  · rintro ⟨named, givesRoles⟩
    exact .full named givesRoles

/-- A record is read as the event it writes, if there is a value for each of its names. -/
theorem ofNode_memberNodes_eq_ok_iff {fields : List (String × Node Json.Leaf)}
    (hwhole : ∀ field ∈ fields, field.2 ≠ .cut) {event : Event} :
    ofNode (.record (Json.memberNodes fields)) = .ok event ↔
      Writes (.record (Json.memberNodes fields)) event := by
  rw [Writes.record_iff, ← givesRoles_iff]
  change (Json.reading.eachField Draft.readField {} (Json.memberNodes fields) >>= _) = _ ↔ _
  rw [Json.eachField_memberNodes, bind_eq_ok_iff]
  simp only [Draft.foldlM_readField_eq_ok_iff hwhole]
  constructor
  · rintro ⟨⟨_ | name, roles⟩, ⟨hname, hroles⟩, hfinish⟩
    · cases hfinish
    · cases hfinish
      rw [Reading.foldlM_once_eq_ok_iff] at hname
      simp only [Json.text_eq_ok_iff] at hname
      obtain ⟨-, h⟩ | ⟨node, _, hvalues, rfl, h⟩ := hname
      · cases h
      · cases h
        exact ⟨hvalues, roles, hroles, rfl⟩
  · rintro ⟨hname, roles, hroles, hevent⟩
    refine ⟨⟨some event.name, roles⟩, ⟨?_, hroles⟩, ?_⟩
    · rw [hname, Reading.foldlM_once_eq_ok_iff]
      exact .inr ⟨_, _, rfl, rfl, rfl⟩
    · obtain ⟨name, _⟩ := event
      cases hevent
      rfl

/-- Of the documents that are JSON values, those that write an event are read as one. -/
theorem ofNode_eq_ok_iff {depth : Nat} {node : Node Json.Leaf} {value : Json}
    (hvalue : Json.ofNode? depth node = some value) {event : Event} :
    ofNode node = .ok event ↔ Writes node event := by
  cases node with
  | leaf leaf =>
      cases leaf with
      | text name =>
          constructor
          · intro h
            cases h
            exact .bare name
          · intro h
            cases h
            rfl
      | _ => constructor <;> intro h <;> cases h
  | list items => constructor <;> intro h <;> cases h
  | record items =>
      obtain ⟨fields, rfl, hwhole⟩ := Json.exists_fields_of_ofNode? hvalue
      exact ofNode_memberNodes_eq_ok_iff hwhole
  | cut => cases hvalue

/-- **The texts that are read as events.** They are the JSON texts that write one. -/
theorem ofJsonText?_eq_some_iff {cs : List Char} {event : Event} :
    ofJsonText? cs = some event ↔
      (∃ value, Json.parse? cs = some value) ∧ Writes (Json.outline cs).root event := by
  have hread : ofJsonText? cs = some event ↔
      (∃ value, Json.parse? cs = some value) ∧ ofNode (Json.outline cs).root = .ok event := by
    have hoption : (ofNode (Json.outline cs).root).toOption = some event ↔
        ofNode (Json.outline cs).root = .ok event := by
      cases ofNode (Json.outline cs).root <;> simp [Except.toOption]
    unfold ofJsonText? Json.parse?
    simp only [bind, Option.bind_eq_some_iff, hoption, exists_and_right]
  rw [hread]
  refine and_congr_right ?_
  rintro ⟨value, hvalue⟩
  rw [Json.parse?, Json.ofOutline?] at hvalue
  split at hvalue
  · exact ofNode_eq_ok_iff hvalue
  · cases hvalue

/-! ### Written events -/

/-- The names and values of the record that an event is written as. -/
def fieldNodes (event : Event) : List (String × Node Json.Leaf) :=
  ("name", .leaf (.text event.name)) ::
    match event.roles with
    | none => []
    | some roles => [("roles", .list (roles.map fun role => .leaf (.text role)))]

theorem readAs_toJson (event : Event) :
    Json.ReadAs event.toJson (.record (Json.memberNodes event.fieldNodes)) := by
  refine Json.readAs_object ?_
  obtain ⟨name, _ | roles⟩ := event
  · exact .cons ⟨rfl, Json.readAs_text name⟩ .nil
  · exact .cons ⟨rfl, Json.readAs_text name⟩ (.cons ⟨rfl, Json.readAs_texts roles⟩ .nil)

theorem writes_fieldNodes (event : Event) :
    Writes (.record (Json.memberNodes event.fieldNodes)) event := by
  rw [Writes.record_iff]
  obtain ⟨name, _ | roles⟩ := event
  · exact ⟨rfl, .omitted⟩
  · exact ⟨rfl, .listed roles⟩

/-- What is written is read, and what is read is the record that was written. -/
theorem outline_toJsonText (event : Event) :
    (Json.outline event.toJsonText).root = .record (Json.memberNodes event.fieldNodes) ∧
      (Json.outline event.toJsonText).isWhole = true := by
  have hblanks : ∀ c ∈ ([] : List Char), Json.isSpace c = true := by simp
  exact Json.outline_append_render event.readAs_toJson hblanks

theorem parse?_toJsonText (event : Event) : Json.parse? event.toJsonText = some event.toJson := by
  obtain ⟨hroot, hwhole⟩ := event.outline_toJsonText
  rw [Json.parse?, Json.ofOutline?, if_pos hwhole, hroot, Json.ofNode?, if_neg (by decide)]
  obtain ⟨name, _ | roles⟩ := event
  · rfl
  · have hroles := @Json.ofNode?_texts (Json.maxDepth - 1) (by decide) roles
    have hmembers : Json.membersOf? (Json.maxDepth - 1)
        (Json.memberNodes (fieldNodes ⟨name, some roles⟩)) =
          some [("name", .text name), ("roles", .array (roles.map .text))] :=
      Json.membersOf?_memberNodes (.cons ⟨rfl, rfl⟩ (.cons ⟨rfl, hroles⟩ .nil))
    rw [hmembers]
    rfl

theorem ofJsonText?_toJsonText (event : Event) : ofJsonText? event.toJsonText = some event := by
  rw [ofJsonText?_eq_some_iff, event.outline_toJsonText.1]
  exact ⟨⟨_, event.parse?_toJsonText⟩, event.writes_fieldNodes⟩

/-- **An event survives being written as JSON and read.** The text is the object that the event is
written as, and what is read has the name and the roles of the event, so that the same callers may
trigger it; no roles and an empty list of them stay apart. A text that is read at all, in whatever
form, gives an event that is written and read again. -/
theorem json_round_trip (event : Event) :
    Json.parse? event.toJsonText = some event.toJson ∧
    (∃ read, ofJsonText? event.toJsonText = some read ∧ read.name = event.name ∧
      read.roles = event.roles ∧
      ∀ roles, read.isAuthorisedFor roles = event.isAuthorisedFor roles) ∧
    ∀ cs read, ofJsonText? cs = some read → Writes (Json.outline cs).root read ∧
      ∃ again, ofJsonText? read.toJsonText = some again ∧ again.name = read.name ∧
        again.roles = read.roles := by
  refine ⟨event.parse?_toJsonText,
    ⟨event, event.ofJsonText?_toJsonText, rfl, rfl, fun _ => rfl⟩, fun cs read h => ?_⟩
  exact ⟨(ofJsonText?_eq_some_iff.1 h).2, read, read.ofJsonText?_toJsonText, rfl, rfl⟩

/-- An event that nobody may trigger, with a field that has no meaning and a name with an escape. -/
def memo : List Char :=
  " \x7b\"roles\": [], \"note\": [1, \x7b\x7d], \"name\": \"C\\u006cose\"\x7d".toList

theorem json_round_trip_memo :
    ofJsonText? memo = some (restricted "Close" []) ∧
      Writes (Json.outline memo).root (restricted "Close" []) ∧
      ∃ again, ofJsonText? (restricted "Close" []).toJsonText = some again ∧
        again.name = "Close" ∧ again.roles = some [] := by
  have hread : ofJsonText? memo = some (restricted "Close" []) := by decide +kernel
  exact ⟨hread, (json_round_trip (restricted "Close" [])).2.2 memo _ hread⟩

end Event

end GridMachine
