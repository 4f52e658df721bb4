import ChartBoard.Settings.Load
import Mathlib.Data.List.Nodup

/-!
Groups of settings. Each field of a group sets a part of it and leaves the parts of the other fields
alone (`Document.FieldPart`). A value that a document holds for a field is put into the group once:
an item by its position, a member by its name, and a second member of the name is refused. So the
part of a group that has been read is what was read from the value that the document holds for it
(`Document.FieldPart.read_of_holds`).
-/

namespace ChartBoard.Document

/-- What a document holds for a field of a group: an item at the position of the field, or a member
of its name. -/
inductive Holds (position : Nat) (name : String) : Document → Document → Prop
  | item {items : List Document} {value : Document} (h : items[position]? = some value) :
      Holds position name (array items) value
  | member {members : List (Option String × Document)} {value : Document}
      (h : (some name, value) ∈ members) : Holds position name (object members) value

variable {group β : Type}

/-- A part of a group belongs to the field at a position: the field reads it from what it puts, and
no other field touches it. -/
structure FieldPart (fields : List (Field group)) (position : Nat) (name : String)
    (read : Document → Option β) (get : group → β) : Prop where
  distinct : (fields.map Field.name).Nodup
  own : ∃ field, fields[position]? = some field ∧ field.name = name ∧
    ∀ {value before after}, field.put value before = some after → read value = some (get after)
  other : ∀ field ∈ fields, field.name ≠ name →
    ∀ {value before after}, field.put value before = some after → get after = get before

section Items

variable {fields : List (Field group)} {get : group → β}

/-- Fields that leave a part alone leave it alone together. -/
theorem get_putItems (h : ∀ field ∈ fields, ∀ {value before after},
    field.put value before = some after → get after = get before) {items : List Document}
    {before after : group} (hput : putItems? fields items before = some after) :
    get after = get before := by
  induction fields generalizing items before with
  | nil =>
      cases hput
      rfl
  | cons field fields ih =>
      obtain ⟨hfield, hfields⟩ := List.forall_mem_cons.mp h
      cases items with
      | nil =>
          cases hput
          rfl
      | cons item items =>
          obtain ⟨next, hnext, hlater⟩ := Option.bind_eq_some_iff.mp hput
          rw [ih hfields hlater, hfield hnext]

theorem FieldPart.read_item {position : Nat} {name : String} {read : Document → Option β}
    (h : FieldPart fields position name read get) {items : List Document} {value : Document}
    (hitem : items[position]? = some value) {before after : group}
    (hput : putItems? fields items before = some after) : read value = some (get after) := by
  obtain ⟨hdistinct, ⟨own, hposition, rfl, hown⟩, hother⟩ := h
  induction position generalizing fields items before with
  | zero =>
      obtain ⟨fields, rfl⟩ : ∃ later, fields = own :: later := by
        cases fields <;> simp_all
      obtain ⟨items, rfl⟩ : ∃ later, items = value :: later := by
        cases items <;> simp_all
      obtain ⟨next, hnext, hlater⟩ := Option.bind_eq_some_iff.mp hput
      rw [List.map_cons, List.nodup_cons] at hdistinct
      have hkept : get after = get next := by
        refine get_putItems (fun field hfield => ?_) hlater
        refine hother field (List.mem_cons_of_mem own hfield) fun hname => hdistinct.1 ?_
        exact hname ▸ List.mem_map_of_mem hfield
      rw [hown hnext, hkept]
  | succ position ih =>
      cases fields with
      | nil => cases hposition
      | cons field fields =>
          cases items with
          | nil => cases hitem
          | cons item items =>
              obtain ⟨next, -, hlater⟩ := Option.bind_eq_some_iff.mp hput
              rw [List.map_cons, List.nodup_cons] at hdistinct
              exact ih hitem hlater hdistinct.2 hposition
                fun later hfield => hother later (List.mem_cons_of_mem field hfield)

end Items

section Members

variable {fields : List (Field group)} {position : Nat} {name : String}
  {read : Document → Option β} {get : group → β} (h : FieldPart fields position name read get)

include h

theorem FieldPart.find_eq_some_iff {field : Field group} :
    fields.find? (fun field => field.name == name) = some field ↔
      field ∈ fields ∧ field.name = name := by
  constructor
  · intro hfind
    exact ⟨List.mem_of_find?_eq_some hfind, by simpa using List.find?_some hfind⟩
  · rintro ⟨hfield, hname⟩
    cases hfind : fields.find? fun field => field.name == name with
    | none => simpa [hname] using List.find?_eq_none.mp hfind field hfield
    | some found =>
        have hfound : found.name = name := by simpa using List.find?_some hfind
        rw [List.inj_on_of_nodup_map h.distinct (List.mem_of_find?_eq_some hfind) hfield
          (hfound.trans hname.symm)]

/-- Once the part has been set, later members leave it alone. -/
theorem FieldPart.get_putMembers {members : List (Option String × Document)} {seen : List String}
    (hseen : name ∈ seen) {before after : group}
    (hput : putMembers? fields members seen before = some after) : get after = get before := by
  induction members generalizing seen before with
  | nil =>
      cases hput
      rfl
  | cons member members ih =>
      obtain ⟨given?, value⟩ := member
      cases given? with
      | none => cases hput
      | some given =>
          rw [putMembers?] at hput
          split at hput
          · split at hput
            · exact ih hseen hput
            · cases hput
          · rename_i field hfind
            split at hput
            · cases hput
            rename_i hnew
            obtain ⟨next, hnext, hlater⟩ := Option.bind_eq_some_iff.mp hput
            have hgiven : field.name = given := by simpa using List.find?_some hfind
            have hne : field.name ≠ name := fun hname => hnew (by
              simpa [← hgiven, hname] using hseen)
            rw [ih (List.mem_cons_of_mem given hseen) hlater,
              h.other field (List.mem_of_find?_eq_some hfind) hne hnext]

theorem FieldPart.read_member {members : List (Option String × Document)} {value : Document}
    (hmember : (some name, value) ∈ members) {seen : List String} {before after : group}
    (hput : putMembers? fields members seen before = some after) :
    read value = some (get after) := by
  obtain ⟨own, hposition, hname, hown⟩ := h.own
  have hfind := h.find_eq_some_iff.mpr ⟨List.mem_of_getElem? hposition, hname⟩
  induction members generalizing seen before with
  | nil => cases hmember
  | cons member members ih =>
      rcases List.mem_cons.mp hmember with rfl | hlater
      · rw [putMembers?, hfind] at hput
        dsimp only at hput
        split at hput
        · cases hput
        · obtain ⟨next, hnext, hlater⟩ := Option.bind_eq_some_iff.mp hput
          rw [hown hnext, h.get_putMembers List.mem_cons_self hlater]
      · obtain ⟨given?, given⟩ := member
        cases given? with
        | none => cases hput
        | some given =>
            rw [putMembers?] at hput
            split at hput
            · split at hput
              · exact ih hlater hput
              · cases hput
            · split at hput
              · cases hput
              · obtain ⟨next, -, hrest⟩ := Option.bind_eq_some_iff.mp hput
                exact ih hlater hrest

/-- The part of a group that has been read is read from the value that the document holds for it. -/
theorem FieldPart.read_of_holds {document value : Document}
    (hholds : Holds position name document value)
    {before after : group} (hgroup : document.toGroup? fields before = some after) :
    read value = some (get after) := by
  cases hholds with
  | item hitem => exact h.read_item hitem hgroup
  | member hmember => exact h.read_member hmember hgroup

end Members

end ChartBoard.Document
