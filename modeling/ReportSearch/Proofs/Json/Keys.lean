import ReportSearch.Json.Source

/-!
# Keys of JSON objects

A value whose objects have no key twice, at any depth. Every value that is read from a text is of
this kind, since a repeated key only replaces the value that it had.
-/

set_option autoImplicit false

namespace ReportSearch

namespace Json

mutual

/-- No object in the value has a key twice. -/
def KeysDistinct : Json → Prop
  | .null => True
  | .bool _ => True
  | .num _ => True
  | .str _ => True
  | .arr items => ItemsDistinct items
  | .obj members => (members.map Prod.fst).Nodup ∧ MembersDistinct members

def ItemsDistinct : List Json → Prop
  | [] => True
  | item :: rest => KeysDistinct item ∧ ItemsDistinct rest

def MembersDistinct : List (String × Json) → Prop
  | [] => True
  | (_, value) :: rest => KeysDistinct value ∧ MembersDistinct rest

end

mutual

def decideKeysDistinct : (value : Json) → Decidable value.KeysDistinct
  | .null => .isTrue trivial
  | .bool _ => .isTrue trivial
  | .num _ => .isTrue trivial
  | .str _ => .isTrue trivial
  | .arr items => decideItemsDistinct items
  | .obj members =>
    have := decideMembersDistinct members
    inferInstanceAs (Decidable (_ ∧ _))

def decideItemsDistinct : (items : List Json) → Decidable (ItemsDistinct items)
  | [] => .isTrue trivial
  | item :: rest =>
    have := decideKeysDistinct item
    have := decideItemsDistinct rest
    inferInstanceAs (Decidable (_ ∧ _))

def decideMembersDistinct : (members : List (String × Json)) → Decidable (MembersDistinct members)
  | [] => .isTrue trivial
  | (_, value) :: rest =>
    have := decideKeysDistinct value
    have := decideMembersDistinct rest
    inferInstanceAs (Decidable (_ ∧ _))

end

instance (value : Json) : Decidable value.KeysDistinct := decideKeysDistinct value

theorem itemsDistinct_iff {items : List Json} :
    ItemsDistinct items ↔ ∀ item ∈ items, item.KeysDistinct := by
  induction items with
  | nil => simp [ItemsDistinct]
  | cons item rest ih => rw [ItemsDistinct, ih, List.forall_mem_cons]

theorem membersDistinct_iff {members : List (String × Json)} :
    MembersDistinct members ↔ ∀ member ∈ members, member.2.KeysDistinct := by
  induction members with
  | nil => simp [MembersDistinct]
  | cons member rest ih =>
    obtain ⟨key, value⟩ := member
    rw [MembersDistinct, ih, List.forall_mem_cons]

/-- What holds of an object holds of the value of each member, and of the object without it. -/
def PassesDown (Q : Json → Prop) : Prop :=
  ∀ {key : String} {value : Json} {rest : List (String × Json)},
    Q (obj ((key, value) :: rest)) → Q value ∧ Q (obj rest)

theorem PassesDown.of_lookup {Q : Json → Prop} (hdown : PassesDown Q)
    {members : List (String × Json)} {key : String} {value : Json} (hmembers : Q (obj members))
    (h : members.lookup key = some value) : Q value := by
  induction members with
  | nil => simp at h
  | cons member rest ih =>
    obtain ⟨k, v⟩ := member
    obtain ⟨hvalue, hrest⟩ := hdown hmembers
    rw [List.lookup_cons] at h
    split at h
    · cases h
      exact hvalue
    · exact ih hrest h

theorem eq_obj_of_members? {value : Json} {members : List (String × Json)}
    (h : value.members? = some members) : value = .obj members := by
  cases value <;> cases h
  rfl

theorem PassesDown.of_lookup_members {Q : Json → Prop} (hdown : PassesDown Q)
    {members inner : List (String × Json)} {key : String} (hmembers : Q (obj members))
    (h : (members.lookup key).bind members? = some inner) : Q (obj inner) := by
  obtain ⟨value, hvalue, hinner⟩ := Option.bind_eq_some_iff.mp h
  rw [← eq_obj_of_members? hinner]
  exact hdown.of_lookup hmembers hvalue

theorem keysDistinct_passesDown : PassesDown KeysDistinct := by
  intro key value rest h
  obtain ⟨hnodup, hvalue, hrest⟩ := h
  exact ⟨hvalue, (List.nodup_cons.mp hnodup).2, hrest⟩

theorem insertMember_of_notMem {α : Type} {key : String} (value : α)
    {members : List (String × α)} (h : key ∉ members.map Prod.fst) :
    insertMember key value members = members ++ [(key, value)] := by
  induction members with
  | nil => rfl
  | cons member rest ih =>
    obtain ⟨k, v⟩ := member
    rw [List.map_cons, List.mem_cons, not_or] at h
    obtain ⟨hk, hrest⟩ := h
    rw [insertMember, if_neg (Ne.symm hk), ih hrest, List.cons_append]

/-- Members of new keys are put down one after another, none in the place of another. -/
theorem foldl_insertMember {α β : Type} (key : β → String) (value : β → α) {xs : List β}
    {before : List (String × α)} (h : (before.map Prod.fst ++ xs.map key).Nodup) :
    xs.foldl (fun members x => insertMember (key x) (value x) members) before =
      before ++ xs.map fun x => (key x, value x) := by
  induction xs generalizing before with
  | nil => simp
  | cons x rest ih =>
    rw [List.map_cons, List.nodup_append] at h
    have hnew : key x ∉ before.map Prod.fst := fun hmem =>
      h.2.2 _ hmem _ List.mem_cons_self rfl
    rw [List.foldl_cons, insertMember_of_notMem _ hnew, ih, List.append_assoc]
    · rfl
    · rw [List.map_append, List.append_assoc]
      exact List.nodup_append.mpr h

theorem lookup_insertMember {α : Type} (key other : String) (value : α)
    (members : List (String × α)) :
    (insertMember key value members).lookup other =
      if key = other then some value else members.lookup other := by
  induction members with
  | nil =>
    by_cases hkey : key = other
    · simp [insertMember, hkey]
    · simp [insertMember, hkey, List.lookup_cons, beq_false_of_ne (Ne.symm hkey)]
  | cons member rest ih =>
    obtain ⟨k, v⟩ := member
    rw [insertMember]
    split
    · rename_i hk
      subst hk
      by_cases hkey : k = other
      · simp [hkey]
      · simp [hkey, List.lookup_cons, beq_false_of_ne (Ne.symm hkey)]
    · rename_i hk
      rw [List.lookup_cons, List.lookup_cons, ih]
      by_cases hkey : key = other
      · subst hkey
        simp [beq_false_of_ne (Ne.symm hk)]
      · simp [hkey]

theorem lookup_of_mem {α : Type} {members : List (String × α)} {key : String} {value : α}
    (hkeys : (members.map Prod.fst).Nodup) (h : (key, value) ∈ members) :
    members.lookup key = some value := by
  obtain ⟨before, after, rfl⟩ := List.append_of_mem h
  rw [List.map_append, List.map_cons] at hkeys
  refine List.lookup_eq_some_iff.mpr ⟨before, after, rfl, ?_⟩
  intro member hmember
  have hne := (List.nodup_append.mp hkeys).2.2 _ (List.mem_map_of_mem hmember) _
    List.mem_cons_self
  exact bne_iff_ne.mpr (Ne.symm hne)

theorem lookup_filter_keys {α : Type} (keep : String → Bool) (key : String)
    (members : List (String × α)) :
    (members.filter fun member => keep member.1).lookup key =
      if keep key then members.lookup key else none := by
  induction members with
  | nil => simp
  | cons member rest ih =>
    obtain ⟨k, v⟩ := member
    rw [List.filter_cons, List.lookup_cons]
    by_cases hkey : key = k
    · subst hkey
      by_cases hkeep : keep key = true
      · simp [hkeep]
      · simp [hkeep, ih]
    · rw [beq_false_of_ne hkey]
      split
      · rw [List.lookup_cons, beq_false_of_ne hkey]
        exact ih
      · exact ih

theorem membersDistinct_insertMember {members : List (String × Json)} {key : String} {value : Json}
    (hv : value.KeysDistinct) (h : MembersDistinct members) :
    MembersDistinct (insertMember key value members) := by
  induction members with
  | nil => exact ⟨hv, h⟩
  | cons member rest ih =>
    obtain ⟨k, v⟩ := member
    simp only [insertMember]
    split
    · exact ⟨hv, h.2⟩
    · exact ⟨h.1, ih h.2⟩

end Json

namespace Source

open Json

theorem json?_arr_eq_some {tooDeep closed : Bool} {items : List Source} {value : Json}
    (h : (arr tooDeep items closed).json? = some value) :
    ∃ values, jsonItems? items = some values ∧ value = .arr values := by
  rw [json?] at h
  split at h
  · cases h
  · obtain ⟨values, hvalues, rfl⟩ := Option.map_eq_some_iff.mp h
    exact ⟨values, hvalues, rfl⟩

theorem json?_obj_eq_some {tooDeep closed : Bool} {members : List (Option String × Source)}
    {value : Json} (h : (obj tooDeep members closed).json? = some value) :
    ∃ found, jsonMembers? [] members = some found ∧ value = .obj found := by
  rw [json?] at h
  split at h
  · cases h
  · obtain ⟨found, hfound, rfl⟩ := Option.map_eq_some_iff.mp h
    exact ⟨found, hfound, rfl⟩

mutual

theorem keysDistinct_of_json? {source : Source} {value : Json} (h : source.json? = some value) :
    value.KeysDistinct := by
  cases source with
  | null => cases h; trivial
  | bool b => cases h; trivial
  | num n =>
    obtain ⟨x, _, rfl⟩ := Option.map_eq_some_iff.mp h
    trivial
  | str s =>
    obtain ⟨x, _, rfl⟩ := Option.map_eq_some_iff.mp h
    trivial
  | arr tooDeep items closed =>
    obtain ⟨values, hvalues, rfl⟩ := json?_arr_eq_some h
    exact itemsDistinct_of_jsonItems? hvalues
  | obj tooDeep members closed =>
    obtain ⟨found, hfound, rfl⟩ := json?_obj_eq_some h
    exact membersDistinct_of_jsonMembers? (by simp) (by simp [MembersDistinct]) hfound
  | broken => cases h

theorem itemsDistinct_of_jsonItems? {items : List Source} {values : List Json}
    (h : jsonItems? items = some values) : ItemsDistinct values := by
  cases items with
  | nil => cases h; trivial
  | cons item rest =>
    simp only [jsonItems?, Option.bind_eq_bind, Option.bind_eq_some_iff, Option.pure_def,
      Option.some.injEq] at h
    obtain ⟨value, hvalue, others, hothers, rfl⟩ := h
    exact ⟨keysDistinct_of_json? hvalue, itemsDistinct_of_jsonItems? hothers⟩

theorem membersDistinct_of_jsonMembers? {before found : List (String × Json)}
    {members : List (Option String × Source)} (hk : (before.map Prod.fst).Nodup)
    (hb : MembersDistinct before) (h : jsonMembers? before members = some found) :
    (found.map Prod.fst).Nodup ∧ MembersDistinct found := by
  cases members with
  | nil =>
    cases h
    exact ⟨hk, hb⟩
  | cons member rest =>
    obtain ⟨key?, source⟩ := member
    simp only [jsonMembers?, Option.bind_eq_bind, Option.bind_eq_some_iff] at h
    obtain ⟨key, rfl, value, hvalue, h⟩ := h
    exact membersDistinct_of_jsonMembers? (nodup_keys_insertMember key value hk)
      (membersDistinct_insertMember (keysDistinct_of_json? hvalue) hb) h

end

end Source

theorem Json.keysDistinct_of_parse? {text : String} {value : Json}
    (h : Json.parse? text = some value) : value.KeysDistinct := by
  simp only [Json.parse?] at h
  split at h
  · exact Source.keysDistinct_of_json? h
  · cases h

end ReportSearch
