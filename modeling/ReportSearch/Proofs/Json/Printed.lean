import ReportSearch.Proofs.Attempts
import ReportSearch.Proofs.Json.NumberText

/-!
# Printed values that are read

The compact text of a value is read up to its end, whatever follows it. What is read is the value
itself, with every number as its own text is read and with a mark on each container that lies too
deep. So a value comes back from its text exactly when its numbers do and it is not nested too
deeply.
-/

set_option autoImplicit false

namespace ReportSearch

namespace Json

/-- What every value has as soon as its parts have it, all values have. -/
theorem byParts {P : Json → Prop} (hnull : P null) (hbool : ∀ b, P (bool b))
    (hnum : ∀ n, P (num n)) (hstr : ∀ s, P (str s))
    (harr : ∀ items, (∀ item ∈ items, P item) → P (arr items))
    (hobj : ∀ members, (∀ member ∈ members, P member.2) → P (obj members)) (value : Json) :
    P value := by
  refine @Json.rec P (fun items => ∀ item ∈ items, P item)
    (fun members => ∀ member ∈ members, P member.2) (fun member => P member.2) hnull hbool hnum hstr
    harr hobj (List.forall_mem_nil _) ?_ (List.forall_mem_nil _) ?_ ?_ value
  · intro item rest hitem hrest
    exact List.forall_mem_cons.mpr ⟨hitem, hrest⟩
  · intro member rest hmember hrest
    exact List.forall_mem_cons.mpr ⟨hmember, hrest⟩
  · intro key value hvalue
    exact hvalue

mutual

/-- The number of containers that are nested in a value, with itself among them. -/
def nesting : Json → Nat
  | .arr items => nestingOfItems items + 1
  | .obj members => nestingOfMembers members + 1
  | _ => 0

def nestingOfItems : List Json → Nat
  | [] => 0
  | item :: rest => max (nesting item) (nestingOfItems rest)

def nestingOfMembers : List (String × Json) → Nat
  | [] => 0
  | (_, value) :: rest => max (nesting value) (nestingOfMembers rest)

end

theorem nestingOfItems_le_iff {items : List Json} {n : Nat} :
    nestingOfItems items ≤ n ↔ ∀ item ∈ items, item.nesting ≤ n := by
  induction items with
  | nil => simp [nestingOfItems]
  | cons item rest ih => rw [nestingOfItems, Nat.max_le, ih, List.forall_mem_cons]

theorem nestingOfMembers_le_iff {members : List (String × Json)} {n : Nat} :
    nestingOfMembers members ≤ n ↔ ∀ member ∈ members, member.2.nesting ≤ n := by
  induction members with
  | nil => simp [nestingOfMembers]
  | cons member rest ih =>
    obtain ⟨key, value⟩ := member
    rw [nestingOfMembers, Nat.max_le, ih, List.forall_mem_cons]

end Json

namespace Source

open Json Text

theorem hexDigit?_digitChar {d : Nat} (h : d < 16) : hexDigit? (Nat.digitChar d) = some d := by
  have hall : ∀ d < 16, hexDigit? (Nat.digitChar d) = some d := by decide
  exact hall d h

theorem unicodeEscape?_hexDigits {n : Nat} (h : n < 0xD800) (rest : List Char) :
    unicodeEscape? (hexDigits n ++ rest) = some (some (Char.ofNat n), rest) := by
  have hquad : hexQuad? (hexDigits n ++ rest) = some (n, rest) := by
    have hsum : n / 4096 % 16 * 4096 + n / 256 % 16 * 256 + n / 16 % 16 * 16 + n % 16 = n := by
      omega
    simp [hexDigits, hexQuad?, hexDigit?_digitChar (Nat.mod_lt _ (by decide : 0 < 16)), hsum]
  have hlow : isLowSurrogate n = false := by simp [isLowSurrogate]; omega
  have hhigh : isHighSurrogate n = false := by simp [isHighSurrogate]; omega
  simp [unicodeEscape?, hquad, hlow, hhigh]

theorem readString?_plain (fuel : Nat) (read : List Char) {c : Char} (rest : List Char)
    (hquote : c ≠ '"') (hbackslash : c ≠ '\\') (hcontrol : ¬c.toNat < 32) :
    readString? (fuel + 1) (some read) (c :: rest) = readString? fuel (some (c :: read)) rest := by
  rw [readString?]
  · rw [if_neg hcontrol]
    rfl
  · exact hquote
  · exact fun _ h => absurd h hbackslash
  · exact fun _ _ h => absurd h hbackslash
  · exact fun h => absurd h hbackslash

/-- A character is read from its escaped form in one step. -/
theorem readString?_escapeChar (fuel : Nat) (read : List Char) (c : Char) (rest : List Char) :
    readString? (fuel + 1) (some read) (escapeChar c ++ rest) =
      readString? fuel (some (c :: read)) rest := by
  by_cases hsimple : c ∈ ['"', '\\', '\n', '\r', '\t', '\x08', '\x0c']
  · simp only [List.mem_cons, List.not_mem_nil, or_false] at hsimple
    rcases hsimple with rfl | rfl | rfl | rfl | rfl | rfl | rfl <;> rfl
  · simp only [List.mem_cons, List.not_mem_nil, or_false, not_or] at hsimple
    obtain ⟨hquote, hbackslash, hnewline, hreturn, htab, hback, hfeed⟩ := hsimple
    unfold escapeChar
    rw [if_neg hquote, if_neg hbackslash, if_neg hnewline, if_neg hreturn, if_neg htab,
      if_neg hback, if_neg hfeed]
    split
    · rename_i hcontrol
      rw [List.cons_append, List.cons_append, readString?, unicodeEscape?_hexDigits (by omega)]
      simp
    · rename_i hcontrol
      exact readString?_plain fuel read rest hquote hbackslash hcontrol

theorem escapeChar_ne_nil (c : Char) : escapeChar c ≠ [] := by
  unfold escapeChar
  repeat' split
  all_goals exact List.cons_ne_nil _ _

theorem length_le_flatMap_escapeChar (cs : List Char) :
    cs.length ≤ (cs.flatMap escapeChar).length := by
  induction cs with
  | nil => exact Nat.le_refl 0
  | cons c cs ih =>
    have hc := List.length_pos_iff.mpr (escapeChar_ne_nil c)
    rw [List.flatMap_cons, List.length_append, List.length_cons]
    omega

theorem readString?_escaped (cs : List Char) {fuel : Nat} (hfuel : cs.length < fuel)
    (read rest : List Char) :
    readString? fuel (some read) (cs.flatMap escapeChar ++ '"' :: rest) =
      some (some (String.ofList (read.reverse ++ cs)), rest) := by
  induction cs generalizing fuel read with
  | nil =>
    cases fuel with
    | zero => omega
    | succ fuel => simp [readString?]
  | cons c cs ih =>
    rw [List.length_cons] at hfuel
    cases fuel with
    | zero => omega
    | succ fuel =>
      rw [List.flatMap_cons, List.append_assoc, readString?_escapeChar, ih (by omega),
        List.reverse_cons, List.append_assoc]
      rfl

theorem readString?_quoted (s : String) (rest : List Char) :
    ∃ body, quoted s ++ rest = '"' :: body ∧
      readString? (body.length + 1) (some []) body = some (some s, rest) := by
  refine ⟨s.toList.flatMap escapeChar ++ '"' :: rest, ?_, ?_⟩
  · simp [quoted]
  · have hlength := length_le_flatMap_escapeChar s.toList
    rw [readString?_escaped s.toList (by rw [List.length_append]; omega)]
    simp

mutual

/-- What is read of the text of a value that has `depth` containers around it. -/
def ofPrinted (depth : Nat) : Json → Source
  | .null => null
  | .bool b => bool b
  | .num n => num n.reread?
  | .str s => str (some s)
  | .arr items => arr (decide (deepest ≤ depth)) (ofPrintedItems (depth + 1) items) true
  | .obj members => obj (decide (deepest ≤ depth)) (ofPrintedMembers (depth + 1) members) true

def ofPrintedItems (depth : Nat) : List Json → List Source
  | [] => []
  | item :: rest => ofPrinted depth item :: ofPrintedItems depth rest

def ofPrintedMembers (depth : Nat) : List (String × Json) → List (Option String × Source)
  | [] => []
  | (key, value) :: rest => (some key, ofPrinted depth value) :: ofPrintedMembers depth rest

end

theorem ofPrintedItems_eq (depth : Nat) (items : List Json) :
    ofPrintedItems depth items = items.map (ofPrinted depth) := by
  induction items with
  | nil => rfl
  | cons item rest ih => rw [ofPrintedItems, ih, List.map_cons]

theorem ofPrintedMembers_eq (depth : Nat) (members : List (String × Json)) :
    ofPrintedMembers depth members =
      members.map fun member => (some member.1, ofPrinted depth member.2) := by
  induction members with
  | nil => rfl
  | cons member rest ih =>
    obtain ⟨key, value⟩ := member
    rw [ofPrintedMembers, ih, List.map_cons]

theorem ofItems_eq (items : List Json) : ofItems items = items.map ofJson := by
  induction items with
  | nil => rfl
  | cons item rest ih => rw [ofItems, ih, List.map_cons]

theorem ofMembers_eq (members : List (String × Json)) :
    ofMembers members = members.map fun member => (some member.1, ofJson member.2) := by
  induction members with
  | nil => rfl
  | cons member rest ih =>
    obtain ⟨key, value⟩ := member
    rw [ofMembers, ih, List.map_cons]

theorem isSpace_of_head {c : Char} (h : c.isDigit = true ∨ c = '-') : isSpace c = false := by
  unfold isSpace
  simp only [Bool.or_eq_false_iff, decide_eq_false_iff_not]
  refine ⟨⟨⟨?_, ?_⟩, ?_⟩, ?_⟩
  all_goals
    rintro rfl
    revert h
    decide

/-- The text of a value begins with a character that is no space and closes nothing. -/
theorem head?_compactChars (value : Json) :
    ∃ c cs, value.compactChars = c :: cs ∧ isSpace c = false ∧ c ≠ ']' := by
  cases value with
  | null => exact ⟨_, _, rfl, by decide⟩
  | bool b =>
    cases b
    · exact ⟨_, _, rfl, by decide⟩
    · exact ⟨_, _, rfl, by decide⟩
  | num n =>
    obtain ⟨c, cs, hcons, hc⟩ := n.head?_text
    refine ⟨c, cs, hcons, isSpace_of_head hc, ?_⟩
    rintro rfl
    revert hc
    decide
  | str s => exact ⟨_, _, rfl, by decide⟩
  | arr items => exact ⟨_, _, rfl, by decide⟩
  | obj members => exact ⟨_, _, rfl, by decide⟩

theorem skipSpace_cons {c : Char} (hc : isSpace c = false) (cs : List Char) :
    skipSpace (c :: cs) = c :: cs := by
  rw [skipSpace, List.dropWhile_cons, hc]
  rfl

/-- A value is read from its text, whatever follows, in as many steps as the text is long. -/
def IsReadFromText (value : Json) : Prop :=
  ∀ fuel depth rest, value.compactChars.length ≤ fuel → Numeral.CannotGoOn rest →
    readValue fuel depth (value.compactChars ++ rest) = (ofPrinted depth value, rest)

theorem compactItems_cons (item : Json) {others : List Json} (h : others ≠ []) :
    compactItems (item :: others) = item.compactChars ++ ',' :: compactItems others := by
  cases others with
  | nil => exact absurd rfl h
  | cons other more => rfl

theorem compactMembers_cons (key : String) (value : Json) {others : List (String × Json)}
    (h : others ≠ []) :
    compactMembers ((key, value) :: others) =
      quoted key ++ ':' :: (value.compactChars ++ ',' :: compactMembers others) := by
  cases others with
  | nil => exact absurd rfl h
  | cons other more => rfl

theorem head?_compactItems {items : List Json} (hne : items ≠ []) :
    ∃ c cs, compactItems items = c :: cs ∧ isSpace c = false ∧ c ≠ ']' := by
  obtain ⟨item, others, rfl⟩ := List.exists_cons_of_ne_nil hne
  obtain ⟨c, cs, hcons, hc⟩ := head?_compactChars item
  by_cases hlast : others = []
  · exact ⟨c, cs, by rw [hlast, compactItems, hcons], hc⟩
  · exact ⟨c, _, by rw [compactItems_cons item hlast, hcons, List.cons_append], hc⟩

theorem head?_compactMembers {members : List (String × Json)} (hne : members ≠ []) :
    ∃ cs, compactMembers members = '"' :: cs := by
  obtain ⟨⟨key, value⟩, others, rfl⟩ := List.exists_cons_of_ne_nil hne
  by_cases hlast : others = []
  · exact ⟨_, by rw [hlast, compactMembers, quoted, List.cons_append]⟩
  · exact ⟨_, by rw [compactMembers_cons key value hlast, quoted, List.cons_append]⟩

theorem readItems_compactItems {items : List Json} (h : ∀ item ∈ items, IsReadFromText item)
    (hne : items ≠ []) (fuel depth : Nat) (rest : List Char)
    (hfuel : (compactItems items).length < fuel) :
    readItems fuel depth (compactItems items ++ ']' :: rest) =
      (ofPrintedItems depth items, true, rest) := by
  -- The comma behind an item pays for the step to the next one.
  induction items generalizing fuel with
  | nil => exact absurd rfl hne
  | cons item others ih =>
    obtain ⟨hitem, hothers⟩ := List.forall_mem_cons.mp h
    cases fuel with
    | zero => omega
    | succ fuel =>
      by_cases hlast : others = []
      · subst hlast
        have hread := hitem fuel depth (']' :: rest) (Nat.le_of_lt_succ hfuel)
          (Numeral.cannotGoOn_cons (by decide) rest)
        simp [readItems, compactItems, hread, skipSpace_cons, isSpace, ofPrintedItems]
      · rw [compactItems_cons item hlast] at hfuel ⊢
        rw [List.length_append, List.length_cons] at hfuel
        have hread := hitem fuel depth (',' :: (compactItems others ++ ']' :: rest)) (by omega)
          (Numeral.cannotGoOn_cons (by decide) _)
        have hmore := ih hothers hlast fuel (by omega)
        simp [readItems, hread, hmore, skipSpace_cons, isSpace, ofPrintedItems]

theorem readMembers_compactMembers {members : List (String × Json)}
    (h : ∀ member ∈ members, IsReadFromText member.2) (hne : members ≠ [])
    (fuel depth : Nat) (rest : List Char) (hfuel : (compactMembers members).length < fuel) :
    readMembers fuel depth (compactMembers members ++ '\x7d' :: rest) =
      (ofPrintedMembers depth members, true, rest) := by
  induction members generalizing fuel with
  | nil => exact absurd rfl hne
  | cons member others ih =>
    obtain ⟨key, value⟩ := member
    obtain ⟨hmember, hothers⟩ := List.forall_mem_cons.mp h
    have hvalue : IsReadFromText value := hmember
    cases fuel with
    | zero => omega
    | succ fuel =>
      by_cases hlast : others = []
      · subst hlast
        rw [compactMembers, List.length_append, List.length_cons] at hfuel
        have hread := hvalue fuel depth ('\x7d' :: rest) (by omega)
          (Numeral.cannotGoOn_cons (by decide) rest)
        obtain ⟨body, hbody, hkey⟩ := readString?_quoted key
          (':' :: (value.compactChars ++ '\x7d' :: rest))
        simp [readMembers, compactMembers, hbody, hkey, hread, skipSpace_cons, isSpace,
          ofPrintedMembers]
      · rw [compactMembers_cons key value hlast] at hfuel ⊢
        rw [List.length_append, List.length_cons, List.length_append, List.length_cons] at hfuel
        have hread := hvalue fuel depth (',' :: (compactMembers others ++ '\x7d' :: rest))
          (by omega) (Numeral.cannotGoOn_cons (by decide) _)
        have hmore := ih hothers hlast fuel (by omega)
        obtain ⟨body, hbody, hkey⟩ := readString?_quoted key
          (':' :: (value.compactChars ++ ',' :: (compactMembers others ++ '\x7d' :: rest)))
        simp [readMembers, hbody, hkey, hread, hmore, skipSpace_cons, isSpace, ofPrintedMembers]

theorem isReadFromText_num (n : Number) : IsReadFromText (.num n) := by
  intro fuel depth rest hfuel hrest
  obtain ⟨numeral, hvalue, hread⟩ := n.read?_text
  obtain ⟨c, cs, hcons, hc⟩ := n.head?_text
  have hchars : (Json.num n).compactChars = n.text.toList := rfl
  rw [hchars, hcons] at hfuel ⊢
  have hnumeral := hread rest hrest
  rw [hcons] at hnumeral
  cases fuel with
  | zero => cases hfuel
  | succ fuel =>
    rw [List.cons_append] at hnumeral ⊢
    rw [readValue, skipSpace_cons (isSpace_of_head hc)]
    -- No other kind of value begins with a digit or a minus.
    split
    case h_7 =>
      rw [hnumeral, ofPrinted, ← hvalue]
    all_goals
      rename_i heq
      rw [(List.cons.inj heq).1] at hc
      exact absurd hc (by decide)

theorem isReadFromText (value : Json) : IsReadFromText value := by
  induction value using byParts with
  | hnull =>
    intro fuel depth rest hfuel hrest
    cases fuel with
    | zero => cases hfuel
    | succ fuel => simp [readValue, compactChars, skipSpace_cons, isSpace, ofPrinted]
  | hbool b =>
    intro fuel depth rest hfuel hrest
    cases fuel with
    | zero => cases b <;> cases hfuel
    | succ fuel => cases b <;> simp [readValue, compactChars, skipSpace_cons, isSpace, ofPrinted]
  | hnum n => exact isReadFromText_num n
  | hstr s =>
    intro fuel depth rest hfuel hrest
    obtain ⟨body, hbody, hread⟩ := readString?_quoted s rest
    cases fuel with
    | zero => cases hfuel
    | succ fuel => simp [readValue, compactChars, hbody, hread, skipSpace_cons, isSpace, ofPrinted]
  | harr items ih =>
    intro fuel depth rest hfuel hrest
    cases fuel with
    | zero => cases hfuel
    | succ fuel =>
      by_cases hnil : items = []
      · subst hnil
        simp [readValue, compactChars, compactItems, skipSpace_cons, isSpace, ofPrinted,
          ofPrintedItems]
      · rw [compactChars, List.length_cons, List.length_append] at hfuel
        have hread := readItems_compactItems ih hnil fuel (depth + 1) rest
          (by rw [List.length_singleton] at hfuel; omega)
        obtain ⟨c, cs, hcons, hspace, hc⟩ := head?_compactItems hnil
        rw [hcons, List.cons_append] at hread
        have hskip := skipSpace_cons hspace (cs ++ ']' :: rest)
        simp [readValue, compactChars, hcons, hread, skipSpace_cons, hskip, isSpace, ofPrinted, hc]
  | hobj members ih =>
    intro fuel depth rest hfuel hrest
    cases fuel with
    | zero => cases hfuel
    | succ fuel =>
      by_cases hnil : members = []
      · subst hnil
        simp [readValue, compactChars, compactMembers, skipSpace_cons, isSpace, ofPrinted,
          ofPrintedMembers]
      · rw [compactChars, List.length_cons, List.length_append, List.length_singleton] at hfuel
        have hread := readMembers_compactMembers ih hnil fuel (depth + 1) rest (by omega)
        obtain ⟨cs, hcons⟩ := head?_compactMembers hnil
        rw [hcons, List.cons_append] at hread
        simp [readValue, compactChars, hcons, hread, skipSpace_cons, isSpace, ofPrinted]

/-- The compact text of a value is read as one value, with nothing left. -/
theorem ofText_compact (value : Json) : ofText value.compact = (ofPrinted 0 value, []) := by
  have hfuel : value.compactChars.length ≤ 2 * value.compactChars.length + 2 := by omega
  have hread := isReadFromText value _ 0 [] hfuel Numeral.cannotGoOn_nil
  rw [List.append_nil] at hread
  rw [ofText, ofChars, Json.compact, String.toList_ofList, hread]

theorem jsonItems?_map (f : Json → Source) (items : List Json) :
    jsonItems? (items.map f) = items.mapM fun item => (f item).json? := by
  induction items with
  | nil => rfl
  | cons item rest ih => rw [List.map_cons, jsonItems?, ih, List.mapM_cons]

theorem jsonMembers?_map (f : Json → Source) {before members : List (String × Json)}
    (h : (before.map Prod.fst ++ members.map Prod.fst).Nodup) :
    jsonMembers? before (members.map fun member => (some member.1, f member.2)) =
      (members.mapM fun member => (f member.2).json?.map fun value => (member.1, value)).map
        (before ++ ·) := by
  induction members generalizing before with
  | nil => simp [jsonMembers?]
  | cons member rest ih =>
    obtain ⟨key, value⟩ := member
    have hnew : key ∉ before.map Prod.fst := fun hmem =>
      (List.nodup_append.mp h).2.2 _ hmem _ List.mem_cons_self rfl
    rw [List.map_cons, jsonMembers?, List.mapM_cons]
    cases (f value).json? with
    | none => rfl
    | some found =>
      have hnext : ((before ++ [(key, found)]).map Prod.fst ++ rest.map Prod.fst).Nodup := by
        rw [List.map_append, List.append_assoc]
        exact h
      rw [Option.bind_eq_bind, Option.bind_some, Option.bind_eq_bind, Option.bind_some,
        insertMember_of_notMem _ hnew, ih hnext]
      cases rest.mapM fun member => (f member.2).json?.map fun value => (member.1, value) with
      | none => rfl
      | some others => simp

theorem json?_arr_iff (f : Json → Source) {items : List Json} :
    (arr false (items.map f) true).json? = some (.arr items) ↔
      ∀ item ∈ items, (f item).json? = some item := by
  simp [json?, jsonItems?_map, Attempts.mapM_eq_some_self_iff]

theorem json?_obj_iff (f : Json → Source) {members : List (String × Json)}
    (h : (members.map Prod.fst).Nodup) :
    (obj false (members.map fun member => (some member.1, f member.2)) true).json? =
        some (.obj members) ↔
      ∀ member ∈ members, (f member.2).json? = some member.2 := by
  have hself : ∀ member : String × Json,
      (f member.2).json?.map (fun value => (member.1, value)) = some member ↔
        (f member.2).json? = some member.2 := by
    rintro ⟨key, value⟩
    simp
  have hread := @jsonMembers?_map f [] members (by simpa using h)
  simp [json?, hread, Attempts.mapM_eq_some_self_iff, hself]

theorem json?_ofJson {value : Json} (h : value.KeysDistinct) :
    (ofJson value).json? = some value := by
  induction value using byParts with
  | hnull => rfl
  | hbool b => rfl
  | hnum n => rfl
  | hstr s => rfl
  | harr items ih =>
    rw [ofJson, ofItems_eq, json?_arr_iff]
    intro item hitem
    exact ih item hitem (itemsDistinct_iff.mp h item hitem)
  | hobj members ih =>
    obtain ⟨hkeys, hmembers⟩ := h
    rw [ofJson, ofMembers_eq, json?_obj_iff ofJson hkeys]
    intro member hmember
    exact ih member hmember (membersDistinct_iff.mp hmembers member hmember)

/-- A value with `depth` containers around it comes back from its text exactly when no container in
it lies too deep and every number in it comes back from its own text. -/
theorem json?_ofPrinted_iff {value : Json} (h : value.KeysDistinct) (depth : Nat) :
    (ofPrinted depth value).json? = some value ↔
      value.nesting ≤ deepest - depth ∧ ∀ n ∈ value.numbers, n.reread? = some n := by
  induction value using byParts generalizing depth with
  | hnull => simp [ofPrinted, json?, nesting, numbers]
  | hbool b => simp [ofPrinted, json?, nesting, numbers]
  | hnum n => simp [ofPrinted, json?, nesting, numbers]
  | hstr s => simp [ofPrinted, json?, nesting, numbers]
  | harr items ih =>
    rw [ofPrinted, ofPrintedItems_eq, nesting, numbers, forall_numbersOfItems]
    by_cases hdeep : deepest ≤ depth
    · simp [json?, hdeep]
    · have hroom : nestingOfItems items + 1 ≤ deepest - depth ↔
          nestingOfItems items ≤ deepest - (depth + 1) := by omega
      rw [decide_eq_false hdeep, json?_arr_iff, hroom, nestingOfItems_le_iff, ← forall₂_and]
      refine forall₂_congr fun item hitem => ?_
      exact ih item hitem (itemsDistinct_iff.mp h item hitem) (depth + 1)
  | hobj members ih =>
    obtain ⟨hkeys, hmembers⟩ := h
    rw [ofPrinted, ofPrintedMembers_eq, nesting, numbers, forall_numbersOfMembers]
    by_cases hdeep : deepest ≤ depth
    · simp [json?, hdeep]
    · have hroom : nestingOfMembers members + 1 ≤ deepest - depth ↔
          nestingOfMembers members ≤ deepest - (depth + 1) := by omega
      rw [decide_eq_false hdeep, json?_obj_iff _ hkeys, hroom, nestingOfMembers_le_iff,
        ← forall₂_and]
      refine forall₂_congr fun member hmember => ?_
      exact ih member hmember (membersDistinct_iff.mp hmembers member hmember) (depth + 1)

end Source

end ReportSearch
