import Mathlib.Data.List.Chain
import ReportSearch.Proofs.Catalog.DatePattern

/-!
# Layout texts of patterns

The layout text of a pattern can be put together character by character, the point before a run of
`S` being taken back, because a text ends with a point only where its last item is one. By the
rules of layout texts it is split into what its pieces stand for and nothing else, so that every
instant can be written.
-/

set_option autoImplicit false

namespace ReportSearch

open Layout (Part Item literalItem)

namespace Layout

variable {t : Instant} {layout : List Char}

/-- Writes an item, unless it stands for nothing. -/
def renderItem? (t : Instant) : Item → Option (List Char)
  | .invalid => none
  | item => some (renderItem t item)

/-- Writes an instant by a layout text, unless that text has an item that stands for nothing. -/
def render? (layout : List Char) (t : Instant) : Option String :=
  ((items layout).mapM (renderItem? t)).map fun texts => String.ofList texts.flatten

theorem mapM_renderItem? {found : List Item} (h : .invalid ∉ found) :
    found.mapM (renderItem? t) = some (found.map (renderItem t)) := by
  induction found with
  | nil => rfl
  | cons item found ih =>
    obtain ⟨hitem, hfound⟩ := not_or.mp (mt List.mem_cons.mpr h)
    have hwrites : renderItem? t item = some (renderItem t item) := by
      cases item with
      | invalid => exact absurd rfl hitem
      | _ => rfl
    rw [List.mapM_cons, hwrites, ih hfound]
    rfl

theorem render?_eq_some (h : .invalid ∉ items layout) :
    render? layout t = some (render layout t) := by
  rw [render?, mapM_renderItem? h, Option.map_some, render, renderItems, List.flatMap_def]

end Layout

namespace DatePattern

variable {before items next : List Item} {piece : Piece} {ps : List Piece}

/-- Appends what a piece stands for to the text before it. A run of `S` takes back a point at the
end of that text. -/
def extend (text : List Char) : Piece → Except Char (List Char)
  | .literal c => .ok (text ++ (if c = '%' then ['%', '%'] else [c]))
  | .run c n =>
    match runField? c n with
    | none => .error c
    | some .nanos =>
      .ok (if text.getLast? = some '.' then text.dropLast ++ ['%', '.', 'f']
        else text ++ ['%', 'f'])
    | some f => .ok (text ++ '%' :: f.code)

def extendAll : List Char → List Piece → Except Char (List Char)
  | text, [] => .ok text
  | text, piece :: rest =>
    match extend text piece with
    | .ok next => extendAll next rest
    | .error c => .error c

def textOf (before : List Item) : List Char := before.reverse.flatMap Item.source

theorem textOf_cons (item : Item) (before : List Item) :
    textOf (item :: before) = textOf before ++ item.source := by
  rw [textOf, List.reverse_cons, List.flatMap_append, List.flatMap_singleton, textOf]

theorem source_literalItem (c : Char) :
    (literalItem c).source = if c = '%' then ['%', '%'] else [c] := by
  by_cases hc : c = '%'
  · subst hc
    rfl
  · rw [if_neg hc, literalItem]
    split
    · rfl
    · exact Layout.source_literal hc

theorem getLast?_source_iff {item : Item} (hitem : item.IsProper) (cs : List Char) :
    (cs ++ item.source).getLast? = some '.' ↔ item = .literal '.' := by
  cases item with
  | literal c =>
    by_cases hc : c = '%'
    · subst hc
      simp [Item.source]
    · simp [Layout.source_literal hc]
  | blank c =>
    have hc : c ≠ '.' := by
      rintro rfl
      cases (hitem : Text.isBlank '.' = true)
    simp [Item.source, hc]
  | part f => cases f <;> simp [Item.source, Part.code]
  | invalid => exact hitem.elim

/-- The invariant of the conversion: a text ends with a point where its last item is one. -/
theorem getLast?_textOf_iff (h : ∀ item ∈ before, item.IsProper) :
    (textOf before).getLast? = some '.' ↔ before.head? = some (.literal '.') := by
  cases before with
  | nil => simp [textOf]
  | cons item before =>
    rw [textOf_cons, getLast?_source_iff (h item List.mem_cons_self), List.head?_cons,
      Option.some_inj]

theorem extend_of_emits (h : ∀ item ∈ before, item.IsProper) (hnext : Emits before piece next) :
    extend (textOf before) piece = .ok (textOf next) := by
  cases hnext with
  | literal c => rw [extend, textOf_cons, source_literalItem]
  | @part c n f hf hother =>
    rw [extend, hf, textOf_cons, Item.source]
    split
    · rename_i heq
      cases heq
    · rename_i heq
      exact absurd (Option.some_inj.mp heq) hother
    · rename_i heq
      cases heq
      rfl
  | nanos hf hpoint =>
    have hlast := mt (getLast?_textOf_iff h).mp hpoint
    simp only [extend, hf, if_neg hlast, textOf_cons]
    rfl
  | @fraction c n earlier hf hpoint =>
    subst hpoint
    have hlast := (getLast?_textOf_iff h).mpr rfl
    have htext : textOf (.literal '.' :: earlier) = textOf earlier ++ ['.'] := textOf_cons _ _
    simp only [extend, hf, if_pos hlast]
    rw [htext, List.dropLast_concat, textOf_cons]
    rfl

theorem extend_textOf (h : ∀ item ∈ before, item.IsProper) (piece : Piece) :
    extend (textOf before) piece = (emit before piece).map textOf := by
  cases hnext : emit before piece with
  | ok next => exact extend_of_emits h (emit_eq_ok_iff.mp hnext)
  | error letter =>
    cases piece with
    | literal c => cases hnext
    | run c n =>
      cases hf : runField? c n with
      | none =>
        simp only [emit, hf] at hnext
        cases hnext
        simp only [extend, hf]
        rfl
      | some f =>
        obtain ⟨next, hok⟩ : ∃ next, emit before (.run c n) = .ok next := by
          rw [exists_emit_iff]
          rintro _ _ ⟨⟩
          rw [hf]
          rfl
        rw [hok] at hnext
        cases hnext

theorem extendAll_textOf (h : ∀ item ∈ before, item.IsProper) (ps : List Piece) :
    extendAll (textOf before) ps = (emitAll before ps).map (·.flatMap Item.source) := by
  induction ps generalizing before with
  | nil => rfl
  | cons piece ps ih =>
    rw [extendAll, emitAll, extend_textOf h]
    cases hnext : emit before piece with
    | error c => rfl
    | ok next => exact ih (isProper_of_emits h (emit_eq_ok_iff.mp hnext))

def itemOf? : Piece → Option Item
  | .literal c => some (literalItem c)
  | .run c n => (runField? c n).map .part

/-- An item with the point that it has taken given back. -/
def opened : Item → List Item
  | .part .fraction => [.literal '.', .part .nanos]
  | item => [item]

/-- Whether an item is a point and the next one the nanoseconds that should have taken it. -/
def MissesPoint (item next : Item) : Prop := item = .literal '.' ∧ next = .part .nanos

/-- Whether layout items are those of pieces: none stands for nothing, with the points given back
they are what the pieces stand for one by one, and every point before a run of `S` is taken. -/
structure Stands (items : List Item) (ps : List Piece) : Prop where
  valid : .invalid ∉ items
  inOrder : (items.flatMap opened).map some = ps.map itemOf?
  pointsTaken : items.IsChain fun item next => ¬ MissesPoint item next

theorem runField?_ne_fraction (c : Char) (n : Nat) : runField? c n ≠ some .fraction := by
  unfold runField?
  split <;> try split
  all_goals simp
  all_goals split <;> simp

theorem opened_eq_singleton {item : Item} (h : item ≠ .part .fraction) : opened item = [item] := by
  unfold opened
  split
  · exact absurd rfl h
  · rfl

theorem literalItem_ne_part (c : Char) (f : Part) : literalItem c ≠ .part f := by
  unfold literalItem
  split <;> exact Item.noConfusion

/-- The items that are held in reverse, with their points given back. -/
def openedOf (before : List Item) : List Item := before.reverse.flatMap opened

theorem openedOf_cons (item : Item) (before : List Item) :
    openedOf (item :: before) = openedOf before ++ opened item := by
  rw [openedOf, List.reverse_cons, List.flatMap_append, List.flatMap_singleton, openedOf]

theorem openedOf_of_emits (h : Emits before piece next) :
    ∃ item, itemOf? piece = some item ∧ openedOf next = openedOf before ++ [item] := by
  cases h with
  | literal c =>
    refine ⟨_, rfl, ?_⟩
    rw [openedOf_cons, opened_eq_singleton (literalItem_ne_part c .fraction)]
  | @part c n f hf hother =>
    refine ⟨.part f, by rw [itemOf?, hf]; rfl, ?_⟩
    rw [openedOf_cons, opened_eq_singleton]
    rintro ⟨⟩
    exact runField?_ne_fraction c n hf
  | nanos hf hpoint =>
    refine ⟨.part .nanos, by rw [itemOf?, hf]; rfl, ?_⟩
    rw [openedOf_cons, opened_eq_singleton (by simp)]
  | fraction hf hpoint =>
    refine ⟨.part .nanos, by rw [itemOf?, hf]; rfl, ?_⟩
    rw [hpoint, openedOf_cons, openedOf_cons, List.append_assoc]
    rfl

theorem opened_of_emitAll (h : emitAll before ps = .ok items) :
    (items.flatMap opened).map some = (openedOf before).map some ++ ps.map itemOf? := by
  induction ps generalizing before with
  | nil =>
    cases h
    rw [List.map_nil, List.append_nil, openedOf]
  | cons piece ps ih =>
    obtain ⟨next, hnext, hitems⟩ := emitAll_cons_eq_ok_iff.mp h
    obtain ⟨item, hitem, hopened⟩ := openedOf_of_emits hnext
    have hcons : (piece :: ps).map itemOf? = some item :: ps.map itemOf? := by
      rw [List.map_cons, hitem]
    rw [ih hitems, hopened, hcons, List.map_append, List.append_assoc]
    rfl

theorem pointsTaken_of_emits (hbefore : before.IsChain fun next item => ¬ MissesPoint item next)
    (h : Emits before piece next) : next.IsChain fun next item => ¬ MissesPoint item next := by
  cases h with
  | literal c =>
    refine List.isChain_cons.mpr ⟨fun item _ hmisses => ?_, hbefore⟩
    exact literalItem_ne_part c .nanos hmisses.2
  | part hf hother =>
    refine List.isChain_cons.mpr ⟨fun item _ hmisses => ?_, hbefore⟩
    exact hother (Item.part.inj hmisses.2)
  | nanos hf hpoint =>
    refine List.isChain_cons.mpr ⟨fun item hitem hmisses => ?_, hbefore⟩
    exact hpoint (hmisses.1 ▸ hitem)
  | fraction hf hpoint =>
    subst hpoint
    refine List.isChain_cons.mpr ⟨fun item _ hmisses => ?_, hbefore.tail⟩
    cases hmisses.2

theorem pointsTaken_of_emitAll
    (hbefore : before.IsChain fun next item => ¬ MissesPoint item next)
    (h : emitAll before ps = .ok items) :
    items.IsChain fun item next => ¬ MissesPoint item next := by
  induction ps generalizing before with
  | nil =>
    cases h
    exact List.isChain_reverse.mpr hbefore
  | cons piece ps ih =>
    obtain ⟨next, hnext, hitems⟩ := emitAll_cons_eq_ok_iff.mp h
    exact ih (pointsTaken_of_emits hbefore hnext) hitems

theorem stands_itemsOf (h : IsDated ps) : Stands (itemsOf ps) ps where
  valid hinvalid := isProper_itemsOf ps _ hinvalid
  inOrder := opened_of_emitAll (emitAll_itemsOf h)
  pointsTaken := pointsTaken_of_emitAll .nil (emitAll_itemsOf h)

theorem extendAll_eq (h : IsDated ps) :
    extendAll [] ps = .ok ((itemsOf ps).flatMap Item.source) := by
  have hall := extendAll_textOf (List.forall_mem_nil Item.IsProper) ps
  rwa [emitAll_itemsOf h] at hall

end DatePattern

namespace DateFormat

open DatePattern

/-- The layout text of an accepted pattern is the one that is put together from its pieces. However
a text is split by the rules of layouts, this one is split into what the pieces stand for, and every
instant is written by it without a fault. -/
theorem layout_text_splits {text : String} {format : DateFormat} (h : ofText text = .ok format)
    (hname : format.pattern ∉ names) :
    ∃ template hasTime hasOffset, format.shape = .layout template hasTime hasOffset ∧
      extendAll [] (piecesOf format.pattern.toList) = .ok template ∧
      (∀ split, Layout.Splits split →
        Stands (split template) (piecesOf format.pattern.toList)) ∧
      ∀ t, ∃ written, Layout.render? template t = some written ∧
        format.write t = .str written := by
  obtain ⟨hdated, -, hshape⟩ := ofText_eq_ok h hname
  have hproper := isProper_itemsOf (piecesOf format.pattern.toList)
  have hstands := stands_itemsOf hdated
  refine ⟨_, _, _, hshape, extendAll_eq hdated, fun split hsplit => ?_, fun t => ?_⟩
  · rwa [hsplit.split_flatMap_source hproper]
  · have hitems := Layout.items_flatMap_source hproper
    refine ⟨_, Layout.render?_eq_some ?_, ?_⟩
    · rw [hitems]
      exact hstands.valid
    · rw [write, hshape]

/-- Percent signs beside letters, a point that is taken and two quotes that give nothing. -/
def percentFormat : DateFormat :=
  ⟨"yyyy'%Y'%.SSS''x", .layout "%Y%%Y%%%.f%:z".toList false true⟩

theorem percentFormat_splits :
    ofText " yyyy'%Y'%.SSS''x" = .ok percentFormat ∧ percentFormat.pattern ∉ names ∧
      piecesOf percentFormat.pattern.toList =
        [.run 'y' 4, .literal '%', .literal 'Y', .literal '%', .literal '.', .run 'S' 3,
          .run 'x' 1] ∧
      extendAll [] (piecesOf percentFormat.pattern.toList) = .ok "%Y%%Y%%%.f%:z".toList ∧
      Layout.items "%Y%%Y%%%.f%:z".toList =
        [.part .year, .literal '%', .literal 'Y', .literal '%', .part .fraction,
          .part .offsetColon] ∧
      Stands (Layout.items "%Y%%Y%%%.f%:z".toList) (piecesOf percentFormat.pattern.toList) ∧
      percentFormat.write ⟨1709251200, 123000000⟩ = .str "2024%Y%.123+00:00" := by
  have hformat : ofText " yyyy'%Y'%.SSS''x" = .ok percentFormat := by decide +kernel
  have hname : percentFormat.pattern ∉ names := by decide
  obtain ⟨template, hasTime, hasOffset, hshape, htext, hsplits, -⟩ :=
    layout_text_splits hformat hname
  cases hshape
  exact ⟨hformat, hname, by decide +kernel, htext, by decide +kernel,
    hsplits Layout.items Layout.items_splits, congrArg Json.str (by decide +kernel)⟩

end DateFormat

end ReportSearch
