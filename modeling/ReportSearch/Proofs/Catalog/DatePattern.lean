import ReportSearch.Catalog.DateFormat
import ReportSearch.Proofs.Attempts
import ReportSearch.Proofs.Time.Layout

/-!
# What a date pattern writes

A pattern is a list of pieces, and a format writes one layout item after the other for them. A
piece does not look at those before it, but for the run of `S` that takes a point into the
fraction, so that the text of a pattern is put together from the texts of its parts.
-/

set_option autoImplicit false

namespace ReportSearch

open Layout (Part Item literalItem)

namespace DatePattern

variable {c : Char} {cs : List Char}

theorem tokens_nil (state : State) : tokens state [] = ([], state) := by
  cases state <;> rfl

theorem tokens_quoted_quote (cs : List Char) :
    tokens .quoted ('\'' :: cs) = (.gap :: (tokens .closing cs).1, (tokens .closing cs).2) := rfl

theorem tokens_quoted_cons (hc : c ≠ '\'') (cs : List Char) :
    tokens .quoted (c :: cs) = (.literal c :: (tokens .quoted cs).1, (tokens .quoted cs).2) := by
  rw [tokens]
  exact hc

theorem tokens_closing_quote (cs : List Char) :
    tokens .closing ('\'' :: cs) = (.literal '\'' :: (tokens .plain cs).1, (tokens .plain cs).2) :=
  rfl

theorem tokens_plain_quote (cs : List Char) : tokens .plain ('\'' :: cs) = tokens .quoted cs := rfl

theorem tokens_plain_cons (hc : c ≠ '\'') (cs : List Char) :
    tokens .plain (c :: cs) = (plainToken c :: (tokens .plain cs).1, (tokens .plain cs).2) := by
  rw [tokens]
  all_goals simp [hc]

/-- After a closing quote everything but a quote is as it is outside. -/
theorem tokens_closing_cons (hc : c ≠ '\'') (cs : List Char) :
    tokens .closing (c :: cs) = tokens .plain (c :: cs) := by
  rw [tokens_plain_cons hc, tokens]
  all_goals simp [hc]

theorem tokens_append (state : State) (before after : List Char) :
    tokens state (before ++ after) =
      ((tokens state before).1 ++ (tokens (tokens state before).2 after).1,
        (tokens (tokens state before).2 after).2) := by
  induction before generalizing state with
  | nil =>
    rw [tokens_nil]
    rfl
  | cons c before ih =>
    rw [List.cons_append]
    by_cases hc : c = '\''
    · subst hc
      cases state with
      | plain => rw [tokens_plain_quote, tokens_plain_quote, ih]
      | quoted =>
        rw [tokens_quoted_quote, tokens_quoted_quote, ih]
        rfl
      | closing =>
        rw [tokens_closing_quote, tokens_closing_quote, ih]
        rfl
    · have hplain := tokens_plain_cons hc
      cases state with
      | plain =>
        rw [hplain, hplain, ih]
        rfl
      | quoted =>
        rw [tokens_quoted_cons hc, tokens_quoted_cons hc, ih]
        rfl
      | closing =>
        rw [tokens_closing_cons hc, tokens_closing_cons hc, hplain, hplain, ih]
        rfl

def piecesOf (pattern : List Char) : List Piece := pieces none (tokens .plain pattern).1

variable {open? : Option (Char × Nat)} {found rest : List Token} {n : Nat}

theorem pieces_literal :
    pieces open? (.literal c :: rest) = pieces open? [] ++ .literal c :: pieces none rest := by
  cases open? <;> rfl

theorem pieces_gap : pieces open? (.gap :: rest) = pieces open? [] ++ pieces none rest := by
  cases open? <;> rfl

theorem pieces_append_gap :
    pieces open? (found ++ .gap :: rest) = pieces open? found ++ pieces none rest := by
  induction found generalizing open? with
  | nil => exact pieces_gap
  | cons token found ih =>
    rw [List.cons_append]
    cases token with
    | literal c => rw [pieces_literal, pieces_literal, ih, List.append_assoc, List.cons_append]
    | gap => rw [pieces_gap, pieces_gap, ih, List.append_assoc]
    | letter c =>
      cases open? with
      | none => exact ih
      | some run =>
        obtain ⟨d, n⟩ := run
        simp only [pieces]
        split
        · exact ih
        · rw [ih, List.cons_append]

variable {before items : List Item} {ps qs : List Piece} {piece : Piece}

/-- The layout items of pieces, of which every run stands for a part. -/
def itemsOf (ps : List Piece) : List Item := (emitAll [] ps).toOption.getD []

def written (ps : List Piece) (t : Instant) : List Char := Layout.renderItems t (itemsOf ps)

theorem itemsOf_eq (h : emitAll [] ps = .ok items) : itemsOf ps = items := by
  rw [itemsOf, h]
  rfl

theorem emitAll_append (before : List Item) (ps qs : List Piece) :
    emitAll before (ps ++ qs) =
      (emitAll before ps).bind fun items => emitAll items.reverse qs := by
  induction ps generalizing before with
  | nil =>
    rw [List.nil_append, emitAll, Except.bind, List.reverse_reverse]
  | cons piece ps ih =>
    rw [List.cons_append, emitAll, emitAll]
    cases emit before piece with
    | ok next => exact ih next
    | error c => rfl

/-- What a piece can add to the items before it. -/
inductive Emits (before : List Item) : Piece → List Item → Prop
  | literal (c : Char) : Emits before (.literal c) (literalItem c :: before)
  | part {c : Char} {n : Nat} {f : Part} (hf : runField? c n = some f) (hother : f ≠ .nanos) :
      Emits before (.run c n) (.part f :: before)
  | nanos {c : Char} {n : Nat} (hf : runField? c n = some .nanos)
      (hpoint : before.head? ≠ some (.literal '.')) :
      Emits before (.run c n) (.part .nanos :: before)
  | fraction {c : Char} {n : Nat} {earlier : List Item} (hf : runField? c n = some .nanos)
      (hpoint : before = .literal '.' :: earlier) :
      Emits before (.run c n) (.part .fraction :: earlier)

theorem emit_eq_ok_iff {next : List Item} :
    emit before piece = .ok next ↔ Emits before piece next := by
  constructor
  · intro h
    cases piece with
    | literal c =>
      cases h
      exact .literal c
    | run c n =>
      simp only [emit] at h
      split at h
      · cases h
      · rename_i hf
        split at h
        · cases h
          exact .fraction hf rfl
        · rename_i hpoint
          cases h
          refine .nanos hf fun hhead => ?_
          obtain ⟨earlier, rfl⟩ := List.head?_eq_some_iff.mp hhead
          exact hpoint earlier rfl
      · rename_i f hother hf
        cases h
        exact .part hf hother
  · rintro (c | ⟨hf, hother⟩ | ⟨hf, hpoint⟩ | ⟨hf, rfl⟩)
    · rfl
    · simp only [emit, hf]
    · simp only [emit, hf]
      split
      · exact absurd rfl hpoint
      · rfl
    · simp only [emit, hf]

theorem exists_emit_iff :
    (∃ next, emit before piece = .ok next) ↔
      ∀ c n, piece = .run c n → (runField? c n).isSome = true := by
  simp only [emit_eq_ok_iff]
  constructor
  · rintro ⟨next, c | ⟨hf, -⟩ | ⟨hf, -⟩ | ⟨hf, -⟩⟩ d n heq <;> cases heq <;> simp [hf]
  · intro h
    cases piece with
    | literal c => exact ⟨_, .literal c⟩
    | run c n =>
      obtain ⟨f, hf⟩ := Option.isSome_iff_exists.mp (h c n rfl)
      by_cases hnanos : f = .nanos
      · subst hnanos
        by_cases hpoint : before.head? = some (.literal '.')
        · obtain ⟨earlier, hearlier⟩ := List.head?_eq_some_iff.mp hpoint
          exact ⟨_, .fraction hf hearlier⟩
        · exact ⟨_, .nanos hf hpoint⟩
      · exact ⟨_, .part hf hnanos⟩

/-- The items before a piece do not matter to it, but for a point that a fraction takes. -/
theorem Emits.append {next last : List Item} (hlast : last.head? ≠ some (.literal '.'))
    (h : Emits before piece next) : Emits (before ++ last) piece (next ++ last) := by
  cases h with
  | literal c => exact .literal c
  | part hf hother => exact .part hf hother
  | nanos hf hpoint =>
    refine .nanos hf ?_
    cases before with
    | nil => exact hlast
    | cons item before => exact hpoint
  | fraction hf hpoint => exact .fraction hf (hpoint ▸ rfl)

/-- Every run stands for a part of a date. -/
def IsDated (ps : List Piece) : Prop := ∀ c n, .run c n ∈ ps → (runField? c n).isSome = true

theorem emitAll_cons_eq_ok_iff :
    emitAll before (piece :: ps) = .ok items ↔
      ∃ next, Emits before piece next ∧ emitAll next ps = .ok items := by
  simp only [← emit_eq_ok_iff]
  rw [emitAll]
  cases emit before piece with
  | ok next => simp
  | error c => simp

theorem exists_emitAll_iff : (∃ items, emitAll before ps = .ok items) ↔ IsDated ps := by
  induction ps generalizing before with
  | nil =>
    refine iff_of_true ⟨_, rfl⟩ ?_
    intro c n hrun
    cases hrun
  | cons piece ps ih =>
    have hsplit : IsDated (piece :: ps) ↔
        (∀ c n, piece = .run c n → (runField? c n).isSome = true) ∧ IsDated ps := by
      simp only [IsDated, List.mem_cons, or_imp, forall_and, eq_comm]
    have hfirst : (∃ next, emit before piece = .ok next) ↔ _ := exists_emit_iff
    rw [hsplit, ← hfirst]
    simp only [emit_eq_ok_iff, emitAll_cons_eq_ok_iff]
    constructor
    · rintro ⟨items, next, hnext, hitems⟩
      exact ⟨⟨next, hnext⟩, ih.mp ⟨items, hitems⟩⟩
    · rintro ⟨⟨next, hnext⟩, hdated⟩
      obtain ⟨items, hitems⟩ := ih.mpr hdated
      exact ⟨items, next, hnext, hitems⟩

theorem emitAll_itemsOf (h : IsDated ps) : emitAll [] ps = .ok (itemsOf ps) := by
  obtain ⟨items, hitems⟩ : ∃ items, emitAll [] ps = .ok items := exists_emitAll_iff.mpr h
  rw [itemsOf_eq hitems]
  exact hitems

theorem emitAll_append_left {last : List Item} (hlast : last.head? ≠ some (.literal '.'))
    (h : emitAll before ps = .ok items) :
    emitAll (before ++ last) ps = .ok (last.reverse ++ items) := by
  induction ps generalizing before with
  | nil =>
    cases h
    rw [emitAll, List.reverse_append]
  | cons piece ps ih =>
    obtain ⟨next, hnext, hitems⟩ := emitAll_cons_eq_ok_iff.mp h
    exact emitAll_cons_eq_ok_iff.mpr ⟨_, hnext.append hlast, ih hitems⟩

/-- Pieces that follow no point have the same layout items as on their own. -/
theorem emitAll_eq (h : IsDated ps) (hbefore : before.head? ≠ some (.literal '.')) :
    emitAll before ps = .ok (before.reverse ++ itemsOf ps) :=
  emitAll_append_left hbefore (emitAll_itemsOf h)

theorem isProper_of_emits {next : List Item} (hbefore : ∀ item ∈ before, item.IsProper)
    (h : Emits before piece next) : ∀ item ∈ next, item.IsProper := by
  cases h with
  | literal c => exact List.forall_mem_cons.mpr ⟨Layout.isProper_literalItem c, hbefore⟩
  | part => exact List.forall_mem_cons.mpr ⟨trivial, hbefore⟩
  | nanos => exact List.forall_mem_cons.mpr ⟨trivial, hbefore⟩
  | fraction hf hpoint =>
    subst hpoint
    exact List.forall_mem_cons.mpr ⟨trivial, (List.forall_mem_cons.mp hbefore).2⟩

theorem isProper_of_emitAll (hbefore : ∀ item ∈ before, item.IsProper)
    (h : emitAll before ps = .ok items) : ∀ item ∈ items, item.IsProper := by
  induction ps generalizing before with
  | nil =>
    cases h
    simpa using hbefore
  | cons piece ps ih =>
    obtain ⟨next, hnext, hitems⟩ := emitAll_cons_eq_ok_iff.mp h
    exact ih (isProper_of_emits hbefore hnext) hitems

theorem isProper_itemsOf (ps : List Piece) : ∀ item ∈ itemsOf ps, item.IsProper := by
  unfold itemsOf
  cases h : emitAll [] ps with
  | error c => exact List.forall_mem_nil _
  | ok items => exact isProper_of_emitAll (List.forall_mem_nil _) h

theorem IsDated.append_iff : IsDated (ps ++ qs) ↔ IsDated ps ∧ IsDated qs := by
  simp only [IsDated, List.mem_append, or_imp, forall_and]

/-- Pieces after a run that is no fraction, or after a literal that is no point. -/
theorem itemsOf_append (h : IsDated (ps ++ qs))
    (hpoint : (itemsOf ps).getLast? ≠ some (.literal '.')) :
    itemsOf (ps ++ qs) = itemsOf ps ++ itemsOf qs := by
  obtain ⟨hps, hqs⟩ := IsDated.append_iff.mp h
  apply itemsOf_eq
  rw [emitAll_append, emitAll_itemsOf hps]
  have hreverse : (itemsOf ps).reverse.head? ≠ some (.literal '.') := by rwa [List.head?_reverse]
  have hafter := emitAll_eq hqs hreverse
  rwa [List.reverse_reverse] at hafter

theorem itemsOf_append_run {f : Part} (h : IsDated ps) (hf : runField? c n = some f)
    (hother : f ≠ .nanos) : itemsOf (ps ++ [.run c n]) = itemsOf ps ++ [.part f] := by
  apply itemsOf_eq
  rw [emitAll_append, emitAll_itemsOf h]
  refine emitAll_cons_eq_ok_iff.mpr ⟨_, .part hf hother, ?_⟩
  simp [emitAll]

end DatePattern

namespace DateFormat

open DatePattern

/-- The texts that are formats without being patterns, and the empty one. -/
def names : List String :=
  ["", "epoch_second", "epoch_millis", "basic_date"] ++ timestampNames ++ dayNames

theorem notationOf_eq {pattern : String} (h : pattern ∉ names) :
    notationOf pattern = toNotation pattern := by
  simp only [names, List.cons_append, List.nil_append, List.mem_cons, List.mem_append, not_or] at h
  obtain ⟨hempty, hsecond, hmillis, hbasic, htimestamp, hday⟩ := h
  simp [notationOf, hempty, hsecond, hmillis, hbasic, htimestamp, hday]

theorem toNotation_eq {pattern : String} (hdated : IsDated (piecesOf pattern.toList))
    (hclosed : (tokens .plain pattern.toList).2 ≠ .quoted) :
    toNotation pattern =
      .ok (.layout ((itemsOf (piecesOf pattern.toList)).flatMap Item.source)
        ((itemsOf (piecesOf pattern.toList)).any isTimeItem)
        ((itemsOf (piecesOf pattern.toList)).any isOffsetItem)) := by
  have hitems := emitAll_itemsOf hdated
  rw [piecesOf] at hitems ⊢
  rw [toNotation, layoutItems]
  simp only [hitems, if_neg hclosed]
  rfl

theorem exists_toNotation_iff {pattern : String} :
    (∃ shape, toNotation pattern = .ok shape) ↔
      IsDated (piecesOf pattern.toList) ∧ (tokens .plain pattern.toList).2 ≠ .quoted := by
  constructor
  · rintro ⟨shape, h⟩
    rw [toNotation, Attempts.map_eq_ok_iff] at h
    obtain ⟨items, hitems, -⟩ := h
    simp only [layoutItems] at hitems
    split at hitems
    · cases hitems
    · rename_i hemit
      split at hitems
      · cases hitems
      · exact ⟨exists_emitAll_iff.mp ⟨_, hemit⟩, by assumption⟩
  · rintro ⟨hdated, hclosed⟩
    exact ⟨_, toNotation_eq hdated hclosed⟩

variable {text : String} {format : DateFormat}

theorem ofText_eq_ok (h : ofText text = .ok format) (hname : format.pattern ∉ names) :
    IsDated (piecesOf format.pattern.toList) ∧
      (tokens .plain format.pattern.toList).2 ≠ .quoted ∧
      format.shape = .layout ((itemsOf (piecesOf format.pattern.toList)).flatMap Item.source)
        ((itemsOf (piecesOf format.pattern.toList)).any isTimeItem)
        ((itemsOf (piecesOf format.pattern.toList)).any isOffsetItem) := by
  simp only [ofText, Attempts.map_eq_ok_iff] at h
  obtain ⟨shape, hshape, rfl⟩ := h
  dsimp only at hname ⊢
  rw [notationOf_eq hname] at hshape
  obtain ⟨hdated, hclosed⟩ := exists_toNotation_iff.mp ⟨shape, hshape⟩
  rw [toNotation_eq hdated hclosed] at hshape
  cases hshape
  exact ⟨hdated, hclosed, rfl⟩

theorem write_eq (h : ofText text = .ok format) (hname : format.pattern ∉ names) (t : Instant) :
    format.write t = .str (String.ofList (written (piecesOf format.pattern.toList) t)) := by
  obtain ⟨-, -, hshape⟩ := ofText_eq_ok h hname
  simp only [write, hshape, Layout.render, Layout.items_flatMap_source (isProper_itemsOf _)]
  rfl

end DateFormat

end ReportSearch
