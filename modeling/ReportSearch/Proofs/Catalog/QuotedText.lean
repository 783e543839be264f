import ReportSearch.Proofs.Catalog.DatePattern
import ReportSearch.Proofs.Time.Instant

/-!
# Quotes in date patterns

Two quotes in a row give a quote only right after a quoted text, which they end; outside they open
and close an empty one. So a text that is put into quotes, with its own quotes doubled, is written
as it is only if it has no quotes, or if it has two of them, the second at its end and no letter
between them. And two quotes outside a quoted text are written as one only if a third follows them.
-/

set_option autoImplicit false

namespace ReportSearch

open Layout (Part Item literalItem renderItems renderField)

namespace DatePattern

variable {c : Char} {open? : Option (Char × Nat)} {found : List Token} {before items : List Item}
variable {piece : Piece} {ps : List Piece} {t : Instant}

theorem count_pieces (c : Char) (open? : Option (Char × Nat)) (found : List Token) :
    (pieces open? found).count (.literal c) = found.count (.literal c) := by
  induction found generalizing open? with
  | nil => cases open? <;> rfl
  | cons token found ih =>
    have hopen : (pieces open? []).count (.literal c) = 0 := by cases open? <;> rfl
    cases token with
    | literal d =>
      rw [pieces_literal, List.count_append, hopen, List.count_cons, List.count_cons, ih]
      simp
    | gap =>
      rw [pieces_gap, List.count_append, hopen, List.count_cons, ih]
      simp
    | letter d =>
      cases open? with
      | none => simpa [pieces] using ih _
      | some run =>
        simp only [pieces]
        split <;> simp [ih]

theorem literalItem_eq_quote_iff : literalItem c = .literal '\'' ↔ c = '\'' := by
  constructor
  · intro h
    unfold literalItem at h
    split at h
    · cases h
    · cases h
      rfl
  · rintro rfl
    rfl

theorem count_of_emits {next : List Item} (h : Emits before piece next) :
    next.count (.literal '\'') = before.count (.literal '\'') + [piece].count (.literal '\'') := by
  cases h with
  | literal c => simp [List.count_cons, literalItem_eq_quote_iff]
  | part => simp
  | nanos => simp
  | fraction hf hpoint => simp [hpoint]

theorem count_of_emitAll (h : emitAll before ps = .ok items) :
    items.count (.literal '\'') = before.count (.literal '\'') + ps.count (.literal '\'') := by
  induction ps generalizing before with
  | nil =>
    cases h
    simp
  | cons piece ps ih =>
    obtain ⟨next, hnext, hitems⟩ := emitAll_cons_eq_ok_iff.mp h
    have hsplit : (piece :: ps).count (.literal '\'') =
        [piece].count (.literal '\'') + ps.count (.literal '\'') := by
      rw [← List.count_append, List.singleton_append]
    rw [ih hitems, count_of_emits hnext, hsplit, Nat.add_assoc]

theorem quote_notMem_renderField (t : Instant) (f : Part) : '\'' ∉ renderField t f := by
  intro h
  cases Layout.isStampChar_of_mem_renderField h

theorem count_renderItems (hproper : ∀ item ∈ items, item.IsProper) :
    (renderItems t items).count '\'' = items.count (.literal '\'') := by
  induction items with
  | nil => rfl
  | cons item items ih =>
    obtain ⟨hitem, hitems⟩ := List.forall_mem_cons.mp hproper
    have hone : (Layout.renderItem t item).count '\'' = [item].count (.literal '\'') := by
      cases item with
      | literal c => simp [Layout.renderItem, List.count_cons]
      | blank c =>
        have hc : c ≠ '\'' := by
          rintro rfl
          cases (hitem : Text.isBlank '\'' = true)
        simp [Layout.renderItem, hc]
      | part f => exact List.count_eq_zero.mpr (quote_notMem_renderField t f)
      | invalid => exact hitem.elim
    have hsplit : (item :: items).count (.literal '\'') =
        [item].count (.literal '\'') + items.count (.literal '\'') := by
      rw [← List.count_append, List.singleton_append]
    rw [Layout.renderItems_cons, List.count_append, hone, ih hitems, hsplit]

/-- A pattern writes as many quotes as it has pieces that are quotes. -/
theorem count_written (h : IsDated ps) (t : Instant) :
    (written ps t).count '\'' = ps.count (.literal '\'') := by
  rw [written, count_renderItems (isProper_itemsOf ps), count_of_emitAll (emitAll_itemsOf h)]
  simp

def doubled (s : List Char) : List Char := s.flatMap fun c => if c = '\'' then ['\'', '\''] else [c]

theorem doubled_quote (s : List Char) : doubled ('\'' :: s) = '\'' :: '\'' :: doubled s := rfl

theorem doubled_cons (hc : c ≠ '\'') (s : List Char) : doubled (c :: s) = c :: doubled s := by
  rw [doubled, List.flatMap_cons, if_neg hc]
  rfl

theorem doubled_append (s r : List Char) : doubled (s ++ r) = doubled s ++ doubled r :=
  List.flatMap_append

theorem quote_notMem_cons_iff {s : List Char} : '\'' ∉ c :: s ↔ c ≠ '\'' ∧ '\'' ∉ s := by
  rw [List.mem_cons, not_or, ne_comm]

theorem doubled_of_notMem {s : List Char} (h : '\'' ∉ s) : doubled s = s := by
  induction s with
  | nil => rfl
  | cons c s ih =>
    obtain ⟨hc, hs⟩ := quote_notMem_cons_iff.mp h
    rw [doubled_cons hc, ih hs]

/-- The tokens of a text with doubled quotes and of the quote that ends it. -/
def endedTokens (state : State) (s : List Char) : List Token × State :=
  tokens state (doubled s ++ ['\''])

def quoteCount (state : State) (s : List Char) : Nat :=
  (endedTokens state s).1.count (.literal '\'')

variable {s : List Char}

theorem endedTokens_plain_cons (hc : c ≠ '\'') :
    endedTokens .plain (c :: s) =
      (plainToken c :: (endedTokens .plain s).1, (endedTokens .plain s).2) := by
  rw [endedTokens, doubled_cons hc, List.cons_append, tokens_plain_cons hc]
  rfl

theorem endedTokens_quoted_cons (hc : c ≠ '\'') :
    endedTokens .quoted (c :: s) =
      (.literal c :: (endedTokens .quoted s).1, (endedTokens .quoted s).2) := by
  rw [endedTokens, doubled_cons hc, List.cons_append, tokens_quoted_cons hc]
  rfl

theorem endedTokens_closing_cons (hc : c ≠ '\'') :
    endedTokens .closing (c :: s) = endedTokens .plain (c :: s) := by
  rw [endedTokens, doubled_cons hc, List.cons_append, tokens_closing_cons hc]
  rw [endedTokens, doubled_cons hc, List.cons_append]

theorem plainToken_ne_quote (hc : c ≠ '\'') : plainToken c ≠ .literal '\'' := by
  unfold plainToken
  split
  · exact Token.noConfusion
  · rintro ⟨⟩
    exact hc rfl

theorem quoteCount_plain_cons (hc : c ≠ '\'') :
    quoteCount .plain (c :: s) = quoteCount .plain s := by
  rw [quoteCount, endedTokens_plain_cons hc, List.count_cons_of_ne (plainToken_ne_quote hc)]
  rfl

theorem quoteCount_quoted_cons (hc : c ≠ '\'') :
    quoteCount .quoted (c :: s) = quoteCount .quoted s := by
  rw [quoteCount, endedTokens_quoted_cons hc, List.count_cons_of_ne (by simpa using hc)]
  rfl

theorem quoteCount_closing_cons (hc : c ≠ '\'') :
    quoteCount .closing (c :: s) = quoteCount .plain s := by
  rw [quoteCount, endedTokens_closing_cons hc, ← quoteCount, quoteCount_plain_cons hc]

theorem quoteCount_quoted_quote : quoteCount .quoted ('\'' :: s) = quoteCount .plain s + 1 := by
  have h : endedTokens .quoted ('\'' :: s) =
      (.gap :: .literal '\'' :: (endedTokens .plain s).1, (endedTokens .plain s).2) := rfl
  rw [quoteCount, h]
  simp [quoteCount]

theorem quoteCount_plain_quote : quoteCount .plain ('\'' :: s) = quoteCount .closing s := by
  have h : endedTokens .plain ('\'' :: s) =
      (.gap :: (endedTokens .closing s).1, (endedTokens .closing s).2) := rfl
  rw [quoteCount, h]
  simp [quoteCount]

theorem quoteCount_closing_quote :
    quoteCount .closing ('\'' :: s) = quoteCount .quoted s + 1 := by
  have h : endedTokens .closing ('\'' :: s) =
      (.literal '\'' :: (endedTokens .quoted s).1, (endedTokens .quoted s).2) := rfl
  rw [quoteCount, h]
  simp [quoteCount]

theorem quoteCount_le (s : List Char) :
    quoteCount .quoted s ≤ s.count '\'' ∧ quoteCount .plain s ≤ s.count '\'' ∧
      quoteCount .closing s ≤ s.count '\'' + 1 := by
  induction s with
  | nil => decide
  | cons c s ih =>
    obtain ⟨hquoted, hplain, hclosing⟩ := ih
    by_cases hc : c = '\''
    · subst hc
      rw [quoteCount_quoted_quote, quoteCount_plain_quote, quoteCount_closing_quote,
        List.count_cons_self]
      omega
    · rw [quoteCount_quoted_cons hc, quoteCount_plain_cons hc, quoteCount_closing_cons hc,
        List.count_cons_of_ne hc]
      omega

theorem eq_nil_of_quoteCount (h : quoteCount .closing s = s.count '\'' + 1) : s = [] := by
  cases s with
  | nil => rfl
  | cons c s =>
    obtain ⟨hquoted, hplain, -⟩ := quoteCount_le s
    by_cases hc : c = '\''
    · subst hc
      rw [quoteCount_closing_quote, List.count_cons_self] at h
      omega
    · rw [quoteCount_closing_cons hc, List.count_cons_of_ne hc] at h
      omega

/-- Outside, only a single quote at the very end is written as itself. -/
theorem eq_append_quote_of_quoteCount (hclosed : (endedTokens .plain s).2 ≠ .quoted)
    (h : quoteCount .plain s = s.count '\'') : ∃ b, '\'' ∉ b ∧ s = b ++ ['\''] := by
  induction s with
  | nil => exact absurd rfl hclosed
  | cons c s ih =>
    by_cases hc : c = '\''
    · subst hc
      rw [quoteCount_plain_quote, List.count_cons_self] at h
      exact ⟨[], List.not_mem_nil, by rw [eq_nil_of_quoteCount h, List.nil_append]⟩
    · rw [endedTokens_plain_cons hc] at hclosed
      rw [quoteCount_plain_cons hc, List.count_cons_of_ne hc] at h
      obtain ⟨b, hb, rfl⟩ := ih hclosed h
      exact ⟨c :: b, quote_notMem_cons_iff.mpr ⟨hc, hb⟩, rfl⟩

/-- A text that is written with all its quotes has none, or one inside and one at its end. -/
theorem eq_append_of_quoteCount (hclosed : (endedTokens .quoted s).2 ≠ .quoted)
    (h : quoteCount .quoted s = s.count '\'') :
    '\'' ∉ s ∨ ∃ a b, '\'' ∉ a ∧ '\'' ∉ b ∧ s = a ++ '\'' :: (b ++ ['\'']) := by
  induction s with
  | nil => exact .inl List.not_mem_nil
  | cons c s ih =>
    by_cases hc : c = '\''
    · subst hc
      rw [quoteCount_quoted_quote, List.count_cons_self] at h
      obtain ⟨b, hb, rfl⟩ := eq_append_quote_of_quoteCount hclosed (Nat.succ.inj h)
      exact .inr ⟨[], b, List.not_mem_nil, hb, rfl⟩
    · rw [endedTokens_quoted_cons hc] at hclosed
      rw [quoteCount_quoted_cons hc, List.count_cons_of_ne hc] at h
      rcases ih hclosed h with hs | ⟨a, b, ha, hb, rfl⟩
      · exact .inl (quote_notMem_cons_iff.mpr ⟨hc, hs⟩)
      · exact .inr ⟨c :: a, b, quote_notMem_cons_iff.mpr ⟨hc, ha⟩, hb, rfl⟩

theorem tokens_quoted_append {a : List Char} (ha : '\'' ∉ a) (rest : List Char) :
    tokens .quoted (a ++ rest) =
      (a.map .literal ++ (tokens .quoted rest).1, (tokens .quoted rest).2) := by
  induction a with
  | nil => rfl
  | cons c a ih =>
    obtain ⟨hc, ha⟩ := quote_notMem_cons_iff.mp ha
    rw [List.cons_append, tokens_quoted_cons hc, ih ha]
    rfl

theorem tokens_plain_append {b : List Char} (hb : '\'' ∉ b) (rest : List Char) :
    tokens .plain (b ++ rest) =
      (b.map plainToken ++ (tokens .plain rest).1, (tokens .plain rest).2) := by
  induction b with
  | nil => rfl
  | cons c b ih =>
    obtain ⟨hc, hb⟩ := quote_notMem_cons_iff.mp hb
    rw [List.cons_append, tokens_plain_cons hc, ih hb]
    rfl

theorem pieces_literals (s : List Char) (rest : List Token) :
    pieces none (s.map .literal ++ rest) = s.map .literal ++ pieces none rest := by
  induction s with
  | nil => rfl
  | cons c s ih => exact congrArg _ ih

theorem endedTokens_of_notMem (hs : '\'' ∉ s) :
    endedTokens .quoted s = (s.map .literal ++ [.gap], .closing) := by
  rw [endedTokens, doubled_of_notMem hs, tokens_quoted_append hs]
  rfl

theorem endedTokens_of_two {a b : List Char} (ha : '\'' ∉ a) (hb : '\'' ∉ b) :
    endedTokens .quoted (a ++ '\'' :: (b ++ ['\''])) =
      (a.map .literal ++ (.gap :: .literal '\'' :: (b.map plainToken ++ [.gap, .literal '\''])),
        .plain) := by
  have hinner : tokens .plain (b ++ ['\'', '\'', '\'']) =
      (b.map plainToken ++ [.gap, .literal '\''], .plain) := tokens_plain_append hb _
  have htext : doubled (a ++ '\'' :: (b ++ ['\''])) ++ ['\''] =
      a ++ ('\'' :: '\'' :: (b ++ ['\'', '\'', '\''])) := by
    rw [doubled_append, doubled_of_notMem ha, doubled_quote, doubled_append, doubled_of_notMem hb]
    simp [doubled]
  rw [endedTokens, htext, tokens_quoted_append ha, tokens_quoted_quote, tokens_closing_quote,
    hinner]

theorem map_plainToken {b : List Char} (hb : ∀ c ∈ b, c.isAlpha = false) :
    b.map plainToken = b.map .literal := by
  refine List.map_congr_left fun c hc => ?_
  rw [plainToken, hb c hc]
  rfl

theorem isDated_literals (s : List Char) : IsDated (s.map .literal) := by
  intro c n h
  obtain ⟨d, -, hd⟩ := List.mem_map.mp h
  cases hd

theorem emitAll_literals (before : List Item) (s : List Char) (ps : List Piece) :
    emitAll before (s.map .literal ++ ps) = emitAll ((s.map literalItem).reverse ++ before) ps := by
  induction s generalizing before with
  | nil => rfl
  | cons c s ih =>
    rw [List.map_cons, List.cons_append, emitAll]
    simp [emit, ih]

theorem written_literals (s : List Char) (t : Instant) : written (s.map .literal) t = s := by
  have h := emitAll_literals [] s []
  rw [List.append_nil, List.append_nil] at h
  rw [written, itemsOf_eq (h.trans rfl), List.reverse_reverse, Layout.renderItems_literalItem]

/-- Half a second after midnight on Monday, the first of January 2024, when no field is written
with the letter that stands for it. -/
def newYear : Instant := ⟨1704067200, 500000000⟩

theorem head?_renderField_newYear (f : Part) :
    (renderField newYear f).head? = some (match f with
      | .year | .yearOfCentury => '2'
      | .monthShortName | .monthName => 'J'
      | .weekdayShortName | .weekdayName => 'M'
      | .hourOfHalf => '1'
      | .halfOfDay => 'A'
      | .nanos => '5'
      | .fraction => '.'
      | .offset | .offsetColon => '+'
      | _ => '0') := by
  cases f <;> decide +kernel

theorem head?_renderField_ne {n : Nat} {f : Part} (h : runField? c n = some f) :
    (renderField newYear f).head? ≠ some c := by
  rw [head?_renderField_newYear]
  unfold runField? at h
  split at h
  all_goals first
    | (split_ifs at h <;> cases h <;> decide)
    | (cases h <;> decide)

theorem Emits.run_text {n : Nat} {next : List Item} (h : Emits before (.run c n) next) :
    ∃ d rest, renderItems newYear next.reverse =
      renderItems newYear before.reverse ++ d :: rest ∧ d ≠ c := by
  have hfield : ∀ {f : Part}, runField? c n = some f → ∃ d rest,
      renderField newYear f = d :: rest ∧ d ≠ c := by
    intro f hf
    have hhead := head?_renderField_ne hf
    have hsome := head?_renderField_newYear f
    cases htext : renderField newYear f with
    | nil =>
      rw [htext] at hsome
      cases hsome
    | cons d rest =>
      refine ⟨d, rest, rfl, ?_⟩
      rintro rfl
      exact hhead (by rw [htext]; rfl)
  cases h with
  | part hf =>
    obtain ⟨d, rest, htext, hd⟩ := hfield hf
    exact ⟨d, rest, by simp [Layout.renderItem, htext], hd⟩
  | nanos hf =>
    obtain ⟨d, rest, htext, hd⟩ := hfield hf
    exact ⟨d, rest, by simp [Layout.renderItem, htext], hd⟩
  | fraction hf hpoint =>
    have htext : renderField newYear .fraction = ['.', '5', '0', '0'] := by decide +kernel
    have hc : '5' ≠ c := by
      rintro rfl
      cases hf
    refine ⟨'5', ['0', '0'], ?_, hc⟩
    simp [hpoint, Layout.renderItem, htext]

/-- Nothing that is written is taken back: a fraction brings back the point that it takes. -/
theorem Emits.text_prefix {next : List Item} (h : Emits before piece next) :
    renderItems newYear before.reverse <+: renderItems newYear next.reverse := by
  cases piece with
  | literal c =>
    cases h
    simp
  | run c n =>
    obtain ⟨d, rest, htext, -⟩ := h.run_text
    rw [htext]
    exact List.prefix_append _ _

theorem text_prefix_of_emitAll (h : emitAll before ps = .ok items) :
    renderItems newYear before.reverse <+: renderItems newYear items := by
  induction ps generalizing before with
  | nil =>
    cases h
    exact List.prefix_refl _
  | cons piece ps ih =>
    obtain ⟨next, hnext, hitems⟩ := emitAll_cons_eq_ok_iff.mp h
    exact hnext.text_prefix.trans (ih hitems)

theorem pieces_some_eq_cons (c : Char) (n : Nat) (found : List Token) :
    ∃ m ps, pieces (some (c, n)) found = .run c m :: ps := by
  induction found generalizing n with
  | nil => exact ⟨n, [], rfl⟩
  | cons token found ih =>
    cases token with
    | literal d => exact ⟨n, _, rfl⟩
    | gap => exact ⟨n, _, rfl⟩
    | letter d =>
      simp only [pieces]
      split
      · exact ih (n + 1)
      · exact ⟨n, _, rfl⟩

/-- A letter after a literal text is not written as itself. -/
theorem written_letter_ne {a b : List Char} {found : List Token}
    (hdated : IsDated (pieces none (a.map .literal ++ .letter c :: found))) :
    written (pieces none (a.map .literal ++ .letter c :: found)) newYear ≠ a ++ c :: b := by
  intro h
  obtain ⟨m, ps, hrun⟩ := pieces_some_eq_cons c 1 found
  have hpieces : pieces none (a.map .literal ++ .letter c :: found) =
      a.map .literal ++ .run c m :: ps := by
    rw [pieces_literals, ← hrun]
    rfl
  rw [hpieces] at h hdated
  have hitems := emitAll_itemsOf hdated
  rw [written] at h
  rw [emitAll_literals, List.append_nil] at hitems
  obtain ⟨next, hnext, hrest⟩ := emitAll_cons_eq_ok_iff.mp hitems
  obtain ⟨d, rest, htext, hd⟩ := hnext.run_text
  have hprefix := text_prefix_of_emitAll hrest
  rw [htext, List.reverse_reverse, Layout.renderItems_literalItem, h] at hprefix
  exact hd (List.cons_prefix_cons.mp ((List.prefix_append_right_inj a).mp hprefix)).1

def dayPattern : List Char := "yyyy-MM-dd".toList

/-- A date by year, month and day, and a text in quotes with its own quotes doubled. -/
def quotedPattern (s : List Char) : List Char := dayPattern ++ '\'' :: (doubled s ++ ['\''])

def dayPieces : List Piece :=
  [.run 'y' 4, .literal '-', .run 'M' 2, .literal '-', .run 'd' 2]

def dayText (t : Instant) : List Char :=
  Layout.yearText t.date.year ++ '-' :: (Layout.padded 2 t.date.month ++
    '-' :: Layout.padded 2 t.date.day)

theorem tokens_quotedPattern (s : List Char) :
    tokens .plain (quotedPattern s) =
      ((tokens .plain dayPattern).1 ++ (endedTokens .quoted s).1,
        (endedTokens .quoted s).2) := rfl

theorem head?_tokens_quoted (cs : List Char) (c : Char) :
    (tokens .quoted cs).1.head? ≠ some (.letter c) := by
  cases cs with
  | nil => simp [tokens_nil]
  | cons d cs =>
    by_cases hd : d = '\''
    · subst hd
      simp [tokens_quoted_quote]
    · simp [tokens_quoted_cons hd]

theorem pieces_of_head (h : ∀ c, found.head? ≠ some (.letter c)) :
    pieces open? found = pieces open? [] ++ pieces none found := by
  cases found with
  | nil => cases open? <;> rfl
  | cons token found =>
    cases token with
    | letter c => exact absurd rfl (h c)
    | literal c => exact pieces_literal
    | gap => exact pieces_gap

theorem piecesOf_quotedPattern (s : List Char) :
    piecesOf (quotedPattern s) = dayPieces ++ pieces none (endedTokens .quoted s).1 := by
  have hday : pieces none ((tokens .plain dayPattern).1 ++ (endedTokens .quoted s).1) =
      [.run 'y' 4, .literal '-', .run 'M' 2, .literal '-'] ++
        pieces (some ('d', 2)) (endedTokens .quoted s).1 := rfl
  have hrun : pieces (some ('d', 2)) (endedTokens .quoted s).1 =
      .run 'd' 2 :: pieces none (endedTokens .quoted s).1 := pieces_of_head (head?_tokens_quoted _)
  rw [piecesOf, tokens_quotedPattern, hday, hrun]
  rfl

theorem isDated_dayPieces : IsDated dayPieces := by
  intro c n h
  simp only [dayPieces, List.mem_cons, List.not_mem_nil, or_false, Piece.run.injEq, reduceCtorEq,
    false_or] at h
  rcases h with ⟨rfl, rfl⟩ | ⟨rfl, rfl⟩ | ⟨rfl, rfl⟩ <;> rfl

theorem itemsOf_dayPieces : itemsOf dayPieces =
    [.part .year, .literal '-', .part .month, .literal '-', .part .day] := rfl

theorem written_dayPieces_append (h : IsDated ps) (t : Instant) :
    written (dayPieces ++ ps) t = dayText t ++ written ps t := by
  have hboth : IsDated (dayPieces ++ ps) := IsDated.append_iff.mpr ⟨isDated_dayPieces, h⟩
  have hlast : (itemsOf dayPieces).getLast? ≠ some (.literal '.') := by
    simp [itemsOf_dayPieces]
  rw [written, itemsOf_append hboth hlast, Layout.renderItems_append, itemsOf_dayPieces]
  simp [Layout.renderItem, Layout.renderField, dayText, written]

/-- The texts that come out of quotes as they were put into them. -/
def IsKept (s : List Char) : Prop :=
  '\'' ∉ s ∨ ∃ a b, '\'' ∉ a ∧ '\'' ∉ b ∧ (∀ c ∈ b, c.isAlpha = false) ∧
    s = a ++ '\'' :: (b ++ ['\''])

theorem endedTokens_of_isKept (h : IsKept s) :
    pieces none (endedTokens .quoted s).1 = s.map .literal ∧
      (endedTokens .quoted s).2 ≠ .quoted := by
  rcases h with hs | ⟨a, b, ha, hb, hletters, rfl⟩
  · rw [endedTokens_of_notMem hs]
    refine ⟨?_, State.noConfusion⟩
    rw [pieces_literals]
    exact List.append_nil _
  · rw [endedTokens_of_two ha hb, map_plainToken hletters]
    refine ⟨?_, State.noConfusion⟩
    have hinner : pieces none (.gap :: .literal '\'' :: (b.map .literal ++ [.gap, .literal '\''])) =
        .literal '\'' :: (b.map .literal ++ [.literal '\'']) :=
      congrArg (List.cons (Piece.literal '\'')) (pieces_literals b [.gap, .literal '\''])
    rw [pieces_literals, hinner]
    simp

/-- A letter between the two quotes of a text is written as the part that it stands for. -/
theorem isKept_of_written (hclosed : (endedTokens .quoted s).2 ≠ .quoted)
    (hdated : IsDated (pieces none (endedTokens .quoted s).1))
    (hwritten : written (pieces none (endedTokens .quoted s).1) newYear = s) : IsKept s := by
  have hcount : quoteCount .quoted s = s.count '\'' := by
    have h := count_written hdated newYear
    rw [hwritten, count_pieces] at h
    exact h.symm
  rcases eq_append_of_quoteCount hclosed hcount with hs | ⟨a, b, ha, hb, rfl⟩
  · exact .inl hs
  · refine .inr ⟨a, b, ha, hb, ?_, rfl⟩
    by_contra hletter
    obtain ⟨c, hfound⟩ : ∃ c, b.find? Char.isAlpha = some c := by
      rw [← Option.isSome_iff_exists, List.find?_isSome]
      simpa using hletter
    obtain ⟨hc, first, rest, rfl, hfirst⟩ := List.find?_eq_some_iff_append.mp hfound
    have hplain : (first ++ c :: rest).map plainToken =
        first.map .literal ++ .letter c :: rest.map plainToken := by
      rw [List.map_append, map_plainToken (by simpa using hfirst), List.map_cons, plainToken,
        if_pos hc]
    have hpieces : pieces none (endedTokens .quoted (a ++ '\'' ::
        (first ++ c :: rest ++ ['\'']))).1 = pieces none ((a ++ '\'' :: first).map .literal ++
          .letter c :: (rest.map plainToken ++ [.gap, .literal '\''])) := by
      have hgap : ∀ found, pieces none (.gap :: found) = pieces none found := fun _ => rfl
      rw [endedTokens_of_two ha hb, hplain, pieces_literals, hgap, ← pieces_literals]
      simp
    rw [hpieces] at hdated hwritten
    have htext : a ++ '\'' :: (first ++ c :: rest ++ ['\'']) =
        (a ++ '\'' :: first) ++ c :: (rest ++ ['\'']) := by simp
    exact written_letter_ne hdated (hwritten.trans htext)

theorem piecesOf_two_quotes {before after : List Char}
    (hbefore : (tokens .plain before).2 = .plain) (hafter : after.head? ≠ some '\'') :
    piecesOf (before ++ '\'' :: '\'' :: after) = piecesOf before ++ piecesOf after := by
  have hclosing : (tokens .closing after).1 = (tokens .plain after).1 := by
    cases after with
    | nil => rfl
    | cons c after =>
      have hc : c ≠ '\'' := by simpa using hafter
      rw [tokens_closing_cons hc]
  rw [piecesOf, tokens_append, hbefore, tokens_plain_quote, tokens_quoted_quote, hclosing]
  exact pieces_append_gap

theorem piecesOf_three_quotes {before rest : List Char}
    (hbefore : (tokens .plain before).2 = .plain) :
    piecesOf (before ++ '\'' :: '\'' :: '\'' :: rest) =
      piecesOf before ++ .literal '\'' :: piecesOf rest := by
  rw [piecesOf, tokens_append, hbefore, tokens_plain_quote, tokens_quoted_quote,
    tokens_closing_quote]
  exact pieces_append_gap

theorem not_named_of_quote {pattern : String} (h : '\'' ∈ pattern.toList) :
    pattern ∉ DateFormat.names := by
  have hnames : ∀ name ∈ DateFormat.names, '\'' ∉ name.toList := by decide +kernel
  exact fun hname => hnames pattern hname h

theorem getLast?_quotedPattern (s : List Char) : (quotedPattern s).getLast? = some '\'' := by
  rw [quotedPattern, ← List.cons_append, ← List.append_assoc, List.getLast?_concat]

theorem trim_quotedPattern (s : List Char) :
    Text.trim (String.ofList (quotedPattern s)) = String.ofList (quotedPattern s) := by
  have hhead : (quotedPattern s).head? = some 'y' := rfl
  have hstart : Text.trimStart (quotedPattern s) = quotedPattern s := by
    apply Text.trimStart_of_head
    rw [hhead]
    rintro c ⟨⟩
    rfl
  have hend : Text.trimEnd (quotedPattern s) = quotedPattern s := by
    apply Text.trimEnd_of_getLast
    rw [getLast?_quotedPattern]
    rintro c ⟨⟩
    rfl
  rw [Text.trim, String.toList_ofList, Text.trimChars, hstart, hend]

end DatePattern

namespace DateFormat

open DatePattern

variable {s : List Char}

theorem not_named_quotedPattern (s : List Char) :
    String.ofList (quotedPattern s) ∉ names := by
  refine not_named_of_quote ?_
  rw [String.toList_ofList]
  exact List.mem_of_getLast? (getLast?_quotedPattern s)

theorem isKept_of_ofText {format : DateFormat}
    (hformat : ofText (String.ofList (quotedPattern s)) = .ok format)
    (hwrite : format.write newYear = .str (String.ofList (dayText newYear ++ s))) : IsKept s := by
  have hpattern : format.pattern = String.ofList (quotedPattern s) := by
    simp only [ofText, Attempts.map_eq_ok_iff] at hformat
    obtain ⟨shape, -, rfl⟩ := hformat
    exact trim_quotedPattern s
  have hname : format.pattern ∉ names := hpattern ▸ not_named_quotedPattern s
  obtain ⟨hdated, hclosed, -⟩ := ofText_eq_ok hformat hname
  rw [write_eq hformat hname] at hwrite
  rw [hpattern, String.toList_ofList, piecesOf_quotedPattern] at hdated hwrite
  rw [hpattern, String.toList_ofList, tokens_quotedPattern] at hclosed
  obtain ⟨-, hdated⟩ := IsDated.append_iff.mp hdated
  rw [written_dayPieces_append hdated, Json.str.injEq, String.ofList_inj,
    List.append_right_inj] at hwrite
  exact isKept_of_written hclosed hdated hwrite

theorem exists_ofText_of_isKept (hkept : IsKept s) :
    ∃ format, ofText (String.ofList (quotedPattern s)) = .ok format ∧
      ∀ t, format.write t = .str (String.ofList (dayText t ++ s)) := by
  have hname := not_named_quotedPattern s
  obtain ⟨hpieces, hclosed⟩ := endedTokens_of_isKept hkept
  have hpiecesOf : piecesOf (quotedPattern s) = dayPieces ++ s.map .literal := by
    rw [piecesOf_quotedPattern, hpieces]
  have hdated : IsDated (piecesOf (quotedPattern s)) := by
    rw [hpiecesOf]
    exact IsDated.append_iff.mpr ⟨isDated_dayPieces, isDated_literals s⟩
  obtain ⟨shape, hshape⟩ := exists_toNotation_iff.mpr
    (by rw [String.toList_ofList]; exact ⟨hdated, hclosed⟩ :
      IsDated (piecesOf (String.ofList (quotedPattern s)).toList) ∧
        (tokens .plain (String.ofList (quotedPattern s)).toList).2 ≠ .quoted)
  have hformat : ofText (String.ofList (quotedPattern s)) =
      .ok ⟨String.ofList (quotedPattern s), shape⟩ := by
    rw [ofText, trim_quotedPattern, notationOf_eq hname, hshape]
    rfl
  refine ⟨_, hformat, fun t => ?_⟩
  rw [write_eq hformat hname, String.toList_ofList, hpiecesOf,
    written_dayPieces_append (isDated_literals s), written_literals]

theorem exists_ofText_quotedPattern_iff :
    (∃ format, ofText (String.ofList (quotedPattern s)) = .ok format ∧
      ∀ t, t.IsRepresented → format.write t = .str (String.ofList (dayText t ++ s))) ↔
      IsKept s := by
  constructor
  · rintro ⟨format, hformat, hwrite⟩
    exact isKept_of_ofText hformat (hwrite newYear (by constructor <;> decide))
  · intro hkept
    obtain ⟨format, hformat, hwrite⟩ := exists_ofText_of_isKept hkept
    exact ⟨format, hformat, fun t _ => hwrite t⟩

/-- A pattern with a quote in it is no name: its format writes what its pieces stand for. -/
theorem write_eq_of_quote {text : String} {format : DateFormat} (hformat : ofText text = .ok format)
    (hquote : '\'' ∈ format.pattern.toList) (t : Instant) :
    IsDated (piecesOf format.pattern.toList) ∧
      format.write t = .str (String.ofList (written (piecesOf format.pattern.toList) t)) := by
  have hname := not_named_of_quote hquote
  exact ⟨(ofText_eq_ok hformat hname).1, write_eq hformat hname t⟩

section Outside

variable {text : String} {format : DateFormat} {before : List Char}

theorem write_two_quotes {after : List Char} (hformat : ofText text = .ok format)
    (hpattern : format.pattern.toList = before ++ '\'' :: '\'' :: after)
    (hbefore : (tokens .plain before).2 = .plain) (hafter : after.head? ≠ some '\'')
    (t : Instant) :
    format.write t = .str (String.ofList (written (piecesOf before ++ piecesOf after) t)) ∧
      format.write t ≠
        .str (String.ofList (written (piecesOf before ++ .literal '\'' :: piecesOf after) t)) := by
  obtain ⟨hdated, hwrite⟩ := write_eq_of_quote hformat (by simp [hpattern]) t
  rw [hpattern, piecesOf_two_quotes hbefore hafter] at hdated hwrite
  refine ⟨hwrite, fun h => ?_⟩
  have hother : IsDated (piecesOf before ++ .literal '\'' :: piecesOf after) := fun c n hrun =>
    hdated c n (by simpa using hrun)
  -- The two texts have a different number of quotes.
  rw [hwrite, Json.str.injEq, String.ofList_inj] at h
  have hcount := count_written hother t
  rw [← h, count_written hdated] at hcount
  simp at hcount

/-- With a third one after them they are written as a quote, and open no quoted text. -/
theorem write_three_quotes {rest : List Char} (hformat : ofText text = .ok format)
    (hpattern : format.pattern.toList = before ++ '\'' :: '\'' :: '\'' :: rest)
    (hbefore : (tokens .plain before).2 = .plain) (t : Instant) :
    format.write t =
      .str (String.ofList (written (piecesOf before ++ .literal '\'' :: piecesOf rest) t)) := by
  obtain ⟨-, hwrite⟩ := write_eq_of_quote hformat (by simp [hpattern]) t
  rwa [hpattern, piecesOf_three_quotes hbefore] at hwrite

end Outside

/-- A text that is put into quotes after a date is accepted and written as it is only if it has
no quotes, or one inside and one at its end without a letter between them. In every pattern two
quotes outside a quoted text are written as nothing, unless a third one follows: then they are
written as one, and what is after the third is outside. -/
theorem quoted_text_iff (s : List Char) :
    ((∃ format, ofText (String.ofList (quotedPattern s)) = .ok format ∧
        ∀ t, t.IsRepresented → format.write t = .str (String.ofList (dayText t ++ s))) ↔
      IsKept s) ∧
    ∀ (text : String) (format : DateFormat) (before after : List Char),
      ofText text = .ok format → format.pattern.toList = before ++ '\'' :: '\'' :: after →
      (tokens .plain before).2 = .plain → ∀ t,
      (after.head? ≠ some '\'' →
        format.write t = .str (String.ofList (written (piecesOf before ++ piecesOf after) t)) ∧
          format.write t ≠ .str (String.ofList
            (written (piecesOf before ++ .literal '\'' :: piecesOf after) t))) ∧
      ∀ rest, after = '\'' :: rest →
        format.write t = .str (String.ofList
          (written (piecesOf before ++ .literal '\'' :: piecesOf rest) t)) := by
  refine ⟨exists_ofText_quotedPattern_iff, ?_⟩
  intro text format before after hformat hpattern hbefore t
  refine ⟨fun hafter => write_two_quotes hformat hpattern hbefore hafter t, ?_⟩
  rintro rest rfl
  exact write_three_quotes hformat hpattern hbefore t

/-- A text with a quote before letters does not come out of a pattern, nor do two quotes between
the hour and the minute. -/
theorem clock_quotes_lost :
    (¬∃ format, ofText (String.ofList (quotedPattern "o'clock".toList)) = .ok format ∧
      ∀ t, t.IsRepresented →
        format.write t = .str (String.ofList (dayText t ++ "o'clock".toList))) ∧
    ∃ format, ofText "HH''mm" = .ok format ∧ format.write newYear = .str "0000" ∧
      format.write newYear ≠ .str "00'00" := by
  have hlost : ¬IsKept "o'clock".toList := by
    rintro (h | ⟨a, b, -, -, -, h⟩)
    · exact h (by decide)
    · have hlast := congrArg List.getLast? h
      rw [← List.cons_append, ← List.append_assoc, List.getLast?_concat] at hlast
      exact absurd hlast (by decide)
  have hformat : ofText "HH''mm" = .ok ⟨"HH''mm", .layout "%H%M".toList true false⟩ := by
    decide +kernel
  have hwritten := ((quoted_text_iff "o'clock".toList).2 "HH''mm" _ "HH".toList "mm".toList hformat
    (by decide) (by decide) newYear).1 (by decide)
  have hplain : String.ofList (written (piecesOf "HH".toList ++ piecesOf "mm".toList) newYear) =
      "0000" := by decide +kernel
  have hquoted : String.ofList
      (written (piecesOf "HH".toList ++ .literal '\'' :: piecesOf "mm".toList) newYear) =
        "00'00" := by decide +kernel
  rw [hplain, hquoted] at hwritten
  exact ⟨mt (quoted_text_iff "o'clock".toList).1.mp hlost, _, hformat, hwritten⟩

end DateFormat

end ReportSearch
