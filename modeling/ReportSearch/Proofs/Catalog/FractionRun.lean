import ReportSearch.Proofs.Catalog.DatePattern
import ReportSearch.Proofs.Time.ReadBack

/-!
# Runs of `S` in date patterns

A run of `S` stands for the fraction of a second. The number of its letters is not looked at: after
a point the fraction is written with three, six or nine digits, or left out with the point when
there is none, and read as a fraction of any length; after anything else it is written and read as
a whole number of nanoseconds. So a run of some letters is written with as many digits, and so many
digits are read as the fraction they denote, only where the two agree.
-/

set_option autoImplicit false

namespace ReportSearch

open Layout (Part Item literalItem padded fractionText)
open Text (trimStart trimEnd trimChars isBlank)

namespace Instant

/-- The same second, or leap second, with another fraction. -/
def withFraction (t : Instant) (fraction : Nat) : Instant :=
  ⟨t.seconds, t.nanos / nanosPerSecond * nanosPerSecond + fraction⟩

variable {t : Instant} {fraction : Nat}

theorem fraction_withFraction (h : fraction < nanosPerSecond) :
    (t.withFraction fraction).fraction = fraction := by
  simp only [withFraction, Instant.fraction, nanosPerSecond] at *
  omega

theorem second_withFraction (h : fraction < nanosPerSecond) :
    (t.withFraction fraction).second = t.second := by
  simp only [withFraction, second, secondOfDay, nanosPerSecond] at *
  omega

theorem withFraction_isRepresented (ht : t.IsRepresented) (h : fraction < nanosPerSecond) :
    (t.withFraction fraction).IsRepresented := by
  obtain ⟨hleast, hgreatest, hnanos, hleap⟩ := ht
  refine ⟨hleast, hgreatest, ?_, ?_⟩
  · simp only [withFraction, nanosPerSecond] at *
    omega
  · simp only [withFraction, nanosPerSecond] at *
    omega

end Instant

namespace Layout

theorem padded_inj {width other n m : Nat} (hwidth : 0 < width) (hother : 0 < other)
    (hn : n < 10 ^ width) (hm : m < 10 ^ other) :
    padded width n = padded other m ↔ width = other ∧ n = m := by
  constructor
  · intro h
    refine ⟨?_, ?_⟩
    · rw [← length_padded hwidth hn, h, length_padded hother hm]
    · rw [← ofDigitChars_padded width n, h, ofDigitChars_padded]
  · rintro ⟨rfl, rfl⟩
    rfl

theorem fraction_lt_of_lt {width n : Nat} (hmost : width ≤ 9) (hn : n < 10 ^ width) :
    n * 10 ^ (9 - width) < 10 ^ 9 := by
  calc n * 10 ^ (9 - width) < 10 ^ width * 10 ^ (9 - width) :=
        Nat.mul_lt_mul_of_pos_right hn (Nat.pow_pos (by decide))
    _ = 10 ^ 9 := by rw [← Nat.pow_add, Nat.add_sub_cancel' hmost]

/-- A fraction is written in so many digits only if it needs them and not a group less. -/
theorem fractionText_eq_iff {width n : Nat} (hwidth : 1 ≤ width) (hmost : width ≤ 9)
    (hn : n < 10 ^ width) :
    fractionText (n * 10 ^ (9 - width)) = '.' :: padded width n ↔
      width = 3 ∧ n ≠ 0 ∨ (width = 6 ∨ width = 9) ∧ n % 1000 ≠ 0 := by
  have hlt := fraction_lt_of_lt hmost hn
  have hdigits : ∀ {other m : Nat}, 0 < other → m < 10 ^ other →
      ('.' :: padded other m = '.' :: padded width n ↔ other = width ∧ m = n) := by
    intro other m hother hm
    rw [List.cons_inj_right, padded_inj hother hwidth hm hn]
  unfold fractionText
  split
  · refine iff_of_false (List.cons_ne_nil _ _).symm ?_
    interval_cases width <;> omega
  · split
    · rw [hdigits (by decide) (by omega)]
      interval_cases width <;> omega
    · split
      · rw [hdigits (by decide) (by omega)]
        interval_cases width <;> omega
      · rw [hdigits (by decide) hlt]
        interval_cases width <;> omega

theorem padded_nine_eq_iff {width n : Nat} (hwidth : 1 ≤ width) (hmost : width ≤ 9)
    (hn : n < 10 ^ width) :
    padded 9 (n * 10 ^ (9 - width)) = padded width n ↔ width = 9 := by
  rw [padded_inj (by decide) hwidth (fraction_lt_of_lt hmost hn) hn]
  constructor
  · rintro ⟨h, -⟩
    exact h.symm
  · rintro rfl
    simp

theorem renderField_congr {t u : Instant} {f : Part} (hseconds : t.seconds = u.seconds)
    (hsecond : t.second = u.second) (hnanos : f ≠ .nanos) (hfraction : f ≠ .fraction) :
    renderField t f = renderField u f := by
  have hdate : t.date = u.date := by rw [Instant.date, Instant.date, hseconds]
  have hhour : t.hour = u.hour := by simp only [Instant.hour, Instant.secondOfDay, hseconds]
  have hminute : t.minute = u.minute := by simp only [Instant.minute, Instant.secondOfDay, hseconds]
  cases f with
  | nanos => exact absurd rfl hnanos
  | fraction => exact absurd rfl hfraction
  | _ => simp only [renderField, hdate, hhour, hminute, hsecond]

theorem renderItems_congr {t u : Instant} {layout : List Item} (hseconds : t.seconds = u.seconds)
    (hsecond : t.second = u.second) (hnanos : .part .nanos ∉ layout)
    (hfraction : .part .fraction ∉ layout) : renderItems t layout = renderItems u layout := by
  refine List.flatMap_congr fun item hitem => ?_
  cases item with
  | part f =>
    refine renderField_congr hseconds hsecond ?_ ?_
    · rintro rfl
      exact hnanos hitem
    · rintro rfl
      exact hfraction hitem
  | _ => rfl

theorem readItems?_append (before after : List Item) (p : DateParts) (cs : List Char) :
    readItems? (before ++ after) p cs =
      (readItems? before p cs).bind fun found => readItems? after found.1 found.2 := by
  induction before generalizing p cs with
  | nil => rfl
  | cons item before ih =>
    rw [List.cons_append, readItems?, readItems?, Option.bind_assoc]
    exact congrArg _ (funext fun found => ih found.1 found.2)

end Layout

namespace DatePattern

open Layout

/-- What a run of `S` is written and read as, by the mark before it. -/
def fractionPart (mark : Option Char) : Part := if mark = some '.' then .fraction else .nanos

/-- The marks before the run that stay on their own. -/
def leadingMark (mark : Option Char) : List Char := if mark = some '.' then [] else mark.toList

def fractionItems (mark : Option Char) : List Item :=
  (leadingMark mark).map literalItem ++ [.part (fractionPart mark)]

/-- So many digits of a fraction, with the mark before them. -/
def markedDigits (mark : Option Char) (width n : Nat) : List Char := mark.toList ++ padded width n

variable {mark : Option Char} {width n : Nat} {t : Instant}

/-- The digits of the claimed width are written where the fraction agrees with them. -/
theorem renderItems_fractionItems_iff (hwidth : 1 ≤ width) (hmost : width ≤ 9)
    (hn : n < 10 ^ width) (hfraction : t.fraction = n * 10 ^ (9 - width)) :
    renderItems t (fractionItems mark) = markedDigits mark width n ↔
      mark = some '.' ∧ (width = 3 ∧ n ≠ 0 ∨ (width = 6 ∨ width = 9) ∧ n % 1000 ≠ 0) ∨
        mark ≠ some '.' ∧ width = 9 := by
  by_cases hmark : mark = some '.'
  · have htext : renderItems t (fractionItems mark) = fractionText t.fraction := by
      simp [fractionItems, leadingMark, fractionPart, hmark, renderItem, renderField]
    have hdigits : markedDigits mark width n = '.' :: padded width n := by
      rw [hmark]
      rfl
    rw [htext, hdigits, hfraction, fractionText_eq_iff hwidth hmost hn]
    simp [hmark]
  · have htext : renderItems t (fractionItems mark) = mark.toList ++ padded 9 t.fraction := by
      simp [fractionItems, leadingMark, fractionPart, hmark, renderItems_literalItem, renderItem,
        renderField]
    rw [htext, markedDigits, hfraction, List.append_right_inj, padded_nine_eq_iff hwidth hmost hn]
    simp [hmark]

variable {before after : List Piece} {length : Nat}

/-- The pieces of a pattern with a run of `S` after the seconds and a mark. -/
def fractionPieces (before : List Piece) (length : Nat) (mark : Option Char) (width : Nat)
    (after : List Piece) : List Piece :=
  before ++ .run 's' length :: (mark.toList.map .literal ++ .run 'S' width :: after)

theorem itemsOf_mark (mark : Option Char) (width : Nat) :
    itemsOf (mark.toList.map .literal ++ [.run 'S' width]) = fractionItems mark := by
  apply itemsOf_eq
  cases mark with
  | none => rfl
  | some c =>
    by_cases hc : c = '.'
    · subst hc
      rfl
    · have hitem : literalItem c ≠ .literal '.' := by
        unfold literalItem
        split
        · exact Item.noConfusion
        · intro h
          cases h
          exact hc rfl
      have hmark : some c ≠ some '.' := fun h => hc (Option.some.inj h)
      have hrun : Emits [literalItem c] (.run 'S' width) [.part .nanos, literalItem c] := by
        refine .nanos rfl ?_
        simpa using hitem
      refine emitAll_cons_eq_ok_iff.mpr ⟨_, .literal c, ?_⟩
      refine emitAll_cons_eq_ok_iff.mpr ⟨_, hrun, ?_⟩
      simp [emitAll, fractionItems, leadingMark, fractionPart, hmark]

theorem itemsOf_fractionPieces (h : IsDated (fractionPieces before length mark width after)) :
    itemsOf (fractionPieces before length mark width after) =
      itemsOf (before ++ [.run 's' length]) ++ (fractionItems mark ++ itemsOf after) := by
  have hsplit : fractionPieces before length mark width after =
      (before ++ [.run 's' length]) ++
        ((mark.toList.map .literal ++ [.run 'S' width]) ++ after) := by
    simp [fractionPieces]
  rw [hsplit] at h ⊢
  obtain ⟨hstart, hrest⟩ := IsDated.append_iff.mp h
  have hseconds := itemsOf_append_run (IsDated.append_iff.mp hstart).1
    (rfl : runField? 's' length = some .second) (by simp)
  rw [itemsOf_append h (by simp [hseconds]), itemsOf_append hrest, itemsOf_mark]
  simp [itemsOf_mark, fractionItems]

/-- The nanoseconds that so many digits give at the place of a fraction. -/
def nanosAt (mark : Option Char) (width n : Nat) : Nat :=
  if mark = some '.' then n * 10 ^ (9 - width) else n

theorem nanosAt_lt (hmost : width ≤ 9) (hn : n < 10 ^ width) : nanosAt mark width n < 10 ^ 9 := by
  unfold nanosAt
  split
  · exact fraction_lt_of_lt hmost hn
  · exact Nat.lt_of_lt_of_le hn (Nat.pow_le_pow_right (by decide) hmost)

/-- The digits at the place of a fraction, with the point that belongs to them. -/
def placeText (mark : Option Char) (width n : Nat) : List Char :=
  (if mark = some '.' then ['.'] else []) ++ padded width n

theorem isBlank_of_mem_placeText : ∀ c ∈ placeText mark width n, isBlank c = false := by
  unfold placeText
  refine List.forall_mem_append.mpr ⟨?_, isBlank_of_mem_padded⟩
  split
  · exact List.forall_mem_singleton.mpr rfl
  · exact List.forall_mem_nil _

theorem placeText_ne_nil : placeText mark width n ≠ [] :=
  List.append_ne_nil_of_right_ne_nil _ (padded_ne_nil width n)

theorem head_placeText_not_blank (rest : List Char) :
    ∀ c ∈ (placeText mark width n ++ rest).head?, isBlank c = false := fun c hc =>
  isBlank_of_mem_placeText c (Text.mem_of_mem_head?_append placeText_ne_nil c hc)

theorem readField?_fractionPart {u : Instant} (hwidth : 1 ≤ width) (hmost : width ≤ 9)
    (hn : n < 10 ^ width)
    (hvalue : u.fraction = nanosAt mark width n) {p : DateParts} (hp : p.Within u.allParts)
    {rest : List Char} (hrest : mark = some '.' ∨ width < 9 → ∀ c ∈ rest.head?, c.isDigit = false) :
    readField? (fractionPart mark) p (placeText mark width n ++ rest) =
      some (p.merge (u.partsOf (fractionPart mark)), rest) := by
  have hset : p.setNanos u.fraction = some (p.merge (u.partsOf (fractionPart mark))) := by
    rw [DateParts.setNanos, DateParts.agree_eq hp.nanos]
    unfold fractionPart
    split <;> rfl
  by_cases hmark : mark = some '.'
  · rw [nanosAt, if_pos hmark] at hvalue
    have hread := readFraction?_padded hwidth hmost hn (hrest (.inl hmark))
    rw [← hvalue] at hread
    have hfield : fractionPart mark = .fraction := if_pos hmark
    rw [hfield] at hset ⊢
    rw [placeText, if_pos hmark]
    simp [readField?, hread, hset]
  · rw [nanosAt, if_neg hmark] at hvalue
    have hread : readNumber? 1 9 (padded width n ++ rest) = some (n, rest) :=
      readNumber?_padded hwidth hn hwidth hmost fun hshort => hrest (.inr hshort)
    have htrim : trimStart (padded width n ++ rest) = padded width n ++ rest :=
      Text.trimStart_of_head (head_padded_not_blank rest)
    have hfield : fractionPart mark = .nanos := if_neg hmark
    rw [hvalue] at hset
    rw [hfield] at hset ⊢
    rw [placeText, if_neg hmark, List.nil_append]
    simp [readField?, htrim, Part.width, hread, DateParts.setNumber, hset]

/-- No other letter stands for a fraction. -/
theorem eq_S_of_runField? {c : Char} {m : Nat} {f : Part} (h : runField? c m = some f)
    (hf : f = .nanos ∨ f = .fraction) : c = 'S' := by
  unfold runField? at h
  split at h
  all_goals first
    | rfl
    | (split_ifs at h <;> cases h <;> simp at hf)
    | (cases h; simp at hf)
    | cases h

theorem exists_run_of_mem_items {ps : List Piece} {items first : List Item} {f : Part}
    (h : emitAll first ps = .ok items) (hf : f = .nanos ∨ f = .fraction)
    (hfirst : .part f ∉ first) (hmem : .part f ∈ items) : ∃ m, .run 'S' m ∈ ps := by
  induction ps generalizing first with
  | nil =>
    cases h
    exact absurd (List.mem_reverse.mp hmem) hfirst
  | cons piece ps ih =>
    obtain ⟨next, hnext, hitems⟩ := emitAll_cons_eq_ok_iff.mp h
    by_cases hnow : .part f ∈ next
    · obtain ⟨c, m, g, rfl, hg, hkind⟩ : ∃ c m g, piece = .run c m ∧ runField? c m = some g ∧
          (g = .nanos ∨ g = .fraction) := by
        cases hnext with
        | literal c =>
          have hitem : .part f ≠ literalItem c := by
            unfold literalItem
            split <;> exact Item.noConfusion
          exact absurd ((List.mem_cons.mp hnow).resolve_left hitem) hfirst
        | @part c m g hg hother =>
          rcases List.mem_cons.mp hnow with heq | hnow
          · cases heq
            exact ⟨c, m, f, rfl, hg, hf⟩
          · exact absurd hnow hfirst
        | nanos hg => exact ⟨_, _, _, rfl, hg, .inl rfl⟩
        | fraction hg => exact ⟨_, _, _, rfl, hg, .inl rfl⟩
      cases eq_S_of_runField? hg hkind
      exact ⟨m, List.mem_cons_self⟩
    · obtain ⟨m, hm⟩ := ih hitems hnow
      exact ⟨m, List.mem_cons_of_mem piece hm⟩

theorem part_notMem_itemsOf {ps : List Piece} {f : Part} (hf : f = .nanos ∨ f = .fraction)
    (h : ∀ m, .run 'S' m ∉ ps) : .part f ∉ itemsOf ps := by
  unfold itemsOf
  cases hemit : emitAll [] ps with
  | error c => exact List.not_mem_nil
  | ok items =>
    intro hmem
    obtain ⟨m, hm⟩ := exists_run_of_mem_items hemit hf List.not_mem_nil hmem
    exact h m hm

def Piece.symbol : Piece → Char
  | .run c _ => c
  | .literal c => c

theorem not_named_of_run {pattern : String} {m : Nat} (h : .run 'S' m ∈ piecesOf pattern.toList) :
    pattern ∉ DateFormat.names := by
  have hnames : ∀ name ∈ DateFormat.names, ∀ piece ∈ piecesOf name.toList, piece.symbol ≠ 'S' := by
    decide +kernel
  intro hname
  exact hnames pattern hname _ h rfl

end DatePattern

namespace DateFormat

open DatePattern Layout

variable {text : String} {format : DateFormat} {before after : List Piece} {length width n : Nat}
variable {mark : Option Char} {t : Instant}

/-- What is written around a fraction is read around it, without the blanks at the two ends. -/
theorem readItems?_placeText {lead trail : List Item} {u : Instant} (hu : u.IsRepresented)
    (hyear : 0 ≤ u.date.year) (hlast : u.date.year ≤ 9999) (hwidth : 1 ≤ width) (hmost : width ≤ 9)
    (hn : n < 10 ^ width) (hvalue : u.fraction = nanosAt mark width n)
    (hlead : IsWritten u lead (renderItems u lead))
    (htrail : IsWritten u trail (renderItems u trail))
    (hrest : mark = some '.' ∨ width < 9 →
      ∀ c ∈ (renderItems u trail).head?, c.isDigit = false) :
    ∃ r, readItems? (lead ++ .part (fractionPart mark) :: trail) {}
        (trimStart (renderItems u lead) ++
          (placeText mark width n ++ trimEnd (renderItems u trail))) = some (r, []) ∧
      r.Tells (lead ++ .part (fractionPart mark) :: trail) u ∧ r.nanos = some u.fraction := by
  have hdigit : mark = some '.' ∨ width < 9 →
      ∀ c ∈ (trimEnd (renderItems u trail)).head?, c.isDigit = false := fun h c hc =>
    hrest h c (Text.head?_trimEnd c hc)
  -- The items before the fraction, then the fraction, then those after it.
  have hhead : ∀ c ∈ (placeText mark width n ++ trimEnd (renderItems u trail)).head?,
      isBlank c = false := head_placeText_not_blank _
  obtain ⟨q, hread, -, hq⟩ := readItems?_isWritten hu hyear hlast hhead
    hlead.trimStart (DateParts.empty_within u.allParts)
  have hfield := readField?_fractionPart hwidth hmost hn hvalue hq.within hdigit
  have hwithin := Instant.partsOf_within (t := u) (f := fractionPart mark)
  have hend : ∀ c ∈ ([] : List Char).head?, isBlank c = false := fun c hc => by cases hc
  obtain ⟨r, hread', hqr, hr⟩ := readItems?_isWritten hu hyear hlast hend
    htrail.trimEnd (DateParts.merge_within hq.within hwithin)
  have hmerged := (DateParts.within_merge_right (p := q)).trans hqr
  refine ⟨r, ?_, ⟨hr.within, ?_⟩, ?_⟩
  · rw [List.append_nil] at hread'
    rw [readItems?_append, hread]
    simp only [Option.bind_some, readItems?, readItem?, hfield, hread']
  · intro f hf
    rcases List.mem_append.mp hf with hf | hf
    · exact (hq.gives f hf).trans ((DateParts.within_merge_left hq.within hwithin).trans hqr)
    · rcases List.mem_cons.mp hf with heq | hf
      · cases heq
        exact hmerged
      · exact hr.gives f hf
  · refine hmerged.nanos _ ?_
    unfold fractionPart
    split <;> rfl

theorem markedDigits_eq (mark : Option Char) (width n : Nat) :
    markedDigits mark width n = leadingMark mark ++ placeText mark width n := by
  unfold markedDigits leadingMark placeText
  by_cases hmark : mark = some '.'
  · simp [hmark]
  · simp [hmark]

theorem fraction_notMem_lead (hstart : ∀ m, .run 'S' m ∉ before) :
    .part .fraction ∉ itemsOf before ++ (leadingMark mark).map literalItem := by
  intro h
  rcases List.mem_append.mp h with h | h
  · exact part_notMem_itemsOf (.inr rfl) hstart h
  · obtain ⟨c, -, hc⟩ := List.mem_map.mp h
    unfold literalItem at hc
    split at hc <;> cases hc

theorem written_withFraction {value : Nat} (hvalue : value < 10 ^ 9) {ps : List Piece}
    (hps : ∀ m, .run 'S' m ∉ ps) : written ps t = written ps (t.withFraction value) :=
  renderItems_congr rfl (Instant.second_withFraction hvalue).symm
    (part_notMem_itemsOf (.inl rfl) hps) (part_notMem_itemsOf (.inr rfl) hps)

/-- So many digits at the place of the fraction are read as the nanoseconds that they give there,
and all else as it was written. -/
theorem read?_fractionPieces (hformat : ofText text = .ok format)
    (hpieces : piecesOf format.pattern.toList = fractionPieces before length mark width after)
    (hwidth : 1 ≤ width) (hmost : width ≤ 9) (ht : t.IsRepresented) (hn : n < 10 ^ width)
    (honly : ∀ m, .run 'S' m ∉ before ++ after)
    (hcomplete : IsComplete (itemsOf (piecesOf format.pattern.toList)) t)
    (hyear : 0 ≤ t.date.year) (hlast : t.date.year ≤ 9999)
    (hafter : mark = some '.' ∨ width < 9 →
      ∀ c ∈ (written after t).head?, c.isDigit = false) :
    format.read? (String.ofList (written (before ++ [.run 's' length]) t ++
        markedDigits mark width n ++ written after t)) =
      some (t.withFraction (nanosAt mark width n)) := by
  have hrun : .run 'S' width ∈ piecesOf format.pattern.toList := by
    simp [hpieces, fractionPieces]
  obtain ⟨hdated, -, hshape⟩ := ofText_eq_ok hformat (not_named_of_run hrun)
  have hproper := isProper_itemsOf (piecesOf format.pattern.toList)
  rw [hpieces] at hdated hproper hshape hcomplete
  rw [itemsOf_fractionPieces hdated, fractionItems, List.append_assoc, ← List.append_assoc,
    List.singleton_append] at hproper hshape hcomplete
  have hlt : nanosAt mark width n < 10 ^ 9 := nanosAt_lt hmost hn
  have hend : ∀ m, .run 'S' m ∉ after := fun m hm => honly m (List.mem_append_right before hm)
  have hstart : ∀ m, .run 'S' m ∉ before ++ [.run 's' length] := by
    intro m hm
    rcases List.mem_append.mp hm with hm | hm
    · exact honly m (List.mem_append_left after hm)
    · cases List.mem_singleton.mp hm
  -- The text is that of an instant with the fraction that the digits give at their place.
  rw [written_withFraction hlt hstart, written_withFraction hlt hend]
  rw [written_withFraction hlt hend] at hafter
  have hrepresented := Instant.withFraction_isRepresented ht hlt
  have hfraction : (t.withFraction (nanosAt mark width n)).fraction = nanosAt mark width n :=
    Instant.fraction_withFraction hlt
  obtain ⟨hbefore, hlater⟩ := List.forall_mem_append.mp hproper
  obtain ⟨q, hitems, hq, hnanos⟩ := readItems?_placeText hrepresented hyear hlast hwidth hmost hn
    hfraction (isWritten_renderItems hbefore (fraction_notMem_lead hstart))
    (isWritten_renderItems (List.forall_mem_cons.mp hlater).2 (part_notMem_itemsOf (.inr rfl) hend))
    hafter
  have hread := readLayout?_eq hrepresented hyear hproper
    ⟨hcomplete.year, hcomplete.day, hcomplete.hour, hcomplete.minute, hcomplete.second⟩ hitems hq
    (by rw [hnanos, Option.getD_some])
  rw [read?, hshape]
  simp only [Text.trim, String.toList_ofList, markedDigits_eq, ← List.append_assoc]
  rw [Text.trimChars_append isBlank_of_mem_placeText placeText_ne_nil,
    List.append_assoc (trimStart _)]
  rw [renderItems_append, renderItems_literalItem] at hread
  exact hread

theorem write_fractionPieces_iff (hformat : ofText text = .ok format)
    (hpieces : piecesOf format.pattern.toList = fractionPieces before length mark width after)
    (hwidth : 1 ≤ width) (hmost : width ≤ 9) (hn : n < 10 ^ width)
    (hfraction : t.fraction = n * 10 ^ (9 - width)) :
    format.write t = .str (String.ofList (written (before ++ [.run 's' length]) t ++
        markedDigits mark width n ++ written after t)) ↔
      mark = some '.' ∧ (width = 3 ∧ n ≠ 0 ∨ (width = 6 ∨ width = 9) ∧ n % 1000 ≠ 0) ∨
        mark ≠ some '.' ∧ width = 9 := by
  have hrun : .run 'S' width ∈ piecesOf format.pattern.toList := by
    simp [hpieces, fractionPieces]
  obtain ⟨hdated, -, -⟩ := ofText_eq_ok hformat (not_named_of_run hrun)
  rw [hpieces] at hdated
  have hwritten : written (fractionPieces before length mark width after) t =
      written (before ++ [.run 's' length]) t ++ renderItems t (fractionItems mark) ++
        written after t := by
    simp [written, itemsOf_fractionPieces hdated]
  rw [write_eq hformat (not_named_of_run hrun), hpieces, hwritten,
    ← renderItems_fractionItems_iff hwidth hmost hn hfraction]
  simp [String.ofList_inj]

/-- A run of `S` after the seconds and a mark is written with as many digits as it has letters
only where three, six or nine of them are due after a point, or where it has nine letters; and so
many digits are read as the fraction they denote only after a point, or with nine letters, or as
zero. -/
theorem fraction_digits_iff (hformat : ofText text = .ok format)
    (hpieces : piecesOf format.pattern.toList = fractionPieces before length mark width after)
    (hwidth : 1 ≤ width) (hmost : width ≤ 9) (ht : t.IsRepresented) (hn : n < 10 ^ width)
    (hfraction : t.fraction = n * 10 ^ (9 - width)) :
    (format.write t = .str (String.ofList (written (before ++ [.run 's' length]) t ++
        markedDigits mark width n ++ written after t)) ↔
      mark = some '.' ∧ (width = 3 ∧ n ≠ 0 ∨ (width = 6 ∨ width = 9) ∧ n % 1000 ≠ 0) ∨
        mark ≠ some '.' ∧ width = 9) ∧
    ((∀ m, .run 'S' m ∉ before ++ after) →
      IsComplete (itemsOf (piecesOf format.pattern.toList)) t →
      0 ≤ t.date.year → t.date.year ≤ 9999 →
      (mark = some '.' ∨ width < 9 → ∀ c ∈ (written after t).head?, c.isDigit = false) →
      ∃ u, format.read? (String.ofList (written (before ++ [.run 's' length]) t ++
          markedDigits mark width n ++ written after t)) = some u ∧ u.seconds = t.seconds ∧
        (u.fraction = t.fraction ↔ mark = some '.' ∨ width = 9 ∨ n = 0)) := by
  refine ⟨write_fractionPieces_iff hformat hpieces hwidth hmost hn hfraction, ?_⟩
  intro honly hcomplete hyear hlast hafter
  refine ⟨_, read?_fractionPieces hformat hpieces hwidth hmost ht hn honly hcomplete hyear hlast
    hafter, rfl, ?_⟩
  rw [Instant.fraction_withFraction (nanosAt_lt hmost hn), hfraction, nanosAt]
  by_cases hmark : mark = some '.'
  · simp [hmark]
  · simp only [hmark, if_false, false_or]
    interval_cases width <;> omega

def commaFormat : DateFormat :=
  ⟨"yyyy-MM-dd'T'HH:mm:ss,SSS", .layout "%Y-%m-%dT%H:%M:%S,%f".toList true false⟩

/-- The pieces of `commaFormat` before its seconds. -/
def commaPieces : List Piece :=
  [.run 'y' 4, .literal '-', .run 'M' 2, .literal '-', .run 'd' 2, .literal 'T', .run 'H' 2,
    .literal ':', .run 'm' 2, .literal ':']

/-- After a comma three digits are neither written for three letters nor read as milliseconds. -/
theorem comma_digits_differ :
    ofText "yyyy-MM-dd'T'HH:mm:ss,SSS" = .ok commaFormat ∧
      commaFormat.write ⟨1709251200, 123000000⟩ ≠ .str "2024-03-01T00:00:00,123" ∧
      ∃ u, commaFormat.read? "2024-03-01T00:00:00,123" = some u ∧ u.seconds = 1709251200 ∧
        u.fraction ≠ 123000000 := by
  have hformat : ofText "yyyy-MM-dd'T'HH:mm:ss,SSS" = .ok commaFormat := by decide +kernel
  have hpieces : piecesOf commaFormat.pattern.toList =
      fractionPieces commaPieces 2 (some ',') 3 [] := by decide +kernel
  have ht : Instant.IsRepresented ⟨1709251200, 123000000⟩ := by
    constructor <;> decide
  have htext : String.ofList (written (commaPieces ++ [.run 's' 2]) ⟨1709251200, 123000000⟩ ++
      markedDigits (some ',') 3 123 ++ written [] ⟨1709251200, 123000000⟩) =
        "2024-03-01T00:00:00,123" := by decide +kernel
  have hitems : itemsOf (piecesOf commaFormat.pattern.toList) =
      Layout.items "%Y-%m-%dT%H:%M:%S,%f".toList := by decide +kernel
  have hcomplete : IsComplete (itemsOf (piecesOf commaFormat.pattern.toList))
      ⟨1709251200, 123000000⟩ := by
    rw [hitems]
    exact ⟨.inl (by decide +kernel), .inl (by decide +kernel), .inl (by decide +kernel),
      by decide +kernel, by decide +kernel⟩
  have hdigits := fraction_digits_iff hformat hpieces (by decide) (by decide) ht
    (by decide : 123 < 10 ^ 3) rfl
  rw [htext] at hdigits
  obtain ⟨u, hread, hseconds, hfraction⟩ := hdigits.2 (by simp [commaPieces]) hcomplete
    (by decide +kernel) (by decide +kernel) fun _ c (hc : none = some c) => by cases hc
  exact ⟨hformat, by simp [hdigits.1], u, hread, hseconds, fun h => by simpa using hfraction.mp h⟩

end DateFormat

end ReportSearch
