import ReportSearch.Number.Integer
import ReportSearch.Proofs.Text.Blank

/-!
# Digits that are read back

A text of digits is read up to the first character that is none, as the number that it was written
for. Numbers are written in decimal, with a minus in front of those below zero, and have no blanks
around them to be dropped.
-/

set_option autoImplicit false

namespace ReportSearch.Text

theorem isDigit_iff {c : Char} : c.isDigit = true ↔ '0' ≤ c ∧ c ≤ '9' := by
  simp [Char.isDigit, Char.le_def]

theorem digit?_of_isDigit {c : Char} (h : c.isDigit = true) : digit? c = some (c.toNat - 48) := by
  rw [digit?, if_pos (isDigit_iff.mp h)]

theorem digit?_isSome (c : Char) : (digit? c).isSome = c.isDigit := by
  by_cases h : c.isDigit = true
  · rw [digit?_of_isDigit h, h]
    rfl
  · rw [digit?, if_neg (mt isDigit_iff.mpr h), eq_false_of_ne_true h]
    rfl

theorem filterMap_digit? {cs : List Char} (hcs : ∀ c ∈ cs, c.isDigit = true) :
    cs.filterMap digit? = cs.map fun c => c.toNat - 48 := by
  induction cs with
  | nil => rfl
  | cons c cs ih =>
    have hc := digit?_of_isDigit (hcs c List.mem_cons_self)
    rw [List.filterMap_cons_some hc, List.map_cons,
      ih fun d hd => hcs d (List.mem_cons_of_mem c hd)]

theorem spanDigits_append {cs rest : List Char} (hcs : ∀ c ∈ cs, c.isDigit = true)
    (hrest : ∀ c ∈ rest.head?, c.isDigit = false) :
    spanDigits (cs ++ rest) = (cs.map fun c => c.toNat - 48, rest) := by
  have hsome : ∀ c ∈ cs, (digit? c).isSome = true := fun c hc =>
    (digit?_isSome c).trans (hcs c hc)
  have htake : rest.takeWhile (fun c => (digit? c).isSome) = [] := by
    cases rest with
    | nil => rfl
    | cons c rest =>
      have hc := hrest c rfl
      rw [List.takeWhile_cons, digit?_isSome, hc]
      rfl
  have hdrop : rest.dropWhile (fun c => (digit? c).isSome) = rest := by
    cases rest with
    | nil => rfl
    | cons c rest =>
      have hc := hrest c rfl
      rw [List.dropWhile_cons, digit?_isSome, hc]
      rfl
  rw [spanDigits, List.takeWhile_append_of_pos hsome, List.dropWhile_append_of_pos hsome, htake,
    hdrop, List.append_nil, filterMap_digit? hcs]

theorem natOfDigits_map (cs : List Char) :
    natOfDigits (cs.map fun c => c.toNat - 48) = Nat.ofDigitChars 10 cs 0 := by
  rw [natOfDigits, List.foldl_map, Nat.ofDigitChars_eq_foldl]
  rfl

theorem isDigit_of_mem_toDigits {n : Nat} {c : Char} (h : c ∈ Nat.toDigits 10 n) :
    c.isDigit = true :=
  Nat.isDigit_of_mem_toDigits (by decide) (by decide) h

theorem allDigits?_toDigits (n : Nat) : allDigits? (Nat.toDigits 10 n) = some n := by
  obtain ⟨d, digits, hdigits⟩ :
      ∃ d digits, (Nat.toDigits 10 n).map (fun c => c.toNat - 48) = d :: digits :=
    List.exists_cons_of_ne_nil (mt List.map_eq_nil_iff.mp Nat.toDigits_ne_nil)
  have hspan : spanDigits (Nat.toDigits 10 n) = (d :: digits, []) := by
    rw [← hdigits, ← spanDigits_append (fun _ hc => isDigit_of_mem_toDigits hc) (by simp),
      List.append_nil]
  unfold allDigits?
  rw [hspan]
  dsimp only
  rw [← hdigits, natOfDigits_map, Nat.ofDigitChars_ten_toDigits]

theorem cutSign_append {cs rest : List Char} (hcs : ∀ c ∈ cs, c.isDigit = true) (hne : cs ≠ []) :
    cutSign (cs ++ rest) = (false, cs ++ rest) := by
  obtain ⟨c, cs, rfl⟩ := List.exists_cons_of_ne_nil hne
  have hc := hcs c List.mem_cons_self
  unfold cutSign
  split
  · rename_i heq
    cases heq
    cases hc
  · rename_i heq
    cases heq
    cases hc
  · rfl

theorem cutSign_toDigits (n : Nat) :
    cutSign (Nat.toDigits 10 n) = (false, Nat.toDigits 10 n) := by
  have h : cutSign (Nat.toDigits 10 n ++ []) = (false, Nat.toDigits 10 n ++ []) :=
    cutSign_append (fun _ hc => isDigit_of_mem_toDigits hc) Nat.toDigits_ne_nil
  rwa [List.append_nil] at h

/-- Digits that something else follows are no number. -/
theorem readInt?_append {cs rest : List Char} (hcs : ∀ c ∈ cs, c.isDigit = true) (hne : cs ≠ [])
    (hrest : ∃ c ∈ rest.head?, c.isDigit = false) : readInt? (cs ++ rest) = none := by
  obtain ⟨c, hc, hdigit⟩ := hrest
  have hspan : spanDigits (cs ++ rest) = (cs.map fun c => c.toNat - 48, rest) := by
    refine spanDigits_append hcs fun d hd => ?_
    cases hc.symm.trans hd
    exact hdigit
  have hnone : allDigits? (cs ++ rest) = none := by
    obtain ⟨rest, rfl⟩ := List.head?_eq_some_iff.mp hc
    rw [allDigits?, hspan]
    split
    · rename_i heq
      cases (congrArg Prod.snd heq : c :: rest = [])
    · rfl
  rw [readInt?, cutSign_append hcs hne]
  simp only [hnone]
  rfl

theorem toList_repr (n : Nat) : n.repr.toList = Nat.toDigits 10 n := by
  rw [Nat.repr_eq_ofList_toDigits, String.toList_ofList]

theorem toList_toString (i : Int) :
    (toString i).toList =
      if 0 ≤ i then Nat.toDigits 10 i.toNat else '-' :: Nat.toDigits 10 (-i).toNat := by
  rw [Int.toString_eq_repr, Int.repr_eq_if]
  split
  · exact toList_repr i.toNat
  · rw [String.toList_append, toList_repr]
    rfl

theorem readInt?_toString (i : Int) : readInt? (toString i).toList = some i := by
  rw [toList_toString]
  by_cases hi : 0 ≤ i
  · have hvalue : (i.toNat : Int) = i := Int.toNat_of_nonneg hi
    rw [if_pos hi, readInt?, cutSign_toDigits]
    simp [allDigits?_toDigits, hvalue]
  · have hvalue : -((-i).toNat : Int) = i := by omega
    rw [if_neg hi, readInt?, cutSign]
    simp only [allDigits?_toDigits]
    exact congrArg some hvalue

theorem readInt64?_toString {i : Int} (hi : -0x8000000000000000 ≤ i ∧ i < 0x8000000000000000) :
    readInt64? (toString i) = some i := by
  rw [readInt64?, readInt?_toString, Option.bind_some, if_pos hi]

theorem isBlank_of_isDigit {c : Char} (h : c.isDigit = true) : isBlank c = false := by
  obtain ⟨hfrom, hto⟩ := isDigit_iff.mp h
  have hleast : 48 ≤ c.toNat := hfrom
  have hmost : c.toNat ≤ 57 := hto
  simp only [isBlank, Bool.or_eq_false_iff, Bool.and_eq_false_iff, decide_eq_false_iff_not]
  omega

theorem trim_toString (i : Int) : trim (toString i) = toString i := by
  apply trim_of_not_blank
  rw [toList_toString]
  intro c hc
  split at hc
  · exact isBlank_of_isDigit (isDigit_of_mem_toDigits hc)
  · rcases List.mem_cons.mp hc with rfl | hc
    · rfl
    · exact isBlank_of_isDigit (isDigit_of_mem_toDigits hc)

end ReportSearch.Text
