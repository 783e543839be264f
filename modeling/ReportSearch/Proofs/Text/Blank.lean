import Mathlib.Data.List.DropRight
import Mathlib.Data.List.TakeWhile
import ReportSearch.Text.Blank

/-!
# Trimmed and divided texts

A text without blanks is left as it is by trimming. Trimming the start of two texts in a row trims
the first of them, and the second only if nothing of the first remains; so it is with the end. What
was trimmed once stays as it is. A text divided at a separator comes back from its pieces, and the
pieces from the text.
-/

set_option autoImplicit false

namespace ReportSearch.Text

variable {cs before after : List Char}

theorem mem_of_mem_head?_append (hne : cs ≠ []) : ∀ c ∈ (cs ++ after).head?, c ∈ cs := by
  intro c hc
  rw [List.head?_append, Option.or_of_isSome (by simpa using hne)] at hc
  exact List.mem_of_mem_head? hc

theorem trimStart_eq_nil (h : ∀ c ∈ cs, isBlank c = true) : trimStart cs = [] :=
  List.dropWhile_eq_nil_iff.mpr h

theorem trimStart_append :
    trimStart (before ++ after) =
      if (trimStart before).isEmpty then trimStart after else trimStart before ++ after :=
  List.dropWhile_append

theorem trimStart_of_head (h : ∀ c ∈ cs.head?, isBlank c = false) : trimStart cs = cs := by
  cases cs with
  | nil => rfl
  | cons c cs =>
    have hc := h c rfl
    rw [trimStart, List.dropWhile_cons, hc]
    rfl

theorem trimStart_append_of_head (h : ∀ c ∈ after.head?, isBlank c = false) :
    trimStart (before ++ after) = trimStart before ++ after := by
  rw [trimStart_append]
  split
  · rename_i hempty
    rw [trimStart_of_head h, List.isEmpty_iff.mp hempty, List.nil_append]
  · rfl

theorem trimEnd_eq_reverse (cs : List Char) : trimEnd cs = (trimStart cs.reverse).reverse := rfl

theorem trimEnd_eq_nil (h : ∀ c ∈ cs, isBlank c = true) : trimEnd cs = [] := by
  rw [trimEnd_eq_reverse, trimStart_eq_nil fun c hc => h c (List.mem_reverse.mp hc)]
  rfl

theorem trimEnd_append :
    trimEnd (before ++ after) =
      if (trimEnd after).isEmpty then trimEnd before else before ++ trimEnd after := by
  simp only [trimEnd_eq_reverse, List.reverse_append, trimStart_append, List.isEmpty_reverse]
  split
  · rfl
  · rw [List.reverse_append, List.reverse_reverse]

theorem trimEnd_of_getLast (h : ∀ c ∈ cs.getLast?, isBlank c = false) : trimEnd cs = cs := by
  rw [trimEnd_eq_reverse, trimStart_of_head, List.reverse_reverse]
  intro c hc
  exact h c (by rwa [List.head?_reverse] at hc)

theorem trimEnd_append_of_getLast (h : ∀ c ∈ before.getLast?, isBlank c = false) :
    trimEnd (before ++ after) = before ++ trimEnd after := by
  rw [trimEnd_append]
  split
  · rename_i hempty
    rw [trimEnd_of_getLast h, List.isEmpty_iff.mp hempty, List.append_nil]
  · rfl

theorem trimEnd_prefix (cs : List Char) : trimEnd cs <+: cs := by
  have h := (List.dropWhile_suffix isBlank (l := cs.reverse)).reverse
  rwa [List.reverse_reverse] at h

theorem head?_trimEnd : ∀ c ∈ (trimEnd cs).head?, c ∈ cs.head? := by
  intro c hc
  obtain ⟨blanks, hcs⟩ := trimEnd_prefix cs
  rw [← hcs, List.head?_append, hc]
  rfl

theorem isBlank_of_mem_head?_trimStart : ∀ c ∈ (trimStart cs).head?, isBlank c = false := by
  intro c hc
  have hhead := List.head?_dropWhile_not isBlank cs
  rw [trimStart] at hc
  rwa [hc] at hhead

theorem trimEnd_trimEnd : trimEnd (trimEnd cs) = trimEnd cs := List.rdropWhile_idempotent isBlank cs

theorem trimChars_trimChars : trimChars (trimChars cs) = trimChars cs := by
  have hstart : trimStart (trimChars cs) = trimChars cs := trimStart_of_head fun c hc =>
    isBlank_of_mem_head?_trimStart c (head?_trimEnd c hc)
  rw [trimChars, hstart, trimChars, trimEnd_trimEnd]

theorem trim_trim (s : String) : trim (trim s) = trim s := by
  rw [trim, trim, String.toList_ofList, trimChars_trimChars]

theorem trim_of_not_blank {s : String} (h : ∀ c ∈ s.toList, isBlank c = false) : trim s = s := by
  have hstart : trimStart s.toList = s.toList := trimStart_of_head fun c hc =>
    h c (List.mem_of_mem_head? hc)
  have hend : trimEnd s.toList = s.toList := trimEnd_of_getLast fun c hc =>
    h c (List.mem_of_getLast? hc)
  rw [trim, trimChars, hstart, hend, String.ofList_toList]

/-- A text with a piece that has no blanks is trimmed before and after that piece. -/
theorem trimChars_append (h : ∀ c ∈ cs, isBlank c = false) (hne : cs ≠ []) :
    trimChars (before ++ cs ++ after) = trimStart before ++ cs ++ trimEnd after := by
  have hhead : ∀ c ∈ (cs ++ after).head?, isBlank c = false := fun c hc =>
    h c (mem_of_mem_head?_append hne c hc)
  have hlast : ∀ c ∈ (trimStart before ++ cs).getLast?, isBlank c = false := by
    intro c hc
    rw [List.getLast?_append, Option.or_of_isSome (by simpa using hne)] at hc
    exact h c (List.mem_of_getLast? hc)
  rw [trimChars, List.append_assoc, trimStart_append_of_head hhead, ← List.append_assoc,
    trimEnd_append_of_getLast hlast]

section Pieces

variable {c : Char}

theorem splitOnChar_eq_splitOn (c : Char) (cs : List Char) : splitOnChar c cs = cs.splitOn c := by
  induction cs with
  | nil => exact (List.splitOn_nil c).symm
  | cons d ds ih =>
    rw [splitOnChar, ih, List.splitOn_cons_eq_if_modifyHead]
    by_cases hd : d = c
    · simp [hd]
    · simp only [beq_iff_eq, hd, if_false]
      cases hpieces : ds.splitOn c with
      | nil => exact absurd hpieces (List.splitOn_ne_nil c ds)
      | cons piece pieces => rfl

theorem splitOnChar_intercalate {pieces : List (List Char)} (hne : pieces ≠ [])
    (h : ∀ piece ∈ pieces, c ∉ piece) : splitOnChar c ([c].intercalate pieces) = pieces := by
  rw [splitOnChar_eq_splitOn]
  exact List.splitOn_intercalate c h hne

theorem splitOnChar_toList_intercalate {separator : String} (hseparator : separator.toList = [c])
    {pieces : List String} (hne : pieces ≠ []) (h : ∀ piece ∈ pieces, c ∉ piece.toList) :
    splitOnChar c (separator.intercalate pieces).toList = pieces.map String.toList := by
  rw [String.toList_intercalate, hseparator]
  apply splitOnChar_intercalate
  · exact mt List.map_eq_nil_iff.mp hne
  · intro chars hchars
    obtain ⟨piece, hpiece, rfl⟩ := List.mem_map.mp hchars
    exact h piece hpiece

theorem notMem_of_mem_splitOnChar : ∀ piece ∈ splitOnChar c cs, c ∉ piece := by
  fun_induction splitOnChar c cs with
  | case1 => simp
  | case2 ds ih =>
    intro piece hpiece
    rcases List.mem_cons.mp hpiece with rfl | hpiece
    · exact List.not_mem_nil
    · exact ih piece hpiece
  | case3 d ds hd hpieces ih =>
    intro piece hpiece
    obtain rfl := List.mem_singleton.mp hpiece
    simpa using Ne.symm hd
  | case4 d ds hd piece pieces hpieces ih =>
    rw [hpieces, List.forall_mem_cons] at ih
    intro other hother
    rcases List.mem_cons.mp hother with rfl | hother
    · simpa using ⟨Ne.symm hd, ih.1⟩
    · exact ih.2 other hother

theorem intercalate_splitOnChar : [c].intercalate (splitOnChar c cs) = cs := by
  rw [splitOnChar_eq_splitOn]
  exact List.intercalate_splitOn c

end Pieces

end ReportSearch.Text
