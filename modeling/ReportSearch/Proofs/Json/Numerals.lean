import ReportSearch.Proofs.Json.Numbers

/-!
# Numbers that are read

A numeral that has a value denotes a number that is represented: its significand fits 64 bits, and
scaling it down never leads out of the range. So the numbers of a value that is read from a text are
all represented.
-/

set_option autoImplicit false

namespace ReportSearch

namespace Numeral

theorem gather_le {significand : Nat} (h : significand ≤ Number.greatestNat64)
    (digits : List Nat) : (gather significand digits).1 ≤ Number.greatestNat64 := by
  induction digits generalizing significand with
  | nil => exact h
  | cons digit rest ih =>
    unfold gather
    split
    · rename_i hfits
      exact ih hfits
    · exact h

theorem rank_ofNat_le {n : Nat} (h : n ≤ Number.greatestNat64) :
    (Double.ofNat n).rank ≤ (64 + 1026) * Double.hidden := by
  refine Double.rank_ofRatio_le _ Nat.one_pos (Double.log2_le_of_le_mul ?_)
  calc n ≤ Number.greatestNat64 := h
    _ ≤ 2 ^ 64 * 1 := by decide

theorem one_le_powerOfTen {power : Nat} (h : power ≤ tablePower) :
    (powerOfTen power).ratio.2 ≤ (powerOfTen power).ratio.1 := by
  have hall : ∀ power < tablePower + 1,
      (powerOfTen power).ratio.2 ≤ (powerOfTen power).ratio.1 := by decide +kernel
  exact hall power (Nat.lt_succ_of_le h)

/-- Each division may round up, by less than four places. -/
theorem rank_scaleDown_le (fuel : Nat) {x : Double} {places : Nat} (power : Nat)
    (h : x.rank ≤ (places + 1026) * Double.hidden) :
    (scaleDown fuel x power).rank ≤ (places + 4 * fuel + 1026) * Double.hidden := by
  induction fuel generalizing x places power with
  | zero => exact h
  | succ fuel ih =>
    have hwithin := Double.isWithin_of_rank_le h
    unfold scaleDown
    split
    · rename_i htable
      have hdiv := Double.rank_div_le hwithin (one_le_powerOfTen htable)
      exact hdiv.trans (Nat.mul_le_mul_right _ (by omega))
    · split
      · exact h.trans (Nat.mul_le_mul_right _ (by omega))
      · have hdiv := Double.rank_div_le hwithin (one_le_powerOfTen (Nat.le_refl tablePower))
        exact (ih (power - tablePower) hdiv).trans (Nat.mul_le_mul_right _ (by omega))

theorem isFinite_of_scale? {significand : Nat} {power : Int} {x : Double}
    (hsignificand : significand ≤ Number.greatestNat64) (h : scale? significand power = some x) :
    x.isFinite = true := by
  have hrank := rank_ofNat_le hsignificand
  unfold scale? at h
  dsimp only at h
  split at h
  · cases h
    exact Double.isFinite_of_rank_le (by decide) (rank_scaleDown_le 8 power.natAbs hrank)
  · split at h
    · split at h
      · rename_i hfinite
        cases h
        exact hfinite
      · cases h
    · split at h
      · cases h
        exact Double.isFinite_of_rank_le (by decide) hrank
      · cases h

theorem isFinite_of_double? {n : Numeral} {x : Double} (h : n.double? = some x) :
    x.isFinite = true := by
  have hsignificand := gather_le (gather_le (Nat.zero_le _) n.whole) n.fraction
  unfold double? at h
  dsimp only at h
  obtain ⟨magnitude, hmagnitude, rfl⟩ := Option.map_eq_some_iff.mp h
  have hfinite : magnitude.isFinite = true := by
    split at hmagnitude
    · exact isFinite_of_scale? hsignificand hmagnitude
    · split at hmagnitude
      · split at hmagnitude
        · cases hmagnitude
          decide
        · cases hmagnitude
      · exact isFinite_of_scale? hsignificand hmagnitude
  split
  · exact hfinite
  · exact hfinite

theorem isRepresented_of_value? {n : Numeral} {number : Number} (h : n.value? = some number) :
    number.IsRepresented := by
  unfold value? at h
  dsimp only at h
  split at h
  · rename_i hwhole
    simp only [Bool.and_eq_true, decide_eq_true_iff] at hwhole
    have hmagnitude := hwhole.2
    have hleast : Number.leastInt64 = -0x8000000000000000 := rfl
    split at h
    · cases h
      exact ⟨by omega, by omega⟩
    · split at h
      · cases h
        exact Double.isFinite_of_rank_le (by decide) (rank_ofNat_le hmagnitude)
      · cases h
        exact ⟨by omega, by omega⟩
  · obtain ⟨x, hx, rfl⟩ := Option.map_eq_some_iff.mp h
    exact isFinite_of_double? hx

end Numeral

namespace Json

theorem numbersRepresented_arr_iff {items : List Json} :
    (arr items).NumbersRepresented ↔ ∀ item ∈ items, item.NumbersRepresented := by
  unfold NumbersRepresented
  rw [numbers]
  exact forall_numbersOfItems

theorem numbersRepresented_obj_iff {members : List (String × Json)} :
    (obj members).NumbersRepresented ↔ ∀ member ∈ members, member.2.NumbersRepresented := by
  unfold NumbersRepresented
  rw [numbers]
  exact forall_numbersOfMembers

theorem mem_insertMember {key : String} {value : Json} {members : List (String × Json)}
    {member : String × Json} (h : member ∈ insertMember key value members) :
    member.2 = value ∨ member ∈ members := by
  induction members with
  | nil =>
    rw [List.mem_singleton.mp h]
    exact Or.inl rfl
  | cons first rest ih =>
    obtain ⟨k, v⟩ := first
    unfold insertMember at h
    split at h
    · rcases List.mem_cons.mp h with rfl | h
      · exact Or.inl rfl
      · exact Or.inr (List.mem_cons_of_mem _ h)
    · rcases List.mem_cons.mp h with rfl | h
      · exact Or.inr List.mem_cons_self
      · exact (ih h).imp_right (List.mem_cons_of_mem _)

end Json

namespace Source

/-- Whatever value the source is of has only numbers that are represented. -/
def Represented (source : Source) : Prop :=
  ∀ value, source.json? = some value → value.NumbersRepresented

theorem numbersRepresented_of_jsonItems? {items : List Source} {values : List Json}
    (hitems : ∀ item ∈ items, item.Represented) (h : jsonItems? items = some values) :
    ∀ value ∈ values, value.NumbersRepresented := by
  induction items generalizing values with
  | nil =>
    cases h
    simp
  | cons item rest ih =>
    simp only [jsonItems?, Option.bind_eq_bind, Option.bind_eq_some_iff, Option.pure_def,
      Option.some.injEq] at h
    obtain ⟨value, hvalue, others, hothers, rfl⟩ := h
    rw [List.forall_mem_cons] at hitems ⊢
    exact ⟨hitems.1 value hvalue, ih hitems.2 hothers⟩

theorem numbersRepresented_of_jsonMembers? {before found : List (String × Json)}
    {members : List (Option String × Source)}
    (hmembers : ∀ member ∈ members, member.2.Represented)
    (hbefore : ∀ member ∈ before, member.2.NumbersRepresented)
    (h : jsonMembers? before members = some found) :
    ∀ member ∈ found, member.2.NumbersRepresented := by
  induction members generalizing before with
  | nil =>
    cases h
    exact hbefore
  | cons member rest ih =>
    obtain ⟨key?, source⟩ := member
    simp only [jsonMembers?, Option.bind_eq_bind, Option.bind_eq_some_iff] at h
    obtain ⟨key, rfl, value, hvalue, h⟩ := h
    rw [List.forall_mem_cons] at hmembers
    refine ih hmembers.2 (fun member hmember => ?_) h
    rcases Json.mem_insertMember hmember with heq | hmember
    · rw [heq]
      exact hmembers.1 value hvalue
    · exact hbefore member hmember

theorem represented_arr {tooDeep closed : Bool} {items : List Source}
    (hitems : ∀ item ∈ items, item.Represented) : (arr tooDeep items closed).Represented := by
  intro value h
  obtain ⟨values, hvalues, rfl⟩ := json?_arr_eq_some h
  exact Json.numbersRepresented_arr_iff.mpr (numbersRepresented_of_jsonItems? hitems hvalues)

theorem represented_obj {tooDeep closed : Bool} {members : List (Option String × Source)}
    (hmembers : ∀ member ∈ members, member.2.Represented) :
    (obj tooDeep members closed).Represented := by
  intro value h
  obtain ⟨found, hfound, rfl⟩ := json?_obj_eq_some h
  exact Json.numbersRepresented_obj_iff.mpr
    (numbersRepresented_of_jsonMembers? hmembers (by simp) hfound)

theorem represented_num (n : Numeral) : (num n.value?).Represented := by
  intro value h
  obtain ⟨number, hnumber, rfl⟩ := Option.map_eq_some_iff.mp h
  intro other hother
  rw [List.mem_singleton.mp hother]
  exact Numeral.isRepresented_of_value? hnumber

theorem represented_null : null.Represented := by
  intro value h
  cases h
  simp [Json.NumbersRepresented, Json.numbers]

theorem represented_bool (b : Bool) : (bool b).Represented := by
  intro value h
  cases h
  simp [Json.NumbersRepresented, Json.numbers]

theorem represented_str (s : Option String) : (str s).Represented := by
  intro value h
  obtain ⟨text, -, rfl⟩ := Option.map_eq_some_iff.mp h
  simp [Json.NumbersRepresented, Json.numbers]

theorem represented_broken : broken.Represented := by
  intro value h
  cases h

/-- By induction on the fuel, which values, items and members share. -/
theorem represented_read (fuel : Nat) :
    (∀ depth cs, (readValue fuel depth cs).1.Represented) ∧
    (∀ depth cs, ∀ item ∈ (readItems fuel depth cs).1, item.Represented) ∧
    (∀ depth cs, ∀ member ∈ (readMembers fuel depth cs).1, member.2.Represented) := by
  induction fuel with
  | zero =>
    refine ⟨fun _ _ => represented_broken, ?_, ?_⟩
    · intro depth cs item hitem
      rw [List.mem_singleton.mp hitem]
      exact represented_broken
    · intro depth cs member hmember
      cases hmember
  | succ fuel ih =>
    obtain ⟨hvalue, hitems, hmembers⟩ := ih
    refine ⟨?_, ?_, ?_⟩
    · intro depth cs
      unfold readValue
      split
      · exact represented_null
      · exact represented_bool true
      · exact represented_bool false
      · split
        · exact represented_str _
        · exact represented_broken
      · dsimp only
        split
        · exact represented_arr (by simp)
        · exact represented_arr (hitems _ _)
      · dsimp only
        split
        · exact represented_obj (by simp)
        · exact represented_obj (hmembers _ _)
      · split
        · exact represented_num _
        · exact represented_broken
    · intro depth cs
      unfold readItems
      dsimp only
      split
      · exact List.forall_mem_cons.mpr ⟨hvalue _ _, hitems _ _⟩
      · exact List.forall_mem_singleton.mpr (hvalue _ _)
      · exact List.forall_mem_singleton.mpr (hvalue _ _)
    · intro depth cs
      unfold readMembers
      split
      · split
        · exact List.forall_mem_nil _
        · split
          · dsimp only
            split
            · exact List.forall_mem_cons.mpr ⟨hvalue _ _, hmembers _ _⟩
            · exact List.forall_mem_singleton.mpr (hvalue _ _)
            · exact List.forall_mem_singleton.mpr (hvalue _ _)
          · exact List.forall_mem_singleton.mpr represented_broken
      · exact List.forall_mem_nil _

end Source

theorem Json.numbersRepresented_of_parse? {text : String} {value : Json}
    (h : Json.parse? text = some value) : value.NumbersRepresented := by
  simp only [Json.parse?] at h
  split at h
  · exact (Source.represented_read _).1 _ _ value h
  · cases h

end ReportSearch
