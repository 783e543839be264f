import Mathlib.Data.List.Induction
import ReportSearch.Catalog.Registry

/-!
# Overlapping refreshes

A refresh reads its source and installs what it read, and in between the files may change and other
refreshes may read and install. Refreshes are numbered in the order in which they read. They install
in this order exactly when none of them installs after it was overtaken; nothing here prevents that.
-/

set_option autoImplicit false

namespace ReportSearch

inductive RefreshStep where
  | rewrite (files : Files)
  /-- The next refresh reads the source. -/
  | read
  /-- A refresh installs what it read; one that has nothing to install is over. -/
  | install (number : Nat)

/-- A registry while refreshes are under way. -/
structure Refreshes where
  registry : Registry
  files : Files
  /-- What the refreshes read, by their numbers. -/
  readings : List (Except CatalogFault Mapping)
  /-- The refreshes that have installed, in the order of their installations. -/
  installed : List Nat

namespace Refreshes

def start (registry : Registry) (files : Files) : Refreshes := ⟨registry, files, [], []⟩

def after (state : Refreshes) : RefreshStep → Refreshes
  | .rewrite files => { state with files }
  | .read => { state with readings := state.readings ++ [state.registry.source.read state.files] }
  | .install n =>
    match state.readings[n]? with
    | some (.ok mapping) =>
      if n ∈ state.installed then state
      else { state with
        registry := state.registry.install mapping, installed := state.installed ++ [n] }
    | _ => state

def run (state : Refreshes) (steps : List RefreshStep) : Refreshes := steps.foldl after state

/-- A refresh that has read a mapping and has not installed it. -/
def Waits (state : Refreshes) (n : Nat) : Prop :=
  (∃ mapping, state.readings[n]? = some (.ok mapping)) ∧ n ∉ state.installed

/-- A refresh is overtaken when one that read after it installs while it waits. -/
def Overtaken (state : Refreshes) (steps : List RefreshStep) (a : Nat) : Prop :=
  ∃ before b rest, steps = before ++ .install b :: rest ∧ a < b ∧
    (state.run before).Waits a ∧ (state.run before).Waits b

/-- No refresh reads while another one waits. -/
def Serial (state : Refreshes) (steps : List RefreshStep) : Prop :=
  ∀ before rest, steps = before ++ .read :: rest → ∀ n, ¬(state.run before).Waits n

/-- The current catalog is what the last refresh to install had read, under a version that counts
the installations. -/
structure ShowsLast (registry : Registry) (state : Refreshes) : Prop where
  version : state.registry.current.version = registry.current.version + state.installed.length
  unchanged : state.installed = [] → state.registry.current = registry.current
  last : ∀ earlier n, state.installed = earlier ++ [n] →
    ∃ mapping, state.readings[n]? = some (.ok mapping) ∧
      state.registry.current = Catalog.ofMapping mapping state.registry.current.version

theorem run_append (state : Refreshes) (steps others : List RefreshStep) :
    state.run (steps ++ others) = (state.run steps).run others :=
  List.foldl_append

theorem run_concat (state : Refreshes) (steps : List RefreshStep) (step : RefreshStep) :
    state.run (steps ++ [step]) = (state.run steps).after step :=
  state.run_append steps [step]

variable {state : Refreshes} {n : Nat}

theorem Waits.after_install (h : state.Waits n) : ∃ mapping, state.readings[n]? = some (.ok mapping) ∧
    state.after (.install n) = { state with
      registry := state.registry.install mapping, installed := state.installed ++ [n] } := by
  obtain ⟨⟨mapping, hread⟩, hnew⟩ := h
  refine ⟨mapping, hread, ?_⟩
  simp only [after, hread, if_neg hnew]

theorem after_install_of_not_waits (h : ¬state.Waits n) : state.after (.install n) = state := by
  simp only [after]
  split
  · rename_i mapping hread
    split
    · rfl
    · rename_i hnew
      exact absurd ⟨⟨mapping, hread⟩, hnew⟩ h
  · rfl

theorem after_cases (state : Refreshes) (step : RefreshStep) :
    ((state.after step).readings = state.readings ∧
      (state.after step).installed = state.installed) ∨
    (step = .read ∧ (state.after step).installed = state.installed ∧
      (state.after step).readings = state.readings ++ [state.registry.source.read state.files]) ∨
    ∃ n, step = .install n ∧ state.Waits n ∧ (state.after step).readings = state.readings ∧
      (state.after step).installed = state.installed ++ [n] := by
  cases step with
  | rewrite files => exact .inl ⟨rfl, rfl⟩
  | read => exact .inr (.inl ⟨rfl, rfl, rfl⟩)
  | install n =>
    by_cases h : state.Waits n
    · obtain ⟨mapping, -, heq⟩ := h.after_install
      rw [heq]
      exact .inr (.inr ⟨n, rfl, h, rfl, rfl⟩)
    · rw [after_install_of_not_waits h]
      exact .inl ⟨rfl, rfl⟩

theorem readings_prefix_after (state : Refreshes) (step : RefreshStep) :
    state.readings <+: (state.after step).readings := by
  rcases state.after_cases step with ⟨h, -⟩ | ⟨-, -, h⟩ | ⟨n, -, -, h, -⟩
  · exact h.symm ▸ List.prefix_rfl
  · exact ⟨_, h.symm⟩
  · exact h.symm ▸ List.prefix_rfl

theorem installed_prefix_after (state : Refreshes) (step : RefreshStep) :
    state.installed <+: (state.after step).installed := by
  rcases state.after_cases step with ⟨-, h⟩ | ⟨-, h, -⟩ | ⟨n, -, -, -, h⟩
  · exact h.symm ▸ List.prefix_rfl
  · exact h.symm ▸ List.prefix_rfl
  · exact ⟨_, h.symm⟩

theorem readings_prefix_run (state : Refreshes) (steps : List RefreshStep) :
    state.readings <+: (state.run steps).readings := by
  induction steps generalizing state with
  | nil => exact List.prefix_refl _
  | cons step rest ih => exact (state.readings_prefix_after step).trans (ih _)

theorem installed_prefix_run (state : Refreshes) (steps : List RefreshStep) :
    state.installed <+: (state.run steps).installed := by
  induction steps generalizing state with
  | nil => exact List.prefix_refl _
  | cons step rest ih => exact (state.installed_prefix_after step).trans (ih _)

theorem getElem?_run {reading : Except CatalogFault Mapping} (h : state.readings[n]? = some reading)
    (steps : List RefreshStep) : (state.run steps).readings[n]? = some reading := by
  obtain ⟨later, hlater⟩ := state.readings_prefix_run steps
  have hn : n < state.readings.length := (List.getElem?_eq_some_iff.mp h).1
  rw [← hlater, List.getElem?_append_left hn]
  exact h

theorem Waits.lt (h : state.Waits n) : n < state.readings.length := by
  obtain ⟨⟨mapping, hread⟩, -⟩ := h
  exact (List.getElem?_eq_some_iff.mp hread).1

/-- A refresh that waits has waited ever since it read. -/
theorem Waits.of_run {steps : List RefreshStep} (h : (state.run steps).Waits n)
    (hread : n < state.readings.length) : state.Waits n := by
  obtain ⟨⟨mapping, hmapping⟩, hnew⟩ := h
  have hsame := getElem?_run (List.getElem?_eq_getElem hread) steps
  rw [hmapping] at hsame
  refine ⟨⟨mapping, ?_⟩, fun hmem => hnew ((state.installed_prefix_run steps).subset hmem)⟩
  rw [List.getElem?_eq_getElem hread, hsame]

theorem Overtaken.append {steps : List RefreshStep} {a : Nat} (h : state.Overtaken steps a)
    (others : List RefreshStep) : state.Overtaken (steps ++ others) a := by
  obtain ⟨before, b, rest, rfl, hab, ha, hb⟩ := h
  exact ⟨before, b, rest ++ others, by simp, hab, ha, hb⟩

section Start

variable {registry : Registry} {files : Files} {steps : List RefreshStep}

theorem exists_install (h : n ∈ ((start registry files).run steps).installed) :
    ∃ before rest, steps = before ++ .install n :: rest ∧
      ((start registry files).run before).Waits n := by
  induction steps using List.reverseRecOn with
  | nil => cases h
  | append_singleton steps step ih =>
    have hbefore : n ∈ ((start registry files).run steps).installed →
        ∃ before rest, steps ++ [step] = before ++ .install n :: rest ∧
          ((start registry files).run before).Waits n := by
      intro h
      obtain ⟨before, rest, rfl, hwaits⟩ := ih h
      exact ⟨before, rest ++ [step], by simp, hwaits⟩
    rw [run_concat] at h
    rcases ((start registry files).run steps).after_cases step with
      ⟨-, hinst⟩ | ⟨-, hinst, -⟩ | ⟨m, rfl, hwaits, -, hinst⟩
    · rw [hinst] at h
      exact hbefore h
    · rw [hinst] at h
      exact hbefore h
    · rw [hinst] at h
      rcases List.mem_append.mp h with h | h
      · exact hbefore h
      · rw [List.mem_singleton.mp h]
        exact ⟨steps, [], rfl, hwaits⟩

/-- Each reading is a step, numbered by the readings before it. -/
theorem exists_read (h : n < ((start registry files).run steps).readings.length) :
    ∃ before rest, steps = before ++ .read :: rest ∧
      ((start registry files).run before).readings.length = n := by
  induction steps using List.reverseRecOn with
  | nil => cases h
  | append_singleton steps step ih =>
    have hbefore : n < ((start registry files).run steps).readings.length →
        ∃ before rest, steps ++ [step] = before ++ .read :: rest ∧
          ((start registry files).run before).readings.length = n := by
      intro h
      obtain ⟨before, rest, rfl, hlength⟩ := ih h
      exact ⟨before, rest ++ [step], by simp, hlength⟩
    rw [run_concat] at h
    rcases ((start registry files).run steps).after_cases step with
      ⟨hread, -⟩ | ⟨rfl, -, hread⟩ | ⟨m, -, -, hread, -⟩
    · rw [hread] at h
      exact hbefore h
    · rw [hread, List.length_append, List.length_singleton] at h
      by_cases hn : n < ((start registry files).run steps).readings.length
      · exact hbefore hn
      · exact ⟨steps, [], rfl, by omega⟩
    · rw [hread] at h
      exact hbefore h

theorem getElem?_of_installed (h : n ∈ ((start registry files).run steps).installed) :
    ∃ mapping, ((start registry files).run steps).readings[n]? = some (.ok mapping) := by
  obtain ⟨before, rest, rfl, ⟨mapping, hread⟩, -⟩ := exists_install h
  refine ⟨mapping, ?_⟩
  rw [run_append]
  exact getElem?_run hread _

theorem installed_append_of_waits {before : List RefreshStep} {b : Nat}
    (hb : (state.run before).Waits b) (rest : List RefreshStep) : ∃ later,
      (state.run (before ++ .install b :: rest)).installed =
        (state.run before).installed ++ [b] ++ later := by
  obtain ⟨mapping, -, hafter⟩ := hb.after_install
  obtain ⟨later, hlater⟩ := installed_prefix_run ((state.run before).after (.install b)) rest
  have hown : ((state.run before).after (.install b)).installed =
      (state.run before).installed ++ [b] := by rw [hafter]
  refine ⟨later, ?_⟩
  rw [← hown, run_append]
  exact hlater.symm

/-- A refresh that was overtaken and installs still does so after the one that read later. -/
theorem not_pairwise_of_overtaken {a : Nat} (hover : state.Overtaken steps a)
    (ha : a ∈ (state.run steps).installed) : ¬(state.run steps).installed.Pairwise (· < ·) := by
  intro hsorted
  obtain ⟨before, b, rest, rfl, hab, hwa, hwb⟩ := hover
  obtain ⟨later, hlater⟩ := installed_append_of_waits hwb rest
  rw [hlater] at ha hsorted
  rcases List.mem_append.mp ha with ha | ha
  · rcases List.mem_append.mp ha with ha | ha
    · exact hwa.2 ha
    · have heq := List.mem_singleton.mp ha
      omega
  · have hlt := (List.pairwise_append.mp hsorted).2.2 b (by simp) a ha
    omega

theorem pairwise_of_not_overtaken
    (h : ∀ a ∈ ((start registry files).run steps).installed,
      ¬(start registry files).Overtaken steps a) :
    ((start registry files).run steps).installed.Pairwise (· < ·) := by
  -- A refresh that installs now follows those that installed before, or it was waiting when one of
  -- them with a greater number did.
  induction steps using List.reverseRecOn with
  | nil => exact .nil
  | append_singleton steps step ih =>
    have hkept := installed_prefix_after ((start registry files).run steps) step
    rw [run_concat] at h ⊢
    have hsorted : ((start registry files).run steps).installed.Pairwise (· < ·) := by
      apply ih
      intro a ha hover
      exact h a (hkept.subset ha) (hover.append [step])
    rcases ((start registry files).run steps).after_cases step with
      ⟨-, hinst⟩ | ⟨-, hinst, -⟩ | ⟨n, rfl, hwaits, -, hinst⟩
    · rw [hinst]
      exact hsorted
    · rw [hinst]
      exact hsorted
    · rw [hinst] at h ⊢
      refine List.pairwise_append.mpr ⟨hsorted, List.pairwise_singleton _ _, ?_⟩
      intro m hm k hk
      rw [List.mem_singleton.mp hk]
      by_contra hlt
      have hne : m ≠ n := fun heq => hwaits.2 (heq ▸ hm)
      obtain ⟨before, rest, rfl, hwaited⟩ := exists_install hm
      have hread := hwaited.lt
      rw [run_append] at hwaits
      have hn : ((start registry files).run before).Waits n := hwaits.of_run (by omega)
      exact h n (by simp) ⟨before, m, rest ++ [.install n], by simp, by omega, hn, hwaited⟩

/-- The later of two refreshes that both wait has read while the earlier one waited. -/
theorem not_overtaken_of_serial (h : (start registry files).Serial steps) (a : Nat) :
    ¬(start registry files).Overtaken steps a := by
  rintro ⟨before, b, rest, rfl, hab, ha, hb⟩
  obtain ⟨first, between, rfl, hlength⟩ := exists_read hb.lt
  rw [run_append] at ha
  have hwaited : ((start registry files).run first).Waits a := ha.of_run (by omega)
  exact h first (between ++ .install b :: rest) (by simp) a hwaited

theorem showsLast_run : ShowsLast registry ((start registry files).run steps) := by
  induction steps using List.reverseRecOn with
  | nil => exact ⟨rfl, fun _ => rfl, fun earlier n h => absurd h (by simp [run, start])⟩
  | append_singleton steps step ih =>
    obtain ⟨hversion, hnone, hlast⟩ := ih
    rw [run_concat]
    cases step with
    | rewrite files => exact ⟨hversion, hnone, hlast⟩
    | read =>
      refine ⟨hversion, hnone, ?_⟩
      intro earlier n h
      obtain ⟨mapping, hread, hcurrent⟩ := hlast earlier n h
      exact ⟨mapping, getElem?_run hread [.read], hcurrent⟩
    | install n =>
      by_cases h : ((start registry files).run steps).Waits n
      · obtain ⟨mapping, hread, hafter⟩ := h.after_install
        rw [hafter]
        refine ⟨?_, fun hnil => absurd hnil (by simp), ?_⟩
        · rw [List.length_append, ← Nat.add_assoc, ← hversion]
          rfl
        · intro earlier m hm
          obtain ⟨-, hm⟩ := List.append_inj' hm rfl
          cases hm
          exact ⟨mapping, hread, rfl⟩
      · rw [after_install_of_not_waits h]
        exact ⟨hversion, hnone, hlast⟩

theorem registry_run_read_install :
    let ended := (start registry files).run steps
    (ended.run [.read, .install ended.readings.length]).registry =
      ended.registry.afterRefresh ended.files := by
  intro ended
  have hnew : ended.readings.length ∉ ended.installed := by
    intro h
    obtain ⟨mapping, hread⟩ := getElem?_of_installed h
    exact absurd (List.getElem?_eq_some_iff.mp hread).1 (Nat.lt_irrefl _)
  simp only [run, List.foldl_cons, List.foldl_nil, after, List.getElem?_concat_length,
    Registry.afterRefresh, Registry.refresh]
  cases ended.registry.source.read ended.files with
  | error fault => rfl
  | ok mapping => simp only [if_neg hnew, Except.map]

end Start

/-- Refreshes install in the order in which they read, and so never go back to an older reading,
exactly when none installs after it was overtaken; refreshes one after the other never do. -/
theorem installed_in_order_iff (registry : Registry) (files : Files) (steps : List RefreshStep) :
    let ended := (start registry files).run steps
    ShowsLast registry ended ∧
    (ended.installed.Pairwise (· < ·) ↔
      ∀ a ∈ ended.installed, ¬(start registry files).Overtaken steps a) ∧
    ((start registry files).Serial steps → ended.installed.Pairwise (· < ·)) ∧
    (ended.run [.read, .install ended.readings.length]).registry =
      ended.registry.afterRefresh ended.files := by
  intro ended
  refine ⟨showsLast_run, ⟨?_, pairwise_of_not_overtaken⟩, ?_, registry_run_read_install⟩
  · intro hsorted a ha hover
    exact not_pairwise_of_overtaken hover ha hsorted
  · intro hserial
    exact pairwise_of_not_overtaken fun a _ => not_overtaken_of_serial hserial a

end Refreshes

namespace Mapping

def olderText : String := "\x7b\"properties\":\x7b\"uptime\":\x7b\"type\":\"long\"\x7d\x7d\x7d"

def newerText : String := "\x7b\"properties\":\x7b\"product\":\x7b\"type\":\"keyword\"\x7d\x7d\x7d"

def older : Mapping where
  fields := [{ name := "uptime", type := .long, rootVariant := .root "uptime" .numeric none
               otherVariants := [] }]
  defaultColumns := []
  versionTag := none

def newer : Mapping where
  fields := [{ name := "product", type := .keyword, rootVariant := .root "product" .exact none
               otherVariants := [] }]
  defaultColumns := []
  versionTag := none

end Mapping

namespace Refreshes

def sampleRegistry : Registry where
  source := .file "mapping.json"
  current := Catalog.ofMapping Mapping.older 1
  publishedSize := 1

/-- The file is rewritten between two readings, and the first of them installs last. -/
def lateSchedule : List RefreshStep :=
  [.read, .rewrite fun _ => some Mapping.newerText, .read, .install 1, .install 0]

/-- The current catalog goes back from the newer reading to the older one. -/
theorem lateSchedule_goes_back :
    let begun := start sampleRegistry fun _ => some Mapping.olderText
    let ended := begun.run lateSchedule
    Registry.load (fun _ => some Mapping.olderText) (.file "mapping.json") = .ok sampleRegistry ∧
      (begun.run (lateSchedule.take 4)).registry.current = Catalog.ofMapping Mapping.newer 2 ∧
      ended.registry.current = Catalog.ofMapping Mapping.older 3 ∧
      ended.registry.source.read ended.files = .ok Mapping.newer ∧
      ended.installed = [1, 0] ∧ ¬ended.installed.Pairwise (· < ·) := by
  decide +kernel

end Refreshes

end ReportSearch
