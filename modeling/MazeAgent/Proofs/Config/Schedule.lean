import MazeAgent.Config.Basic
import MazeAgent.Proofs.Number.Order

/-!
# Schedules over the pellets left

With more pellets left the entry of a schedule that decides moves towards the end, and past the end
the fall-back decides. So whatever relation holds between the values of a schedule in their order
holds between the values for fewer and for more pellets; the bounds may come in any order, and
several entries may have the same one.

**Results.**
* `Breakpoint.lookup_sublist`: the values for fewer and for more pellets stand in this order.
* `Config.schedules_monotone`: factors that do not rise and radii that do not fall along the
  schedule do the same over the pellets left.
-/

namespace MazeAgent

namespace Breakpoint

variable {α : Type} {schedule : List (Breakpoint α)} {fallback : α} {fewer more : UInt32}

/-- The values of a schedule in order, the fall-back at the end. -/
def values (schedule : List (Breakpoint α)) (fallback : α) : List α :=
  schedule.map value ++ [fallback]

theorem lookup_cons (entry : Breakpoint α) (schedule : List (Breakpoint α)) (fallback : α)
    (left : UInt32) :
    lookup (entry :: schedule) fallback left =
      if left < entry.below then entry.value else lookup schedule fallback left := by
  unfold lookup
  rw [List.find?_cons]
  by_cases hbelow : left < entry.below
  · simp [hbelow]
  · simp [hbelow]

theorem lookup_mem_values (schedule : List (Breakpoint α)) (fallback : α) (left : UInt32) :
    lookup schedule fallback left ∈ values schedule fallback := by
  induction schedule with
  | nil => exact List.mem_singleton_self fallback
  | cons entry rest ih =>
      rw [lookup_cons]
      split
      · exact List.mem_cons_self
      · exact List.mem_cons_of_mem _ ih

/-- Either the same entry decides for fewer and for more pellets, or one further to the end
decides for more. -/
theorem lookup_sublist (h : fewer ≤ more) :
    lookup schedule fallback fewer = lookup schedule fallback more ∨
      [lookup schedule fallback fewer, lookup schedule fallback more].Sublist
        (values schedule fallback) := by
  induction schedule with
  | nil => exact Or.inl rfl
  | cons entry rest ih =>
      rw [lookup_cons, lookup_cons]
      by_cases hfewer : fewer < entry.below
      · rw [if_pos hfewer]
        split
        · exact Or.inl rfl
        · exact Or.inr ((List.singleton_sublist.mpr (lookup_mem_values rest _ _)).cons_cons _)
      · -- What is not below a bound for fewer pellets is not below it for more.
        rw [if_neg hfewer, if_neg fun hmore => hfewer (UInt32.lt_of_le_of_lt h hmore)]
        rcases ih with ih | ih
        · exact Or.inl ih
        · exact Or.inr (ih.cons _)

/-- A relation between neighbours of the values, if it can be chained, relates the values for fewer
and for more pellets. -/
theorem lookup_related {r : α → α → Prop} [IsTrans α r]
    (hvalues : (values schedule fallback).IsChain r) (h : fewer ≤ more) :
    lookup schedule fallback fewer = lookup schedule fallback more ∨
      r (lookup schedule fallback fewer) (lookup schedule fallback more) := by
  refine (lookup_sublist h).imp_right fun hsublist => ?_
  have hpairs := (List.isChain_iff_pairwise.mp hvalues).sublist hsublist
  exact List.pairwise_pair.mp hpairs

/-- The fall-back can be put behind values that are all related to it. -/
theorem isChain_values {r : α → α → Prop} (hchain : (schedule.map value).IsChain r)
    (hfallback : ∀ entry ∈ schedule, r entry.value fallback) :
    (values schedule fallback).IsChain r := by
  refine List.isChain_append.mpr ⟨hchain, List.isChain_singleton _, ?_⟩
  intro last hlast end_ hend
  obtain ⟨entry, hentry, rfl⟩ := List.mem_map.mp (List.mem_of_getLast? hlast)
  cases hend
  exact hfallback entry hentry

end Breakpoint

namespace Config

/-- Along the schedule the factors do not rise, and none is below the factor behind the end. -/
def FactorsFall (schedule : List (Breakpoint Single)) : Prop :=
  (schedule.map Breakpoint.value).IsChain (fun x y => y ≤ x) ∧
    ∀ entry ∈ schedule, (1 : Single) ≤ entry.value

/-- Along the schedule the radii do not fall, and none is above the radius behind the end. -/
def RadiiRise (schedule : List (Breakpoint UInt32)) (base : UInt32) : Prop :=
  (schedule.map Breakpoint.value).IsChain (fun x y => x ≤ y) ∧
    ∀ entry ∈ schedule, entry.value ≤ base

theorem FactorsFall.one_le {schedule : List (Breakpoint Single)} (h : FactorsFall schedule)
    (left : UInt32) : 1 ≤ Breakpoint.lookup schedule 1 left := by
  rcases List.mem_append.mp (Breakpoint.lookup_mem_values schedule 1 left) with hmem | hmem
  · obtain ⟨entry, hentry, hvalue⟩ := List.mem_map.mp hmem
    exact hvalue ▸ h.2 entry hentry
  · rw [List.mem_singleton.mp hmem]
    decide

/-- With fewer pellets left the factor is at least as high and the radius at most as great,
whatever the bounds are. -/
theorem schedules_monotone (config : Config) {fewer more : UInt32} (h : fewer ≤ more) :
    (FactorsFall config.field.pelletMultipliers →
      config.field.pelletMultiplier more ≤ config.field.pelletMultiplier fewer) ∧
    (RadiiRise config.goal.radiusSchedule config.goal.baseRadius →
      config.goal.radiusFor fewer ≤ config.goal.radiusFor more) := by
  refine ⟨fun hfactors => ?_, fun hradii => ?_⟩
  · have hvalues := Breakpoint.isChain_values hfactors.1 hfactors.2
    rcases Breakpoint.lookup_related hvalues h with heq | hle
    · -- A factor is at most itself because it is a number.
      have hnumber := (Single.le_iff.mp (hfactors.one_le more)).2.1
      unfold FieldConfig.pelletMultiplier
      rw [heq]
      exact Single.le_refl hnumber
    · exact hle
  · have hvalues := Breakpoint.isChain_values hradii.1 hradii.2
    rcases Breakpoint.lookup_related hvalues h with heq | hle
    · exact UInt32.le_of_eq heq
    · exact hle

/-- Schedules whose bounds are neither in order nor all different. -/
def jumbled : Config where
  field := { pelletMultipliers := [⟨30, 8⟩, ⟨10, 4⟩, ⟨60, 4⟩, ⟨60, 2⟩, ⟨90, 1⟩] }
  goal := { baseRadius := 9, radiusSchedule := [⟨20, 2⟩, ⟨5, 3⟩, ⟨50, 6⟩, ⟨50, 9⟩] }

theorem schedules_monotone_jumbled :
    FactorsFall jumbled.field.pelletMultipliers ∧
      RadiiRise jumbled.goal.radiusSchedule jumbled.goal.baseRadius ∧
      jumbled.field.pelletMultiplier 59 = 4 ∧ jumbled.field.pelletMultiplier 70 = 1 ∧
      jumbled.field.pelletMultiplier 70 ≤ jumbled.field.pelletMultiplier 59 ∧
      jumbled.goal.radiusFor 49 = 6 ∧ jumbled.goal.radiusFor 50 = 9 ∧
      jumbled.goal.radiusFor 49 ≤ jumbled.goal.radiusFor 50 := by
  have hfactors : FactorsFall jumbled.field.pelletMultipliers := by
    refine ⟨?_, ?_⟩
    · decide
    · decide
  have hradii : RadiiRise jumbled.goal.radiusSchedule jumbled.goal.baseRadius := by
    refine ⟨?_, ?_⟩
    · decide
    · decide
  exact ⟨hfactors, hradii, by decide, by decide,
    (schedules_monotone jumbled (by decide)).1 hfactors, by decide, by decide,
    (schedules_monotone jumbled (by decide)).2 hradii⟩

end Config

end MazeAgent
