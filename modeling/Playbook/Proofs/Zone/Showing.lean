import Mathlib
import Playbook.Zone.Basic

/-!
# Playbook.Proofs.Zone.Showing

The instants at which the clocks of a zone show a time.

`instantsShowing` finds all of them (`mem_instantsShowing`), and where a zone
keeps its offset for some days there is one only, so that a time on the wall
means what it shows (`localize_of_settled`).
-/

namespace Playbook

namespace Zone

variable {z : Zone} {wall t i : ℤ}

/-- The offset in force is one of the offsets. -/
theorem offsetAt_mem_offsets (z : Zone) (t : ℤ) : (z.offsetAt t).seconds ∈ z.offsets := by
  rw [offsets, List.mem_eraseDups, List.mem_cons, offsetAt]
  cases hlast : (z.changes.takeWhile fun c => c.1 ≤ t).getLast? with
  | none => exact .inl rfl
  | some c =>
      have hmem : c ∈ z.changes :=
        (List.takeWhile_prefix _).sublist.subset (List.mem_of_getLast? hlast)
      exact .inr (List.mem_map_of_mem hmem)

/-- The instants that are found are those at which clocks show the time. -/
theorem mem_instantsShowing :
    t ∈ z.instantsShowing wall ↔ z.wallAt t = wall ∧ (Time.dateOf t).inRange = true := by
  rw [instantsShowing, List.mem_filter, Bool.and_eq_true, decide_eq_true_eq, and_iff_right_iff_imp]
  intro h
  refine List.mem_map.mpr ⟨_, offsetAt_mem_offsets z t, ?_⟩
  rw [← h.1, wallAt, add_sub_cancel_right]

/-- A time that is shown at one instant only means this instant. -/
theorem localize_eq (ht : t ∈ z.instantsShowing wall)
    (honly : ∀ u ∈ z.instantsShowing wall, u = t) : z.localize wall = some t := by
  have hfirst : z.earliestShowing wall = some t :=
    List.min?_eq_some_iff.mpr ⟨ht, fun u hu => (honly u hu).ge⟩
  rw [localize, hfirst]

/-! ## zones that keep their offset -/

/-- No offset is as long as a day. -/
def OffsetsWithinDay (z : Zone) : Prop :=
  ∀ o ∈ z.offsets, -Time.secondsPerDay < o ∧ o < Time.secondsPerDay

/-- The instants from five days before an instant to five days after it. -/
def Near (i t : ℤ) : Prop := i - 5 * Time.secondsPerDay ≤ t ∧ t ≤ i + 5 * Time.secondsPerDay

/-- The zone keeps one offset near an instant, a number of whole minutes. -/
def Settled (z : Zone) (i minutes : ℤ) : Prop :=
  ∀ t, Near i t → (z.offsetAt t).seconds = minutes * 60

/-- A zone that keeps its offset shows the time with that offset. -/
theorem Settled.wallAt_eq {minutes : ℤ} (h : z.Settled i minutes) (ht : Near i t) :
    z.wallAt t = t + minutes * 60 := by
  rw [wallAt, h t ht]

/-- A time within two days of what some clock shows now is shown once, at an instant
near by. -/
theorem localize_of_settled {minutes offset : ℤ} (hz : z.OffsetsWithinDay)
    (hgiven : ∀ t, Near i t → (Time.dateOf t).inRange = true) (h : z.Settled i minutes)
    (hoffset : -Time.secondsPerDay < offset ∧ offset < Time.secondsPerDay)
    (hlow : i + offset - 2 * Time.secondsPerDay ≤ wall)
    (hhigh : wall ≤ i + offset + 2 * Time.secondsPerDay) :
    Near i (wall - minutes * 60) ∧ z.localize wall = some (wall - minutes * 60) := by
  have hday : Time.secondsPerDay = 86400 := rfl
  -- Less than four days lie between `i` and an instant at which any clock shows the time.
  have hnear (u : ℤ) (hu : z.wallAt u = wall) : Near i u := by
    obtain ⟨h1, h2⟩ := hz _ (offsetAt_mem_offsets z u)
    rw [wallAt] at hu
    constructor <;> omega
  have hself : Near i i := by constructor <;> omega
  have hminutes := hz _ (offsetAt_mem_offsets z i)
  rw [h i hself] at hminutes
  have ht : Near i (wall - minutes * 60) := by constructor <;> omega
  refine ⟨ht, localize_eq (mem_instantsShowing.mpr ⟨?_, hgiven _ ht⟩) fun u hu => ?_⟩
  · rw [h.wallAt_eq ht, sub_add_cancel]
  · have hwall := (mem_instantsShowing.mp hu).1
    rw [h.wallAt_eq (hnear u hwall)] at hwall
    omega

end Zone

end Playbook
