import Mathlib
import Playbook.Session.Window

/-!
# Playbook.Proofs.Session.Hours

Hours are an arc of the clock (`arc_spec`): going round from the start, the minutes
inside come first, and there are as many of them as the hours are long.

So it does not matter from where the minutes are counted (`contains_rotate`), and what
is left of a day is the arc from the end to the start (`contains_rest`).  Ends of 16 bits
are enough to compute a length (`exists_wordDuration?`).
-/

namespace Playbook.Hours

/-! ## the arc -/

/-- A minute is inside if it comes less than the length of the hours after the start. -/
theorem contains_iff_lt_duration {h : Hours} (hstart : h.start ≤ minutesPerDay)
    (hstop : h.stop ≤ minutesPerDay) (m : Nat) :
    h.contains m = true ↔ ((m : ℤ) - h.start) % minutesPerDay < h.duration := by
  have hday : minutesPerDay = 1440 := rfl
  rw [contains, duration, crossesMidnight]
  rw [hday] at hstart hstop
  split
  · next hcross =>
    rw [decide_eq_true_eq] at hcross
    rw [Bool.or_eq_true, decide_eq_true_eq, decide_eq_true_eq, hday]
    omega
  · next hcross =>
    rw [decide_eq_true_eq] at hcross
    rw [Bool.and_eq_true, decide_eq_true_eq, decide_eq_true_eq, hday]
    omega

/-- The length of hours, as a difference round the clock; hours with one end for both are
empty. -/
theorem duration_eq {h : Hours} (hstart : h.start < minutesPerDay)
    (hstop : h.stop < minutesPerDay) :
    (h.duration : ℤ) = ((h.stop : ℤ) - h.start) % minutesPerDay := by
  have hday : minutesPerDay = 1440 := rfl
  rw [duration, crossesMidnight]
  rw [hday] at hstart hstop
  split
  · next hcross =>
    rw [decide_eq_true_eq] at hcross
    rw [hday]
    omega
  · next hcross =>
    rw [decide_eq_true_eq] at hcross
    rw [hday]
    omega

/-- A minute is inside if going round the clock from the start leads to it before
it leads to the end. -/
theorem contains_iff {h : Hours} (hstart : h.start < minutesPerDay)
    (hstop : h.stop < minutesPerDay) (m : Nat) :
    h.contains m = true ↔
      ((m : ℤ) - h.start) % minutesPerDay < ((h.stop : ℤ) - h.start) % minutesPerDay := by
  rw [contains_iff_lt_duration hstart.le hstop.le, duration_eq hstart hstop]

/-- Hours with different ends are not empty. -/
theorem duration_eq_zero_iff {h : Hours} (hstart : h.start < minutesPerDay)
    (hstop : h.stop < minutesPerDay) : h.duration = 0 ↔ h.start = h.stop := by
  have hday : minutesPerDay = 1440 := rfl
  have hduration := duration_eq hstart hstop
  rw [hday] at hstart hstop hduration
  omega

/-- Clocks that are some minutes ahead show the same hours as such. -/
theorem contains_rotate {h h' : Hours} {m m' : Nat} (ahead : ℤ) (hstart : h.start < minutesPerDay)
    (hstop : h.stop < minutesPerDay) (hstart' : (h'.start : ℤ) = (h.start + ahead) % minutesPerDay)
    (hstop' : (h'.stop : ℤ) = (h.stop + ahead) % minutesPerDay)
    (hm : (m' : ℤ) = (m + ahead) % minutesPerDay) : h'.contains m' = h.contains m := by
  have hday : (0 : ℤ) < minutesPerDay := by decide
  have hsame (a b : ℤ) : ((a + ahead) % minutesPerDay - (b + ahead) % minutesPerDay) %
      (minutesPerDay : ℤ) = (a - b) % minutesPerDay := by
    rw [← Int.sub_emod, add_sub_add_right_eq_sub]
  have hlt (a : ℤ) : (a + ahead) % minutesPerDay < minutesPerDay := Int.emod_lt_of_pos _ hday
  have harc := contains_iff hstart hstop m
  have harc' := contains_iff (h := h') (by exact_mod_cast hstart' ▸ hlt h.start)
    (by exact_mod_cast hstop' ▸ hlt h.stop) m'
  rw [hm, hstart', hstop', hsame, hsame, ← harc] at harc'
  exact Bool.eq_iff_iff.mpr harc'

/-! ## the minutes of a day -/

/-- A minute beyond midnight is one of the next day. -/
theorem contains_mod (h : Hours) (m : Nat) : h.contains (m % minutesPerDay) = h.contains m := by
  rw [contains, contains, Nat.mod_mod]

/-- The minutes of a day that are inside. -/
def minutes (h : Hours) : Finset Nat := (Finset.range minutesPerDay).filter (h.contains ·)

theorem mem_minutes {h : Hours} {m : Nat} :
    m ∈ h.minutes ↔ m < minutesPerDay ∧ h.contains m = true := by
  rw [minutes, Finset.mem_filter, Finset.mem_range]

/-- **The length of hours** is the number of minutes inside. -/
theorem card_minutes {h : Hours} (hstart : h.start ≤ minutesPerDay)
    (hstop : h.stop ≤ minutesPerDay) : h.minutes.card = h.duration := by
  rw [duration]
  split
  · next hcross =>
    -- across midnight: the minutes up to the end of the day and those up to the end
    have hlt : h.stop < h.start := of_decide_eq_true hcross
    have hminutes : h.minutes = Finset.Ico h.start minutesPerDay ∪ Finset.range h.stop := by
      ext m
      rw [mem_minutes, Finset.mem_union, Finset.mem_Ico, Finset.mem_range, contains, if_pos hcross,
        Bool.or_eq_true, decide_eq_true_eq, decide_eq_true_eq]
      constructor
      · intro hm
        rw [Nat.mod_eq_of_lt hm.1] at hm
        omega
      · intro hm
        have hday : m < minutesPerDay := by omega
        rw [Nat.mod_eq_of_lt hday]
        omega
    have hdisjoint : Disjoint (Finset.Ico h.start minutesPerDay) (Finset.range h.stop) := by
      rw [Finset.disjoint_left]
      intro m hm hm'
      rw [Finset.mem_Ico] at hm
      rw [Finset.mem_range] at hm'
      omega
    rw [hminutes, Finset.card_union_of_disjoint hdisjoint, Nat.card_Ico, Finset.card_range]
  · next hcross =>
    have hminutes : h.minutes = Finset.Ico h.start h.stop := by
      ext m
      rw [mem_minutes, Finset.mem_Ico, contains, if_neg hcross, Bool.and_eq_true,
        decide_eq_true_eq, decide_eq_true_eq]
      constructor
      · intro hm
        rw [Nat.mod_eq_of_lt hm.1] at hm
        exact hm.2
      · intro hm
        have hday : m < minutesPerDay := by omega
        rw [Nat.mod_eq_of_lt hday]
        exact ⟨hday, hm⟩
    rw [hminutes, Nat.card_Ico]

/-! ## words of 16 bits -/

/-- A difference of words is a word if nothing is borrowed. -/
theorem exists_minus? {a b : UInt16} (h : b.toNat ≤ a.toNat) :
    ∃ d, minus? a b = some d ∧ d.toNat = a.toNat - b.toNat := by
  have hle : b ≤ a := UInt16.le_iff_toNat_le.mpr h
  exact ⟨a - b, if_pos hle, UInt16.toNat_sub_of_le _ _ hle⟩

/-- A sum is a word if nothing is carried. -/
theorem exists_plus? {a b : UInt16} (h : a.toNat + b.toNat < UInt16.size) :
    ∃ d, plus? a b = some d ∧ d.toNat = a.toNat + b.toNat :=
  ⟨a + b, if_pos h, (UInt16.toNat_add a b).trans (Nat.mod_eq_of_lt h)⟩

/-- No step of computing the length leaves the range of 16 bits. -/
theorem exists_wordDuration? {h : Hours} (hstart : h.start ≤ minutesPerDay)
    (hstop : h.stop ≤ minutesPerDay) :
    ∃ d, wordDuration? (.ofNat h.start) (.ofNat h.stop) = some d ∧ d.toNat = h.duration := by
  have hday : (1440 : UInt16).toNat = minutesPerDay := rfl
  have hsize : 2 * minutesPerDay < UInt16.size := by decide
  have hstart' : (UInt16.ofNat h.start).toNat = h.start := UInt16.toNat_ofNat_of_lt (by omega)
  have hstop' : (UInt16.ofNat h.stop).toNat = h.stop := UInt16.toNat_ofNat_of_lt (by omega)
  have hword : UInt16.ofNat h.stop < .ofNat h.start ↔ h.stop < h.start := by
    rw [UInt16.lt_iff_toNat_lt, hstart', hstop']
  unfold wordDuration?
  by_cases hcross : h.stop < h.start
  · obtain ⟨before, hbefore, hbefore'⟩ := exists_minus? (hstart'.trans_le (hday.symm ▸ hstart))
    rw [hday, hstart'] at hbefore'
    obtain ⟨d, hd, hd'⟩ := exists_plus? (a := before) (b := .ofNat h.stop) (by omega)
    refine ⟨d, ?_, ?_⟩
    · rw [if_pos (hword.mpr hcross), hbefore, Option.bind_some, hd]
    · rw [hd', hbefore', hstop', duration, crossesMidnight, if_pos (decide_eq_true hcross)]
  · obtain ⟨d, hd, hd'⟩ := exists_minus? (a := .ofNat h.stop) (b := .ofNat h.start) (by omega)
    refine ⟨d, ?_, ?_⟩
    · rw [if_neg (mt hword.mp hcross), hd]
    · rw [hd', hstart', hstop', duration, crossesMidnight, if_neg (mt of_decide_eq_true hcross)]

/-! ## turned clocks and the rest of the day -/

/-- The same hours on a clock that is some minutes ahead. -/
def rotate (h : Hours) (ahead : Nat) : Hours :=
  ⟨(h.start + ahead) % minutesPerDay, (h.stop + ahead) % minutesPerDay⟩

/-- The hours from the end to the start. -/
def rest (h : Hours) : Hours := ⟨h.stop, h.start⟩

/-- The rest of the day has what the hours leave. -/
theorem contains_rest {h : Hours} (hstart : h.start < minutesPerDay)
    (hstop : h.stop < minutesPerDay) (hne : h.start ≠ h.stop) (m : Nat) :
    h.rest.contains m = !h.contains m := by
  have harc := contains_iff hstart hstop m
  have harc' := contains_iff (h := h.rest) hstop hstart m
  have hday : minutesPerDay = 1440 := rfl
  rw [rest] at harc' ⊢
  rw [hday] at harc harc' hstart hstop
  rw [Bool.eq_not, ne_eq, Bool.eq_iff_iff, harc, harc']
  dsimp only
  omega

/-- **Hours are an arc of the clock**: the minutes less than their length after the start.
Turning the clock turns them, and the arc from the end to the start is the rest of a day. -/
theorem arc_spec {h : Hours} (hstart : h.start ≤ minutesPerDay) (hstop : h.stop ≤ minutesPerDay) :
    (∀ m : Nat, h.contains m = true ↔ ((m : ℤ) - h.start) % minutesPerDay < h.duration) ∧
      (∃ d, wordDuration? (.ofNat h.start) (.ofNat h.stop) = some d ∧ d.toNat = h.duration) ∧
      h.minutes.card = h.duration ∧
      (h.start < minutesPerDay → h.stop < minutesPerDay → h.start ≠ h.stop →
        (∀ ahead m, (h.rotate ahead).contains (m + ahead) = h.contains m) ∧
          ∀ m, h.rest.contains m = !h.contains m) := by
  refine ⟨contains_iff_lt_duration hstart hstop, exists_wordDuration? hstart hstop,
    card_minutes hstart hstop, fun hstart' hstop' hne => ⟨fun ahead m => ?_,
      contains_rest hstart' hstop' hne⟩⟩
  rw [← contains_mod]
  exact contains_rotate ahead hstart' hstop' rfl rfl rfl

/-- The 23 hours from six in the evening to five in the afternoon. -/
def overnight : Hours := ⟨1080, 1020⟩

/-- Hours from six in the evening to five the next afternoon, a turn by six hours, and the rest of
the day. -/
theorem arc_spec_overnight :
    (overnight.start ≤ minutesPerDay ∧ overnight.stop ≤ minutesPerDay ∧
      overnight.start < minutesPerDay ∧ overnight.stop < minutesPerDay ∧
      overnight.start ≠ overnight.stop) ∧
      (∀ m : Nat, overnight.contains m = true ↔ ((m : ℤ) - 1080) % 1440 < 1380) ∧
      (∃ d, wordDuration? 1080 1020 = some d ∧ d.toNat = 1380) ∧ overnight.minutes.card = 1380 ∧
      (∀ m, (Hours.mk 0 1380).contains (m + 360) = overnight.contains m) ∧
      ∀ m, (Hours.mk 1020 1080).contains m = !overnight.contains m := by
  have hbounds : overnight.start ≤ minutesPerDay ∧ overnight.stop ≤ minutesPerDay ∧
      overnight.start < minutesPerDay ∧ overnight.stop < minutesPerDay ∧
      overnight.start ≠ overnight.stop := by decide
  obtain ⟨hstart, hstop, hstart', hstop', hne⟩ := hbounds
  obtain ⟨hcontains, hword, hcard, hturned⟩ := arc_spec hstart hstop
  obtain ⟨hrotate, hrest⟩ := hturned hstart' hstop' hne
  have hmidnight : overnight.rotate 360 = ⟨0, 1380⟩ := by decide
  exact ⟨⟨hstart, hstop, hstart', hstop', hne⟩, hcontains, hword, hcard,
    hmidnight ▸ hrotate 360, hrest⟩

end Playbook.Hours
