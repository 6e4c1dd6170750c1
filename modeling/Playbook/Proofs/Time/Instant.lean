import Playbook.Proofs.Time.Clock
import Playbook.Proofs.Time.Date
import Playbook.Time.Instant

/-!
# Playbook.Proofs.Time.Instant

Instants survive their text (`read_write`).  `Instant.Valid` describes the instants that a
text can tell (`valid_of_read`): whatever offset the text is in, a leap second stays behind
the last second of a minute, because offsets are whole minutes.
-/

namespace Playbook.Time

open Text

/-- Calendar and clock together show the wall from which they are read. -/
theorem wall_dateOf_clockOf (shown : ℤ) (leap : Bool) :
    wall (dateOf shown) { clockOf shown with leap } = shown := by
  have hseconds : secondsPerDay = 86400 := rfl
  rw [wall, dateOf, clockOf, Clock.ofSecond, Clock.secondOfDay, Clock.minuteOfDay, hseconds]
  dsimp only
  push_cast
  omega

namespace Instant

/-- An instant that a text can tell.  A billion nanoseconds or more are a leap second, and
only the last second of a minute has one behind it. -/
structure Valid (t : Instant) : Prop where
  inRange : (dateOf t.second).inRange = true
  nano_lt : t.nano < 2000000000
  leap : 1000000000 ≤ t.nano → t.second % 60 = 59

/-! ## what is read -/

/-- A fraction of a second is less than a second, however many digits it has. -/
theorem takeFraction_lt {s rest : List Char} {nano : Nat}
    (h : takeFraction s = some (nano, rest)) : nano < 1000000000 := by
  unfold takeFraction at h
  split at h
  · next tail =>
    obtain ⟨hdigits, hlength, -⟩ := digitsUpTo_spec 9 tail
    split at h
    · contradiction
    · next ds tail' _ heq =>
      rw [heq] at hdigits hlength
      obtain ⟨rfl, -⟩ := Prod.mk.inj (Option.some.inj h)
      calc value ds * Nat.pow 10 (9 - ds.length)
        _ < 10 ^ ds.length * 10 ^ (9 - ds.length) :=
            Nat.mul_lt_mul_of_pos_right (value_lt hdigits) (Nat.pow_pos (by decide))
        _ = 1000000000 := by
            rw [← pow_add, Nat.add_sub_cancel' hlength]
            norm_num
  · obtain ⟨rfl, -⟩ := Prod.mk.inj (Option.some.inj h)
    decide

/-- Offsets are whole minutes. -/
theorem takeOffset_emod {s rest : List Char} {offset : Int}
    (h : takeOffset s = some (offset, rest)) : offset % 60 = 0 := by
  unfold takeOffset at h
  split at h
  · obtain ⟨rfl, -⟩ := Prod.mk.inj (Option.some.inj h)
    rfl
  · obtain ⟨rfl, -⟩ := Prod.mk.inj (Option.some.inj h)
    rfl
  · split at h
    · obtain ⟨rfl, -⟩ := Prod.mk.inj (Option.some.inj h)
      rfl
    · simp only [Option.bind_eq_bind, Option.bind_eq_some_iff, Prod.exists] at h
      obtain ⟨sign, _, -, hours, _, -, minutes, _, -, h⟩ := h
      split at h
      · obtain ⟨rfl, -⟩ := Prod.mk.inj (Option.some.inj h)
        rw [← Int.dvd_iff_emod_eq_zero]
        exact Dvd.dvd.mul_left (by omega) sign
      · contradiction
  · contradiction

/-- A leap second is the second of its minute behind the last one. -/
theorem ofParts?_leap {hour minute second : Nat} {c : Clock}
    (h : Clock.ofParts? hour minute second = some c) (hleap : c.leap = true) : c.second = 59 := by
  unfold Clock.ofParts? at h
  split at h
  · obtain rfl := Option.some.inj h
    have hsecond : second = 60 := of_decide_eq_true hleap
    subst hsecond
    rfl
  · contradiction

/-- An offset of whole minutes moves a leap second to the end of a minute again. -/
theorem valid_of_ofOffset? {date : Date} {clock : Clock} {nano : Nat} {offset : Int} {t : Instant}
    (hnano : nano < 1000000000) (hleap : clock.leap = true → clock.second = 59)
    (hoffset : offset % 60 = 0) (h : ofOffset? date clock nano offset = some t) : t.Valid := by
  obtain ⟨hrange, h⟩ := Option.ite_none_right_eq_some.mp h
  obtain rfl := Option.some.inj h
  refine ⟨hrange, ?_, fun hnano' => ?_⟩
  · have hle : clock.leap.toNat ≤ 1 := clock.leap.toNat_le
    dsimp only
    omega
  · have hsecond : clock.second = 59 := by
      apply hleap
      by_contra hnot
      rw [Bool.not_eq_true] at hnot
      rw [hnot] at hnano'
      exact absurd hnano' (Nat.not_le_of_lt hnano)
    have hwall : wall date clock % 60 = 59 := by
      rw [wall, Clock.secondOfDay, hsecond, secondsPerDay]
      omega
    dsimp only
    omega

/-- Only such instants are read. -/
theorem valid_of_read {s : List Char} {t : Instant} (h : read s = some t) : t.Valid := by
  -- only the fraction, the offset and the clock have a say in this
  obtain ⟨⟨year, s⟩, -, h⟩ := Option.bind_eq_some_iff.mp h
  obtain ⟨s, -, h⟩ := Option.bind_eq_some_iff.mp h
  obtain ⟨⟨month, s⟩, -, h⟩ := Option.bind_eq_some_iff.mp h
  obtain ⟨s, -, h⟩ := Option.bind_eq_some_iff.mp h
  obtain ⟨⟨day, s⟩, -, h⟩ := Option.bind_eq_some_iff.mp h
  obtain ⟨s, -, h⟩ := Option.bind_eq_some_iff.mp h
  obtain ⟨⟨hour, s⟩, -, h⟩ := Option.bind_eq_some_iff.mp h
  obtain ⟨s, -, h⟩ := Option.bind_eq_some_iff.mp h
  obtain ⟨⟨minute, s⟩, -, h⟩ := Option.bind_eq_some_iff.mp h
  obtain ⟨s, -, h⟩ := Option.bind_eq_some_iff.mp h
  obtain ⟨⟨second, s⟩, -, h⟩ := Option.bind_eq_some_iff.mp h
  obtain ⟨⟨nano, s⟩, hnano, h⟩ := Option.bind_eq_some_iff.mp h
  obtain ⟨⟨offset, s⟩, hoffset, h⟩ := Option.bind_eq_some_iff.mp h
  obtain ⟨date, -, h⟩ := Option.bind_eq_some_iff.mp h
  obtain ⟨clock, hclock, h⟩ := Option.bind_eq_some_iff.mp h
  split at h
  · exact valid_of_ofOffset? (takeFraction_lt hnano) (ofParts?_leap hclock)
      (takeOffset_emod hoffset) h
  · contradiction

/-! ## what is written -/

/-- A year is written with four digits, or with a sign and more, and read as it was. -/
theorem takeYear_writeYear (y : Int) {rest : List Char}
    (hrest : ∀ c ∈ rest.head?, c.isDigit = false) :
    Date.takeYear (writeYear y ++ rest) = some (y, rest) := by
  unfold writeYear
  split
  · next hfour =>
    have hy : IsNumeral 4 (padded 4 y.toNat) y.toNat := isNumeral_padded (by decide) (by omega)
    have htrim : trimStart (padded 4 y.toNat ++ rest) = padded 4 y.toNat ++ rest :=
      trimStart_append allBlank_nil (first_of_isNumeral hy)
    have hread := numberUpTo_append hy hrest
    obtain ⟨d, ds, hds⟩ := List.exists_cons_of_ne_nil hy.nonempty
    have hd := hy.digits d (by rw [hds]; exact List.mem_cons_self)
    rw [hds, List.cons_append] at htrim hread ⊢
    unfold Date.takeYear
    rw [htrim]
    split
    · next heq =>
      obtain ⟨rfl, -⟩ := List.cons.inj heq
      contradiction
    · next heq =>
      obtain ⟨rfl, -⟩ := List.cons.inj heq
      contradiction
    · simp only [hread, Option.map_some, Int.toNat_of_nonneg hfour.1]
  · next hfour =>
    -- behind a sign the digits are not counted
    have hread : numberUpTo (padded 4 y.natAbs ++ rest).length (padded 4 y.natAbs ++ rest) =
        some (y.natAbs, rest) := by
      refine numberUpTo_append (isNumeral_padded_of_le ?_) hrest
      rw [List.length_append]
      exact Nat.le_add_right _ _
    rw [List.cons_append]
    by_cases hsign : y < 0
    · have hvalue : -(y.natAbs : Int) = y := by omega
      rw [if_pos hsign]
      show (numberUpTo _ _).map _ = _
      simp only [hread, Option.map_some, hvalue]
    · have hvalue : (y.natAbs : Int) = y := by omega
      rw [if_neg hsign]
      show (numberUpTo _ _).map _ = _
      simp only [hread, Option.map_some, hvalue]

/-- Nanoseconds are written with three, six or nine digits, or not at all. -/
theorem takeFraction_writeFraction {nano : Nat} (h : nano < 1000000000) :
    takeFraction (writeFraction nano ++ ['Z']) = some (nano, ['Z']) := by
  -- a fraction of fewer than nine digits leaves zeros out
  have hread {width n : Nat} (hwidth : 0 < width) (hwidth' : width ≤ 9) (hn : n < 10 ^ width)
      (hnano : n * 10 ^ (9 - width) = nano) :
      takeFraction ('.' :: padded width n ++ ['Z']) = some (nano, ['Z']) := by
    have hlength := length_padded hwidth hn
    have hnumeral : IsNumeral 9 (padded width n) n :=
      isNumeral_padded_of_le (hlength.trans_le hwidth')
    rw [List.cons_append, takeFraction,
      digitsUpTo_append hnumeral.digits hnumeral.length_le (by simp)]
    split
    · next heq => exact absurd (Prod.mk.inj heq).1 hnumeral.nonempty
    · next heq =>
      obtain ⟨rfl, rfl⟩ := Prod.mk.inj heq
      rw [hnumeral.value_eq, hlength, Nat.pow_eq, hnano]
      rfl
  unfold writeFraction
  split
  · next hzero =>
    rw [hzero]
    rfl
  · split
    · exact hread (by decide) (by decide) (by omega) (by norm_num; omega)
    · split
      · exact hread (by decide) (by decide) (by omega) (by norm_num; omega)
      · exact hread (by decide) (by decide) h (Nat.mul_one nano)

/-- The fraction, also where there is none, is not read as digits of the second. -/
theorem head_writeFraction (nano : Nat) : ∀ c ∈ (writeFraction nano ++ ['Z']).head?,
    c.isDigit = false := by
  unfold writeFraction
  split
  · simp
  · split
    · simp
    · split <;> simp

/-- A mark is found without blanks in front of it. -/
theorem takeSpacedMark_cons {mark : Char} (h : isBlank mark = false) (rest : List Char) :
    takeSpacedMark mark (mark :: rest) = some rest := by
  rw [takeSpacedMark, trimStart, List.dropWhile_cons_of_neg (by rw [h]; decide), Date.takeMark,
    if_pos rfl]

/-- A leap second is written as second 60. -/
theorem Valid.ofParts?_clockOf {t : Instant} (h : t.Valid) :
    Clock.ofParts? (clockOf t.second).hour (clockOf t.second).minute
        ((clockOf t.second).second + t.nano / 1000000000) =
      some { clockOf t.second with leap := 1000000000 ≤ t.nano } := by
  have hsecond : ((clockOf t.second).second.val : Int) = t.second % 60 := by
    have hseconds : secondsPerDay = 86400 := rfl
    rw [clockOf, Clock.ofSecond, hseconds]
    dsimp only
    omega
  have hlt := h.nano_lt
  generalize clockOf t.second = clock at *
  obtain ⟨hour, minute, second, leap⟩ := clock
  dsimp only at hsecond ⊢
  have hminute := second.isLt
  by_cases hleap : 1000000000 ≤ t.nano
  · have hlast := h.leap hleap
    have hone : t.nano / 1000000000 = 1 := by omega
    obtain rfl : second = 59 := Fin.ext (by omega)
    rw [hone, decide_eq_true hleap]
    exact dif_pos ⟨hour.isLt, minute.isLt, by decide⟩
  · have hnone : t.nano / 1000000000 = 0 := by omega
    rw [hnone, decide_eq_false hleap, Nat.add_zero, Clock.ofParts?,
      dif_pos ⟨hour.isLt, minute.isLt, by omega⟩]
    have hsame : min second.val 59 = second := by omega
    have hnot : ¬second.val = 60 := by omega
    simp only [hsame, decide_eq_false hnot]

/-- **Instants survive their text**, leap seconds and parts of a second included, whatever
the year. -/
theorem read_write {t : Instant} (h : t.Valid) : read t.write.toList = some t := by
  obtain ⟨-, hmonth, -, hday⟩ := Date.civil_spec (dateOf t.second)
  have hday : (dateOf t.second).civil.day < 100 := by
    refine lt_of_le_of_lt hday ?_
    unfold Date.daysInMonth
    split_ifs <;> decide
  have hsecond : (clockOf t.second).second + t.nano / 1000000000 < 100 := by
    have := h.nano_lt
    omega
  have hpair {n : Nat} (hn : n < 100) {rest : List Char}
      (hrest : ∀ c ∈ rest.head?, c.isDigit = false) :
      Date.takePair (padded 2 n ++ rest) = some (n, rest) :=
    takePair_append (tellsPair_padded hn) hrest
  have hoffset : takeOffset (trimStart ['Z']) = some (0, []) := rfl
  have hnano :
      t.nano % 1000000000 + (decide (1000000000 ≤ t.nano)).toNat * 1000000000 = t.nano := by
    have := h.nano_lt
    by_cases hleap : 1000000000 ≤ t.nano
    · rw [decide_eq_true hleap, Bool.toNat_true]
      omega
    · rw [decide_eq_false hleap, Bool.toNat_false]
      omega
  rw [write, String.toList_ofList]
  simp only [Clock.writeMinutes, List.append_assoc, List.cons_append]
  -- the parts of the text, each in front of the rest
  refine Option.bind_eq_some_iff.mpr ⟨_, takeYear_writeYear _ (by simp), ?_⟩
  refine Option.bind_eq_some_iff.mpr ⟨_, takeSpacedMark_cons (by decide) _, ?_⟩
  refine Option.bind_eq_some_iff.mpr ⟨_, hpair (by omega) (by simp), ?_⟩
  refine Option.bind_eq_some_iff.mpr ⟨_, takeSpacedMark_cons (by decide) _, ?_⟩
  refine Option.bind_eq_some_iff.mpr ⟨_, hpair hday (by simp), ?_⟩
  refine Option.bind_eq_some_iff.mpr ⟨_, rfl, ?_⟩
  refine Option.bind_eq_some_iff.mpr ⟨_, hpair (by omega) (by simp), ?_⟩
  refine Option.bind_eq_some_iff.mpr ⟨_, takeSpacedMark_cons (by decide) _, ?_⟩
  refine Option.bind_eq_some_iff.mpr ⟨_, hpair (by omega) (by simp), ?_⟩
  refine Option.bind_eq_some_iff.mpr ⟨_, takeSpacedMark_cons (by decide) _, ?_⟩
  refine Option.bind_eq_some_iff.mpr ⟨_, hpair hsecond (head_writeFraction _), ?_⟩
  refine Option.bind_eq_some_iff.mpr
    ⟨_, takeFraction_writeFraction (Nat.mod_lt _ (by decide)), ?_⟩
  refine Option.bind_eq_some_iff.mpr ⟨_, hoffset, ?_⟩
  -- what the parts make
  refine Option.bind_eq_some_iff.mpr ⟨_, Date.ofCivil?_civil h.inRange, ?_⟩
  refine Option.bind_eq_some_iff.mpr ⟨_, h.ofParts?_clockOf, ?_⟩
  refine (if_pos rfl).trans ?_
  rw [ofOffset?, wall_dateOf_clockOf, sub_zero, if_pos h.inRange, hnano]

end Instant

end Playbook.Time
