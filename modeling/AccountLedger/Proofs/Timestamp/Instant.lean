import AccountLedger.Proofs.Timestamp.Text

/-!
Times as numbers of nanoseconds, and how far the calendar reaches back from them.
-/

namespace AccountLedger.Timestamp

/-- Nanoseconds since the start of 1970. A leap second counts as the last of them before the next
second. -/
def instant (t : Timestamp) : Int := t.seconds * 1000000000 + min t.nanos 999999999

variable {t a b : Timestamp}

/-! ## Order -/

theorem lt_iff :
    a.lt b = true ↔ a.seconds < b.seconds ∨ a.seconds = b.seconds ∧ a.nanos < b.nanos := by
  unfold lt compare
  rw [beq_iff_eq, Ordering.then_eq_lt, compare_lt_iff_lt, compare_eq_iff_eq, compare_lt_iff_lt]

theorem le_iff :
    a.le b = true ↔ a.seconds < b.seconds ∨ a.seconds = b.seconds ∧ a.nanos ≤ b.nanos := by
  unfold le compare
  rw [bne_iff_ne, ne_eq, Ordering.then_eq_gt, compare_gt_iff_gt, compare_eq_iff_eq,
    compare_gt_iff_gt]
  omega

/-- What is before a time that is no leap second is so by a nanosecond at least. -/
theorem instant_lt (whole : b.nanos < nanosPerSecond) (earlier : a.lt b = true) :
    a.instant < b.instant := by
  rw [lt_iff] at earlier
  unfold instant nanosPerSecond at *
  omega

/-! ## Moving times -/

theorem addNanos_nanos (t : Timestamp) (nanos : Int) :
    (t.addNanos nanos).nanos < nanosPerSecond := by
  have positive : (0 : Int) < nanosPerSecond := by decide
  have below := Int.fmod_lt_of_pos (t.nanos + nanos) positive
  have above := Int.fmod_nonneg_of_pos (t.nanos + nanos) positive
  show ((t.nanos + nanos : Int).fmod nanosPerSecond).toNat < _
  omega

theorem addNanos_instant (whole : t.nanos < nanosPerSecond) (nanos : Int) :
    (t.addNanos nanos).instant = t.instant + nanos := by
  have split := Int.mul_fdiv_add_fmod (t.nanos + nanos) nanosPerSecond
  have positive : (0 : Int) < nanosPerSecond := by decide
  have below := Int.fmod_lt_of_pos (t.nanos + nanos) positive
  have above := Int.fmod_nonneg_of_pos (t.nanos + nanos) positive
  unfold instant addNanos
  dsimp only
  unfold nanosPerSecond at *
  omega

/-! ## The times that the calendar covers -/

theorem inRange_iff : t.inRange = true ↔
    CivilDate.firstDay * 86400 ≤ t.seconds ∧ t.seconds < (CivilDate.lastDay + 1) * 86400 := by
  unfold inRange date
  rw [CivilDate.inRange_ofDays, day_eq]
  omega

/-- The time so many milliseconds earlier. -/
def back (now : Timestamp) (ageMs : Nat) : Timestamp := now.addNanos (-(ageMs * 1000000 : Nat))

/-- The calendar reaches back so many milliseconds from a time. -/
def Reaches (now : Timestamp) (ageMs : Nat) : Prop := (now.back ageMs).inRange = true

namespace Civil

variable {now : Timestamp} (clock : now.Civil)
include clock

theorem back_instant (ageMs : Nat) :
    (now.back ageMs).instant = now.instant - (ageMs * 1000000 : Nat) := by
  rw [back, addNanos_instant clock.nanos]
  omega

theorem back_le {shorter longer : Nat} (less : shorter ≤ longer) :
    (now.back longer).le (now.back shorter) = true := by
  have long := clock.back_instant longer
  have short := clock.back_instant shorter
  have longWhole := addNanos_nanos now (-(longer * 1000000 : Nat))
  have shortWhole := addNanos_nanos now (-(shorter * 1000000 : Nat))
  rw [le_iff]
  unfold instant back nanosPerSecond at *
  omega

theorem reaches_iff (ageMs : Nat) : now.Reaches ageMs ↔
    CivilDate.firstDay * 86400 * 1000000000 ≤ now.instant - (ageMs * 1000000 : Nat) := by
  have covered := inRange_iff.mp clock.covered
  have whole := addNanos_nanos now (-(ageMs * 1000000 : Nat))
  have moved := clock.back_instant ageMs
  have nanos := clock.nanos
  unfold Reaches
  rw [inRange_iff]
  unfold instant back nanosPerSecond at *
  omega

theorem reaches_of_le {shorter longer : Nat} (less : shorter ≤ longer)
    (reaches : now.Reaches longer) : now.Reaches shorter := by
  have lower := (clock.reaches_iff longer).mp reaches
  have fewer : shorter * 1000000 ≤ longer * 1000000 := Nat.mul_le_mul_right _ less
  exact (clock.reaches_iff shorter).mpr
    (lower.trans (Int.sub_le_sub_left (Int.ofNat_le.mpr fewer) now.instant))

/-- The calendar does not reach back as many milliseconds as 63 bits can count. -/
theorem lt_of_reaches {ageMs : Nat} (reaches : now.Reaches ageMs) :
    ageMs < 0x8000000000000000 := by
  obtain ⟨_, bounded⟩ := inRange_iff.mp clock.covered
  have upper : now.instant < (CivilDate.lastDay + 1) * 86400 * 1000000000 := by
    unfold instant
    omega
  have lower := (clock.reaches_iff ageMs).mp reaches
  unfold CivilDate.firstDay CivilDate.lastDay at *
  omega

end Civil

end AccountLedger.Timestamp
