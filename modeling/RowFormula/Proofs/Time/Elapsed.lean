import RowFormula.Time.Instant

/-! Time that passes. Outside leap seconds instants are counted in nanoseconds, adding time is
addition on the count and the time between two instants is the difference. -/
namespace RowFormula.Time.Instant

/-- Nanoseconds since the epoch. A leap second does not count. -/
def epochNanos (t : Instant) : Int := t.epochSecond * nanosPerSecond + t.nanos

/-- Outside leap seconds the nanoseconds are below a second. -/
theorem inLeapSecond_eq_false_iff (t : Instant) :
    t.inLeapSecond = false ↔ t.nanos < nanosPerSecond := by
  simp [inLeapSecond]

/-- Instants found by their count are outside leap seconds. -/
theorem of_ofEpochNanos? {n : Int} {t : Instant} (h : ofEpochNanos? n = some t) :
    t.inLeapSecond = false ∧ t.epochNanos = n := by
  rw [inLeapSecond_eq_false_iff]
  unfold ofEpochNanos? ofEpochSecond? make? at h
  split at h
  · cases h
    simp only [epochNanos, epochSecond, nanosPerSecond]
    omega
  · cases h

/-- Time between instants outside leap seconds. -/
theorem nanosSince_eq {a b : Instant} (ha : a.inLeapSecond = false) (hb : b.inLeapSecond = false) :
    a.nanosSince b = a.epochNanos - b.epochNanos := by
  simp only [nanosSince, ha, hb, epochNanos, epochSecond, nanosPerSecond, Bool.false_eq_true,
    and_false, if_false]
  omega

/-- The time that was added has passed, and nothing else. -/
theorem nanosSince_of_addNanos? {t later : Instant} {delta : Int} (h : t.inLeapSecond = false)
    (hLater : t.addNanos? delta = some later) :
    later.nanosSince t = delta ∧ t.nanosSince later = -delta := by
  rw [addNanos?, h, if_neg Bool.false_ne_true] at hLater
  obtain ⟨hOutside, hCount⟩ := of_ofEpochNanos? hLater
  rw [nanosSince_eq hOutside h, nanosSince_eq h hOutside, hCount, epochNanos]
  omega

end RowFormula.Time.Instant
