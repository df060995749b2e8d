import Gatehouse.Calendar.Instant

/-! # Moving instants forward

An instant that is later has no earlier second (`second_le_of_add?`), and one that is later by a
second or more has a later second (`second_lt_of_add?`), also from inside a leap second.  A move by
whole seconds leads just as many seconds on (`second_move_ofSeconds`), so from 1970 on it stays in
the calendar if and only if it does not lead behind its last second (`isSome_add?_ofSeconds`).  The
time that is left until the start of a second only gets less (`since_ofSeconds_le`); in whole seconds
it does so through leap seconds too (`since_ofSeconds_le_ofSeconds`).  An instant that is cut down to
microseconds loses nothing if and only if it is a whole number of them (`truncateToMicros_eq_iff`). -/

namespace Gatehouse

namespace Duration

theorem nanosPerSecond_le_ofSeconds {n : Int} (h : 0 < n) :
    nanosPerSecond ≤ (ofSeconds n).nanos := by
  simp only [ofSeconds, nanosPerSecond]
  omega

theorem nanosPerSecond_le_ofHours {n : Nat} (h : 0 < n) : nanosPerSecond ≤ (ofHours n).nanos :=
  nanosPerSecond_le_ofSeconds (by omega)

theorem nanosPerSecond_le_ofDays {n : Nat} (h : 0 < n) : nanosPerSecond ≤ (ofDays n).nanos :=
  nanosPerSecond_le_ofSeconds (by omega)

end Duration

namespace Instant

variable {t u v : Instant} {d : Duration}

theorem le_refl (t : Instant) : t ≤ t := by
  rw [le_def]
  exact .inr ⟨rfl, Nat.le_refl _⟩

theorem le_trans (h : t ≤ u) (h' : u ≤ v) : t ≤ v := by
  rw [le_def] at h h' ⊢
  omega

theorem le_total (t u : Instant) : t ≤ u ∨ u ≤ t := by
  simp only [le_def]
  omega

theorem le_antisymm (h : t ≤ u) (h' : u ≤ t) : t = u := by
  obtain ⟨second, subsecond⟩ := t
  obtain ⟨second', subsecond'⟩ := u
  rw [le_def] at h h'
  simp only [mk.injEq] at h h' ⊢
  omega

theorem lt_of_lt_of_le (h : t < u) (h' : u ≤ v) : t < v := by
  rw [lt_def] at h ⊢
  rw [le_def] at h'
  omega

theorem lt_of_le_of_lt (h : t ≤ u) (h' : u < v) : t < v := by
  rw [lt_def] at h' ⊢
  rw [le_def] at h
  omega

/-- An instant lies before the start of a second if and only if its own second does. -/
theorem lt_ofSeconds {n : Int} : t < ofSeconds n ↔ t.second < n := by
  simp only [lt_def, ofSeconds]
  omega

theorem add?_eq_some (h : t.add? d = some u) : u = t.move d ∧ u.InCalendar := by
  unfold add? at h
  by_cases hc : (t.move d).InCalendar
  · rw [if_pos hc] at h
    cases h
    exact ⟨rfl, hc⟩
  · rw [if_neg hc] at h
    cases h

theorem second_lt_ofNanos {n : Int} (h : (t.second + 1) * Duration.nanosPerSecond ≤ n) :
    t.second < (ofNanos n).second := by
  simp only [ofNanos, Duration.nanosPerSecond] at h ⊢
  omega

theorem second_le_ofNanos {n : Int} (h : t.second * Duration.nanosPerSecond ≤ n) :
    t.second ≤ (ofNanos n).second := by
  simp only [ofNanos, Duration.nanosPerSecond] at h ⊢
  omega

theorem second_le_move (hd : 0 ≤ d.nanos) : t.second ≤ (t.move d).second := by
  unfold move
  by_cases hleap : t.IsLeap
  · rw [if_pos hleap]
    split
    · exact Int.le_refl t.second
    split
    · refine second_le_ofNanos ?_
      simp only [IsLeap, nanos, Duration.nanosPerSecond] at hleap ⊢
      omega
    · refine second_le_ofNanos ?_
      simp only [nanos]
      omega
  · rw [if_neg hleap]
    refine second_le_ofNanos ?_
    simp only [nanos]
    omega

theorem second_lt_move (hd : Duration.nanosPerSecond ≤ d.nanos) : t.second < (t.move d).second := by
  have hsecond : 0 < Duration.nanosPerSecond := by decide
  unfold move
  by_cases hleap : t.IsLeap
  · -- A second or more leads out of the leap second, and counts from the second before it.
    have hstay : ¬ (-Duration.nanosPerSecond < d.nanos ∧ d.nanos < Duration.nanosPerSecond ∧
        t.subsecond + d.nanos < 2 * Duration.nanosPerSecond) := fun h => by omega
    rw [if_pos hleap, if_neg hstay, if_pos (by omega)]
    refine second_lt_ofNanos ?_
    simp only [IsLeap, nanos, Duration.nanosPerSecond] at hd hleap ⊢
    omega
  · rw [if_neg hleap]
    refine second_lt_ofNanos ?_
    simp only [nanos, Duration.nanosPerSecond] at hd ⊢
    omega

/-- Whole seconds lead as many seconds on, also from inside a leap second. -/
theorem second_move_ofSeconds (ht : t.subsecond < 2 * Duration.nanosPerSecond) {n : Int}
    (hn : 0 ≤ n) : (t.move (.ofSeconds n)).second = t.second + n := by
  unfold move
  by_cases hleap : t.IsLeap
  · rw [if_pos hleap]
    by_cases hzero : n = 0
    · have hstay : -Duration.nanosPerSecond < (Duration.ofSeconds n).nanos ∧
          (Duration.ofSeconds n).nanos < Duration.nanosPerSecond ∧
          t.subsecond + (Duration.ofSeconds n).nanos < 2 * Duration.nanosPerSecond := by
        simp only [Duration.ofSeconds, Duration.nanosPerSecond, hzero] at ht ⊢
        omega
      rw [if_pos hstay, hzero, Int.add_zero]
    · have hleave : Duration.nanosPerSecond ≤ (Duration.ofSeconds n).nanos :=
        Duration.nanosPerSecond_le_ofSeconds (by omega)
      have hsecond : 0 < Duration.nanosPerSecond := by decide
      rw [if_neg (by omega), if_pos (by omega)]
      simp only [IsLeap, ofNanos, nanos, Duration.ofSeconds, Duration.nanosPerSecond] at ht hleap ⊢
      omega
  · rw [if_neg hleap]
    simp only [IsLeap, ofNanos, nanos, Duration.ofSeconds, Duration.nanosPerSecond] at hleap ⊢
    omega

/-- From 1970 on an instant can be moved forward up to the last second of the calendar. -/
theorem isSome_add?_ofSeconds (hfirst : 0 ≤ t.second)
    (ht : t.subsecond < 2 * Duration.nanosPerSecond) {n : Int} (hn : 0 ≤ n) :
    (t.add? (.ofSeconds n)).isSome = true ↔ t.second + n ≤ lastSecond := by
  have hmoved := second_move_ofSeconds ht hn
  have hbegin : firstSecond ≤ t.second + n := Int.le_trans (b := 0) (by decide) (by omega)
  unfold add?
  by_cases hlast : t.second + n ≤ lastSecond
  · rw [if_pos (by rw [InCalendar, hmoved]; exact ⟨hbegin, hlast⟩)]
    simpa using hlast
  · rw [if_neg (by rw [InCalendar, hmoved]; exact fun h => hlast h.2)]
    simpa using hlast

theorem second_le_of_add? (hd : 0 ≤ d.nanos) (h : t.add? d = some u) : t.second ≤ u.second := by
  rw [(add?_eq_some h).1]
  exact second_le_move hd

theorem second_lt_of_add? (hd : Duration.nanosPerSecond ≤ d.nanos) (h : t.add? d = some u) :
    t.second < u.second := by
  rw [(add?_eq_some h).1]
  exact second_lt_move hd

theorem ofSeconds?_of_inCalendar (h : u.InCalendar) :
    ofSeconds? u.second = some (ofSeconds u.second) :=
  if_pos h

theorem eq_ofSeconds_of_ofSeconds? {s : Int} (h : ofSeconds? s = some u) : u = ofSeconds s := by
  unfold ofSeconds? at h
  split at h
  · exact (Option.some.inj h).symm
  · cases h

/-- From 1970 on the calendar holds the seconds up to its last. -/
theorem ofSeconds?_eq_some_iff {s : Int} (hs : 0 ≤ s) :
    ofSeconds? s = some u ↔ s ≤ lastSecond ∧ u = ofSeconds s := by
  have hfirst : firstSecond ≤ s := Int.le_trans (by decide) hs
  unfold ofSeconds?
  by_cases hlast : s ≤ lastSecond
  · simp [hfirst, hlast, eq_comm]
  · simp [hlast]

/-! ### The time that is left -/

section Left

variable {n k : Int}

/-- The leap second in which an instant lies counts until the start of a second that is later in its
day. -/
def Counts (u : Instant) (n : Int) : Prop :=
  u.secondOfDay < (ofSeconds n).secondOfDay ∧ u.IsLeap

theorem since_ofSeconds_of_counts (h : u.Counts n) :
    ((ofSeconds n).since u).nanos = (n + 1) * Duration.nanosPerSecond - u.nanos := by
  have hnanos : (ofSeconds n).nanos = n * Duration.nanosPerSecond := by simp [nanos, ofSeconds]
  unfold Counts at h
  simp only [since, if_pos h, hnanos]
  rw [Int.add_mul]
  omega

/-- The start of a second itself lies in no leap second. -/
theorem since_ofSeconds_of_not_counts (h : ¬ u.Counts n) :
    ((ofSeconds n).since u).nanos = n * Duration.nanosPerSecond - u.nanos := by
  have hnanos : (ofSeconds n).nanos = n * Duration.nanosPerSecond := by simp [nanos, ofSeconds]
  have hstart : ¬ ((ofSeconds n).secondOfDay < u.secondOfDay ∧ (ofSeconds n).IsLeap) := by
    simp [IsLeap, ofSeconds, Duration.nanosPerSecond]
  unfold Counts at h
  simp only [since, if_neg h, if_neg hstart, hnanos]

theorem le_since_ofSeconds (n : Int) (u : Instant) :
    n * Duration.nanosPerSecond - u.nanos ≤ ((ofSeconds n).since u).nanos := by
  by_cases h : u.Counts n
  · rw [since_ofSeconds_of_counts h, Int.add_mul]
    simp only [Duration.nanosPerSecond]
    omega
  · exact Int.le_of_eq (since_ofSeconds_of_not_counts h).symm

/-- Nothing is left of a time that ends no later than in this second. -/
theorem since_ofSeconds_nonpos (h : n ≤ u.second) : ((ofSeconds n).since u).nanos ≤ 0 := by
  by_cases hcounts : u.Counts n
  · have hleap := hcounts.2
    rw [since_ofSeconds_of_counts hcounts]
    simp only [IsLeap, nanos, Duration.nanosPerSecond] at hleap ⊢
    omega
  · rw [since_ofSeconds_of_not_counts hcounts]
    simp only [nanos, Duration.nanosPerSecond]
    omega

/-- Outside leap seconds the time that is left gets less. -/
theorem since_ofSeconds_le (htu : t ≤ u) (ht : ¬ t.IsLeap) (hu : ¬ u.IsLeap) :
    (ofSeconds n).since u ≤ (ofSeconds n).since t := by
  have hle : ((ofSeconds n).since u).nanos ≤ ((ofSeconds n).since t).nanos := by
    rw [since_ofSeconds_of_not_counts fun h => hu h.2,
      since_ofSeconds_of_not_counts fun h => ht h.2]
    rw [le_def] at htu
    simp only [IsLeap, nanos, Duration.nanosPerSecond] at ht hu ⊢
    omega
  exact hle

/-- What is left may be more again when a leap second is over that did not count. -/
example : ¬ (ofSeconds 86410).since ⟨60, 0⟩ ≤ (ofSeconds 86410).since ⟨59, 1900000000⟩ := by decide

/-- Once no more than some seconds are left no more are left at any later time, be it in a leap
second or not. -/
theorem since_ofSeconds_le_ofSeconds (htu : t ≤ u) (ht : t.subsecond < 2 * Duration.nanosPerSecond)
    (h : (ofSeconds n).since t ≤ .ofSeconds k) : (ofSeconds n).since u ≤ .ofSeconds k := by
  have hthen : ((ofSeconds n).since t).nanos ≤ k * Duration.nanosPerSecond := h
  have hleft := Int.le_trans (le_since_ofSeconds n t) hthen
  have hnow : ((ofSeconds n).since u).nanos ≤ k * Duration.nanosPerSecond := by
    rw [le_def] at htu
    by_cases hu : u.Counts n
    · have hleap := hu.2
      rw [since_ofSeconds_of_counts hu]
      by_cases hc : t.Counts n
      · rw [since_ofSeconds_of_counts hc] at hthen
        simp only [IsLeap, nanos, Duration.nanosPerSecond] at ht hthen hleap ⊢
        omega
      · -- In the same second `t` lies before the leap second, and less than a second is gone.
        have hsame : t.second = u.second → ¬ t.IsLeap := by
          intro hsecond hleap
          refine hc ⟨?_, hleap⟩
          rw [secondOfDay, hsecond]
          exact hu.1
        simp only [IsLeap, nanos, Duration.nanosPerSecond] at ht hleft hleap hsame ⊢
        omega
    · rw [since_ofSeconds_of_not_counts hu]
      simp only [nanos, Duration.nanosPerSecond] at ht hleft ⊢
      omega
  exact hnow

end Left

/-! ### Whole microseconds -/

/-- The instant lies a whole number of microseconds after the start of 1970, or before it. -/
def OnMicro (t : Instant) : Prop := ∃ n : Int, t = ofNanos (n * 1000)

theorem since_year2000 (h : ¬ t.IsLeap) :
    (t.since year2000).nanos = t.nanos - year2000.nanos := by
  have hyear : ¬ year2000.IsLeap := by decide
  simp [since, h, hyear]

theorem truncateToMicros_eq_iff : t.truncateToMicros = t ↔ t.OnMicro := by
  have hyear : year2000.nanos = 946684800000000 * 1000 := rfl
  constructor
  · intro h
    refine ⟨946684800000000 + (t.since year2000).nanos.tdiv 1000, ?_⟩
    rw [Int.add_mul, ← hyear]
    exact h.symm
  · rintro ⟨n, rfl⟩
    unfold truncateToMicros
    rw [since_year2000 (not_isLeap_ofNanos _), nanos_ofNanos, hyear, ← Int.sub_mul,
      Int.mul_tdiv_cancel _ (by decide), ← Int.add_mul]
    congr 2
    omega

end Instant

end Gatehouse
