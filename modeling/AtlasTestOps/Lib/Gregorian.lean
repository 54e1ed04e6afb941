import Mathlib

/-! The proleptic Gregorian calendar. A date is its number of days after 0001-01-01. -/

namespace Gregorian

def isLeap (year : ℤ) : Bool := year % 4 = 0 ∧ (year % 100 ≠ 0 ∨ year % 400 = 0)

def daysBeforeYear (year : ℤ) : ℤ :=
  (year - 1) * 365 + (year - 1) / 4 - (year - 1) / 100 + (year - 1) / 400

/-- Days before the month in a year without 29 February. -/
def daysBefore : ℕ → ℕ
  | 1 => 0 | 2 => 31 | 3 => 59 | 4 => 90 | 5 => 120 | 6 => 151 | 7 => 181 | 8 => 212 | 9 => 243
  | 10 => 273 | 11 => 304 | _ => 334

def daysBeforeMonth (leap : Bool) (month : ℕ) : ℕ :=
  daysBefore month + if 2 < month ∧ leap then 1 else 0

/-- Month and day of the `n`-th day of a year, counted from 0. The first guess is never too
early and at most one month too late. -/
def monthAndDay (leap : Bool) (n : ℕ) : ℕ × ℕ :=
  let guess := (n + 50) / 32
  let month := if n < daysBeforeMonth leap guess then guess - 1 else guess
  (month, n - daysBeforeMonth leap month + 1)

structure Civil where
  year : ℤ
  month : ℕ
  day : ℕ
deriving DecidableEq, Repr

/-- Year, month and day, by cycles of 400, 100, 4 and 1 years. -/
def civil (day : ℤ) : Civil :=
  let n400 := day / 146097
  let n := (day % 146097).toNat
  let n100 := n / 36524
  let n4 := n % 36524 / 1461
  let n1 := n % 36524 % 1461 / 365
  let year := n400 * 400 + n100 * 100 + n4 * 4 + n1 + 1
  if n1 = 4 ∨ n100 = 4 then ⟨year - 1, 12, 31⟩
  else
    let monthDay := monthAndDay (n1 = 3 ∧ (n4 ≠ 24 ∨ n100 = 3)) (n % 36524 % 1461 % 365)
    ⟨year, monthDay.1, monthDay.2⟩

def ofCivil (c : Civil) : ℤ :=
  daysBeforeYear c.year + daysBeforeMonth (isLeap c.year) c.month + c.day - 1

/-- Monday is 1, Sunday is 7. -/
def isoWeekday (day : ℤ) : ℕ := (day % 7).toNat + 1

theorem isoWeekday_bounds (day : ℤ) : 1 ≤ isoWeekday day ∧ isoWeekday day ≤ 7 := by
  unfold isoWeekday
  omega

theorem monthAndDay_bounds (leap : Bool) : ∀ n < 365,
    (1 ≤ (monthAndDay leap n).1 ∧ (monthAndDay leap n).1 ≤ 12) ∧
      1 ≤ (monthAndDay leap n).2 ∧ (monthAndDay leap n).2 ≤ 31 := by
  cases leap <;> decide +kernel

theorem civil_bounds (day : ℤ) :
    (1 ≤ (civil day).month ∧ (civil day).month ≤ 12) ∧
      1 ≤ (civil day).day ∧ (civil day).day ≤ 31 := by
  unfold civil
  dsimp only
  split
  · exact ⟨⟨by simp, by simp⟩, by simp, by simp⟩
  · exact monthAndDay_bounds _ _ (Nat.mod_lt _ (by decide))

theorem monthAndDay_days (leap : Bool) : ∀ n < 365,
    daysBeforeMonth leap (monthAndDay leap n).1 + (monthAndDay leap n).2 = n + 1 := by
  cases leap <;> decide +kernel

/-- The year `d` of a group of 4, in group `c` of a century, in century `b` of 400 years. -/
theorem isLeap_cycle {a b c d : ℤ} (hb : 0 ≤ b ∧ b ≤ 3) (hc : 0 ≤ c ∧ c ≤ 24)
    (hd : 0 ≤ d ∧ d ≤ 3) : isLeap (a * 400 + b * 100 + c * 4 + d + 1) = true ↔
      d = 3 ∧ (c ≠ 24 ∨ b = 3) := by
  rw [isLeap, decide_eq_true_eq]
  omega

theorem daysBeforeYear_cycle {a b c d : ℤ} (hb : 0 ≤ b ∧ b ≤ 3) (hc : 0 ≤ c ∧ c ≤ 24)
    (hd : 0 ≤ d ∧ d ≤ 3) : daysBeforeYear (a * 400 + b * 100 + c * 4 + d + 1) =
      a * 146097 + b * 36524 + c * 1461 + d * 365 := by
  unfold daysBeforeYear
  omega

theorem ofCivil_civil (day : ℤ) : ofCivil (civil day) = day := by
  have hday : day = day / 146097 * 146097 + ((day % 146097).toNat : ℤ) := by omega
  have hlt : (day % 146097).toNat < 146097 := by omega
  unfold civil
  dsimp only
  generalize (day % 146097).toNat = n at hday hlt ⊢
  generalize day / 146097 = a at hday ⊢
  have h100 : n = n / 36524 * 36524 + n % 36524 := by omega
  have h4 : n % 36524 = n % 36524 / 1461 * 1461 + n % 36524 % 1461 := by omega
  have h1 : n % 36524 % 1461 = n % 36524 % 1461 / 365 * 365 + n % 36524 % 1461 % 365 := by omega
  have hr : n % 36524 % 1461 % 365 < 365 := Nat.mod_lt _ (by decide)
  have hb : n / 36524 ≤ 4 ∧ (n / 36524 = 4 → n % 36524 = 0) := by omega
  have hc : n % 36524 / 1461 ≤ 24 := by omega
  have hd : n % 36524 % 1461 / 365 ≤ 4 ∧
      (n % 36524 % 1461 / 365 = 4 → n % 36524 % 1461 % 365 = 0 ∧ n % 36524 / 1461 ≠ 24) := by omega
  generalize n % 36524 % 1461 % 365 = r at *
  generalize n % 36524 % 1461 / 365 = d at *
  generalize n % 36524 % 1461 = n4 at *
  generalize n % 36524 / 1461 = c at *
  generalize n % 36524 = n100 at *
  generalize n / 36524 = b at *
  split
  · -- the last day of a leap year
    rename_i hlast
    have hend : ∀ b' c' : ℤ, 0 ≤ b' ∧ b' ≤ 3 → 0 ≤ c' ∧ c' ≤ 24 → (c' ≠ 24 ∨ b' = 3) →
        ofCivil ⟨a * 400 + b' * 100 + c' * 4 + 3 + 1, 12, 31⟩ =
          a * 146097 + b' * 36524 + c' * 1461 + 1460 := by
      intro b' c' hb' hc' hcentury
      have hleap : isLeap (a * 400 + b' * 100 + c' * 4 + 3 + 1) = true :=
        (isLeap_cycle hb' hc' (by decide)).2 ⟨rfl, hcentury⟩
      unfold ofCivil daysBeforeMonth
      dsimp only
      rw [hleap, daysBeforeYear_cycle hb' hc' (by decide), if_pos ⟨by decide, rfl⟩,
        show daysBefore 12 = 334 from rfl]
      omega
    rcases hlast with rfl | rfl
    · rw [show a * 400 + (b : ℤ) * 100 + (c : ℤ) * 4 + ((4 : ℕ) : ℤ) + 1 - 1 =
        a * 400 + b * 100 + c * 4 + 3 + 1 by omega, hend b c (by omega) (by omega) (by omega)]
      omega
    · obtain ⟨rfl, rfl⟩ : c = 0 ∧ d = 0 := by omega
      rw [show a * 400 + ((4 : ℕ) : ℤ) * 100 + ((0 : ℕ) : ℤ) * 4 + ((0 : ℕ) : ℤ) + 1 - 1 =
        a * 400 + 3 * 100 + 24 * 4 + 3 + 1 by omega, hend 3 24 (by decide) (by decide) (by decide)]
      omega
  · rename_i hrest
    have hb' : 0 ≤ (b : ℤ) ∧ (b : ℤ) ≤ 3 := by omega
    have hc' : 0 ≤ (c : ℤ) ∧ (c : ℤ) ≤ 24 := by omega
    have hd' : 0 ≤ (d : ℤ) ∧ (d : ℤ) ≤ 3 := by omega
    have hleap : isLeap (a * 400 + b * 100 + c * 4 + d + 1) =
        decide (d = 3 ∧ (c ≠ 24 ∨ b = 3)) := by
      rw [Bool.eq_iff_iff, isLeap_cycle hb' hc' hd', decide_eq_true_eq]
      omega
    have hmonth := monthAndDay_days (decide (d = 3 ∧ (c ≠ 24 ∨ b = 3))) r hr
    unfold ofCivil
    dsimp only
    rw [hleap, daysBeforeYear_cycle hb' hc' hd']
    omega

theorem daysBefore_le (month : ℕ) : daysBefore month ≤ 334 := by
  unfold daysBefore
  split <;> decide

/-- No date of a year up to 9999 is behind 9999-12-31. -/
theorem ofCivil_lt {c : Civil} (hday : c.day ≤ 31) (hyear : c.year ≤ 9999) :
    ofCivil c < 3652059 := by
  have hmonth := daysBefore_le c.month
  unfold ofCivil daysBeforeYear daysBeforeMonth
  by_cases hleap : isLeap c.year = true
  · have hfour : c.year % 4 = 0 := (of_decide_eq_true hleap).1
    split <;> omega
  · rw [if_neg fun h => hleap h.2]
    omega

example : civil 734082 = ⟨2010, 11, 7⟩ ∧ ofCivil ⟨2010, 11, 7⟩ = 734082 := by decide +kernel

example : isoWeekday 734082 = 7 := by decide

end Gregorian
