import AtlasTestOps.Lib.Fold
import AtlasTestOps.Task.FireTimes

/-! The fire times that a calendar produces. The search goes through the local dates and stops at
the first date with enough results, so its order is by local date and then by instant; it tries
whole local minutes, and a reading that leaves the years of a `datetime` ends it. It answers with
the first fires exactly when none of this keeps one of them from being found. -/

namespace Atlas.Proofs.FireTimes

open Atlas Atlas.Task

/-! ### Folds -/

section Zone

variable {zone : ZoneRules} {naive utc : ℤ}

theorem offset_mem (zone : ZoneRules) (utc : ℤ) : zone.offset utc ∈ zone.offsets := by
  have hfold : ∀ (ts : List (ℤ × ℤ)) (offset : ℤ),
      ts.foldl (fun offset t => if t.1 ≤ utc then t.2 else offset) offset ∈
        offset :: ts.map Prod.snd := by
    intro ts
    induction ts with
    | nil => exact fun offset => List.mem_singleton_self _
    | cons t ts ih =>
      intro offset
      rw [List.foldl_cons]
      rcases List.mem_cons.1 (ih (if t.1 ≤ utc then t.2 else offset)) with h | h
      · rw [h, List.map_cons]
        split <;> simp
      · exact List.mem_cons_of_mem _ (List.mem_cons_of_mem _ h)
  exact hfold zone.transitions zone.initial

theorem mem_instantsAt : utc ∈ zone.instantsAt naive ↔ zone.reading utc = naive := by
  unfold ZoneRules.instantsAt
  rw [List.mem_insertionSort, List.mem_dedup, List.mem_filter, decide_eq_true_eq]
  refine and_iff_right_of_imp fun h => List.mem_map.2 ⟨zone.offset utc, offset_mem zone utc, ?_⟩
  rw [← h, ZoneRules.reading]
  omega

theorem instantsAt_sorted : (zone.instantsAt naive).Pairwise (· < ·) := by
  have hsorted : (zone.instantsAt naive).Pairwise (· ≤ ·) := List.pairwise_insertionSort _ _
  have hnodup : (zone.instantsAt naive).Nodup :=
    (List.perm_insertionSort _ _).nodup_iff.2 (List.nodup_dedup _)
  exact hsorted.and hnodup |>.imp fun h => lt_of_le_of_ne h.1 h.2

end Zone

/-- Both round trips of a reading stay within the years of a `datetime`. -/
def ReadingFits (zone : ZoneRules) (naive : ℤ) : Prop :=
  ∀ fold ∈ [0, 1], inRange (zone.toUtc naive fold) = true ∧
    inRange (zone.reading (zone.toUtc naive fold)) = true

instance (zone : ZoneRules) (naive : ℤ) : Decidable (ReadingFits zone naive) :=
  inferInstanceAs (Decidable (∀ fold ∈ [0, 1], _))

def keepFold (zone : ZoneRules) (naive : ℤ) (values : List ℤ) (fold : ℕ) : List ℤ :=
  if zone.reading (zone.toUtc naive fold) = naive ∧ zone.foldAt (zone.toUtc naive fold) = fold ∧
      zone.toUtc naive fold ∉ values then
    values ++ [zone.toUtc naive fold]
  else values

/-- Both folds of a reading are tried, and what is kept are its instants. -/
theorem keepFold_eq (zone : TimeZone) (naive : ℤ) :
    ([0, 1].foldl (keepFold zone.toZoneRules naive) []).insertionSort (· ≤ ·) =
      zone.instantsAt naive := by
  have hreads : ∀ utc ∈ zone.instantsAt naive, zone.reading utc = naive :=
    fun utc h => mem_instantsAt.1 h
  have hnone : ∀ utc ∉ zone.instantsAt naive, zone.reading utc ≠ naive :=
    fun utc h heq => h (mem_instantsAt.2 heq)
  have hsorted := @instantsAt_sorted zone.toZoneRules naive
  unfold keepFold ZoneRules.toUtc ZoneRules.foldAt
  cases h : zone.instantsAt naive with
  | nil =>
    rw [h] at hnone
    simp [hnone]
  | cons first rest =>
    rw [h] at hreads hsorted
    have hfirst := hreads first List.mem_cons_self
    cases rest with
    | nil => simp [hfirst, h]
    | cons second rest =>
      have hsecond := hreads second (List.mem_cons_of_mem _ List.mem_cons_self)
      obtain ⟨hafter, hrest⟩ := List.pairwise_cons.1 hsorted
      have hlt : first < second := hafter second List.mem_cons_self
      cases rest with
      | nil => simp [hfirst, hsecond, h, hlt.ne, hlt.ne', hlt.le]
      | cons third rest =>
        have hthird := hreads third (by simp)
        have hlt' := (List.pairwise_cons.1 hrest).1 third List.mem_cons_self
        exact absurd (hsecond.trans hthird.symm)
          (zone.atMostTwice first second third hlt hlt' (hfirst.trans hsecond.symm))

theorem tryFold_eq (zone : ZoneRules) (naive : ℤ) (values : List ℤ) (fold : ℕ) :
    tryFold zone naive values fold =
      if inRange (zone.toUtc naive fold) = true ∧
          inRange (zone.reading (zone.toUtc naive fold)) = true then
        .ok (keepFold zone naive values fold)
      else .error dateOverflow := by
  unfold tryFold datetimeOf
  cases inRange (zone.toUtc naive fold) with
  | false => rfl
  | true =>
    cases h : inRange (zone.reading (zone.toUtc naive fold)) with
    | false => simp [bind, Except.bind, h]
    | true => simp [bind, Except.bind, pure, Except.pure, h, keepFold]

theorem validUtcFolds_eq (zone : TimeZone) (naive : ℤ) :
    validUtcFolds zone.toZoneRules naive =
      if ReadingFits zone.toZoneRules naive then .ok (zone.instantsAt naive)
      else .error dateOverflow := by
  have hfold : [0, 1].foldlM (tryFold zone.toZoneRules naive) [] =
      if ReadingFits zone.toZoneRules naive then
        .ok ([0, 1].foldl (keepFold zone.toZoneRules naive) [])
      else .error dateOverflow :=
    Loop.foldlM_except
      (fun values fold h => (tryFold_eq zone.toZoneRules naive values fold).trans (if_pos h))
      (fun values fold h => (tryFold_eq zone.toZoneRules naive values fold).trans (if_neg h))
      [0, 1] []
  unfold validUtcFolds
  rw [hfold]
  by_cases hfits : ReadingFits zone.toZoneRules naive
  · rw [if_pos hfits, if_pos hfits, ← keepFold_eq]
    rfl
  · rw [if_neg hfits, if_neg hfits]
    rfl

/-! ### One date -/

def acceptsReading (calendar : TaskScheduleCalendar) (reading : ℤ) : Bool :=
  calendar.allowsDate (reading / 86400) ∧ hourOf reading ∈ calendar.hours ∧
    minuteOf reading ∈ calendar.minutes

theorem mem_readingsOn (calendar : ValidCalendar) {date reading : ℤ} :
    reading ∈ calendar.readingsOn date ↔ reading / 86400 = date ∧ reading % 60 = 0 ∧
      hourOf reading ∈ calendar.hours ∧ minuteOf reading ∈ calendar.minutes := by
  unfold TaskScheduleCalendar.readingsOn
  simp only [List.mem_flatMap, List.mem_map]
  constructor
  · rintro ⟨hour, hhour, minute, hminute, rfl⟩
    have hh := calendar.hours_le hour hhour
    have hm := calendar.minutes_le minute hminute
    have hhourOf : hourOf (date * 86400 + hour * 3600 + minute * 60) = hour := by
      unfold hourOf
      omega
    have hminuteOf : minuteOf (date * 86400 + hour * 3600 + minute * 60) = minute := by
      unfold minuteOf
      omega
    rw [hhourOf, hminuteOf]
    refine ⟨?_, ?_, hhour, hminute⟩ <;> omega
  · rintro ⟨hdate, hwhole, hhour, hminute⟩
    refine ⟨_, hhour, _, hminute, ?_⟩
    unfold hourOf minuteOf
    omega

section Collect

variable {after : ℤ} {results candidates : List ℤ} {utc : ℤ}

theorem mem_addCandidates : utc ∈ candidates.foldl (addCandidate after) results ↔
    utc ∈ results ∨ (utc ∈ candidates ∧ after < utc) := by
  induction candidates generalizing results with
  | nil => simp
  | cons c candidates ih =>
    rw [List.foldl_cons, ih, addCandidate, List.mem_cons]
    split
    · rename_i h
      rw [List.mem_append, List.mem_singleton]
      constructor
      · rintro ((h' | rfl) | h')
        · exact Or.inl h'
        · exact Or.inr ⟨Or.inl rfl, h.1⟩
        · exact Or.inr ⟨Or.inr h'.1, h'.2⟩
      · rintro (h' | ⟨rfl | h', hafter⟩)
        · exact Or.inl (Or.inl h')
        · exact Or.inl (Or.inr rfl)
        · exact Or.inr ⟨h', hafter⟩
    · rename_i h
      constructor
      · exact Or.imp_right fun h' => ⟨Or.inr h'.1, h'.2⟩
      · rintro (h' | ⟨rfl | h', hafter⟩)
        · exact Or.inl h'
        · exact Or.inl (by_contra fun hout => h ⟨hafter, hout⟩)
        · exact Or.inr ⟨h', hafter⟩

theorem nodup_addCandidates (h : results.Nodup) :
    (candidates.foldl (addCandidate after) results).Nodup := by
  induction candidates generalizing results with
  | nil => exact h
  | cons c candidates ih =>
    rw [List.foldl_cons]
    refine ih ?_
    unfold addCandidate
    split
    · rename_i hnew
      exact List.nodup_append.2 ⟨h, List.nodup_singleton c, by
        rintro a ha b hb rfl
        exact hnew.2 (List.mem_singleton.1 hb ▸ ha)⟩
    · exact h

/-- The results with all the instants that are read on the date. -/
def collected (zone : ZoneRules) (calendar : TaskScheduleCalendar) (after date : ℤ)
    (results : List ℤ) : List ℤ :=
  (((calendar.readingsOn date).flatMap zone.instantsAt).foldl (addCandidate after)
    results).insertionSort (· ≤ ·)

def DateFits (zone : ZoneRules) (calendar : TaskScheduleCalendar) (date : ℤ) : Prop :=
  ∀ naive ∈ calendar.readingsOn date, ReadingFits zone naive

instance (zone : ZoneRules) (calendar : TaskScheduleCalendar) (date : ℤ) :
    Decidable (DateFits zone calendar date) :=
  inferInstanceAs (Decidable (∀ naive ∈ calendar.readingsOn date, _))

theorem collectDate_eq {zone : TimeZone} {calendar : TaskScheduleCalendar} {date : ℤ}
    (hallowed : calendar.allowsDate date = true) :
    collectDate zone.toZoneRules calendar after date results =
      if DateFits zone.toZoneRules calendar date then
        .ok (collected zone.toZoneRules calendar after date results)
      else .error dateOverflow := by
  have hstep : ∀ results naive, collectReading zone.toZoneRules after results naive =
      if ReadingFits zone.toZoneRules naive then
        .ok ((zone.instantsAt naive).foldl (addCandidate after) results)
      else .error dateOverflow := by
    intro results naive
    unfold collectReading
    rw [validUtcFolds_eq]
    split <;> rfl
  have hfold : (calendar.readingsOn date).foldlM (collectReading zone.toZoneRules after) results =
      if DateFits zone.toZoneRules calendar date then
        .ok ((calendar.readingsOn date).foldl
          (fun results naive => (zone.instantsAt naive).foldl (addCandidate after) results) results)
      else .error dateOverflow :=
    Loop.foldlM_except (fun results naive h => (hstep results naive).trans (if_pos h))
      (fun results naive h => (hstep results naive).trans (if_neg h)) (calendar.readingsOn date)
      results
  unfold collectDate
  rw [if_pos hallowed, hfold]
  by_cases hfits : DateFits zone.toZoneRules calendar date
  · rw [if_pos hfits, if_pos hfits, collected, List.foldl_flatMap]
    rfl
  · rw [if_neg hfits, if_neg hfits]
    rfl

theorem sorted_collected {zone : ZoneRules} {calendar : TaskScheduleCalendar} {date : ℤ}
    (h : results.Pairwise (· < ·)) :
    (collected zone calendar after date results).Pairwise (· < ·) := by
  have hnodup : (collected zone calendar after date results).Nodup :=
    (List.perm_insertionSort _ _).nodup_iff.2 (nodup_addCandidates (h.imp fun h => h.ne))
  have hsorted : (collected zone calendar after date results).Pairwise (· ≤ ·) :=
    List.pairwise_insertionSort _ _
  exact hsorted.and hnodup |>.imp fun h => lt_of_le_of_ne h.1 h.2

theorem mem_collected {zone : TimeZone} {calendar : ValidCalendar} {date : ℤ} :
    utc ∈ collected zone.toZoneRules calendar.toTaskScheduleCalendar after date results ↔
      utc ∈ results ∨ (after < utc ∧ zone.localDate utc = date ∧ zone.reading utc % 60 = 0 ∧
        hourOf (zone.reading utc) ∈ calendar.hours ∧
        minuteOf (zone.reading utc) ∈ calendar.minutes) := by
  unfold collected
  rw [List.mem_insertionSort, mem_addCandidates, List.mem_flatMap]
  refine or_congr_right ?_
  constructor
  · rintro ⟨⟨naive, hnaive, hutc⟩, hafter⟩
    rw [mem_instantsAt] at hutc
    rw [← hutc, mem_readingsOn] at hnaive
    exact ⟨hafter, hnaive⟩
  · rintro ⟨hafter, h⟩
    exact ⟨⟨zone.reading utc, (mem_readingsOn calendar).2 h, mem_instantsAt.2 rfl⟩, hafter⟩

end Collect

/-! ### The search -/

section Search

variable {zone : TimeZone} {calendar : ValidCalendar} {after date : ℤ} {count : ℕ}
  {results : List ℤ}

theorem acceptsReading_iff {calendar : TaskScheduleCalendar} {reading : ℤ} :
    acceptsReading calendar reading = true ↔ calendar.allowsDate (reading / 86400) = true ∧
      hourOf reading ∈ calendar.hours ∧ minuteOf reading ∈ calendar.minutes := by
  rw [acceptsReading, decide_eq_true_eq]

/-- A whole local minute later than `after` that the calendar allows. -/
def IsCandidate (zone : TimeZone) (calendar : ValidCalendar) (after utc : ℤ) : Prop :=
  after < utc ∧ zone.reading utc % 60 = 0 ∧
    acceptsReading calendar.toTaskScheduleCalendar (zone.reading utc) = true

/-- The candidates on the local dates from that of `after` to the given one. -/
def candidatesWithin (zone : TimeZone) (calendar : ValidCalendar) (after date : ℤ) : Set ℤ :=
  {utc | IsCandidate zone calendar after utc ∧ zone.localDate after ≤ zone.localDate utc ∧
    zone.localDate utc ≤ date}

theorem candidatesWithin_mono {date' : ℤ} (h : date ≤ date') :
    candidatesWithin zone calendar after date ⊆ candidatesWithin zone calendar after date' :=
  fun _ hutc => ⟨hutc.1, hutc.2.1, hutc.2.2.trans h⟩

/-- The results are the candidates on the dates before `date`. -/
structure Found (zone : TimeZone) (calendar : ValidCalendar) (after date : ℤ)
    (results : List ℤ) : Prop where
  sorted : results.Pairwise (· < ·)
  mem_iff : ∀ utc, utc ∈ results ↔ utc ∈ candidatesWithin zone calendar after (date - 1)

theorem encard_eq_length {l : List ℤ} {s : Set ℤ} (hl : l.Pairwise (· < ·))
    (h : ∀ utc, utc ∈ s ↔ utc ∈ l) : s.encard = l.length := by
  have hs : s = (l.toFinset : Set ℤ) := by
    ext utc
    rw [h, Finset.mem_coe, List.mem_toFinset]
  rw [hs, Set.encard_coe_eq_coe_finsetCard, List.toFinset_card_of_nodup (hl.imp fun h => h.ne)]

theorem length_le_encard {l : List ℤ} {s : Set ℤ} (hl : l.Pairwise (· < ·))
    (h : ∀ utc ∈ l, utc ∈ s) : (l.length : ℕ∞) ≤ s.encard := by
  rw [← @encard_eq_length l {utc | utc ∈ l} hl fun _ => Iff.rfl]
  exact Set.encard_le_encard h

theorem Found.encard (h : Found zone calendar after date results) :
    (candidatesWithin zone calendar after (date - 1)).encard = results.length :=
  encard_eq_length h.sorted fun utc => (h.mem_iff utc).symm

theorem Found.collect (h : Found zone calendar after date results)
    (hstart : zone.localDate after ≤ date) (hallowed : calendar.allowsDate date = true) :
    Found zone calendar after (date + 1)
      (collected zone.toZoneRules calendar.toTaskScheduleCalendar after date results) where
  sorted := sorted_collected h.sorted
  mem_iff utc := by
    rw [mem_collected, h.mem_iff]
    constructor
    · rintro (⟨hcandidate, hfrom, hto⟩ | ⟨hafter, hdate, hwhole, htime⟩)
      · exact ⟨hcandidate, hfrom, by omega⟩
      · refine ⟨⟨hafter, hwhole, acceptsReading_iff.2 ⟨?_, htime⟩⟩, hdate ▸ hstart, by omega⟩
        rw [← hdate] at hallowed
        exact hallowed
    · rintro ⟨hcandidate, hfrom, hto⟩
      rcases lt_or_eq_of_le (show zone.localDate utc ≤ date by omega) with hlt | heq
      · exact Or.inl ⟨hcandidate, hfrom, by omega⟩
      · exact Or.inr ⟨hcandidate.1, heq, hcandidate.2.1, (acceptsReading_iff.1 hcandidate.2.2).2⟩

theorem Found.skip (h : Found zone calendar after date results)
    (hallowed : calendar.allowsDate date = false) :
    Found zone calendar after (date + 1) results where
  sorted := h.sorted
  mem_iff utc := by
    rw [h.mem_iff]
    refine and_congr_right fun hcandidate => and_congr_right fun _ => ?_
    have hne : zone.localDate utc ≠ date := by
      intro heq
      have hdate := (acceptsReading_iff.1 hcandidate.2.2).1
      rw [← heq] at hallowed
      exact Bool.false_ne_true (hallowed.symm.trans hdate)
    omega

theorem found_nil (zone : TimeZone) (calendar : ValidCalendar) (after : ℤ) :
    Found zone calendar after (zone.localDate after) [] where
  sorted := List.Pairwise.nil
  mem_iff utc := by
    simp only [List.not_mem_nil, false_iff]
    rintro ⟨-, hfrom, hto⟩
    omega

/-- The dates that were searched hold enough, and too little without the last one. -/
structure Searched (zone : TimeZone) (calendar : ValidCalendar) (after last : ℤ) (count : ℕ)
    (results : List ℤ) (stop : ℤ) : Prop where
  found : Found zone calendar after stop results
  le : stop ≤ last
  short : (candidatesWithin zone calendar after (stop - 1 - 1)).encard < count
  enough : count ≤ results.length

/-- What is collected of one date, if it can be. -/
theorem collectDate_cases (hstart : zone.localDate after ≤ date)
    (h : Found zone calendar after date results) :
    ((calendar.allowsDate date = true →
        DateFits zone.toZoneRules calendar.toTaskScheduleCalendar date) →
      ∃ next, Found zone calendar after (date + 1) next ∧
        collectDate zone.toZoneRules calendar.toTaskScheduleCalendar after date results =
          .ok next) ∧
    (calendar.allowsDate date = true →
      ¬ DateFits zone.toZoneRules calendar.toTaskScheduleCalendar date →
      collectDate zone.toZoneRules calendar.toTaskScheduleCalendar after date results =
        .error dateOverflow) := by
  by_cases hallowed : calendar.allowsDate date = true
  · rw [collectDate_eq hallowed]
    exact ⟨fun hfits => ⟨_, h.collect hstart hallowed, if_pos (hfits hallowed)⟩,
      fun _ hout => if_neg hout⟩
  · exact ⟨fun _ => ⟨_, h.skip (Bool.not_eq_true _ ▸ hallowed), if_neg hallowed⟩,
      fun hdate => absurd hdate hallowed⟩

theorem searchFires_succ {left : ℕ} (hfew : results.length < count) :
    searchFires zone.toZoneRules calendar.toTaskScheduleCalendar after count (left + 1) date
        results =
      collectDate zone.toZoneRules calendar.toTaskScheduleCalendar after date results >>=
      fun next =>
        if count ≤ next.length then .ok next
        else if date + 1 = maximumOrdinal then .error dateOverflow
        else searchFires zone.toZoneRules calendar.toTaskScheduleCalendar after count left
          (date + 1) next := by
  rw [searchFires, if_neg (not_le.2 hfew)]

/-- When every date that it comes to fits, the search ends with enough, or there is too little. -/
theorem searchFires_searched {left : ℕ} (hstart : zone.localDate after ≤ date)
    (hlast : date + left ≤ maximumOrdinal) (h : Found zone calendar after date results)
    (hfew : results.length < count)
    (hfits : ∀ d, date ≤ d → d < date + left →
      (candidatesWithin zone calendar after (d - 1)).encard < count →
      calendar.allowsDate d = true →
        DateFits zone.toZoneRules calendar.toTaskScheduleCalendar d) :
    (∃ stop final, searchFires zone.toZoneRules calendar.toTaskScheduleCalendar after count left
        date results = .ok final ∧ Searched zone calendar after (date + left) count final stop) ∨
      (candidatesWithin zone calendar after (date + left - 1)).encard < count ∧
        ∀ final, searchFires zone.toZoneRules calendar.toTaskScheduleCalendar after count left date
          results = .ok final → final.length < count := by
  induction left generalizing date results with
  | zero =>
    refine Or.inr ⟨?_, fun final hfinal => Except.ok.inj hfinal ▸ hfew⟩
    rw [Nat.cast_zero, add_zero, h.encard]
    exact Nat.cast_lt.2 hfew
  | succ left ih =>
    have hend : date + ((left + 1 : ℕ) : ℤ) = date + 1 + (left : ℕ) := by push_cast; ring
    have hcount : (candidatesWithin zone calendar after (date - 1)).encard < count := by
      rw [h.encard]
      exact Nat.cast_lt.2 hfew
    obtain ⟨next, hnext, hcollect⟩ :=
      (collectDate_cases hstart h).1 (hfits date le_rfl (by omega) hcount)
    rw [searchFires_succ hfew, hcollect, hend]
    show (∃ stop final, (if count ≤ next.length then _ else _) = _ ∧ _) ∨ _ ∧
      ∀ final, (if count ≤ next.length then _ else _) = _ → _
    by_cases henough : count ≤ next.length
    · rw [if_pos henough]
      refine Or.inl ⟨date + 1, next, rfl, hnext, by omega, ?_, henough⟩
      rwa [add_sub_cancel_right]
    · rw [if_neg henough]
      by_cases hover : date + 1 = maximumOrdinal
      · rw [if_pos hover]
        obtain rfl : left = 0 := by omega
        refine Or.inr ⟨?_, fun final hfinal => nomatch hfinal⟩
        rw [Nat.cast_zero, add_zero, hnext.encard]
        exact Nat.cast_lt.2 (not_le.1 henough)
      · rw [if_neg hover]
        exact ih (by omega) (by omega) hnext (not_le.1 henough) fun d hd hto =>
          hfits d (by omega) (by omega)

/-- A date that does not fit ends the search that comes to it. -/
theorem searchFires_overflow {left : ℕ} (hstart : zone.localDate after ≤ date)
    (h : Found zone calendar after date results) (hfew : results.length < count) {d : ℤ}
    (hfrom : date ≤ d) (hto : d < date + left)
    (hcount : (candidatesWithin zone calendar after (d - 1)).encard < count)
    (hallowed : calendar.allowsDate d = true)
    (hout : ¬ DateFits zone.toZoneRules calendar.toTaskScheduleCalendar d) :
    searchFires zone.toZoneRules calendar.toTaskScheduleCalendar after count left date results =
      .error dateOverflow := by
  induction left generalizing date results with
  | zero => omega
  | succ left ih =>
    rw [searchFires_succ hfew]
    obtain ⟨hok, herror⟩ := collectDate_cases hstart h
    rcases eq_or_lt_of_le hfrom with rfl | hlater
    · rw [herror hallowed hout]
      rfl
    · by_cases hfits : calendar.allowsDate date = true →
          DateFits zone.toZoneRules calendar.toTaskScheduleCalendar date
      · obtain ⟨next, hnext, hcollect⟩ := hok hfits
        have hfewer : next.length < count := by
          have hle : (candidatesWithin zone calendar after (date + 1 - 1)).encard ≤
              (candidatesWithin zone calendar after (d - 1)).encard :=
            Set.encard_le_encard (candidatesWithin_mono (by omega))
          rw [hnext.encard] at hle
          exact Nat.cast_lt.1 (hle.trans_lt hcount)
        rw [hcollect]
        show (if count ≤ next.length then _ else _) = _
        rw [if_neg (not_le.2 hfewer)]
        by_cases hover : date + 1 = maximumOrdinal
        · exact if_pos hover
        · rw [if_neg hover]
          exact ih (by omega) hnext hfewer hlater (by omega)
      · obtain ⟨hdate, hbad⟩ := Classical.not_imp.1 hfits
        rw [herror hdate hbad]
        rfl

end Search

/-! ### The first fires -/

section First

variable {zone : TimeZone} {calendar : ValidCalendar} {after : ℤ} {count : ℕ}

/-- A whole-minute UTC instant later than `after` whose local reading the calendar allows. -/
def IsFire (zone : TimeZone) (calendar : ValidCalendar) (after utc : ℤ) : Prop :=
  after < utc ∧ utc % 60 = 0 ∧
    acceptsReading calendar.toTaskScheduleCalendar (zone.reading utc) = true

/-- The list holds the first `count` fires in order. -/
structure FirstFires (zone : TimeZone) (calendar : ValidCalendar) (after : ℤ) (count : ℕ)
    (fires : List ℤ) : Prop where
  sorted : fires.Pairwise (· < ·)
  length : fires.length = count
  isFire : ∀ utc ∈ fires, IsFire zone calendar after utc
  first : ∀ utc, IsFire zone calendar after utc → utc ∉ fires → ∀ fire ∈ fires, fire < utc

/-- The fires on the local dates up to `date`. -/
def firesWithin (zone : TimeZone) (calendar : ValidCalendar) (after date : ℤ) : Set ℤ :=
  {utc | IsFire zone calendar after utc ∧ zone.localDate after ≤ zone.localDate utc ∧
    zone.localDate utc ≤ date}

/-- One of the first `count` fires. -/
def IsEarly (zone : TimeZone) (calendar : ValidCalendar) (after : ℤ) (count : ℕ) (utc : ℤ) : Prop :=
  IsFire zone calendar after utc ∧ {v | IsFire zone calendar after v ∧ v < utc}.encard < count

/-- The last date of the search: the local date of `after`, 25 years later. -/
def horizon (zone : TimeZone) (after : ℤ) : ℤ := yearsLater (zone.localDate after) 25

/-- The search comes to the date: the dates before it hold too few candidates. -/
def Searches (zone : TimeZone) (calendar : ValidCalendar) (after : ℤ) (count : ℕ) (date : ℤ) :
    Prop :=
  zone.localDate after ≤ date ∧ date ≤ horizon zone after ∧
    (candidatesWithin zone calendar after (date - 1)).encard < count

/-- All that is computed on the way stays within the years of a `datetime`. -/
structure Representable (zone : TimeZone) (calendar : ValidCalendar) (after : ℤ) (count : ℕ) :
    Prop where
  utc : inRange after = true
  local' : inRange (zone.reading after) = true
  horizon : (Gregorian.civil (zone.localDate after)).year + 25 ≤ 9999
  dates : ∀ date, Searches zone calendar after count date → calendar.allowsDate date = true →
    DateFits zone.toZoneRules calendar.toTaskScheduleCalendar date

/-- Each of the first fires is a whole local minute on a date that the search comes to, and so is
no candidate before the last of them that is not a whole minute of UTC. -/
structure FindsFirst (zone : TimeZone) (calendar : ValidCalendar) (after : ℤ) (count : ℕ) :
    Prop where
  finds : ∀ fire, IsEarly zone calendar after count fire →
    zone.offset fire % 60 = 0 ∧ Searches zone calendar after count (zone.localDate fire)
  nothingElse : ∀ utc, IsCandidate zone calendar after utc →
    Searches zone calendar after count (zone.localDate utc) →
    ∀ fire, IsEarly zone calendar after count fire → utc < fire → zone.offset utc % 60 = 0

/-- The call finds what it should. Either there are fewer than `count` fires to find and it raises,
since something leaves the years of a `datetime` or there are fewer than `count` candidates; or
there are `count` fires, nothing leaves those years, and the search finds the first fires and
nothing else before the last of them. -/
def FiresFound (zone : TimeZone) (calendar : ValidCalendar) (after : ℤ) (count : ℕ) : Prop :=
  ((firesWithin zone calendar after (horizon zone after)).encard < count ∧
    (¬ Representable zone calendar after count ∨
      (candidatesWithin zone calendar after (horizon zone after)).encard < count)) ∨
  ((count : ℕ∞) ≤ (firesWithin zone calendar after (horizon zone after)).encard ∧
    Representable zone calendar after count ∧ FindsFirst zone calendar after count)

theorem whole_iff {utc : ℤ} (h : zone.offset utc % 60 = 0) :
    zone.reading utc % 60 = 0 ↔ utc % 60 = 0 := by
  rw [ZoneRules.reading]
  omega

theorem IsFire.candidate {utc : ℤ} (h : IsFire zone calendar after utc)
    (hwhole : zone.offset utc % 60 = 0) : IsCandidate zone calendar after utc :=
  ⟨h.1, (whole_iff hwhole).2 h.2.1, h.2.2⟩

theorem IsCandidate.fire {utc : ℤ} (h : IsCandidate zone calendar after utc)
    (hwhole : zone.offset utc % 60 = 0) : IsFire zone calendar after utc :=
  ⟨h.1, (whole_iff hwhole).1 h.2.1, h.2.2⟩

theorem IsEarly.of_le {fire utc : ℤ} (h : IsEarly zone calendar after count fire)
    (hutc : IsFire zone calendar after utc) (hle : utc ≤ fire) :
    IsEarly zone calendar after count utc := by
  refine ⟨hutc, lt_of_le_of_lt (Set.encard_le_encard fun v hv => ?_) h.2⟩
  exact ⟨hv.1, hv.2.trans_le hle⟩

/-- When there are `count` fires, there are `count` first ones. -/
theorem count_le_early {s : Set ℤ} (hs : ∀ utc ∈ s, IsFire zone calendar after utc)
    (h : (count : ℕ∞) ≤ s.encard) :
    (count : ℕ∞) ≤ {utc | IsEarly zone calendar after count utc}.encard := by
  by_cases hall : ∀ utc, IsFire zone calendar after utc → IsEarly zone calendar after count utc
  · exact h.trans (Set.encard_le_encard fun utc hutc => hall utc (hs utc hutc))
  · push Not at hall
    obtain ⟨late, hlate, hnot⟩ := hall
    -- the least fire that is not one of the first
    obtain ⟨least, ⟨hleast, hout⟩, hmin⟩ := Int.exists_least_of_bdd
      (P := fun u => IsFire zone calendar after u ∧ ¬ IsEarly zone calendar after count u)
      ⟨after, fun u hu => Int.le_of_lt hu.1.1⟩ ⟨late, hlate, hnot⟩
    have hmany : (count : ℕ∞) ≤ {v | IsFire zone calendar after v ∧ v < least}.encard :=
      not_lt.1 fun hfew => hout ⟨hleast, hfew⟩
    refine hmany.trans (Set.encard_le_encard fun v hv => ?_)
    by_contra hnone
    exact absurd (hmin v ⟨hv.1, hnone⟩) (not_le.2 hv.2)

theorem FirstFires.mem_iff {fires : List ℤ} (h : FirstFires zone calendar after count fires)
    {utc : ℤ} : utc ∈ fires ↔ IsEarly zone calendar after count utc := by
  constructor
  · intro hutc
    refine ⟨h.isFire utc hutc, ?_⟩
    have hsub : {v | IsFire zone calendar after v ∧ v < utc} ⊆ {v | v ∈ fires.erase utc} := by
      rintro v ⟨hv, hlt⟩
      have hin : v ∈ fires := by
        by_contra hout
        exact absurd (h.first v hv hout utc hutc) (not_lt.2 hlt.le)
      exact (List.mem_erase_of_ne hlt.ne).2 hin
    have herase : (fires.erase utc).Pairwise (· < ·) := h.sorted.sublist List.erase_sublist
    have hcard : {v | v ∈ fires.erase utc}.encard = (fires.erase utc).length :=
      encard_eq_length herase fun _ => Iff.rfl
    refine (Set.encard_le_encard hsub).trans_lt ?_
    rw [hcard, List.length_erase_of_mem hutc, h.length]
    have hpos : 0 < count := h.length ▸ List.length_pos_of_mem hutc
    exact Nat.cast_lt.2 (Nat.sub_lt hpos Nat.one_pos)
  · rintro ⟨hutc, hfew⟩
    by_contra hout
    have hle := length_le_encard h.sorted fun fire hfire =>
      (⟨h.isFire fire hfire, h.first utc hutc hout fire hfire⟩ :
        fire ∈ {v | IsFire zone calendar after v ∧ v < utc})
    rw [h.length] at hle
    exact absurd hfew (not_lt.2 hle)

variable {stop : ℤ} {results : List ℤ}

theorem Searched.searches_iff
    (h : Searched zone calendar after (horizon zone after + 1) count results stop) {date : ℤ} :
    Searches zone calendar after count date ↔ zone.localDate after ≤ date ∧ date < stop := by
  have hle := h.le
  refine and_congr_right fun hfrom => ⟨fun ⟨_, hfew⟩ => ?_, fun hto => ⟨by omega, ?_⟩⟩
  · by_contra hge
    have hmono : (candidatesWithin zone calendar after (stop - 1)).encard ≤
        (candidatesWithin zone calendar after (date - 1)).encard :=
      Set.encard_le_encard (candidatesWithin_mono (by omega))
    rw [h.found.encard] at hmono
    exact absurd (hmono.trans_lt hfew) (not_lt.2 (Nat.cast_le.2 h.enough))
  · exact (Set.encard_le_encard (candidatesWithin_mono (by omega))).trans_lt h.short

theorem Searched.mem_iff
    (h : Searched zone calendar after (horizon zone after + 1) count results stop) {utc : ℤ} :
    utc ∈ results ↔ IsCandidate zone calendar after utc ∧
      Searches zone calendar after count (zone.localDate utc) := by
  rw [h.found.mem_iff, h.searches_iff]
  refine and_congr_right fun _ => and_congr_right fun _ => ?_
  omega

theorem lt_of_not_mem_take {l : List ℤ} (hl : l.Pairwise (· < ·)) {u v : ℤ} (hv : v ∈ l)
    (hout : v ∉ l.take count) (hu : u ∈ l.take count) : u < v := by
  rw [← List.take_append_drop count l] at hl hv
  exact (List.pairwise_append.1 hl).2.2 u hu v ((List.mem_append.1 hv).resolve_left hout)

/-- Once the first fires are found, the first results are fires, and the first ones. -/
theorem FindsFirst.early (hfinds : FindsFirst zone calendar after count)
    (h : Searched zone calendar after (horizon zone after + 1) count results stop)
    (hmany : (count : ℕ∞) ≤ (firesWithin zone calendar after (horizon zone after)).encard)
    {utc : ℤ} (hutc : utc ∈ results.take count) : IsEarly zone calendar after count utc := by
  obtain ⟨hcandidate, hsearches⟩ := h.mem_iff.1 (List.mem_of_mem_take hutc)
  by_contra hlate
  have hbefore : ∀ fire, IsEarly zone calendar after count fire → fire < utc := by
    intro fire hfire
    by_contra hge
    rcases eq_or_lt_of_le (not_lt.1 hge) with rfl | hlt
    · exact hlate hfire
    · have hwhole := hfinds.nothingElse utc hcandidate hsearches fire hfire hlt
      exact hlate (hfire.of_le (hcandidate.fire hwhole) hlt.le)
  -- all the first fires are then among the results before this one
  have hsub : {v | IsEarly zone calendar after count v} ⊆
      {v | v ∈ (results.take count).erase utc} := by
    intro fire hfire
    have hlt := hbefore fire hfire
    obtain ⟨hwhole, hdate⟩ := hfinds.finds fire hfire
    have hin : fire ∈ results := h.mem_iff.2 ⟨hfire.1.candidate hwhole, hdate⟩
    refine (List.mem_erase_of_ne hlt.ne).2 (by_contra fun hout => ?_)
    exact absurd (lt_of_not_mem_take h.found.sorted hin hout hutc) (not_lt.2 hlt.le)
  have hsorted : ((results.take count).erase utc).Pairwise (· < ·) :=
    (h.found.sorted.sublist (List.take_sublist _ _)).sublist List.erase_sublist
  have hcard : {v | v ∈ (results.take count).erase utc}.encard =
      ((results.take count).erase utc).length := encard_eq_length hsorted fun _ => Iff.rfl
  have hle := (count_le_early (fun _ hv => hv.1) hmany).trans (Set.encard_le_encard hsub)
  rw [hcard, List.length_erase_of_mem hutc, List.length_take_of_le h.enough, Nat.cast_le] at hle
  have hpos : 0 < count := List.length_take_of_le h.enough ▸ List.length_pos_of_mem hutc
  omega

/-- The first results are the first fires exactly when the search finds these, and nothing else
before the last of them. -/
theorem Searched.firstFires_iff
    (h : Searched zone calendar after (horizon zone after + 1) count results stop)
    (hmany : (count : ℕ∞) ≤ (firesWithin zone calendar after (horizon zone after)).encard) :
    FirstFires zone calendar after count (results.take count) ↔
      FindsFirst zone calendar after count := by
  have hsorted : (results.take count).Pairwise (· < ·) :=
    h.found.sorted.sublist (List.take_sublist _ _)
  constructor
  · intro hfirst
    have hmem : ∀ fire, IsEarly zone calendar after count fire → fire ∈ results.take count :=
      fun fire => hfirst.mem_iff.2
    refine ⟨fun fire hfire => ?_, fun utc hcandidate hdate fire hfire hlt => ?_⟩
    · obtain ⟨hcandidate, hdate⟩ := h.mem_iff.1 (List.mem_of_mem_take (hmem fire hfire))
      have hutc := hfire.1.2.1
      have hreading := hcandidate.2.1
      rw [ZoneRules.reading] at hreading
      exact ⟨by omega, hdate⟩
    · have hin : utc ∈ results.take count := by
        by_contra hout
        exact absurd (lt_of_not_mem_take h.found.sorted (h.mem_iff.2 ⟨hcandidate, hdate⟩) hout
          (hmem fire hfire)) (not_lt.2 hlt.le)
      have hutc := (hfirst.isFire utc hin).2.1
      have hreading := hcandidate.2.1
      rw [ZoneRules.reading] at hreading
      omega
  · intro hfinds
    refine ⟨hsorted, List.length_take_of_le h.enough,
      fun utc hutc => (hfinds.early h hmany hutc).1, fun v hv hout fire hfire => ?_⟩
    by_contra hge
    have hearly := (hfinds.early h hmany hfire).of_le hv (not_lt.1 hge)
    obtain ⟨hwhole, hdate⟩ := hfinds.finds v hearly
    have hin : v ∈ results := h.mem_iff.2 ⟨hv.candidate hwhole, hdate⟩
    exact absurd (lt_of_not_mem_take h.found.sorted hin hout hfire) hge

end First

/-! ### The calendar of Temporal -/

theorem covers_iff {range : ScheduleRange} {value : ℕ} :
    range.covers value = true ↔ range.start ≤ value ∧ value ≤ range.stop := by
  rw [ScheduleRange.covers, decide_eq_true_eq]

theorem any_covers_single {range : ScheduleRange} {value : ℕ} :
    ([range].any fun r => r.covers value) = true ↔ range.start ≤ value ∧ value ≤ range.stop := by
  rw [List.any_cons, List.any_nil, Bool.or_false, covers_iff]

theorem any_covers_map {values : List ℕ} {value : ℕ} :
    ((values.map singleRange).any fun r => r.covers value) = true ↔ value ∈ values := by
  rw [List.any_map, List.any_eq_true]
  constructor
  · rintro ⟨v, hv, hcovers⟩
    obtain ⟨hle, hge⟩ := covers_iff.1 hcovers
    rwa [show value = v from Nat.le_antisymm hge hle]
  · exact fun h => ⟨value, h, covers_iff.2 ⟨Nat.le_refl _, Nat.le_refl _⟩⟩

/-- A field without values is the range of all of them. -/
theorem any_covers_field {values : List ℕ} {value low high : ℕ} (hlow : low ≤ value)
    (hhigh : value ≤ high) :
    ((if values = [] then [⟨low, high⟩] else values.map singleRange).any
      fun r => r.covers value) = true ↔ values = [] ∨ value ∈ values := by
  by_cases h : values = []
  · rw [if_pos h, any_covers_single]
    exact ⟨fun _ => Or.inl h, fun _ => ⟨hlow, hhigh⟩⟩
  · rw [if_neg h, any_covers_map, or_iff_right h]

theorem any_covers_weekday (calendar : ValidCalendar) (date : ℤ) :
    (calendarSpec calendar.toTaskScheduleCalendar).dayOfWeek.any
        (fun r => r.covers (Gregorian.isoWeekday date % 7)) = true ↔
      calendar.isoDaysOfWeek = [] ∨ Gregorian.isoWeekday date ∈ calendar.isoDaysOfWeek := by
  have hday := Gregorian.isoWeekday_bounds date
  unfold calendarSpec
  by_cases h : calendar.isoDaysOfWeek = []
  · rw [if_pos h, any_covers_single]
    exact ⟨fun _ => Or.inl h, fun _ => ⟨Nat.zero_le _, Nat.le_of_lt_succ (Nat.mod_lt _ (by decide))⟩⟩
  · rw [if_neg h, any_covers_map, List.mem_insertionSort, List.mem_map, or_iff_right h]
    constructor
    · rintro ⟨selected, hselected, heq⟩
      have hbounds := calendar.isoDays_bounds selected hselected
      have hsame : selected = Gregorian.isoWeekday date := by
        split at heq <;> omega
      exact hsame ▸ hselected
    · intro hmem
      refine ⟨_, hmem, ?_⟩
      split <;> omega

/-- The readings that the search accepts are the ones that Temporal fires at. -/
theorem calendarSpec_accepts (calendar : ValidCalendar) (reading : ℤ) :
    (calendarSpec calendar.toTaskScheduleCalendar).accepts reading = true ↔
      reading % 60 = 0 ∧ acceptsReading calendar.toTaskScheduleCalendar reading = true := by
  obtain ⟨⟨hmonthLow, hmonthHigh⟩, hdayLow, hdayHigh⟩ := Gregorian.civil_bounds (reading / 86400)
  have hsecond : ((calendarSpec calendar.toTaskScheduleCalendar).second.any
      fun r => r.covers (secondOf reading)) = true ↔ reading % 60 = 0 := by
    refine any_covers_single.trans ?_
    show 0 ≤ (reading % 60).toNat ∧ (reading % 60).toNat ≤ 0 ↔ _
    omega
  have hminute : ((calendarSpec calendar.toTaskScheduleCalendar).minute.any
      fun r => r.covers (minuteOf reading)) = true ↔ minuteOf reading ∈ calendar.minutes :=
    any_covers_map
  have hhour : ((calendarSpec calendar.toTaskScheduleCalendar).hour.any
      fun r => r.covers (hourOf reading)) = true ↔ hourOf reading ∈ calendar.hours :=
    any_covers_map
  have hday := @any_covers_field calendar.daysOfMonth _ 1 31 hdayLow hdayHigh
  have hmonth := @any_covers_field calendar.months _ 1 12 hmonthLow hmonthHigh
  have hweekday := any_covers_weekday calendar (reading / 86400)
  rw [acceptsReading_iff, TaskScheduleCalendar.allowsDate, decide_eq_true_eq, ← hday, ← hmonth,
    ← hweekday, ← hminute, ← hhour, ← hsecond]
  unfold ScheduleCalendarSpec.accepts
  simp only [Bool.and_eq_true]
  constructor
  · rintro ⟨⟨⟨⟨⟨⟨hs, hm⟩, hh⟩, hd⟩, hmo⟩, -⟩, hw⟩
    exact ⟨hs, ⟨hmo, hd, hw⟩, hh, hm⟩
  · rintro ⟨hs, ⟨hmo, hd, hw⟩, hh, hm⟩
    exact ⟨⟨⟨⟨⟨⟨hs, hm⟩, hh⟩, hd⟩, hmo⟩, rfl⟩, hw⟩

/-! ### Exact fire times -/

/-- What a caller may expect of the fire times and of the installed calendar. -/
structure ExactFireTimes (zoneInfo : String → Option TimeZone) (calendar : ValidCalendar)
    (timeZoneName : String) (after : ℤ) (count : ℕ) (zone : TimeZone) : Prop where
  returns : ∀ fires, nextTaskScheduleFireTimes zoneInfo calendar.toTaskScheduleCalendar timeZoneName
    after count = .ok fires → FirstFires zone calendar after count fires
  raises : (∃ e, nextTaskScheduleFireTimes zoneInfo calendar.toTaskScheduleCalendar timeZoneName
    after count = .error e) ↔
      (firesWithin zone calendar after (horizon zone after)).encard < count
  installed : ∀ reading, (calendarSpec calendar.toTaskScheduleCalendar).accepts reading = true ↔
    reading % 60 = 0 ∧ acceptsReading calendar.toTaskScheduleCalendar reading = true

section Exact

variable {zoneInfo : String → Option TimeZone} {calendar : ValidCalendar} {timeZoneName : String}
  {after : ℤ} {count : ℕ} {zone : TimeZone}

theorem yearsLater_lt {date years : ℤ} (h : (Gregorian.civil date).year + years ≤ 9999) :
    yearsLater date years < maximumOrdinal := by
  unfold yearsLater
  dsimp only
  split
  · exact Gregorian.ofCivil_lt (by simp) h
  · exact Gregorian.ofCivil_lt (Gregorian.civil_bounds date).2.2 h

theorem le_horizon (zone : TimeZone) (after : ℤ) : zone.localDate after ≤ horizon zone after := by
  unfold horizon
  generalize zone.localDate after = date
  have hdate := Gregorian.ofCivil_civil date
  have hyears : Gregorian.daysBeforeYear (Gregorian.civil date).year + 366 ≤
      Gregorian.daysBeforeYear ((Gregorian.civil date).year + 25) := by
    unfold Gregorian.daysBeforeYear
    omega
  unfold Gregorian.ofCivil Gregorian.daysBeforeMonth at hdate
  unfold yearsLater Gregorian.ofCivil Gregorian.daysBeforeMonth
  dsimp only
  by_cases hleap : (Gregorian.civil date).month = 2 ∧ (Gregorian.civil date).day = 29 ∧
      Gregorian.isLeap ((Gregorian.civil date).year + 25) = false
  · rw [hleap.1, hleap.2.1] at hdate
    rw [if_pos hleap]
    split at hdate <;> split <;> omega
  · rw [if_neg hleap]
    split at hdate <;> split <;> omega

/-- The call of a representable search, step by step. -/
theorem next_eq (hzone : zoneInfo timeZoneName = some zone) (hcount : 1 ≤ count ∧ count ≤ 10)
    (hutc : inRange after = true) (hlocal : inRange (zone.reading after) = true)
    (hyear : (Gregorian.civil (zone.localDate after)).year + 25 ≤ 9999) :
    nextTaskScheduleFireTimes zoneInfo calendar.toTaskScheduleCalendar timeZoneName after count =
      (searchFires zone.toZoneRules calendar.toTaskScheduleCalendar after count
        (horizon zone after - zone.localDate after + 1).toNat (zone.localDate after) []) >>=
      fun results => if results.length < count then
        .error "calendar does not produce enough fires within 25 years"
      else .ok (results.take count) := by
  unfold nextTaskScheduleFireTimes datetimeOf addYears
  rw [if_neg (not_not.2 hcount), hzone]
  simp only [hutc, hlocal, if_true, bind, Except.bind]
  rw [if_neg (not_lt.2 (by exact hyear))]
  rfl

theorem next_raises (hzone : zoneInfo timeZoneName = some zone) (hcount : 1 ≤ count ∧ count ≤ 10)
    (h : ¬ Representable zone calendar after count) :
    ∃ e, nextTaskScheduleFireTimes zoneInfo calendar.toTaskScheduleCalendar timeZoneName after
      count = .error e := by
  by_cases hutc : inRange after = true
  · by_cases hlocal : inRange (zone.reading after) = true
    · by_cases hyear : (Gregorian.civil (zone.localDate after)).year + 25 ≤ 9999
      · rw [next_eq hzone hcount hutc hlocal hyear]
        have hbad : ∃ date, Searches zone calendar after count date ∧
            calendar.allowsDate date = true ∧
            ¬ DateFits zone.toZoneRules calendar.toTaskScheduleCalendar date := by
          by_contra hall
          push Not at hall
          exact h ⟨hutc, hlocal, hyear, hall⟩
        obtain ⟨date, ⟨hfrom, hto, hfew⟩, hallowed, hout⟩ := hbad
        rw [searchFires_overflow le_rfl (found_nil zone calendar after) hcount.1 hfrom (by omega)
          hfew hallowed hout]
        exact ⟨_, rfl⟩
      · unfold nextTaskScheduleFireTimes datetimeOf addYears
        rw [if_neg (not_not.2 hcount), hzone]
        simp only [hutc, hlocal, if_true, bind, Except.bind]
        rw [if_pos (not_le.1 (by exact hyear))]
        exact ⟨_, rfl⟩
    · unfold nextTaskScheduleFireTimes datetimeOf
      rw [if_neg (not_not.2 hcount), hzone]
      simp [hutc, hlocal, bind, Except.bind]
  · unfold nextTaskScheduleFireTimes datetimeOf
    rw [if_neg (not_not.2 hcount), hzone]
    simp [hutc, bind, Except.bind]

/-- A representable search returns enough of what it searched, or there is too little. -/
theorem next_searched (hzone : zoneInfo timeZoneName = some zone)
    (hcount : 1 ≤ count ∧ count ≤ 10) (h : Representable zone calendar after count) :
    (∃ results stop, Searched zone calendar after (horizon zone after + 1) count results stop ∧
        nextTaskScheduleFireTimes zoneInfo calendar.toTaskScheduleCalendar timeZoneName after
          count = .ok (results.take count)) ∨
      (candidatesWithin zone calendar after (horizon zone after)).encard < count ∧
        ∃ e, nextTaskScheduleFireTimes zoneInfo calendar.toTaskScheduleCalendar timeZoneName after
          count = .error e := by
  have hle : zone.localDate after ≤ horizon zone after := le_horizon zone after
  have hlast : zone.localDate after + ((horizon zone after - zone.localDate after + 1).toNat : ℤ) =
      horizon zone after + 1 := by omega
  have hmaximum : horizon zone after < maximumOrdinal := yearsLater_lt h.horizon
  have hsearch := @searchFires_searched zone calendar after (zone.localDate after) count []
    (horizon zone after - zone.localDate after + 1).toNat le_rfl (by omega)
    (found_nil zone calendar after) hcount.1 fun d hfrom hto hfew hallowed =>
      h.dates d ⟨hfrom, by omega, hfew⟩ hallowed
  rw [hlast, add_sub_cancel_right] at hsearch
  rw [next_eq hzone hcount h.utc h.local' h.horizon]
  rcases hsearch with ⟨stop, final, hfinal, hsearched⟩ | ⟨hfew, hshort⟩
  · refine Or.inl ⟨final, stop, hsearched, ?_⟩
    rw [hfinal]
    exact if_neg (not_lt.2 hsearched.enough)
  · refine Or.inr ⟨hfew, ?_⟩
    cases hfinal : searchFires zone.toZoneRules calendar.toTaskScheduleCalendar after count
      (horizon zone after - zone.localDate after + 1).toNat (zone.localDate after) [] with
    | error e => exact ⟨e, rfl⟩
    | ok final => exact ⟨_, if_pos (hshort final hfinal)⟩

theorem fire_times_exact_iff (hzone : zoneInfo timeZoneName = some zone)
    (hcount : 1 ≤ count ∧ count ≤ 10) :
    ExactFireTimes zoneInfo calendar timeZoneName after count zone ↔
      FiresFound zone calendar after count := by
  have hraised : (∃ e, nextTaskScheduleFireTimes zoneInfo calendar.toTaskScheduleCalendar
      timeZoneName after count = .error e) →
      (ExactFireTimes zoneInfo calendar timeZoneName after count zone ↔
        (firesWithin zone calendar after (horizon zone after)).encard < count) := by
    rintro ⟨e, he⟩
    refine ⟨fun h => h.raises.1 ⟨e, he⟩, fun hfew => ⟨fun fires h => ?_,
      ⟨fun _ => hfew, fun _ => ⟨e, he⟩⟩, calendarSpec_accepts calendar⟩⟩
    rw [he] at h
    cases h
  by_cases hrep : Representable zone calendar after count
  · rcases next_searched hzone hcount hrep with ⟨results, stop, hsearched, hnext⟩ | ⟨hfew, herror⟩
    · have hcandidates : ¬ (candidatesWithin zone calendar after (horizon zone after)).encard <
          count := by
        have hle := hsearched.le
        have hmono : (candidatesWithin zone calendar after (stop - 1)).encard ≤
            (candidatesWithin zone calendar after (horizon zone after)).encard :=
          Set.encard_le_encard (candidatesWithin_mono (by omega))
        rw [hsearched.found.encard] at hmono
        exact not_lt.2 ((Nat.cast_le.2 hsearched.enough).trans hmono)
      have hnot : ¬ ∃ e, nextTaskScheduleFireTimes zoneInfo calendar.toTaskScheduleCalendar
          timeZoneName after count = .error e := by
        rintro ⟨e, he⟩
        rw [hnext] at he
        cases he
      constructor
      · intro h
        have hmany : (count : ℕ∞) ≤
            (firesWithin zone calendar after (horizon zone after)).encard :=
          not_lt.1 fun hfew => hnot (h.raises.2 hfew)
        exact Or.inr ⟨hmany, hrep, (hsearched.firstFires_iff hmany).1 (h.returns _ hnext)⟩
      · rintro (⟨-, hno⟩ | ⟨hmany, -, hfinds⟩)
        · exact absurd (hno.resolve_left (not_not.2 hrep)) hcandidates
        · refine ⟨fun fires heq => ?_, ⟨fun h => absurd h hnot, fun hfew => absurd hfew
            (not_lt.2 hmany)⟩, calendarSpec_accepts calendar⟩
          rw [hnext] at heq
          exact Except.ok.inj heq ▸ (hsearched.firstFires_iff hmany).2 hfinds
    · rw [hraised herror]
      refine ⟨fun h => Or.inl ⟨h, Or.inr hfew⟩, ?_⟩
      rintro (⟨h, -⟩ | ⟨hmany, -, hfinds⟩)
      · exact h
      · -- the first fires would be enough candidates
        have hle := (count_le_early (fun _ hv => hv.1) hmany).trans (Set.encard_le_encard
          fun fire hfire => by
            obtain ⟨hwhole, hfrom, hto, -⟩ := hfinds.finds fire hfire
            exact (⟨hfire.1.candidate hwhole, hfrom, hto⟩ :
              fire ∈ candidatesWithin zone calendar after (horizon zone after)))
        exact absurd hfew (not_lt.2 hle)
  · rw [hraised (next_raises hzone hcount hrep)]
    refine ⟨fun h => Or.inl ⟨h, Or.inl hrep⟩, ?_⟩
    rintro (⟨h, -⟩ | ⟨-, h, -⟩)
    · exact h
    · exact absurd h hrep

end Exact

/-! ### Sufficient conditions -/

section Sufficient

variable {zone : TimeZone} {calendar : ValidCalendar} {after : ℤ} {count : ℕ}

/-- Found are the fires of all the zones whose local date never goes back and whose offsets are in
whole minutes. -/
theorem firesFound_of_monotone (hrep : Representable zone calendar after count)
    (hmono : ∀ u v, after ≤ u → u ≤ v → zone.localDate u ≤ zone.localDate v)
    (hwhole : ∀ utc, after < utc → zone.offset utc % 60 = 0) :
    FiresFound zone calendar after count := by
  have hsame : ∀ date, candidatesWithin zone calendar after date =
      firesWithin zone calendar after date := by
    intro date
    ext utc
    exact and_congr_left fun _ => ⟨fun h => h.fire (hwhole utc h.1),
      fun h => h.candidate (hwhole utc h.1)⟩
  by_cases hmany : (count : ℕ∞) ≤ (firesWithin zone calendar after (horizon zone after)).encard
  · refine Or.inr ⟨hmany, hrep, fun fire hfire => ⟨hwhole fire hfire.1.1, ?_, ?_, ?_⟩,
      fun utc hutc _ _ _ _ => hwhole utc hutc.1⟩
    · exact hmono after fire le_rfl hfire.1.1.le
    · by_contra hlate
      refine absurd (lt_of_le_of_lt (Set.encard_le_encard fun v hv => ?_) hfire.2)
        (not_lt.2 hmany)
      obtain ⟨hv, -, hdate⟩ := hv
      refine ⟨hv, lt_of_not_ge fun hge => ?_⟩
      have := hmono fire v hfire.1.1.le hge
      omega
    · rw [hsame]
      refine lt_of_le_of_lt (Set.encard_le_encard fun v hv => ?_) hfire.2
      obtain ⟨hv, -, hdate⟩ := hv
      refine ⟨hv, lt_of_not_ge fun hge => ?_⟩
      have := hmono fire v hfire.1.1.le hge
      omega
  · exact Or.inl ⟨not_le.1 hmany, Or.inr (hsame _ ▸ not_le.1 hmany)⟩

theorem gapOffsets_mem (naive offset : ℤ) (transitions : List (ℤ × ℤ)) :
    (ZoneRules.gapOffsets naive offset transitions).1 ∈ offset :: transitions.map Prod.snd ∧
      (ZoneRules.gapOffsets naive offset transitions).2 ∈ offset :: transitions.map Prod.snd := by
  induction transitions generalizing offset with
  | nil => simp [ZoneRules.gapOffsets]
  | cons t rest ih =>
    unfold ZoneRules.gapOffsets
    split
    · simp
    · exact ⟨List.mem_cons_of_mem _ (ih t.2).1, List.mem_cons_of_mem _ (ih t.2).2⟩

theorem toUtc_offset (zone : ZoneRules) (naive : ℤ) (fold : ℕ) :
    ∃ offset ∈ zone.offsets, zone.toUtc naive fold = naive - offset := by
  have hinstant : ∀ utc ∈ zone.instantsAt naive,
      ∃ offset ∈ zone.offsets, utc = naive - offset := by
    intro utc hutc
    refine ⟨zone.offset utc, offset_mem zone utc, ?_⟩
    rw [← mem_instantsAt.1 hutc, ZoneRules.reading]
    omega
  unfold ZoneRules.toUtc
  cases h : zone.instantsAt naive with
  | nil =>
    obtain ⟨hbefore, hlater⟩ := gapOffsets_mem naive zone.initial zone.transitions
    dsimp only
    split
    · exact ⟨_, hbefore, rfl⟩
    · exact ⟨_, hlater, rfl⟩
  | cons first rest =>
    rw [h] at hinstant
    dsimp only
    split
    · exact hinstant first List.mem_cons_self
    · cases hlast : rest.getLast? with
      | none => exact hinstant first List.mem_cons_self
      | some last => exact hinstant last (List.mem_cons_of_mem _ (List.mem_of_getLast? hlast))

/-- Nothing leaves the years of a `datetime` when `after` keeps two days from the first of them
and the end of the search two from the last. -/
theorem representable_of_offsets (hoffsets : ∀ o ∈ zone.offsets, -86400 < o ∧ o < 86400)
    (hfrom : 2 ≤ zone.localDate after) (hto : horizon zone after ≤ 3652056)
    (hyear : (Gregorian.civil (zone.localDate after)).year + 25 ≤ 9999) :
    Representable zone calendar after count := by
  have hrange : ∀ seconds, 0 ≤ seconds → seconds < 3652059 * 86400 → inRange seconds = true :=
    fun _ hlow hhigh => decide_eq_true ⟨hlow, hhigh⟩
  have hle := le_horizon zone after
  have hoffset := hoffsets _ (offset_mem zone.toZoneRules after)
  have hreading : zone.reading after = after + zone.offset after := rfl
  have hdate : zone.localDate after = zone.reading after / 86400 := rfl
  refine ⟨hrange _ (by omega) (by omega), hrange _ (by omega) (by omega), hyear, ?_⟩
  intro date hsearches _ naive hnaive fold _
  obtain ⟨hdate', -⟩ := (mem_readingsOn calendar).1 hnaive
  obtain ⟨hlow, hhigh, -⟩ := hsearches
  obtain ⟨offset, hmem, hutc⟩ := toUtc_offset zone.toZoneRules naive fold
  have hbefore := hoffsets offset hmem
  have hlater := hoffsets _ (offset_mem zone.toZoneRules (zone.toUtc naive fold))
  have hback : zone.reading (zone.toUtc naive fold) =
      zone.toUtc naive fold + zone.offset (zone.toUtc naive fold) := rfl
  exact ⟨hrange _ (by omega) (by omega), hrange _ (by omega) (by omega)⟩

end Sufficient

/-! ### Zones with one transition -/

def oneTransition (before at' later : ℤ) : ZoneRules := ⟨before, [(at', later)]⟩

theorem reading_oneTransition (before at' later utc : ℤ) :
    (oneTransition before at' later).reading utc =
      if at' ≤ utc then utc + later else utc + before := by
  unfold ZoneRules.reading ZoneRules.offset oneTransition
  rw [List.foldl_cons, List.foldl_nil]
  split <;> rfl

def zoneOfTransition (before at' later : ℤ) : TimeZone where
  toZoneRules := oneTransition before at' later
  atMostTwice u v w huv hvw := by
    rw [reading_oneTransition, reading_oneTransition, reading_oneTransition]
    split_ifs <;> omega

/-- The clocks go back from 02:00 to 01:00 on 2026-11-01. -/
def newYork : TimeZone := zoneOfTransition (-14400) 63929109600 (-18000)

def sundays : ValidCalendar where
  minutes := [30]
  hours := [1]
  daysOfMonth := []
  months := []
  isoDaysOfWeek := [7]
  minutes_le := by decide
  hours_le := by decide
  days_bounds := by decide
  months_bounds := by decide
  isoDays_bounds := by decide

theorem both_folds_fire :
    ExactFireTimes (fun _ => some newYork) sundays "America/New_York" 63929102400 2 newYork := by
  have hreading : ∀ utc, newYork.reading utc =
      if 63929109600 ≤ utc then utc + -18000 else utc + -14400 := reading_oneTransition _ _ _
  have hrep : Representable newYork sundays 63929102400 2 :=
    representable_of_offsets (by decide) (by decide) (by decide) (by decide)
  refine (fire_times_exact_iff rfl ⟨by decide, by decide⟩).2
    (firesFound_of_monotone hrep (fun u v _ huv => ?_) fun utc _ => ?_)
  · show newYork.reading u / 86400 ≤ newYork.reading v / 86400
    rw [hreading, hreading]
    split_ifs <;> omega
  · have hutc := hreading utc
    rw [ZoneRules.reading] at hutc
    split_ifs at hutc <;> omega

/-- The clocks went back from 00:01 on 2010-11-07 to 23:01 on the day before. -/
def stJohns : TimeZone := zoneOfTransition (-9000) 63424693860 (-12600)

def aroundMidnight : ValidCalendar where
  minutes := [0, 30]
  hours := [0, 23]
  daysOfMonth := []
  months := []
  isoDaysOfWeek := []
  minutes_le := by decide
  hours_le := by decide
  days_bounds := by decide
  months_bounds := by decide
  isoDays_bounds := by decide

/-- After 23:45 the next fire is the midnight before the transition; the answer is the second 23:30,
which comes later but is read on the earlier date. -/
theorem fire_after_midnight_overtaken :
    ¬ ExactFireTimes (fun _ => some stJohns) aroundMidnight "America/St_Johns" 63424692900 1
      stJohns := by
  intro h
  have hnext : nextTaskScheduleFireTimes (fun _ => some stJohns)
      aroundMidnight.toTaskScheduleCalendar "America/St_Johns" 63424692900 1 =
        .ok [63424695600] := by
    decide
  have hfire : IsFire stJohns aroundMidnight 63424692900 63424693800 :=
    ⟨by decide, by decide, by decide⟩
  have hlt := (h.returns _ hnext).first 63424693800 hfire (by decide) 63424695600
    (List.mem_singleton_self _)
  exact absurd hlt (by decide)

end Atlas.Proofs.FireTimes
