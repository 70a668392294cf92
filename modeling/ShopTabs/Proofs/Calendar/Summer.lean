import ShopTabs.Proofs.Calendar.Zone
/-!
Summer time in the eastern United States: it ends on a day of its own year, or on the one day at which
that of the war ended, and clocks are then set back by an hour that belongs to one and the same day.
-/

namespace ShopTabs

namespace Zone

/-- From March on, months begin as many days apart in all years. -/
theorem daysBeforeMonth_seasons (year : Nat) :
    Civil.daysBeforeMonth year 4 = Civil.daysBeforeMonth year 3 + 31 ∧
    Civil.daysBeforeMonth year 9 = Civil.daysBeforeMonth year 4 + 153 ∧
    Civil.daysBeforeMonth year 10 = Civil.daysBeforeMonth year 4 + 183 ∧
    Civil.daysBeforeMonth year 11 = Civil.daysBeforeMonth year 4 + 214 ∧
    Civil.daysBeforeMonth year 4 + 275 = if Civil.isLeap year then 366 else 365 := by
  simp only [Civil.daysBeforeMonth, Civil.monthLengths]
  cases Civil.isLeap year <;> decide

/-- The days that the rules for summer time name, counted from the first of April of the year. -/
theorem dayNumber_seasons (year : Nat) :
    dayNumber year 3 8 = dayNumber year 4 1 - 24 ∧ dayNumber year 3 25 = dayNumber year 4 1 - 7 ∧
    dayNumber year 4 24 = dayNumber year 4 1 + 23 ∧ dayNumber year 4 30 = dayNumber year 4 1 + 29 ∧
    dayNumber year 9 24 = dayNumber year 4 1 + 176 ∧ dayNumber year 10 25 = dayNumber year 4 1 + 207 ∧
    dayNumber year 11 1 = dayNumber year 4 1 + 214 ∧ dayNumber year 11 7 = dayNumber year 4 1 + 220 := by
  have hmonths := daysBeforeMonth_seasons year
  simp only [dayNumber, Civil.number]
  omega

/-- From spring to autumn it stays the same year. -/
theorem dayNumber_inside {year : Nat} (h : 1 ≤ year) :
    (Civil.daysBeforeYear year : Int) < dayNumber year 4 1 ∧
      dayNumber year 11 7 ≤ Civil.daysBeforeYear (year + 1) := by
  obtain ⟨m, rfl⟩ := Nat.exists_eq_add_of_le' h
  have hmonths := daysBeforeMonth_seasons (m + 1)
  have hyear : Civil.daysBeforeYear (m + 1 + 1) =
      Civil.daysBeforeYear (m + 1) + if Civil.isLeap (m + 1) then 366 else 365 :=
    Civil.daysBeforeYear_add m
  simp only [dayNumber, Civil.number]
  omega

/-- Summer time begins by the end of April and ends in autumn. -/
structure InSeasons (year : Nat) (first last : Int) : Prop where
  spring : first ≤ dayNumber year 4 30
  autumn : dayNumber year 9 24 ≤ last
  ended : last ≤ dayNumber year 11 7

theorem InSeasons.untilSunday {year : Nat} {first last : Int} (hspring : first ≤ dayNumber year 4 30)
    (hautumn : dayNumber year 9 24 ≤ last) (hended : last ≤ dayNumber year 11 1) :
    InSeasons year first (Day.sundayFrom last) := by
  obtain ⟨_, _, _, _, _, _, hnovember, hlast⟩ := dayNumber_seasons year
  have hsunday := Day.sundayFrom_bounds last
  exact ⟨hspring, by omega, by omega⟩

theorem InSeasons.sundays {year : Nat} {first last : Int} (hspring : first ≤ dayNumber year 4 24)
    (hautumn : dayNumber year 9 24 ≤ last) (hended : last ≤ dayNumber year 11 1) :
    InSeasons year (Day.sundayFrom first) (Day.sundayFrom last) := by
  obtain ⟨_, _, hapril, hlast, _⟩ := dayNumber_seasons year
  have hsunday := Day.sundayFrom_bounds first
  exact .untilSunday (by omega) hautumn hended

/-- The days that a rule names, if it names any, are in their seasons. -/
def NamesSeasons (year : Nat) (days : Option (Int × Int)) : Prop :=
  ∀ first last, days = some (first, last) → InSeasons year first last

theorem InSeasons.namesSeasons {year : Nat} {first last : Int} (h : InSeasons year first last) :
    NamesSeasons year (some (first, last)) := by
  intro _ _ hdays
  cases hdays
  exact h

theorem NamesSeasons.ite {year : Nat} {c : Prop} [Decidable c] {days others : Option (Int × Int)}
    (hdays : c → NamesSeasons year days) (hothers : ¬ c → NamesSeasons year others) :
    NamesSeasons year (if c then days else others) := by
  by_cases hc : c
  · rw [if_pos hc]
    exact hdays hc
  · rw [if_neg hc]
    exact hothers hc

/-- Only the summer time of the war went on for years. -/
theorem summerDays_inSeasons {year : Nat} {first last : Int} (h : summerDays year = some (first, last))
    (hpeace : year < 1942 ∨ 1944 < year) : InSeasons year first last := by
  obtain ⟨hmarch, hlateMarch, hapril, _, hseptember, hoctober, hnovember, _⟩ := dayNumber_seasons year
  have hseasons : NamesSeasons year (summerDays year) := by
    -- One step for each rule, the latest first.
    refine .ite (fun _ => ?_) fun _ => ?_
    · exact (InSeasons.sundays (by omega) (by omega) (by omega)).namesSeasons
    refine .ite (fun _ => ?_) fun _ => ?_
    · exact (InSeasons.sundays (by omega) (by omega) (by omega)).namesSeasons
    refine .ite (fun h1975 => ?_) fun _ => ?_
    · subst h1975
      exact (InSeasons.untilSunday (by decide) (by omega) (by omega)).namesSeasons
    refine .ite (fun h1974 => ?_) fun _ => ?_
    · subst h1974
      exact (InSeasons.untilSunday (by decide) (by omega) (by omega)).namesSeasons
    refine .ite (fun _ => ?_) fun _ => ?_
    · exact (InSeasons.sundays (by omega) (by omega) (by omega)).namesSeasons
    refine .ite (fun _ => ?_) fun _ => ?_
    · exact (InSeasons.sundays (by omega) (by omega) (by omega)).namesSeasons
    refine .ite (fun _ => ?_) fun _ => ?_
    · -- Of the years of war only the last is left.
      have hlast : year = 1945 := by omega
      subst hlast
      exact InSeasons.namesSeasons ⟨by decide, by decide, by decide⟩
    refine .ite (fun _ => ?_) fun _ => ?_
    · exact (InSeasons.sundays (by omega) (by omega) (by omega)).namesSeasons
    refine .ite (fun _ => ?_) fun _ => ?_
    · exact (InSeasons.sundays (by omega) (by omega) (by omega)).namesSeasons
    rintro _ _ ⟨⟩
  exact hseasons first last h

theorem summerDays_isSome {year : Nat} : (summerDays year).isSome ↔ 1918 ≤ year := by
  simp only [summerDays, apply_ite Option.isSome, Option.isSome_some, Option.isSome_none]
  grind

theorem summerDays_war {year : Nat} (h : 1942 ≤ year) (hended : year ≤ 1945) :
    summerDays year = some (dayNumber 1942 2 9, dayNumber 1945 9 30) := by
  rw [summerDays, if_neg (by omega), if_neg (by omega), if_neg (by omega), if_neg (by omega),
    if_neg (by omega), if_neg (by omega), if_pos h]

/-- A summer time is that of every later year that has begun by its last day. -/
theorem summerDays_goesOn {year later : Nat} {first last : Int} (h : summerDays year = some (first, last))
    (hle : year ≤ later) (hbegun : (Civil.daysBeforeYear later : Int) < last) :
    summerDays later = some (first, last) := by
  have hmono : Monotone Civil.daysBeforeYear := fun _ _ => Civil.daysBeforeYear_mono
  have hfrom : 1918 ≤ year := summerDays_isSome.mp (by simp [h])
  by_cases hpeace : year < 1942 ∨ 1944 < year
  · have hends := (dayNumber_inside (Nat.le_trans (by decide) hfrom)).2
    have hended := (summerDays_inSeasons h hpeace).ended
    have hbefore : later < year + 1 := hmono.reflect_lt (by omega)
    have hsame : later = year := by omega
    rw [hsame, h]
  · rw [summerDays_war (by omega) (by omega)] at h
    cases h
    have hended : dayNumber 1945 9 30 ≤ Civil.daysBeforeYear 1946 := by decide
    have hbefore : later < 1946 := hmono.reflect_lt (by omega)
    exact summerDays_war (by omega) (by omega)

/-! ### The moments of the changes -/

/-- Two o'clock standard time on a day. -/
def summerBegins (first : Int) : Instant := ⟨(first - 1) * microsPerDay + 7 * 3600 * 1000000⟩

/-- Two o'clock summer time on a day. -/
def summerEnds (last : Int) : Instant := ⟨(last - 1) * microsPerDay + 6 * 3600 * 1000000⟩

variable {a b t : Instant}

theorem isSummer_iff : isSummer t = true ↔ ∃ d first last, t.dayAt? (-5 * 3600) = some d ∧
    summerDays d.civil.year = some (first, last) ∧ summerBegins first ≤ t ∧ t < summerEnds last := by
  rw [isSummer]
  cases hday : t.dayAt? (-5 * 3600) with
  | none => simp
  | some d =>
      cases hyear : summerDays d.civil.year with
      | none => simp [hyear]
      | some days =>
          obtain ⟨first, last⟩ := days
          simp only [hyear, Bool.and_eq_true, decide_eq_true_eq]
          constructor
          · rintro ⟨hbegun, hbefore⟩
            exact ⟨d, first, last, rfl, hyear, hbegun, hbefore⟩
          · rintro ⟨_, _, _, hd, hdays, hbegun, hbefore⟩
            cases hd
            rw [hyear] at hdays
            cases hdays
            exact ⟨hbegun, hbefore⟩

/-- Clocks that are set back in autumn show the same day as before. -/
theorem keepsDay_summerEnds (last : Int) : (summerEnds last).keepsDay (-4 * 3600) (-5 * 3600) = true := by
  have hday : (microsPerDay : Int) = 86400000000 := rfl
  simp only [Instant.keepsDay, Instant.dayNumberAt, summerEnds, hday, decide_eq_true_eq]
  omega

/-- A summer goes on until its last day. -/
theorem isSummer_of_le {d e : Day} {first last : Int} (hle : a ≤ b)
    (hd : a.dayAt? (-5 * 3600) = some d) (he : b.dayAt? (-5 * 3600) = some e)
    (hyear : summerDays d.civil.year = some (first, last)) (hbegun : summerBegins first ≤ a)
    (hbefore : b < summerEnds last) : isSummer b = true := by
  have hnumbers : d.number = a.dayNumberAt (-5 * 3600) ∧ e.number = b.dayNumberAt (-5 * 3600) :=
    ⟨Day.ofNumber?_eq_some.mp hd, Day.ofNumber?_eq_some.mp he⟩
  have hdays : d ≤ e := by
    rw [Day.le_def, hnumbers.1, hnumbers.2]
    exact Instant.dayNumberAt_mono (Int.add_le_add_right hle _)
  have hlast : e.number ≤ last := by
    have hday : (microsPerDay : Int) = 86400000000 := rfl
    have hmicros : b.micros < (summerEnds last).micros := hbefore
    rw [hnumbers.2]
    simp only [Instant.dayNumberAt, summerEnds, hday] at hmicros ⊢
    omega
  have hgoes : summerDays e.civil.year = some (first, last) :=
    summerDays_goesOn hyear (Day.year_mono hdays) (Int.lt_of_lt_of_le e.year_bounds.1 hlast)
  exact isSummer_iff.mpr ⟨e, first, last, he, hgoes, Int.le_trans hbegun hle, hbefore⟩

/-! ### Local days -/

theorem offsetAt_easternUS : easternUS.offsetAt t =
    if t < standardTimeBegins then -17762 else if isSummer t then -4 * 3600 else -5 * 3600 := rfl

theorem offsetAt_of_standard (h : standardTimeBegins ≤ t) :
    easternUS.offsetAt t = if isSummer t then -4 * 3600 else -5 * 3600 := if_neg (Int.not_lt.mpr h)

theorem dayNumberOf_easternUS_mono (hb : easternUS.IsDated b) (hle : a ≤ b) :
    easternUS.dayNumberOf a ≤ easternUS.dayNumberOf b := by
  have hlater : ∀ {offset later : Int}, offset ≤ later → a.dayNumberAt offset ≤ b.dayNumberAt later := by
    intro offset later hoffset
    have hmicros : a.micros ≤ b.micros := hle
    exact Instant.dayNumberAt_mono (by omega)
  obtain ⟨e, he⟩ := isDated_iff.mp hb
  simp only [dayNumberOf, dayAt?, offsetAt_easternUS] at he ⊢
  by_cases hlocal : a < standardTimeBegins
  · rw [if_pos hlocal]
    by_cases hstill : b < standardTimeBegins
    · rw [if_pos hstill]
      exact hlater (Int.le_refl _)
    · have hchanged := Instant.dayNumberAt_le_of_change hlocal (Int.not_lt.mp hstill)
        (show standardTimeBegins.keepsDay (-17762) (-5 * 3600) = true by decide)
      rw [if_neg hstill]
      cases isSummer b
      · exact hchanged
      · exact Int.le_trans hchanged (Instant.dayNumberAt_mono (Int.add_le_add_left (by decide) _))
  · have hstandard : ¬ b < standardTimeBegins := fun h => hlocal (Int.lt_of_le_of_lt hle h)
    rw [if_neg hlocal, if_neg hstandard] at *
    cases ha : isSummer a
    · cases isSummer b
      · exact hlater (Int.le_refl _)
      · exact hlater (by decide)
    · cases hsummer : isSummer b
      · obtain ⟨d, first, last, hd, hyear, hbegun, hbefore⟩ := isSummer_iff.mp ha
        rw [hsummer] at he
        -- A summer that is over by now has ended on its last day.
        have hended : summerEnds last ≤ b := by
          by_contra hnot
          rw [isSummer_of_le hle hd he hyear hbegun (Int.not_le.mp hnot)] at hsummer
          cases hsummer
        exact Instant.dayNumberAt_le_of_change hbefore hended (keepsDay_summerEnds last)
      · exact hlater (Int.le_refl _)

/-- The changes that a zone lists keep the days in order; a rule lists none. -/
def keepsDays : Zone → Bool
  | changing first changes => neverBack first changes
  | easternUS => true

/-- There is a zone for every whole number of hours from twelve behind to fourteen ahead. -/
theorem ofName_fixedName {hours : Int} (hbehind : -12 ≤ hours) (hahead : hours ≤ 14) :
    ofName (fixedName hours) = .ok (fixed hours) := by
  have hfound : ∀ h ∈ fixedHours, ofName (fixedName h) = .ok (fixed h) := by decide +kernel
  refine hfound hours (List.mem_map.mpr ⟨(hours + 12).toNat, List.mem_range.mpr (by omega), by omega⟩)

theorem keepsDays_of_ofName {name : String} {zone : Zone} (h : ofName name = .ok zone) :
    zone.keepsDays = true := by
  have htable : ∀ entry ∈ table, entry.2.keepsDays = true := by
    intro entry hentry
    rcases List.mem_append.mp hentry with hone | hplace
    · -- An offset that never changes never leads back.
      rcases List.mem_append.mp hone with hname | hhours
      · obtain ⟨_, _, rfl⟩ := List.mem_map.mp hname
        rfl
      · obtain ⟨_, _, rfl⟩ := List.mem_map.mp hhours
        rfl
    · revert entry
      decide +kernel
  rw [ofName] at h
  split at h
  · cases h
  · split at h
    · next hfound =>
        cases h
        exact htable _ (List.mem_of_find?_eq_some hfound)
    · cases h

/-- In every zone that is known, local days never run backwards. -/
theorem dayNumberOf_mono {name : String} {zone : Zone} (h : ofName name = .ok zone)
    (hb : zone.IsDated b) (hle : a ≤ b) : zone.dayNumberOf a ≤ zone.dayNumberOf b := by
  cases zone with
  | changing first changes => exact dayNumberOf_mono_of_neverBack (keepsDays_of_ofName h) hle
  | easternUS => exact dayNumberOf_easternUS_mono hb hle

/-! ### The hour that comes twice -/

/-- The last moment of summer time on a day. -/
def lastOfSummer (last : Int) : Instant := ⟨(summerEnds last).micros - 1⟩

theorem next_lastOfSummer (last : Int) : (lastOfSummer last).next = summerEnds last := by
  simp [lastOfSummer, Instant.next]

/-- Around the end of summer time it is the day on which it ends, by summer time and by standard time. -/
theorem dayNumberAt_summerEnds (last : Int) :
    (lastOfSummer last).dayNumberAt (-4 * 3600) = last ∧
      (lastOfSummer last).dayNumberAt (-5 * 3600) = last ∧
      (summerEnds last).dayNumberAt (-5 * 3600) = last := by
  have hday : (microsPerDay : Int) = 86400000000 := rfl
  simp only [Instant.dayNumberAt, lastOfSummer, summerEnds, hday]
  omega

section Autumn

variable {year : Nat} {first last : Int} {day : Day}

/-- Summer time in peace ends on a day of its own year. -/
theorem summer_lastDay (h : summerDays year = some (first, last)) (hpeace : year < 1942 ∨ 1944 < year)
    (hcalendar : year ≤ 9999) : ∃ day : Day, day.number = last ∧ day.civil.year = year := by
  obtain ⟨hspring, hautumn, hended⟩ := summerDays_inSeasons h hpeace
  have hfrom : 1918 ≤ year := summerDays_isSome.mp (by simp [h])
  obtain ⟨_, _, _, _, hseptember, _⟩ := dayNumber_seasons year
  obtain ⟨hbegins, hends⟩ := dayNumber_inside (Nat.le_trans (by decide) hfrom)
  have hmillennia : Civil.daysBeforeYear (year + 1) ≤ 3652059 :=
    Civil.daysBeforeYear_mono (Nat.succ_le_succ hcalendar)
  have hlast : 1 ≤ last ∧ last ≤ 3652059 := by omega
  have hyear : (Civil.daysBeforeYear year : Int) < last := by omega
  exact ⟨⟨last, hlast⟩, rfl, Nat.le_antisymm (Day.year_le_of_lt (Int.le_trans hended hends))
    (Day.le_year_of_lt hyear)⟩

theorem isSummer_lastOfSummer (h : summerDays day.civil.year = some (first, day.number))
    (hbegun : first < day.number) : isSummer (lastOfSummer day.number) = true := by
  have hday : (lastOfSummer day.number).dayAt? (-5 * 3600) = some day :=
    Day.ofNumber?_eq_some.mpr (dayNumberAt_summerEnds day.number).2.1.symm
  refine isSummer_iff.mpr ⟨day, first, day.number, hday, h, ?_, ?_⟩
  · have hmicros : (microsPerDay : Int) = 86400000000 := rfl
    show (summerBegins first).micros ≤ (summerEnds day.number).micros - 1
    simp only [summerBegins, summerEnds, hmicros]
    omega
  · exact Int.sub_one_lt_of_le (Int.le_refl _)

theorem isSummer_summerEnds (h : summerDays day.civil.year = some (first, day.number)) :
    isSummer (summerEnds day.number) = false := by
  refine Bool.eq_false_iff.mpr fun hsummer => ?_
  obtain ⟨other, _, _, hother, hdays, _, hbefore⟩ := isSummer_iff.mp hsummer
  have hsame : other = day :=
    Day.ext_number ((Day.ofNumber?_eq_some.mp hother).trans (dayNumberAt_summerEnds day.number).2.2)
  rw [hsame, h] at hdays
  cases hdays
  exact Int.lt_irrefl _ hbefore

/-- Each autumn since 1918, those of the war apart, clocks in New York go back by an hour, and the day
stays the same. -/
theorem autumn_hour (h : 1918 ≤ year) (hpeace : year < 1942 ∨ 1944 < year) (hcalendar : year ≤ 9999) :
    ∃ t day, easternUS.dayAt? t = some day ∧ easternUS.dayAt? t.next = some day ∧
      dayNumber year 9 24 ≤ day.number ∧ day.number ≤ dayNumber year 11 7 ∧
      easternUS.clockAt t.next = easternUS.clockAt t + 1 - 3600 * 1000000 := by
  obtain ⟨⟨first, last⟩, hyear⟩ := Option.isSome_iff_exists.mp (summerDays_isSome.mpr h)
  obtain ⟨hspring, hautumn, hended⟩ := summerDays_inSeasons hyear hpeace
  obtain ⟨_, _, _, hapril, hseptember, _⟩ := dayNumber_seasons year
  obtain ⟨day, rfl, rfl⟩ := summer_lastDay hyear hpeace hcalendar
  have hstandard : standardTimeBegins < summerEnds day.number := by
    have hearly : standardTimeBegins.micros ≤ Civil.daysBeforeYear 1918 * microsPerDay := by decide
    have hlater := Civil.daysBeforeYear_mono h
    have hbegins := day.year_bounds.1
    have hmicros : (microsPerDay : Int) = 86400000000 := rfl
    show standardTimeBegins.micros < (summerEnds day.number).micros
    simp only [summerEnds, hmicros] at hearly ⊢
    omega
  have hfrom : standardTimeBegins ≤ lastOfSummer day.number := Int.le_sub_one_of_lt hstandard
  have hsummer : easternUS.offsetAt (lastOfSummer day.number) = -4 * 3600 := by
    rw [offsetAt_of_standard hfrom, if_pos (isSummer_lastOfSummer hyear (by omega))]
  have hover : easternUS.offsetAt (summerEnds day.number) = -5 * 3600 := by
    rw [offsetAt_of_standard (Int.le_of_lt hstandard), isSummer_summerEnds hyear]
    rfl
  obtain ⟨hsummerDay, _, hstandardDay⟩ := dayNumberAt_summerEnds day.number
  refine ⟨lastOfSummer day.number, day, ?_, ?_, hautumn, hended, ?_⟩
  · rw [dayAt?_eq_some, dayNumberOf, hsummer, hsummerDay]
  · rw [dayAt?_eq_some, dayNumberOf, next_lastOfSummer, hover, hstandardDay]
  · rw [clockAt, clockAt, next_lastOfSummer, hsummer, hover]
    simp only [lastOfSummer]
    omega

end Autumn

end Zone

end ShopTabs
