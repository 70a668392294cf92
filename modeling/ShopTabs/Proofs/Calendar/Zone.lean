import ShopTabs.Calendar.Zone
import ShopTabs.Proofs.Calendar.Day
/-!
Local days never run backwards.  Clocks are set back in all zones but one, yet always within one day: the
day that they show just before a change is none after the day that they show just after it.
-/

namespace ShopTabs

namespace Instant

/-- The moment one microsecond later. -/
def next (t : Instant) : Instant := ⟨t.micros + 1⟩

/-- Clocks that are put from one offset to another at a moment show no earlier day than just before. -/
def keepsDay (change : Instant) (before after : Int) : Bool :=
  (⟨change.micros - 1⟩ : Instant).dayNumberAt before ≤ change.dayNumberAt after

theorem dayNumberAt_mono {a b : Instant} {offset later : Int}
    (h : a.micros + offset * 1000000 ≤ b.micros + later * 1000000) :
    a.dayNumberAt offset ≤ b.dayNumberAt later :=
  Int.add_le_add_right (Int.ediv_le_ediv (by decide) h) 1

theorem dayNumberAt_le_of_change {a b change : Instant} {before after : Int} (ha : a < change)
    (hb : change ≤ b) (hkeeps : change.keepsDay before after = true) :
    a.dayNumberAt before ≤ b.dayNumberAt after := by
  have hlast : a.micros ≤ change.micros - 1 := Int.le_sub_one_of_lt ha
  have hfirst : change.micros ≤ b.micros := hb
  calc a.dayNumberAt before
      ≤ (⟨change.micros - 1⟩ : Instant).dayNumberAt before :=
        dayNumberAt_mono (Int.add_le_add_right hlast _)
    _ ≤ change.dayNumberAt after := of_decide_eq_true hkeeps
    _ ≤ b.dayNumberAt after := dayNumberAt_mono (Int.add_le_add_right hfirst _)

end Instant

namespace Zone

/-- What a local clock shows at a moment: the microseconds since the first of January of the year 1. -/
def clockAt (z : Zone) (t : Instant) : Int := t.micros + z.offsetAt t * 1000000

/-- The number of the local day at a moment. -/
def dayNumberOf (z : Zone) (t : Instant) : Int := t.dayNumberAt (z.offsetAt t)

/-- The local date at a moment lies in the years 1 to 9999. -/
def IsDated (z : Zone) (t : Instant) : Prop :=
  0 ≤ z.clockAt t ∧ z.clockAt t < 3652059 * microsPerDay

variable {z : Zone} {a b t : Instant} {d : Day}

theorem dayAt?_eq_some : z.dayAt? t = some d ↔ d.number = z.dayNumberOf t := Day.ofNumber?_eq_some

theorem isDated_iff : z.IsDated t ↔ ∃ d, z.dayAt? t = some d := by
  have hday : (microsPerDay : Int) = 86400000000 := rfl
  have hnumber : z.dayNumberOf t = z.clockAt t / microsPerDay + 1 := rfl
  simp only [dayAt?_eq_some, hnumber, IsDated, hday]
  constructor
  · rintro ⟨hlow, hhigh⟩
    exact ⟨⟨z.clockAt t / 86400000000 + 1, by omega⟩, rfl⟩
  · rintro ⟨d, hd⟩
    have hcalendar := d.inCalendar
    omega

/-! ### Zones given by a list of changes -/

/-- Changes from an offset on that are in order and never lead back to a day that is over. -/
def neverBack (offset : Int) : List ClockChange → Bool
  | [] => true
  | c :: rest =>
    c.instant.keepsDay offset c.offset && rest.all (fun later => c.instant < later.instant) &&
      neverBack c.offset rest

theorem offsetAt_cons {first : Int} {c : ClockChange} {rest : List ClockChange} :
    (changing first (c :: rest)).offsetAt t =
      (changing (if c.instant ≤ t then c.offset else first) rest).offsetAt t := rfl

/-- Before all changes the first offset holds. -/
theorem offsetAt_of_lt {first : Int} {changes : List ClockChange} (h : ∀ c ∈ changes, t < c.instant) :
    (changing first changes).offsetAt t = first := by
  induction changes with
  | nil => rfl
  | cons c rest ih =>
      have hbefore : ¬ c.instant ≤ t := Int.not_le.mpr (h c List.mem_cons_self)
      rw [offsetAt_cons, if_neg hbefore]
      exact ih fun later hlater => h later (List.mem_cons_of_mem c hlater)

theorem dayNumberOf_mono_of_neverBack {first : Int} {changes : List ClockChange}
    (h : neverBack first changes = true) (hle : a ≤ b) :
    (changing first changes).dayNumberOf a ≤ (changing first changes).dayNumberOf b := by
  induction changes generalizing first a with
  | nil => exact Instant.dayNumberAt_mono (Int.add_le_add_right hle _)
  | cons c rest ih =>
      simp only [neverBack, Bool.and_eq_true, List.all_eq_true, decide_eq_true_eq] at h
      obtain ⟨⟨hkeeps, hordered⟩, hrest⟩ := h
      have hsame : (changing c.offset rest).offsetAt c.instant = c.offset := offsetAt_of_lt hordered
      have hbefore : ∀ {t : Instant}, t < c.instant → (changing first (c :: rest)).offsetAt t = first := by
        intro t ht
        apply offsetAt_of_lt
        rintro later (_ | ⟨_, hlater⟩)
        · exact ht
        · exact Int.lt_trans ht (hordered later hlater)
      have hafter : ∀ {t : Instant}, c.instant ≤ t →
          (changing first (c :: rest)).dayNumberOf t = (changing c.offset rest).dayNumberOf t := by
        intro t ht
        rw [dayNumberOf, offsetAt_cons, if_pos ht]
        rfl
      by_cases hb : c.instant ≤ b
      · rw [hafter hb]
        by_cases ha : c.instant ≤ a
        · rw [hafter ha]
          exact ih hrest hle
        · have hlt : a < c.instant := Int.not_le.mp ha
          calc (changing first (c :: rest)).dayNumberOf a
              = a.dayNumberAt first := by rw [dayNumberOf, hbefore hlt]
            _ ≤ c.instant.dayNumberAt c.offset :=
              Instant.dayNumberAt_le_of_change hlt (Int.le_refl _) hkeeps
            _ = (changing c.offset rest).dayNumberOf c.instant := by rw [dayNumberOf, hsame]
            _ ≤ (changing c.offset rest).dayNumberOf b := ih hrest hb
      · have hlt : b < c.instant := Int.not_le.mp hb
        rw [dayNumberOf, dayNumberOf, hbefore hlt, hbefore (Int.lt_of_le_of_lt hle hlt)]
        exact Instant.dayNumberAt_mono (Int.add_le_add_right hle _)

end Zone

end ShopTabs
