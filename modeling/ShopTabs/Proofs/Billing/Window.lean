import ShopTabs.Billing.Window
/-!
Windows as arithmetic on day numbers, and what an order's day calls for.
-/

namespace ShopTabs

namespace Day

variable {d e : Day}

theorem not_le : ¬ d ≤ e ↔ e < d := by
  rw [le_def, lt_def]
  omega

theorem le_refl (d : Day) : d ≤ d := Int.le_refl d.number

theorem le_trans {a b c : Day} (hab : a ≤ b) (hbc : b ≤ c) : a ≤ c := by
  rw [le_def] at *
  omega

theorem le_antisymm {a b : Day} (hab : a ≤ b) (hba : b ≤ a) : a = b := by
  rw [le_def] at hab hba
  exact ext_number (by omega)

theorem le_of_lt {a b : Day} (hab : a < b) : a ≤ b := by
  rw [lt_def] at hab
  rw [le_def]
  omega

/-- A span of days can be added exactly when it exists and stays in the calendar. -/
theorem shift_eq_ok {days : Int} :
    d.shift days = .ok e ↔
      -longestSpan ≤ days ∧ days ≤ longestSpan ∧ e.number = d.number + days := by
  have hspan : longestSpan = 999999999 := rfl
  unfold shift checkSpan
  split
  · next fault hfault =>
      simp only [reduceCtorEq, false_iff]
      intro hwithin
      split at hfault
      · omega
      · split at hfault
        · omega
        · cases hfault
  · next hspan =>
      have hwithin : -longestSpan ≤ days ∧ days ≤ longestSpan := by
        split at hspan
        · cases hspan
        · split at hspan
          · cases hspan
          · omega
      simp only [hwithin, true_and]
      rw [← addDays?_eq_some]
      split
      · next moved hmoved => simp [hmoved]
      · next hnone => simp [hnone]

end Day

theorem Window.opening_eq_ok {start endDate : Day} {interval : Int} {w : Window} :
    Window.opening start interval endDate = .ok w ↔
      ∃ last, start.shift (interval - 1) = .ok last ∧ w = ⟨start, min last endDate⟩ := by
  unfold Window.opening
  split
  · next last hlast =>
      rw [hlast]
      constructor
      · intro h
        cases h
        exact ⟨last, rfl, rfl⟩
      · rintro ⟨last', hlast', rfl⟩
        cases hlast'
        rfl
  · next fault hfault => simp [hfault]

/-- A window opens on its start and lasts for its interval, but not beyond the end. -/
theorem Window.opening_number {start endDate : Day} {interval : Int} {w : Window}
    (h : Window.opening start interval endDate = .ok w) :
    w.first = start ∧
      w.last.number = min (start.number + interval - 1) endDate.number := by
  obtain ⟨last, hlast, rfl⟩ := Window.opening_eq_ok.mp h
  have hnumber := (Day.shift_eq_ok.mp hlast).2.2
  refine ⟨rfl, ?_⟩
  rw [Day.number_min, hnumber]
  congr 1
  omega

theorem Bill.covers_iff {b : Bill} {day : Day} :
    b.covers day = true ↔ b.startDate ≤ day ∧ day ≤ b.endDate := by
  simp [Bill.covers]

theorem Bill.takes_iff {b : Bill} {day : Day} :
    b.takes day = true ↔ b.isPaid = false ∧ b.startDate ≤ day ∧ day ≤ b.endDate := by
  simp [Bill.takes, Bill.covers_iff]

namespace Bill

variable {b : Bill} {day : Day}

@[simp] theorem closedOn_id : (b.closedOn day).id = b.id := rfl

@[simp] theorem closedOn_tab : (b.closedOn day).tab = b.tab := rfl

@[simp] theorem closedOn_startDate : (b.closedOn day).startDate = b.startDate := rfl

@[simp] theorem closedOn_endDate : (b.closedOn day).endDate = day := rfl

@[simp] theorem closedOn_isPaid : (b.closedOn day).isPaid = true := rfl

end Bill

/-- The day on which the next window opens: the last day of the latest bill, or the tab's first. -/
def BillingTerms.nextStart (terms : BillingTerms) (latest : Option Bill) : Day :=
  match latest with
  | none => terms.startDate
  | some bill => bill.endDate

def BillingTerms.nextWindow (terms : BillingTerms) (latest : Option Bill) :
    Except Day.SpanFault Window :=
  Window.opening (terms.nextStart latest) terms.interval terms.endDate

namespace BillingTerms

variable {terms : BillingTerms} {latest : Option Bill}

/-- Where the calendar has its last day, the next window opens, cut at the end of the tab. -/
theorem nextWindow_eq_ok {last : Day} (hpos : 0 < terms.interval)
    (hlast : last.number = (terms.nextStart latest).number + terms.interval - 1) :
    terms.nextWindow latest = .ok ⟨terms.nextStart latest, min last terms.endDate⟩ := by
  have hspan : Day.longestSpan = 999999999 := rfl
  have hstart := (terms.nextStart latest).inCalendar
  have hend := last.inCalendar
  have hshift : (terms.nextStart latest).shift (terms.interval - 1) = .ok last :=
    Day.shift_eq_ok.mpr ⟨by omega, by omega, by omega⟩
  exact Window.opening_eq_ok.mpr ⟨last, hshift, rfl⟩

/-- Where it would end beyond the calendar, it does not. -/
theorem nextWindow_eq_error
    (hbeyond : ∀ d : Day, d.number < (terms.nextStart latest).number + terms.interval - 1) :
    ∃ fault, terms.nextWindow latest = .error fault := by
  cases hwindow : terms.nextWindow latest with
  | error fault => exact ⟨fault, rfl⟩
  | ok w =>
      obtain ⟨last, hlast, _⟩ := Window.opening_eq_ok.mp hwindow
      have hnumber := (Day.shift_eq_ok.mp hlast).2.2
      have hless := hbeyond last
      omega

end BillingTerms

namespace BillChoice

variable {terms : BillingTerms} {latest : Option Bill} {day : Day}

theorem after_eq_keep {b : Bill} :
    after terms latest day = .ok (.keep b) ↔ latest = some b ∧ b.takes day = true := by
  cases latest with
  | none => simp [after, Except.map]; split <;> simp
  | some bill =>
      simp only [after]
      by_cases htakes : bill.takes day = true
      · rw [if_pos htakes]
        constructor
        · intro h
          cases h
          exact ⟨rfl, htakes⟩
        · rintro ⟨h, _⟩
          cases h
          rfl
      · rw [if_neg htakes]
        constructor
        · intro h
          simp only [Except.map] at h
          split at h <;> cases h
        · rintro ⟨h, hb⟩
          cases h
          exact absurd hb htakes

/-- A window is opened exactly where no latest bill takes the order. -/
theorem after_eq_openWindow {w : Window} :
    after terms latest day = .ok (.openWindow w) ↔
      (∀ b, latest = some b → b.takes day = false) ∧ terms.nextWindow latest = .ok w := by
  cases latest with
  | none =>
      simp only [after, BillingTerms.nextWindow, BillingTerms.nextStart]
      cases Window.opening terms.startDate terms.interval terms.endDate with
      | error fault => simp [Except.map]
      | ok v => simp [Except.map]
  | some bill =>
      simp only [after, BillingTerms.nextWindow, BillingTerms.nextStart, Option.some.injEq,
        forall_eq']
      by_cases htakes : bill.takes day = true
      · simp [htakes]
      · rw [if_neg htakes]
        cases Window.opening bill.endDate terms.interval terms.endDate with
        | error fault => simp [Except.map]
        | ok v => simp [Except.map, htakes]

end BillChoice

end ShopTabs
