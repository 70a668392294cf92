import Mathlib.Data.Rat.Floor
import Mathlib.Tactic.Linarith
import ShopTabs.Proofs.Billing.Acceptance
import ShopTabs.Proofs.Billing.Outcome
import ShopTabs.Proofs.Billing.Sequence
/-!
How the bills of a tab catch up with a day.  Each selection for a day opens the window after the latest one,
which starts where that one ends; so with windows of at least two days the latest bill comes closer to the
day with every selection, until it covers it and is selected ever after.
-/

namespace ShopTabs

/-! ### Windows over a gap -/

/-- How many windows it takes to get over a gap of days, each ending a step after the one before; at least
one. -/
def windowsOver (gap step : Int) : Nat := max 1 ⌈(gap : ℚ) / step⌉₊

section Gap

variable {gap step : Int}

theorem windowsOver_of_le (hstep : 0 < step) (h : gap ≤ step) : windowsOver gap step = 1 := by
  have hpos : (0 : ℚ) < step := by exact_mod_cast hstep
  have hone : (gap : ℚ) / step ≤ 1 := by
    rw [div_le_one hpos]
    exact_mod_cast h
  have hceil : ⌈(gap : ℚ) / step⌉₊ ≤ 1 := Nat.ceil_le.mpr (by exact_mod_cast hone)
  rw [windowsOver]
  omega

/-- A window that does not get over the gap leaves one that takes one window less. -/
theorem windowsOver_of_lt (hstep : 0 < step) (h : step < gap) :
    windowsOver gap step = windowsOver (gap - step) step + 1 := by
  have hpos : (0 : ℚ) < step := by exact_mod_cast hstep
  have hrest : ((gap - step : Int) : ℚ) / step = (gap : ℚ) / step - 1 := by
    rw [Int.cast_sub, sub_div, div_self hpos.ne']
  have hmore : (1 : ℚ) < (gap : ℚ) / step := by
    rw [one_lt_div hpos]
    exact_mod_cast h
  have hceil : 1 < ⌈(gap : ℚ) / step⌉₊ := Nat.lt_ceil.mpr (by exact_mod_cast hmore)
  rw [windowsOver, windowsOver, hrest, Nat.ceil_sub_one]
  omega

end Gap

/-! ### Unpaid bills and their windows -/

/-- Every unpaid bill has the whole window that opens on its first day. -/
def WholeWindows (terms : BillingTerms) (bills : List Bill) : Prop :=
  ∀ b ∈ bills, b.isPaid = false →
    b.endDate.number = min (b.startDate.number + terms.interval - 1) terms.endDate.number

namespace WholeWindows

variable {terms : BillingTerms} {bills : List Bill} {day : Day}

theorem append_singleton (h : WholeWindows terms bills) {b : Bill}
    (hb : b.endDate.number = min (b.startDate.number + terms.interval - 1) terms.endDate.number) :
    WholeWindows terms (bills ++ [b]) := by
  intro c hc hopen
  rcases List.mem_append.mp hc with hc | hc
  · exact h c hc hopen
  · rw [List.mem_singleton.mp hc]
    exact hb

/-- With windows of at least two days, no open bill before the end of the tab lasts one day only. -/
theorem not_stalled (h : WholeWindows terms bills) (hinterval : 2 ≤ terms.interval)
    (hend : day ≤ terms.endDate) : ¬ Stalled bills day := by
  rintro ⟨c, hc, hopen, hsingle, hpassed, _⟩
  have hwindow := h c hc hopen
  rw [hsingle] at hwindow
  rw [Day.le_def] at hend
  rw [Day.lt_def] at hpassed
  omega

/-- One request, where the settings are these. -/
theorem after {key : TabKey} {s : Store} {posting : Option Posting} (h : WholeWindows terms (s.billsOf key))
    (hterms : s.HasTerms key terms) (hafter : BillsAfter key s posting bills) :
    WholeWindows terms bills := by
  cases hafter with
  | untouched => exact h
  | kept tab orderable latest takes => exact h
  | @opened t w _ tab orderable passed window free =>
      rw [hterms t tab] at window
      obtain ⟨hfirst, hlast⟩ := Window.opening_number window
      apply h.append_singleton
      rw [← hfirst] at hlast
      exact hlast
  | @closed billId day found =>
      intro b hb hopen
      rcases mem_closeBill hb with ⟨a, _, _, rfl⟩ | ⟨hb, _⟩
      · cases hopen
      · exact h b hb hopen

end WholeWindows

theorem wholeWindows_run {s : Store} {key : TabKey} {terms : BillingTerms} {history : List Service.Request}
    (hnew : s.billsOf key = [])
    (hkept : ∀ first, first <+: history → (s.run first).HasTerms key terms) :
    WholeWindows terms ((s.run history).billsOf key) := by
  induction history using List.reverseRecOn with
  | nil =>
      rw [Store.run_nil, hnew]
      intro b hb
      cases hb
  | append_singleton rest r ih =>
      have hrest := ih fun first hfirst => hkept first (hfirst.trans (List.prefix_append _ _))
      rw [Store.run_append_singleton]
      exact hrest.after (hkept rest (List.prefix_append _ _)) (r.billsAfter _ key)

/-! ### One selection -/

/-- How many bills are opened before one of them covers a day. -/
def billsToOpen (terms : BillingTerms) (bills : List Bill) (day : Day) : Nat :=
  if bills.any (·.takes day) then 0
  else windowsOver (day.number - (terms.nextStart (latestBill bills)).number) (terms.interval - 1)

theorem billsToOpen_eq_zero_iff {terms : BillingTerms} {bills : List Bill} {day : Day} :
    billsToOpen terms bills day = 0 ↔ ∃ b ∈ bills, b.takes day = true := by
  rw [← List.any_eq_true, billsToOpen]
  split
  · next hany => exact ⟨fun _ => hany, fun _ => rfl⟩
  · next hnone =>
      refine ⟨fun hzero => ?_, fun hany => absurd hany hnone⟩
      rw [windowsOver] at hzero
      omega

/-- As long as a bill is to be opened, the latest does not take orders on the day. -/
theorem passed_of_billsToOpen {terms : BillingTerms} {bills : List Bill} {day : Day}
    (h : billsToOpen terms bills day ≠ 0) (b : Bill) (hlatest : latestBill bills = some b) :
    b.takes day = false := by
  rw [← Bool.not_eq_true]
  intro htakes
  exact h (billsToOpen_eq_zero_iff.mpr ⟨b, (latestBill_spec hlatest).1, htakes⟩)

/-- The bills of a tab whose settings stayed, on a day of the tab that no posting comes after. -/
structure ReadyFor (terms : BillingTerms) (bills : List Bill) (day : Day) : Prop where
  inOrder : InOrder bills day
  whole : WholeWindows terms bills
  interval : 2 ≤ terms.interval
  begun : terms.startDate ≤ day
  ongoing : day ≤ terms.endDate
  room : day.number + terms.interval ≤ 3652060

namespace ReadyFor

variable {terms : BillingTerms} {bills : List Bill} {day : Day}

/-- Where a bill takes orders on the day, it is the latest. -/
theorem latest_of_takes (h : ReadyFor terms bills day) {b : Bill} (hb : b ∈ bills)
    (htakes : b.takes day = true) : latestBill bills = some b :=
  h.inOrder.latest_of_isCurrent hb (Bill.isCurrent_of_takes htakes)

section Opened

variable {b : Bill} (h : ReadyFor terms bills day)
  (hpassed : ∀ c, latestBill bills = some c → c.takes day = false) (hopen : b.isPaid = false)
  (hstart : b.startDate = terms.nextStart (latestBill bills))
  (hend : b.endDate.number = min (b.startDate.number + terms.interval - 1) terms.endDate.number)
include h hpassed hopen hstart hend

/-- The bills are ready again with the next one. -/
theorem opened : ReadyFor terms (bills ++ [b]) day := by
  have hbegun : b.startDate ≤ day := hstart ▸ h.inOrder.nextStart_le h.begun hpassed
  have hends : b.startDate ≤ b.endDate := by
    have hongoing := h.ongoing
    have hinterval := h.interval
    rw [Day.le_def] at *
    omega
  exact
    { inOrder := h.inOrder.opened hopen hbegun hends (h.inOrder.countP_eq_zero hpassed)
      whole := h.whole.append_singleton hend
      interval := h.interval
      begun := h.begun
      ongoing := h.ongoing
      room := h.room }

/-- The next bill is the latest: it ends after the one on whose last day it starts. -/
theorem latest_opened : latestBill (bills ++ [b]) = some b := by
  rw [latestBill_append_singleton]
  cases hlatest : latestBill bills with
  | none => rfl
  | some a =>
      have hlater : b.isLater a = true := by
        rw [Bill.isLater_iff]
        cases hpaid : a.isPaid with
        | true => exact Or.inl ⟨hopen, rfl⟩
        | false =>
            have hnot := hpassed a hlatest
            have hbegun := h.inOrder.begun a (latestBill_spec hlatest).1
            rw [← Bool.not_eq_true, Bill.takes_iff, hpaid] at hnot
            have hbefore : a.endDate < day := Day.not_le.mp fun hle => hnot ⟨rfl, hbegun, hle⟩
            have hsame : b.startDate = a.endDate := by rw [hstart, hlatest]; rfl
            have hongoing := h.ongoing
            have hinterval := h.interval
            rw [hsame] at hend
            rw [Day.le_def] at hongoing
            rw [Day.lt_def] at hbefore
            refine Or.inr ⟨hopen, ?_⟩
            rw [Day.lt_def]
            omega
      exact if_pos hlater

/-- And one bill less is to be opened. -/
theorem billsToOpen_opened : billsToOpen terms bills day = billsToOpen terms (bills ++ [b]) day + 1 := by
  have hnone : bills.any (·.takes day) = false := by
    rw [List.any_eq_false]
    intro c hc
    simp [h.inOrder.not_takes_of_passed hpassed hc]
  have hbegun := h.inOrder.nextStart_le h.begun hpassed
  have hongoing := h.ongoing
  have hinterval := h.interval
  rw [Day.le_def] at hbegun hongoing
  rw [billsToOpen, billsToOpen, hnone, List.any_append, hnone, latest_opened h hpassed hopen hstart hend]
  by_cases htakes : b.takes day = true
  · obtain ⟨_, _, hcovers⟩ := Bill.takes_iff.mp htakes
    rw [Day.le_def] at hcovers
    rw [hstart] at hend
    simp only [List.any_cons, htakes, Bool.false_or, Bool.true_or, ↓reduceIte, Bool.false_eq_true]
    exact windowsOver_of_le (by omega) (by omega)
  · have hbefore : b.endDate < day := by
      rw [← Day.not_le]
      intro hcovers
      exact htakes (Bill.takes_iff.mpr ⟨hopen, hstart ▸ h.inOrder.nextStart_le h.begun hpassed, hcovers⟩)
    rw [Day.lt_def] at hbefore
    rw [hstart] at hend
    simp only [List.any_cons, htakes, Bool.or_self, List.any_nil, ↓reduceIte, Bool.false_eq_true]
    rw [windowsOver_of_lt (by omega) (by omega)]
    congr 2
    show _ = day.number - b.endDate.number
    omega

end Opened

end ReadyFor

/-! ### Selections one after the other -/

/-- What selections for one day come to, by the numbers that they return and the bills that they open: as
many bills are opened as it takes, all unpaid bills of the tab, and from the last of these on the same bill
is returned, which is then there. -/
structure Selections (key : TabKey) (bills : List Bill) (count : Nat) (current : Bill) (ids : List Int)
    (opened : List Bill) : Prop where
  length : opened.length = min ids.length count
  added : ∀ b ∈ opened, b.tab = key ∧ b.isPaid = false
  same : ∀ id ∈ ids.drop (count - 1), id = current.id
  found : count ≤ ids.length → current ∈ bills ++ opened

/-- A bill that is there is returned by every selection, and none is opened. -/
theorem Selections.of_mem {key : TabKey} {bills : List Bill} {b : Bill} (hb : b ∈ bills) (n : Nat) :
    Selections key bills 0 b (List.replicate n b.id) [] where
  length := by simp
  added := by simp
  same := by
    intro id hid
    exact List.eq_of_mem_replicate (List.mem_of_mem_drop hid)
  found := fun _ => List.mem_append_left _ hb

/-- Where no bill is to be opened, the bill that is returned is there already. -/
theorem Selections.mem_of_zero {key : TabKey} {bills opened : List Bill} {current : Bill} {ids : List Int}
    (h : Selections key bills 0 current ids opened) : current ∈ bills := by
  have hnone : opened = [] := List.length_eq_zero_iff.mp (by simp [h.length])
  have hfound := h.found (Nat.zero_le _)
  rw [hnone, List.append_nil] at hfound
  exact hfound

/-- Selections after one that opened a bill. -/
theorem Selections.cons {key : TabKey} {bills opened : List Bill} {count : Nat} {current b : Bill}
    {ids : List Int} (h : Selections key (bills ++ [b]) count current ids opened) (htab : b.tab = key)
    (hopen : b.isPaid = false) (hfirst : count = 0 → current = b) :
    Selections key bills (count + 1) current (b.id :: ids) (b :: opened) where
  length := by
    rw [List.length_cons, List.length_cons, h.length]
    omega
  added := by
    intro c hc
    rcases List.mem_cons.mp hc with rfl | hc
    · exact ⟨htab, hopen⟩
    · exact h.added c hc
  same := by
    intro id hid
    cases count with
    | zero =>
        rcases List.mem_cons.mp hid with rfl | hid
        · rw [hfirst rfl]
        · exact h.same id hid
    | succ n => exact h.same id hid
  found := by
    intro hcount
    have hmem := h.found (Nat.le_of_succ_le_succ hcount)
    rw [List.append_assoc] at hmem
    exact hmem

section Run

variable {env : Surroundings} {key : TabKey} {on : Option Day} {day : Day} {terms : BillingTerms}
  (hday : env.dayOr on = .ok day) (hblind : env.blindReads = 0)
  (hwords : isWord key.shopId = true ∧ isWord key.tabId = true)
include hday hblind hwords

theorem Call.selectBill_of_takes {s : Store} {t : Tab} {b : Bill} (htab : s.tab? key = some t)
    (hlatest : latestBill (s.billsOf key) = some b) (htakes : b.takes day = true) :
    (Call.selectBill key on).run env s = .ok ⟨.bill b.id, s, 0⟩ := by
  rw [run_selectBill hday hwords htab, hblind,
    (selectBill_eq_ok (attemptCount_pos _)).mpr (.kept hlatest htakes)]
  rfl

/-- Where no bill takes orders on the day, the next one is opened. -/
theorem Call.selectBill_of_ready {s : Store} {t : Tab} (htab : s.tab? key = some t)
    (hterms : t.config.billingTerms = terms) (h : ReadyFor terms (s.billsOf key) day)
    (hpassed : ∀ c, latestBill (s.billsOf key) = some c → c.takes day = false) :
    ∃ b : Bill, (Call.selectBill key on).run env s = .ok ⟨.bill b.id, s.withBill b, 0⟩ ∧
      b.tab = key ∧ b.isPaid = false ∧
      b.startDate = terms.nextStart (latestBill (s.billsOf key)) ∧
      b.endDate.number = min (b.startDate.number + terms.interval - 1) terms.endDate.number := by
  have hpos : 0 < terms.interval := by
    have hinterval := h.interval
    omega
  obtain ⟨w, hwindow⟩ := h.inOrder.exists_nextWindow hpos h.begun hpassed h.room
  obtain ⟨hfirst, hlast⟩ := Window.opening_number hwindow
  have hfree : s.hasOpenStart key w.first = false := by
    rw [← Bool.not_eq_true, h.inOrder.hasOpenStart_iff hpassed hwindow]
    exact h.whole.not_stalled h.interval h.ongoing
  refine ⟨s.newBill key w false, ?_, rfl, rfl, hfirst, ?_⟩
  · rw [run_selectBill hday hwords htab, hblind, hterms, (selectBill_eq_ok (attemptCount_pos _)).mpr
      (.opened hpassed hwindow hwords hfree (Store.hasTab_of_tab? htab))]
    rfl
  · rw [← hfirst] at hlast
    exact hlast

/-- A bill that takes orders on the day is returned as often as one asks. -/
theorem Transaction.runCalls_of_takes {s : Store} {t : Tab} {b : Bill} (htab : s.tab? key = some t)
    (hlatest : latestBill (s.billsOf key) = some b) (htakes : b.takes day = true) (n : Nat) :
    runCalls env (List.replicate n (.selectBill key on)) s =
      ((List.replicate n b.id).map fun id => .ok (.bill id), some s) := by
  induction n with
  | zero => rfl
  | succ n ih =>
      rw [List.replicate_succ, List.replicate_succ,
        runCalls_cons hblind (Call.selectBill_of_takes hday hblind hwords htab hlatest htakes), ih]
      rfl

theorem exists_selections {s : Store} {t : Tab} (htab : s.tab? key = some t)
    (hterms : t.config.billingTerms = terms) (h : ReadyFor terms (s.billsOf key) day) :
    ∃ current : Bill, current.takes day = true ∧ ∀ n, ∃ ids opened, ids.length = n ∧
      Transaction.runCalls env (List.replicate n (.selectBill key on)) s =
        (ids.map fun id => .ok (.bill id), some { s with bills := s.bills ++ opened }) ∧
      Selections key (s.billsOf key) (billsToOpen terms (s.billsOf key) day) current ids opened := by
  induction hcount : billsToOpen terms (s.billsOf key) day generalizing s with
  | zero =>
      obtain ⟨b, hb, htakes⟩ := billsToOpen_eq_zero_iff.mp hcount
      have hlatest := h.latest_of_takes hb htakes
      refine ⟨b, htakes, fun n =>
        ⟨List.replicate n b.id, [], List.length_replicate, ?_, Selections.of_mem hb n⟩⟩
      rw [Transaction.runCalls_of_takes hday hblind hwords htab hlatest htakes n, List.append_nil]
  | succ c ih =>
      have hpassed := passed_of_billsToOpen (by rw [hcount]; exact Nat.succ_ne_zero c)
      obtain ⟨b, hcall, htabOf, hopen, hstart, hend⟩ :=
        Call.selectBill_of_ready hday hblind hwords htab hterms h hpassed
      have hbills : (s.withBill b).billsOf key = s.billsOf key ++ [b] := Store.billsOf_withBill htabOf
      have hready := h.opened hpassed hopen hstart hend
      have hrest := h.billsToOpen_opened hpassed hopen hstart hend
      rw [← hbills] at hready hrest
      obtain ⟨current, htakes, hruns⟩ :=
        ih ((Store.tab?_congr (by simp)).trans htab) hready (by omega)
      have hfirst : c = 0 → current = b := by
        rintro rfl
        obtain ⟨_, _, _, _, hselections⟩ := hruns 0
        have hlatest := hready.latest_of_takes hselections.mem_of_zero htakes
        rw [hbills, h.latest_opened hpassed hopen hstart hend] at hlatest
        exact (Option.some.inj hlatest).symm
      refine ⟨current, htakes, fun n => ?_⟩
      cases n with
      | zero => exact ⟨[], [], rfl, by simp [Transaction.runCalls], by constructor <;> simp⟩
      | succ n =>
          obtain ⟨ids, opened, hlength, hrun, hselections⟩ := hruns n
          refine ⟨b.id :: ids, b :: opened, by simp [hlength], ?_, ?_⟩
          · rw [List.replicate_succ, Transaction.runCalls_cons hblind hcall, hrun]
            simp [Store.withBill]
          · rw [hbills] at hselections
            exact hselections.cons htabOf hopen hfirst

end Run

section History

variable {s : Store} {key : TabKey} {terms : BillingTerms} {history : List Service.Request} {day : Day}
  {env : Surroundings} {on : Option Day} {t : Tab}

/-- Let the settings of a tab stay as they are, with an interval of at least two days, and let a day of the
tab come that no posting is after.  Then selections for that day, one after the other, all succeed.  As many
bills are opened as windows are needed from the last day of the latest bill on, none where an open bill covers
the day; and from the last of these on, one and the same open bill is returned, which covers the day. -/
theorem selection_catches_up (hnew : s.billsOf key = []) (hbillable : s.Billable key)
    (hkept : ∀ first, first <+: history → (s.run first).HasTerms key terms)
    (hascend : DaysAscend key s history) (hlast : ∀ p ∈ postings key s history, p.day ≤ day)
    (htab : (s.run history).tab? key = some t) (hinterval : 2 ≤ terms.interval)
    (hbegun : terms.startDate ≤ day) (hongoing : day ≤ terms.endDate)
    (hroom : day.number + terms.interval ≤ 3652060) (hday : env.dayOr on = .ok day)
    (hblind : env.blindReads = 0) (hwords : isWord key.shopId = true ∧ isWord key.tabId = true) :
    let reached := s.run history
    let bills := reached.billsOf key
    ∃ current : Bill, current.takes day = true ∧ ∀ n, ∃ ids opened, ids.length = n ∧
      Transaction.runCalls env (List.replicate n (.selectBill key on)) reached =
        (ids.map fun id => .ok (.bill id), some { reached with bills := reached.bills ++ opened }) ∧
      Selections key bills (billsToOpen terms bills day) current ids opened := by
  intro reached bills
  have hready : ReadyFor terms bills day :=
    { inOrder := inOrder_run hnew hbillable hascend hlast
      whole := wholeWindows_run hnew hkept
      interval := hinterval
      begun := hbegun
      ongoing := hongoing
      room := hroom }
  exact exists_selections hday hblind hwords htab (hkept history (List.prefix_refl _) t htab) hready

/-- The settings of a tab stay where they are the same after each request. -/
theorem Store.hasTerms_of_inits (h : ∀ first ∈ history.inits, ((s.run first).tab? key).all
      fun t => t.config.billingTerms = terms) :
    ∀ first, first <+: history → (s.run first).HasTerms key terms := by
  intro first hfirst t ht
  have hall := h first ((List.mem_inits first history).mpr hfirst)
  rw [ht] at hall
  simpa using hall

/-- A tab with weekly bills and an order on the fifth of January.  To catch up with the twenty-fifth takes
three bills, from the eleventh, the seventeenth and the twenty-third on. -/
theorem selection_catches_up_threeWeeks :
    let reached := Sample.store.run [Sample.openTab 7, Sample.order 5]
    let env : Surroundings := { settings := {}, now := ⟨0⟩ }
    ∃ current : Bill, current.takes (Sample.january 25) = true ∧ ∀ n, ∃ ids opened, ids.length = n ∧
      Transaction.runCalls env
        (List.replicate n (.selectBill Sample.tab (some (Sample.january 25)))) reached =
          (ids.map fun id => .ok (.bill id), some { reached with bills := reached.bills ++ opened }) ∧
      Selections Sample.tab (reached.billsOf Sample.tab) 3 current ids opened := by
  intro reached env
  let terms := (Sample.openedTab 7).config.billingTerms
  have hkept : ∀ first, first <+: [Sample.openTab 7, Sample.order 5] →
      (Sample.store.run first).HasTerms Sample.tab terms :=
    Store.hasTerms_of_inits (by decide +kernel)
  have hcount : billsToOpen terms (reached.billsOf Sample.tab) (Sample.january 25) = 3 := by
    have hnone : (reached.billsOf Sample.tab).any (·.takes (Sample.january 25)) = false := by
      decide +kernel
    have hgap : (Sample.january 25).number -
        (terms.nextStart (latestBill (reached.billsOf Sample.tab))).number = 14 := by decide +kernel
    rw [billsToOpen, hnone, hgap, show terms.interval - 1 = 6 from rfl, windowsOver_of_lt (by decide) (by decide),
      windowsOver_of_lt (by decide) (by decide), windowsOver_of_le (by decide) (by decide)]
    rfl
  have hday : env.dayOr (some (Sample.january 25)) = .ok (Sample.january 25) := rfl
  have htab : reached.tab? Sample.tab = some (Sample.openedTab 7) := by decide +kernel
  rw [← hcount]
  exact selection_catches_up (by decide +kernel) (Sample.store_billable Sample.tab) hkept
    (by decide +kernel) (by decide +kernel) htab (by decide) (by decide +kernel) (by decide +kernel)
    (by decide +kernel) hday rfl (by decide)

end History

end ShopTabs
