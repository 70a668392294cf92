import ShopTabs.Proofs.Billing.Account
import ShopTabs.Transaction
/-!
What the selection of a bill comes to, for whatever bills a tab has.  The latest bill is kept where it takes
orders on the day; otherwise a bill is opened on its last day, unless the calendar ends or an unpaid bill
starts on that day already.  Without another writer a further attempt finds what the first one found, so the
number of attempts does not matter.
-/

namespace ShopTabs

/-! ### The latest bill -/

/-- A bill is the latest of a list: unpaid if any is, of greatest last day among those that are paid or
unpaid as it is, and the first of these. -/
structure Bill.IsLatest (b : Bill) (bills : List Bill) : Prop where
  unpaidFirst : b.isPaid = true → ∀ c ∈ bills, c.isPaid = true
  greatest : ∀ c ∈ bills, c.isPaid = b.isPaid → c.endDate ≤ b.endDate
  first : ∃ before after, bills = before ++ b :: after ∧
    ∀ c ∈ before, c.isPaid = b.isPaid → c.endDate < b.endDate

/-- What is later than a bill is later than one that is not later than that bill. -/
theorem Bill.isLater_of_isLater {a b c : Bill} (hba : b.isLater a = true) (hca : c.isLater a = false) :
    b.isLater c = true := by
  rw [← Bool.not_eq_true, Bill.isLater_iff] at hca
  rw [Bill.isLater_iff] at hba ⊢
  simp only [Day.lt_def] at *
  cases hc : c.isPaid <;> cases hb : b.isPaid <;> cases ha : a.isPaid <;>
    simp only [hc, hb, ha, reduceCtorEq, true_and, false_and, and_false, and_true, false_or,
      or_false, not_true_eq_false, not_false_eq_true, and_self] at * <;> omega

theorem Bill.IsLatest.mem {b : Bill} {bills : List Bill} (h : b.IsLatest bills) : b ∈ bills := by
  obtain ⟨before, after, rfl, _⟩ := h.first
  simp

theorem isLatest_of_latestBill {bills : List Bill} {b : Bill} (h : latestBill bills = some b) :
    b.IsLatest bills := by
  refine ⟨fun hpaid c hc => (latestBill_of_paid h hpaid hc).1, ?_, ?_⟩
  · intro c hc hsame
    cases hpaid : b.isPaid with
    | true => exact (latestBill_of_paid h hpaid hc).2
    | false => exact (latestBill_of_unpaid h hc (hsame.trans hpaid)).2
  · induction bills using List.reverseRecOn generalizing b with
    | nil => cases h
    | append_singleton rest last ih =>
        rw [latestBill_append_singleton] at h
        cases hrest : latestBill rest with
        | none =>
            simp only [hrest, Option.some.injEq] at h
            subst h
            exact ⟨rest, [], rfl, by simp [latestBill_eq_none_iff.mp hrest]⟩
        | some a =>
            simp only [hrest] at h
            by_cases hlater : last.isLater a = true
            · rw [if_pos hlater] at h
              cases h
              refine ⟨rest, [], rfl, ?_⟩
              intro c hc hsame
              have hlast := Bill.isLater_of_isLater hlater ((latestBill_spec hrest).2 c hc)
              rw [Bill.isLater_iff, hsame] at hlast
              simpa using hlast
            · rw [if_neg hlater] at h
              cases h
              obtain ⟨before, after, rfl, hbefore⟩ := ih hrest
              exact ⟨before, after ++ [last], by simp, hbefore⟩

namespace Bill.IsLatest

variable {a b : Bill} {bills : List Bill}

theorem isPaid_eq (ha : a.IsLatest bills) (hb : b.IsLatest bills) : a.isPaid = b.isPaid := by
  cases hpaid : a.isPaid with
  | true => exact (ha.unpaidFirst hpaid b hb.mem).symm
  | false =>
      cases hpaid' : b.isPaid with
      | false => rfl
      | true => exact hpaid ▸ hb.unpaidFirst hpaid' a ha.mem

/-- One of two latest bills does not stand behind the other. -/
theorem not_mem_before (ha : a.IsLatest bills) (hb : b.IsLatest bills) {before : List Bill}
    (hbefore : ∀ c ∈ before, c.isPaid = b.isPaid → c.endDate < b.endDate) : a ∉ before := by
  intro hmem
  have hlt := hbefore a hmem (ha.isPaid_eq hb)
  have hle := ha.greatest b hb.mem (hb.isPaid_eq ha)
  exact Day.not_le.mpr hlt hle

theorem unique (ha : a.IsLatest bills) (hb : b.IsLatest bills) : a = b := by
  obtain ⟨before, after, hsplit, hbefore⟩ := ha.first
  obtain ⟨before', after', hsplit', hbefore'⟩ := hb.first
  rw [hsplit] at hsplit'
  rcases List.append_eq_append_iff.mp hsplit' with ⟨between, rfl, hrest⟩ | ⟨between, rfl, hrest⟩
  · cases between with
    | nil =>
        cases hrest
        rfl
    | cons c rest =>
        cases hrest
        exact absurd (by simp) (ha.not_mem_before hb hbefore')
  · cases between with
    | nil =>
        cases hrest
        rfl
    | cons c rest =>
        cases hrest
        exact absurd (by simp) (hb.not_mem_before ha hbefore)

end Bill.IsLatest

/-- The latest bill is found, and nothing else. -/
theorem latestBill_eq_some_iff {bills : List Bill} {b : Bill} :
    latestBill bills = some b ↔ b.IsLatest bills := by
  refine ⟨isLatest_of_latestBill, fun h => ?_⟩
  cases hlatest : latestBill bills with
  | none =>
      have hmem := h.mem
      rw [latestBill_eq_none_iff.mp hlatest] at hmem
      cases hmem
  | some a => rw [(isLatest_of_latestBill hlatest).unique h]

/-! ### Attempts -/

section Attempts

variable {terms : BillingTerms} {key : TabKey} {day : Day} {s : Store}

theorem BillChoice.after_eq_error {latest : Option Bill} {fault : Day.SpanFault}
    (hpassed : ∀ b, latest = some b → b.takes day = false)
    (hwindow : terms.nextWindow latest = .error fault) : after terms latest day = .error fault := by
  cases latest with
  | none =>
      rw [BillingTerms.nextWindow, BillingTerms.nextStart] at hwindow
      simp only [after, hwindow]
      rfl
  | some b =>
      rw [BillingTerms.nextWindow, BillingTerms.nextStart] at hwindow
      simp only [after, hpassed b rfl, hwindow]
      rfl

/-- A window that leaves the calendar is not opened, and no further attempt is made. -/
theorem selectBill_of_fault {attempts : Nat} (hattempts : 0 < attempts) {fault : Day.SpanFault}
    (hpassed : ∀ b, latestBill (s.billsOf key) = some b → b.takes day = false)
    (hwindow : terms.nextWindow (latestBill (s.billsOf key)) = .error fault) :
    selectBill terms key day attempts 0 s = .error (.span fault) := by
  obtain ⟨n, rfl⟩ := Nat.exists_eq_succ_of_ne_zero (Nat.ne_of_gt hattempts)
  have hchoice := BillChoice.after_eq_error hpassed hwindow
  simp [selectBill, hchoice]

/-- Further attempts find what the first one found. -/
theorem selectBill_succ (n : Nat) :
    selectBill terms key day (n + 1) 0 s = selectBill terms key day 1 0 s := by
  induction n with
  | zero => rfl
  | succ n ih =>
      conv_lhs => rw [selectBill]
      simp only [↓reduceIte, Nat.zero_sub]
      split
      · next fault hchoice => simp [selectBill, hchoice]
      · next b hchoice => simp [selectBill, hchoice]
      · next w hchoice =>
          split
          · next id s' hadd => simp [selectBill, hchoice, hadd]
          · exact ih
          · next failure hother hadd =>
              simp only [selectBill, ↓reduceIte, hchoice, hadd]

theorem selectBill_attempts {m n : Nat} (hm : 0 < m) (hn : 0 < n) :
    selectBill terms key day m 0 s = selectBill terms key day n 0 s := by
  obtain ⟨m, rfl⟩ := Nat.exists_eq_succ_of_ne_zero (Nat.ne_of_gt hm)
  obtain ⟨n, rfl⟩ := Nat.exists_eq_succ_of_ne_zero (Nat.ne_of_gt hn)
  rw [Nat.succ_eq_add_one, Nat.succ_eq_add_one, selectBill_succ m, selectBill_succ n]

end Attempts

/-! ### A selection as a call -/

/-- What a selection leaves behind. -/
def Selection.receipt (selected : Selection) : CallReceipt :=
  ⟨.bill selected.billId, selected.store, selected.blindReads⟩

section Calls

variable {env : Surroundings} {key : TabKey} {on : Option Day} {day : Day} {s : Store} {t : Tab}

theorem Call.run_selectBill (hday : env.dayOr on = .ok day)
    (hwords : isWord key.shopId = true ∧ isWord key.tabId = true) (htab : s.tab? key = some t) :
    (Call.selectBill key on).run env s =
      (ShopTabs.selectBill t.config.billingTerms key day (attemptCount env.settings.billSelectionAttempts)
        env.blindReads s).map Selection.receipt := by
  have hfound : s.requireTab key = .ok t := Store.requireTab_eq_ok.mpr ⟨hwords, htab⟩
  rw [Call.run]
  simp only [hfound, hday, bind, Except.bind, pure, Except.pure]
  cases ShopTabs.selectBill t.config.billingTerms key day
    (attemptCount env.settings.billSelectionAttempts) env.blindReads s <;> rfl

namespace Transaction

theorem perform_of_ok {call : Call} {receipt : CallReceipt} (h : call.run env s = .ok receipt) :
    perform env [call] false s = ([.ok receipt.result], receipt.store) := by
  simp [perform, runCalls, h]

/-- Whatever surrounds a call, what it comes to is all that counts. -/
theorem perform_congr {call : Call} {other : Surroundings} (h : call.run other s = call.run env s) :
    perform other [call] false s = perform env [call] false s := by
  simp [perform, runCalls, h]

theorem runCalls_cons (hblind : env.blindReads = 0) {call : Call} {rest : List Call}
    {result : CallResult} {s' : Store} (h : call.run env s = .ok ⟨result, s', 0⟩) :
    runCalls env (call :: rest) s = (.ok result :: (runCalls env rest s').1, (runCalls env rest s').2) := by
  have henv : { env with blindReads := 0 } = env := by
    rw [← hblind]
  rw [runCalls, h]
  simp only [henv]

theorem runCalls_of_error {call : Call} {rest : List Call} {failure : Failure}
    (h : call.run env s = .error failure) : runCalls env (call :: rest) s = ([.error failure], none) := by
  rw [runCalls, h]

theorem perform_of_error {call : Call} {failure : Failure} (h : call.run env s = .error failure) :
    perform env [call] false s = ([.error failure], s) := by
  simp [perform, runCalls, h]

end Transaction

end Calls

/-- The day on which the next bill of a tab opens, where the latest one does not take orders on a day. -/
def Store.OpensNext (s : Store) (t : Tab) (day start : Day) : Prop :=
  (s.billsOf t.key = [] ∧ start = t.config.startDate) ∨
    ∃ b : Bill, b.IsLatest (s.billsOf t.key) ∧ b.takes day = false ∧ start = b.endDate

theorem Store.OpensNext.passed {s : Store} {t : Tab} {day start : Day} (h : s.OpensNext t day start) :
    (∀ b, latestBill (s.billsOf t.key) = some b → b.takes day = false) ∧
      t.config.billingTerms.nextStart (latestBill (s.billsOf t.key)) = start := by
  rcases h with ⟨hnone, rfl⟩ | ⟨b, hlatest, hpassed, rfl⟩
  · rw [hnone]
    refine ⟨?_, rfl⟩
    rintro _ ⟨⟩
  · rw [latestBill_eq_some_iff.mpr hlatest]
    refine ⟨?_, rfl⟩
    rintro _ ⟨⟩
    exact hpassed

/-- Without another writer, the selection of a bill comes to one of four things.  The latest bill is kept
where it takes orders on the day.  Otherwise the next window opens on its last day, or on the first of the
tab: where it would end beyond the calendar, that is a failure; where an unpaid bill of the tab starts on
that day, no bill is selected; and in every other case, as long as 64 bits hold the next number, a single
unpaid bill is added, cut at the end of the tab, with a number above those of all bills.  Nothing else is
changed, and it does not matter how many attempts are set. -/
theorem bill_selection_outcome {env : Surroundings} {on : Option Day} {day : Day} {s : Store} {t : Tab}
    (hday : env.dayOr on = .ok day) (hblind : env.blindReads = 0)
    (hwords : isWord t.shopId = true ∧ isWord t.id = true) (htab : s.tab? t.key = some t)
    (hinterval : 0 < t.config.billingInterval) :
    let bills := s.billsOf t.key
    let outcome := Transaction.perform env [.selectBill t.key on] false s
    (bills = [] ∨ ∃ b : Bill, b.IsLatest bills) ∧
    (∀ b : Bill, b.IsLatest bills → b.takes day = true → outcome = ([.ok (.bill b.id)], s)) ∧
    (∀ start, s.OpensNext t day start →
      ((∀ d : Day, d.number < start.number + t.config.billingInterval - 1) →
        ∃ fault, outcome = ([.error (.span fault)], s)) ∧
      ∀ last : Day, last.number = start.number + t.config.billingInterval - 1 →
        ((∀ b ∈ bills, b.isPaid = false → b.startDate ≠ start) →
          isWord (nextId (s.bills.map (·.id))) = true →
          ∃ id, isWord id = true ∧ (∀ b ∈ s.bills, b.id < id) ∧ outcome = ([.ok (.bill id)],
            { s with bills := s.bills ++ [⟨id, t.key, start, min last t.config.endDate, false⟩] })) ∧
        ((∃ b ∈ bills, b.isPaid = false ∧ b.startDate = start) → outcome = ([.error .noBill], s))) ∧
    ∀ attempts : Int, Transaction.perform
      { env with settings := { env.settings with billSelectionAttempts := attempts } }
      [.selectBill t.key on] false s = outcome := by
  intro bills outcome
  have hrun := Call.run_selectBill hday hwords htab
  rw [hblind] at hrun
  have hpos := attemptCount_pos env.settings.billSelectionAttempts
  refine ⟨?_, ?_, ?_, ?_⟩
  · cases hlatest : latestBill bills with
    | none => exact Or.inl (latestBill_eq_none_iff.mp hlatest)
    | some b => exact Or.inr ⟨b, latestBill_eq_some_iff.mp hlatest⟩
  · intro b hlatest htakes
    have hkept : Selected t.config.billingTerms t.key day s ⟨b.id, s, 0⟩ :=
      .kept (latestBill_eq_some_iff.mpr hlatest) htakes
    rw [(selectBill_eq_ok hpos).mpr hkept] at hrun
    exact Transaction.perform_of_ok hrun
  · intro start hopens
    obtain ⟨hpassed, rfl⟩ := hopens.passed
    refine ⟨?_, ?_⟩
    · intro hbeyond
      obtain ⟨fault, hwindow⟩ := BillingTerms.nextWindow_eq_error hbeyond
      rw [selectBill_of_fault hpos hpassed hwindow] at hrun
      exact ⟨fault, Transaction.perform_of_error hrun⟩
    · intro last hlast
      have hwindow := BillingTerms.nextWindow_eq_ok hinterval hlast
      refine ⟨?_, ?_⟩
      · intro hfree hid
        have hnone : s.hasOpenStart t.key (t.config.billingTerms.nextStart (latestBill bills)) = false := by
          rw [← Bool.not_eq_true, Store.hasOpenStart_iff]
          rintro ⟨b, hb, hstart, hopen⟩
          exact hfree b hb hopen hstart
        have hselect := (selectBill_eq_ok hpos).mpr
          (.opened hpassed hwindow hwords hnone (Store.hasTab_of_tab? htab))
        rw [hselect] at hrun
        exact ⟨_, hid, fun b hb => Store.lt_nextId (List.mem_map_of_mem hb), Transaction.perform_of_ok hrun⟩
      · rintro ⟨b, hb, hopen, hstart⟩
        have htaken := Store.hasOpenStart_iff.mpr ⟨b, hb, hstart, hopen⟩
        rw [selectBill_of_conflict hpassed hwindow hwords htaken] at hrun
        exact Transaction.perform_of_error hrun
  · intro attempts
    let other : Surroundings :=
      { env with settings := { env.settings with billSelectionAttempts := attempts } }
    have hotherDay : other.dayOr on = .ok day := hday
    have hotherBlind : other.blindReads = 0 := hblind
    have hother := Call.run_selectBill hotherDay hwords htab
    rw [hotherBlind, selectBill_attempts (attemptCount_pos attempts) hpos, ← hrun] at hother
    exact Transaction.perform_congr hother

/-- A tab with daily bills and a bill for the fifth of January.  On the next day its successor would start
with it, and no bill is selected, however many attempts are set. -/
theorem bill_selection_outcome_dailyTab :
    let reached := Sample.store.run [Sample.openTab 1, Sample.order 5]
    ∀ attempts : Int, Transaction.perform
      { settings := { billSelectionAttempts := attempts }, now := ⟨0⟩ }
      [.selectBill Sample.tab (some (Sample.january 6))] false reached = ([.error .noBill], reached) := by
  intro reached attempts
  let env : Surroundings := { settings := {}, now := ⟨0⟩ }
  let b : Bill := ⟨1, Sample.tab, Sample.january 5, Sample.january 5, false⟩
  have htab : reached.tab? (Sample.openedTab 1).key = some (Sample.openedTab 1) := by decide +kernel
  have hday : env.dayOr (some (Sample.january 6)) = .ok (Sample.january 6) := rfl
  obtain ⟨_, _, hopened, hattempts⟩ := bill_selection_outcome hday rfl (by decide) htab (by decide)
  have hopens : reached.OpensNext (Sample.openedTab 1) (Sample.january 6) (Sample.january 5) :=
    Or.inr ⟨b, latestBill_eq_some_iff.mp (by decide +kernel), by decide +kernel, rfl⟩
  have hrefused := ((hopened (Sample.january 5) hopens).2 (Sample.january 5) (by decide +kernel)).2
    ⟨b, by decide +kernel, rfl, rfl⟩
  exact (hattempts attempts).trans hrefused

end ShopTabs
