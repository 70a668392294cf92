import ShopTabs.Proofs.Service.History
/-!
What requests do to the bills of a tab.  A request leaves them alone, or it puts an order on the latest
of them, opens a new one for the order, or closes one.  So the bills follow from what was posted to the
account of the tab: for each request the bill and the day that it concerned.
-/

namespace ShopTabs

/-- What is posted to the account of a tab: an order that was put on a bill or taken off it, or the
payment of a bill, each with its day. -/
inductive Posting where
  | order (billId : Int) (day : Day)
  | payment (billId : Int) (day : Day)
deriving DecidableEq, Repr

def Posting.day : Posting → Day
  | order _ day => day
  | payment _ day => day

/-- What is posted to the account of one tab where something was done to another on a day. -/
def Surroundings.post? (env : Surroundings) (key tab : TabKey) (on : Option Day)
    (posting : Day → Posting) : Option Posting :=
  if tab = key then (env.dayOr on).toOption.map posting else none

theorem Surroundings.post?_eq_some {env : Surroundings} {key tab : TabKey} {on : Option Day}
    {posting : Day → Posting} {p : Posting} :
    env.post? key tab on posting = some p ↔
      tab = key ∧ ∃ day, env.dayOr on = .ok day ∧ posting day = p := by
  unfold post?
  by_cases hkey : tab = key
  · cases env.dayOr on <;> simp [hkey, Except.toOption]
  · simp [hkey]

/-- What an operation posts to a tab's account by its reply. -/
def Operation.posting? (env : Surroundings) (key : TabKey) : Operation → Reply → Option Posting
  | .addOrder tab _ on, .ordered result => env.post? key tab on (.order result.billId)
  | .removeOrder tab _ on _, .ordered result => env.post? key tab on (.order result.billId)
  | .markBillPaid tab billId on, _ => env.post? key tab on (.payment billId)
  | _, _ => none

theorem Operation.tab?_of_posting (op : Operation) {env : Surroundings} {key : TabKey}
    {reply : Reply} {p : Posting} (h : op.posting? env key reply = some p) : op.tab? = some key := by
  unfold posting? at h
  split at h
  · obtain ⟨rfl, _⟩ := Surroundings.post?_eq_some.mp h
    rfl
  · obtain ⟨rfl, _⟩ := Surroundings.post?_eq_some.mp h
    rfl
  · obtain ⟨rfl, _⟩ := Surroundings.post?_eq_some.mp h
    rfl
  · cases h

/-- What a request posts to a tab's account; nothing if it is refused. -/
def Service.Request.posting? (r : Service.Request) (key : TabKey) (s : Store) : Option Posting :=
  match r.ask.read r.env.shortening, (r.outcome s).result with
  | .ok op, .ok reply => op.posting? r.env key reply
  | _, _ => none

/-- All that a history posts to a tab's account, in its order. -/
def postings (key : TabKey) : Store → List Service.Request → List Posting
  | _, [] => []
  | s, r :: rest => (r.posting? key s).toList ++ postings key (r.after s) rest

theorem postings_append_singleton {key : TabKey} {s : Store} {history : List Service.Request}
    {r : Service.Request} :
    postings key s (history ++ [r]) =
      postings key s history ++ (r.posting? key (s.run history)).toList := by
  induction history generalizing s with
  | nil => simp [postings]
  | cons first rest ih =>
      rw [List.cons_append, postings, postings, ih, List.append_assoc]
      rfl

/-- Bills after the one of a number was closed on a day. -/
def closeBill (bills : List Bill) (id : Int) (day : Day) : List Bill :=
  bills.map fun b => if b.id = id then b.closedOn day else b

theorem mem_closeBill {bills : List Bill} {id : Int} {day : Day} {b : Bill}
    (h : b ∈ closeBill bills id day) :
    (∃ a ∈ bills, a.id = id ∧ b = a.closedOn day) ∨ (b ∈ bills ∧ b.id ≠ id) := by
  obtain ⟨a, ha, rfl⟩ := List.mem_map.mp h
  by_cases hid : a.id = id
  · rw [if_pos hid]
    exact Or.inl ⟨a, ha, hid, rfl⟩
  · rw [if_neg hid]
    exact Or.inr ⟨ha, hid⟩

theorem closeBill_of_ne {bills : List Bill} {id : Int} {day : Day} (h : ∀ b ∈ bills, b.id ≠ id) :
    closeBill bills id day = bills := by
  have hsame : closeBill bills id day = bills.map (fun b => b) := by
    apply List.map_congr_left
    intro b hb
    rw [if_neg (h b hb)]
  rw [hsame, List.map_id']

/-- What a request may leave of a tab's bills, by what it posts. -/
inductive BillsAfter (key : TabKey) (s : Store) : Option Posting → List Bill → Prop where
  | untouched : BillsAfter key s none (s.billsOf key)
  /-- The order goes to the latest bill. -/
  | kept {t : Tab} {b : Bill} {day : Day} (tab : s.tab? key = some t)
      (orderable : t.IsOrderable day) (latest : latestBill (s.billsOf key) = some b)
      (takes : b.takes day = true) :
    BillsAfter key s (some (.order b.id day)) (s.billsOf key)
  /-- A bill is opened for the order. -/
  | opened {t : Tab} {w : Window} {day : Day} (tab : s.tab? key = some t)
      (orderable : t.IsOrderable day)
      (passed : ∀ b, latestBill (s.billsOf key) = some b → b.takes day = false)
      (window : t.config.billingTerms.nextWindow (latestBill (s.billsOf key)) = .ok w)
      (free : s.hasOpenStart key w.first = false) :
    BillsAfter key s (some (.order (s.newBill key w false).id day))
      (s.billsOf key ++ [s.newBill key w false])
  /-- A bill is closed. -/
  | closed {billId : Int} {day : Day} (found : s.hasBill key billId = true) :
    BillsAfter key s (some (.payment billId day))
      (closeBill (s.billsOf key) billId day)

namespace Store

variable {s s' : Store} {key other : TabKey}

theorem billsOf_congr (h : s'.bills = s.bills) : s'.billsOf key = s.billsOf key := by
  rw [billsOf, billsOf, h]

theorem mem_of_tab? {t : Tab} (h : s.tab? key = some t) : t ∈ s.tabs ∧ t.key = key :=
  ⟨List.mem_of_find?_eq_some h, by simpa using List.find?_some h⟩

theorem hasTab_of_tab? {t : Tab} (h : s.tab? key = some t) : s.hasTab key = true := by
  obtain ⟨hmem, hkey⟩ := mem_of_tab? h
  exact List.any_eq_true.mpr ⟨t, hmem, decide_eq_true hkey⟩

theorem lt_nextId {ids : List Int} {n : Int} (h : n ∈ ids) : n < nextId ids := by
  unfold nextId
  cases hmax : ids.max? with
  | none =>
      rw [List.max?_eq_none_iff.mp hmax] at h
      cases h
  | some m =>
      have hle := (List.max?_eq_some_iff.mp hmax).2 n h
      show n < m + 1
      omega

/-- A new bill gets a larger number than the bills that are there. -/
theorem lt_newBill_id {w : Window} {b : Bill} (h : b ∈ s.billsOf key) :
    b.id < (s.newBill key w false).id :=
  lt_nextId (List.mem_map_of_mem (List.mem_filter.mp h).1)

theorem billsOf_withBill {b : Bill} (h : b.tab = key) :
    (s.withBill b).billsOf key = s.billsOf key ++ [b] := by
  simp [billsOf, h]

theorem billsOf_withBill_of_ne {b : Bill} (h : b.tab ≠ key) :
    (s.withBill b).billsOf key = s.billsOf key := by
  simp [billsOf, h]

theorem billsOf_updateBill {id : Int} {day : Day} :
    (s.updateBill key id fun b => b.closedOn day).billsOf key =
      closeBill (s.billsOf key) id day := by
  simp only [billsOf, updateBill, closeBill, Bool.and_eq_true, decide_eq_true_eq]
  induction s.bills with
  | nil => rfl
  | cons b rest ih =>
      by_cases htab : b.tab = key
      · by_cases hid : b.id = id
        · simp [htab, hid, ih]
        · simp [htab, hid, ih]
      · simp [htab, ih]

theorem billsOf_updateBill_of_ne {id : Int} {day : Day} (h : other ≠ key) :
    (s.updateBill other id fun b => b.closedOn day).billsOf key = s.billsOf key := by
  simp only [billsOf, updateBill, Bool.and_eq_true, decide_eq_true_eq]
  induction s.bills with
  | nil => rfl
  | cons b rest ih =>
      by_cases hother : b.tab = other
      · by_cases hid : b.id = id
        · simp [hother, hid, h, ih]
        · simp [hother, hid, h, ih]
      · by_cases htab : b.tab = key
        · simp [htab, Ne.symm h, ih]
        · simp [hother, htab, ih]

end Store

/-- An order that is written goes to the bill that was selected for its day; the lines apart, only that
selection changes anything. -/
theorem Ledger.Applied.selected {env : Surroundings} {key : TabKey} {o : Form.Order}
    {direction : Direction} {on : Option Day} {s : Store} {receipt : Receipt}
    (h : Ledger.Applied env key o direction on s receipt) (hblind : env.blindReads = 0) :
    ∃ day t selection, env.dayOr on = .ok day ∧ s.tab? key = some t ∧ t.IsOrderable day ∧
      Selected t.config.billingTerms key day s selection ∧
      receipt.result.billId = selection.billId ∧
      receipt.store.bills = selection.store.bills ∧
      receipt.store.tabs = s.tabs ∧ receipt.store.pending = s.pending := by
  obtain ⟨hday, _, htab, horderable, _, hselect, hwritten⟩ := h
  rw [hblind] at hselect
  have hselected := selectBill_selected hselect
  obtain ⟨itemLines, variantLines, rfl⟩ := write_frame hwritten
  refine ⟨_, _, _, hday, htab, horderable, hselected, rfl, by simp, ?_⟩
  cases hselected with
  | kept latest takes => simp
  | opened passed window words free tab => simp

theorem Selected.billsAfter {t : Tab} {key : TabKey} {day : Day} {s : Store}
    {selection : Selection} (htab : s.tab? key = some t) (horderable : t.IsOrderable day)
    (h : Selected t.config.billingTerms key day s selection) :
    BillsAfter key s (some (.order selection.billId day)) (selection.store.billsOf key) := by
  cases h with
  | kept latest takes => exact .kept htab horderable latest takes
  | @opened w passed window words free tab =>
      have hbills : (s.withBill (s.newBill key w false)).billsOf key =
          s.billsOf key ++ [s.newBill key w false] := Store.billsOf_withBill rfl
      simp only [hbills]
      exact .opened htab horderable passed window free

theorem Selected.billsOf_of_ne {terms : BillingTerms} {key other : TabKey} {day : Day} {s : Store}
    {selection : Selection} (h : Selected terms other day s selection) (hne : other ≠ key) :
    selection.store.billsOf key = s.billsOf key := by
  cases h with
  | kept latest takes => rfl
  | opened passed window words free tab => exact Store.billsOf_withBill_of_ne hne

namespace Effect

variable {env : Surroundings} {caller : Caller} {s s' : Store} {op : Operation} {reply : Reply}

/-- What an order on any tab does to the bills of one. -/
theorem billsAfter_of_applied {key other : TabKey} {o : Form.Order} {direction : Direction}
    {on : Option Day} {receipt : Receipt} {event : Event}
    (happlied : Ledger.Applied env other o direction on s receipt) (hblind : env.blindReads = 0) :
    BillsAfter key s
      (env.post? key other on (.order receipt.result.billId))
      ((receipt.store.audited caller other event).billsOf key) := by
  obtain ⟨day, t, selection, hday, htab, horderable, hselected, hid, hbills, _⟩ :=
    happlied.selected hblind
  rw [Store.billsOf_congr (s := selection.store) (by simp [hbills])]
  by_cases hkey : other = key
  · subst hkey
    rw [Surroundings.post?, if_pos rfl, hday, hid]
    exact hselected.billsAfter htab horderable
  · rw [Surroundings.post?, if_neg hkey, hselected.billsOf_of_ne hkey]
    exact .untouched

/-- The bills of a tab follow from what an operation posts to its account. -/
theorem billsAfter (h : Effect env caller s op reply s') (hblind : env.blindReads = 0)
    (key : TabKey) : BillsAfter key s (op.posting? env key reply) (s'.billsOf key) := by
  cases h with
  | orderAdded allowed applied => exact billsAfter_of_applied applied hblind
  | orderRemoved allowed applied => exact billsAfter_of_applied applied hblind
  | @billPaid other billId on day tab dayOr allowed found =>
      rw [Store.billsOf_congr (s := s.updateBill other billId fun b => b.closedOn day) (by simp)]
      by_cases hkey : other = key
      · subst hkey
        rw [Operation.posting?, Surroundings.post?, if_pos rfl, dayOr, Store.billsOf_updateBill]
        exact .closed found
      · rw [Operation.posting?, Surroundings.post?, if_neg hkey, Store.billsOf_updateBill_of_ne hkey]
        exact .untouched
  | _ =>
      rw [Store.billsOf_congr (s := s) (by simp)]
      exact .untouched

theorem selected_of_applied {key other : TabKey} {o : Form.Order} {direction : Direction}
    {on : Option Day} {receipt : Receipt} {billId : Int} {day : Day}
    (happlied : Ledger.Applied env other o direction on s receipt) (hblind : env.blindReads = 0)
    (hposting : env.post? key other on (.order receipt.result.billId) = some (.order billId day)) :
    ∃ t selection, s.tab? key = some t ∧ t.IsOrderable day ∧
      Selected t.config.billingTerms key day s selection ∧ billId = selection.billId ∧
      receipt.store.bills = selection.store.bills := by
  obtain ⟨day', t, selection, hday, htab, horderable, hselected, hid, hbills, _⟩ :=
    happlied.selected hblind
  obtain ⟨rfl, _, hday', heq⟩ := Surroundings.post?_eq_some.mp hposting
  rw [hday] at hday'
  cases hday'
  cases heq
  exact ⟨t, selection, htab, horderable, hselected, hid, hbills⟩

theorem selected_of_posting {key : TabKey} {billId : Int} {day : Day}
    (h : Effect env caller s op reply s') (hblind : env.blindReads = 0)
    (hposting : op.posting? env key reply = some (.order billId day)) :
    ∃ t selection, s.tab? key = some t ∧ t.IsOrderable day ∧
      Selected t.config.billingTerms key day s selection ∧ billId = selection.billId ∧
      s'.bills = selection.store.bills := by
  cases h with
  | orderAdded allowed applied => exact selected_of_applied applied hblind hposting
  | orderRemoved allowed applied => exact selected_of_applied applied hblind hposting
  | billPaid dayOr allowed found =>
      obtain ⟨_, _, _, heq⟩ := Surroundings.post?_eq_some.mp hposting
      cases heq
  | _ => cases hposting

end Effect

namespace Service.Request

variable {r : Request} {s : Store} {key : TabKey}

/-- What a request leaves of a tab's bills. -/
theorem billsAfter (r : Request) (s : Store) (key : TabKey) :
    BillsAfter key s (r.posting? key s) ((r.after s).billsOf key) := by
  cases hresult : (r.outcome s).result with
  | error failure =>
      have hnone : r.posting? key s = none := by
        unfold posting?
        rw [hresult]
        split <;> simp_all
      rw [hnone, after_of_error hresult]
      exact .untouched
  | ok reply =>
      obtain ⟨op, hread, heffect⟩ := effect_of_ok hresult
      have hposting : r.posting? key s = op.posting? r.env key reply := by
        rw [posting?, hread, hresult]
      rw [hposting]
      exact heffect.billsAfter rfl key

/-- A request that does not name a tab posts nothing to its account. -/
theorem posting?_eq_none (h : r.ask.tab? ≠ some key) : r.posting? key s = none := by
  unfold posting?
  split
  · next op reply hread _ =>
      have hop : op.tab? ≠ some key := by
        rw [Submission.tab?_of_read hread]
        exact h
      cases hposting : op.posting? r.env key reply with
      | none => rfl
      | some p => exact absurd (op.tab?_of_posting hposting) hop
  · rfl

theorem billsOf_after_of_other (h : r.ask.tab? ≠ some key) :
    (r.after s).billsOf key = s.billsOf key := by
  have hafter := r.billsAfter s key
  rw [posting?_eq_none h] at hafter
  generalize hbills : (r.after s).billsOf key = bills at hafter
  cases hafter
  rfl

/-- An order that is posted went to the bill that was selected for its day. -/
theorem selected_of_posting {r : Request} {s : Store} {key : TabKey} {billId : Int} {day : Day}
    (h : r.posting? key s = some (.order billId day)) :
    ∃ t selection, s.tab? key = some t ∧ t.IsOrderable day ∧
      Selected t.config.billingTerms key day s selection ∧ billId = selection.billId ∧
      (r.after s).bills = selection.store.bills := by
  unfold posting? at h
  split at h
  · next op reply hread hresult =>
      obtain ⟨op', hread', heffect⟩ := effect_of_ok hresult
      rw [hread] at hread'
      cases hread'
      exact heffect.selected_of_posting rfl h
  · cases h

end Service.Request

/-- Requests that do not name a tab leave its bills alone. -/
theorem Store.billsOf_run_of_others {s : Store} {key : TabKey} {history : List Service.Request}
    (hothers : ∀ r ∈ history, r.ask.tab? ≠ some key) : (s.run history).billsOf key = s.billsOf key := by
  induction history using List.reverseRecOn with
  | nil => rfl
  | append_singleton rest r ih =>
      have hrest := ih fun q hq => hothers q (List.mem_append_left _ hq)
      rw [Store.run_append_singleton, ← hrest]
      exact Service.Request.billsOf_after_of_other (hothers r (by simp))

end ShopTabs
