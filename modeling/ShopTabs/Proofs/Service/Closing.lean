import ShopTabs.Proofs.Service.Isolation
/-!
How the life of a tab goes on.  Its status moves one way, and it keeps its shop and its owner.  A closed tab
is closed for good: nothing is proposed for it, and its rows stay as they are, but that its bills may still
be paid.
-/

namespace ShopTabs

namespace TabStatus

/-- What a status may become. -/
inductive Moves : TabStatus → TabStatus → Prop where
  | approval : Moves .awaitingApproval .confirmed
  | closing : Moves .confirmed .closed
  | refusal : Moves .awaitingApproval .closed

theorem Moves.trans {a b c : TabStatus} (hab : a.Moves b) (hbc : b.Moves c) : a.Moves c := by
  rcases hab with _ | _ | _
  · cases hbc
    exact .refusal
  · cases hbc
  · cases hbc

/-- Every status but the last may become the last. -/
theorem moves_closed {a : TabStatus} (h : a ≠ .closed) : a.Moves .closed := by
  rcases a with _ | _ | _
  · exact .refusal
  · exact .closing
  · exact absurd rfl h

end TabStatus

/-- A tab goes on as another: in the same shop and with the same owner, its status the same or moved on. -/
structure Tab.GoesOn (t t' : Tab) : Prop where
  key : t'.key = t.key
  ownerId : t'.ownerId = t.ownerId
  status : t'.status = t.status ∨ t.status.Moves t'.status

namespace Tab.GoesOn

variable {t t₁ t₂ : Tab}

theorem refl (t : Tab) : t.GoesOn t := ⟨rfl, rfl, Or.inl rfl⟩

theorem trans (h₁ : t.GoesOn t₁) (h₂ : t₁.GoesOn t₂) : t.GoesOn t₂ := by
  refine ⟨h₂.key.trans h₁.key, h₂.ownerId.trans h₁.ownerId, ?_⟩
  rcases h₁.status with hsame₁ | hmoves₁
  · rw [← hsame₁]
    exact h₂.status
  · rcases h₂.status with hsame₂ | hmoves₂
    · rw [hsame₂]
      exact Or.inr hmoves₁
    · exact Or.inr (hmoves₁.trans hmoves₂)

end Tab.GoesOn

/-- No two tabs have one number, and nothing is proposed for a closed one. -/
structure Store.TabsInOrder (s : Store) : Prop where
  ids : (s.tabs.map (·.id)).Nodup
  unproposed : ∀ t ∈ s.tabs, t.status = .closed → ∀ u ∈ s.pending, u.tab ≠ t.key

namespace Store

variable {s : Store} {t u : Tab}

theorem eq_of_key_eq (hids : (s.tabs.map (·.id)).Nodup) (ht : t ∈ s.tabs) (hu : u ∈ s.tabs)
    (hkey : t.key = u.key) : t = u :=
  List.inj_on_of_nodup_map hids ht hu (congrArg TabKey.tabId hkey)

/-- A tab after the tab of a key was changed, if it is that one. -/
theorem mem_updateTab {key : TabKey} {change : Tab → Tab} (h : t ∈ (s.updateTab key change).tabs) :
    (t ∈ s.tabs ∧ t.key ≠ key) ∨ ∃ t₀ ∈ s.tabs, t₀.key = key ∧ t = change t₀ := by
  obtain ⟨t₀, ht₀, rfl⟩ := List.mem_map.mp h
  by_cases hkey : t₀.key = key
  · rw [if_pos hkey]
    exact Or.inr ⟨t₀, ht₀, hkey, rfl⟩
  · rw [if_neg hkey]
    exact Or.inl ⟨ht₀, hkey⟩

theorem mem_stage {v w : PendingUpdate} (h : v ∈ (s.stage w).pending) : v ∈ s.pending ∨ v = w := by
  rw [stage] at h
  split at h
  · obtain ⟨p, hp, rfl⟩ := List.mem_map.mp h
    split
    · exact Or.inr rfl
    · exact Or.inl hp
  · rcases List.mem_append.mp h with hold | hnew
    · exact Or.inl hold
    · exact Or.inr (List.mem_singleton.mp hnew)

theorem map_id_updateTab {key : TabKey} {change : Tab → Tab} (hkey : ∀ t, (change t).key = t.key) :
    (s.updateTab key change).tabs.map (·.id) = s.tabs.map (·.id) := by
  rw [updateTab, List.map_map]
  apply List.map_congr_left
  intro t _
  rw [Function.comp_apply]
  split
  · exact congrArg TabKey.tabId (hkey t)
  · rfl

/-- Closing a closed tab again changes nothing. -/
theorem TabsInOrder.close_again (hs : s.TabsInOrder) (ht : t ∈ s.tabs) (hclosed : t.status = .closed) :
    (s.updateTab t.key fun t => { t with status := .closed }).unstage t.key = s := by
  have htabs : (s.tabs.map fun u => if u.key = t.key then { u with status := .closed } else u) =
      s.tabs := by
    conv_rhs => rw [← List.map_id s.tabs]
    apply List.map_congr_left
    intro u hu
    by_cases hkey : u.key = t.key
    · rw [if_pos hkey, eq_of_key_eq hs.ids hu ht hkey, ← hclosed]
      rfl
    · rw [if_neg hkey]
      rfl
  have hpending : s.pending.filter (·.tab ≠ t.key) = s.pending := by
    rw [List.filter_eq_self]
    intro u hu
    exact decide_eq_true (hs.unproposed t ht hclosed u hu)
  simp only [unstage, updateTab, htabs, hpending]

end Store

/-! ### One operation -/

/-- What an operation may leave of the tabs and of what is proposed for them. -/
inductive TabsAfter (s s' : Store) : Prop where
  | untouched (tabs : s'.tabs = s.tabs) (pending : s'.pending = s.pending)
  | opened {t : Tab} (id : t.id ∉ s.tabs.map (·.id)) (status : t.status = .awaitingApproval)
      (tabs : s'.tabs = s.tabs ++ [t]) (pending : s'.pending = s.pending)
  | proposed {t : Tab} {u : PendingUpdate} (found : s.tab? u.tab = some t)
      (notClosed : t.status ≠ .closed) (tabs : s'.tabs = s.tabs)
      (pending : s'.pending = (s.stage u).pending)
  | approved {key : TabKey} {t : Tab} (found : s.tab? key = some t) (notClosed : t.status ≠ .closed)
      (tabs : s'.tabs = (s.updateTab key (Service.confirmed (s.pending? key))).tabs)
      (pending : s'.pending = (s.unstage key).pending)
  | closed {key : TabKey}
      (tabs : s'.tabs = (s.updateTab key fun t => { t with status := .closed }).tabs)
      (pending : s'.pending = (s.unstage key).pending)

namespace Effect

variable {env : Surroundings} {caller : Caller} {s s' : Store} {op : Operation} {reply : Reply}

theorem tabsAfter (h : Effect env caller s op reply s') : TabsAfter s s' := by
  cases h with
  | @tabCreated shopId form shop tab allowed opened owned =>
      refine .opened (t := tab) ?_ ?_ (by simp) (by simp)
      · rw [opened]
        exact fun hmem => Int.lt_irrefl _ (Store.lt_nextId hmem)
      · rw [opened]
        rfl
  | @updateSubmitted key form tab allowed notClosed =>
      obtain ⟨_, _, hfound, _⟩ := Service.authorizeTab_eq_ok.mp allowed
      exact .proposed (u := ⟨key, form.config.kept, form.emails, form.locationIds⟩) hfound notClosed
        (by simp) (by simp)
  | tabApproved allowed notClosed =>
      obtain ⟨_, _, hfound, _⟩ := Service.authorizeTab_eq_ok.mp allowed
      exact .approved hfound notClosed rfl rfl
  | tabClosed allowed => exact .closed rfl rfl
  | orderAdded allowed applied | orderRemoved allowed applied =>
      obtain ⟨_, _, _, hframe⟩ := applied.frame
      rw [hframe]
      exact .untouched rfl rfl
  | _ => exact .untouched (by simp) (by simp)

end Effect

/-- A tab goes on when the tab of a key is changed, if it does so itself where it is that one. -/
theorem Store.exists_goesOn_updateTab {s : Store} {t : Tab} {key : TabKey} {change : Tab → Tab}
    (ht : t ∈ s.tabs) (h : t.key = key → t.GoesOn (change t)) :
    ∃ t' ∈ (s.updateTab key change).tabs, t.GoesOn t' := by
  refine ⟨_, List.mem_map_of_mem ht, ?_⟩
  split
  · next hkey => exact h hkey
  · exact .refl t

namespace TabsAfter

variable {s s' : Store} {t : Tab}

/-- A tab that is there goes on. -/
theorem exists_goesOn (h : TabsAfter s s') (hids : (s.tabs.map (·.id)).Nodup) (ht : t ∈ s.tabs) :
    ∃ t' ∈ s'.tabs, t.GoesOn t' := by
  rcases h with ⟨tabs, _⟩ | ⟨_, _, tabs, _⟩ | ⟨_, _, tabs, _⟩ | ⟨found, notClosed, tabs, _⟩ | ⟨tabs, _⟩
  · rw [tabs]
    exact ⟨t, ht, .refl t⟩
  · rw [tabs]
    exact ⟨t, List.mem_append_left _ ht, .refl t⟩
  · rw [tabs]
    exact ⟨t, ht, .refl t⟩
  · rw [tabs]
    apply Store.exists_goesOn_updateTab ht
    rintro rfl
    rw [Store.tab?_eq_some hids ht, Option.some.injEq] at found
    subst found
    refine ⟨rfl, rfl, ?_⟩
    cases hstatus : t.status with
    | awaitingApproval => exact Or.inr .approval
    | confirmed => exact Or.inl rfl
    | closed => exact absurd hstatus notClosed
  · rw [tabs]
    apply Store.exists_goesOn_updateTab ht
    rintro -
    refine ⟨rfl, rfl, ?_⟩
    by_cases hclosed : t.status = .closed
    · exact Or.inl hclosed.symm
    · exact Or.inr (TabStatus.moves_closed hclosed)

theorem nodup_ids (h : TabsAfter s s') (hids : (s.tabs.map (·.id)).Nodup) :
    (s'.tabs.map (·.id)).Nodup := by
  rcases h with ⟨tabs, _⟩ | ⟨fresh, _, tabs, _⟩ | ⟨_, _, tabs, _⟩ | ⟨_, _, tabs, _⟩ | ⟨tabs, _⟩
  · rw [tabs]
    exact hids
  · rw [tabs, List.map_append, List.map_singleton, ← List.concat_eq_append]
    exact hids.concat fresh
  · rw [tabs]
    exact hids
  · rw [tabs, Store.map_id_updateTab]
    · exact hids
    · exact fun _ => rfl
  · rw [tabs, Store.map_id_updateTab]
    · exact hids
    · exact fun _ => rfl

/-- Nothing is proposed for a closed tab. -/
theorem unproposed (h : TabsAfter s s') (hs : s.TabsInOrder) (ht : t ∈ s'.tabs)
    (hclosed : t.status = .closed) {u : PendingUpdate} (hu : u ∈ s'.pending) : u.tab ≠ t.key := by
  rcases h with ⟨tabs, pending⟩ | ⟨_, status, tabs, pending⟩ | ⟨found, notClosed, tabs, pending⟩ |
    ⟨_, _, tabs, pending⟩ | ⟨tabs, pending⟩
  · rw [tabs] at ht
    rw [pending] at hu
    exact hs.unproposed t ht hclosed u hu
  · rw [tabs] at ht
    rw [pending] at hu
    rcases List.mem_append.mp ht with hold | hnew
    · exact hs.unproposed t hold hclosed u hu
    · rw [List.mem_singleton.mp hnew, status] at hclosed
      cases hclosed
  · rw [tabs] at ht
    rw [pending] at hu
    rcases Store.mem_stage hu with hold | rfl
    · exact hs.unproposed t ht hclosed u hold
    · intro hkey
      rw [hkey, Store.tab?_eq_some hs.ids ht, Option.some.injEq] at found
      exact notClosed (found ▸ hclosed)
  · rw [tabs] at ht
    rw [pending] at hu
    rcases Store.mem_updateTab ht with ⟨hold, _⟩ | ⟨t₀, _, _, rfl⟩
    · exact hs.unproposed t hold hclosed u (List.mem_filter.mp hu).1
    · cases hclosed
  · rw [tabs] at ht
    rw [pending] at hu
    obtain ⟨hold, hother⟩ := List.mem_filter.mp hu
    rcases Store.mem_updateTab ht with ⟨ht', _⟩ | ⟨t₀, _, hkey, rfl⟩
    · exact hs.unproposed t ht' hclosed u hold
    · intro hsame
      exact absurd (hsame.trans hkey) (by simpa using hother)

theorem tabsInOrder (h : TabsAfter s s') (hs : s.TabsInOrder) : s'.TabsInOrder :=
  ⟨h.nodup_ids hs.ids, fun _ ht hclosed _ hu => h.unproposed hs ht hclosed hu⟩

end TabsAfter

/-! ### A closed tab -/

/-- The rows but for the bills. -/
def TabRows.unbilled (rows : TabRows) : TabRows := { rows with bills := [] }

/-- An operation leaves the rows of a closed tab alone, but for its bills. -/
theorem Effect.unbilled_of_closed {env : Surroundings} {caller : Caller} {s s' : Store} {op : Operation}
    {reply : Reply} {t : Tab} (h : Effect env caller s op reply s') (hs : s.TabsInOrder)
    (ht : t ∈ s.tabs) (hclosed : t.status = .closed) :
    (s'.rowsOf t.key).unbilled = (s.rowsOf t.key).unbilled := by
  by_cases htarget : op.target? reply = some t.key
  · have hfound := Store.tab?_eq_some hs.ids ht
    have hsame : ∀ {action : Action} {tab : Tab},
        Service.authorizeTab env caller t.key action s = .ok tab → tab.status = .closed := by
      intro action tab hallowed
      obtain ⟨_, _, htab, _⟩ := Service.authorizeTab_eq_ok.mp hallowed
      rw [hfound, Option.some.injEq] at htab
      rw [← htab]
      exact hclosed
    have hunordered : ∀ {o : Form.Order} {direction : Direction} {on : Option Day} {receipt : Receipt},
        ¬ Ledger.Applied env t.key o direction on s receipt := by
      rintro o direction on receipt ⟨_, _, htab, ⟨hopen, _⟩, _⟩
      rw [hfound, Option.some.injEq] at htab
      exact hopen (htab ▸ hclosed)
    have hfresh := h.target?_ne_of_mem
    cases h with
    | tabCreated => exact absurd htarget (hfresh rfl ht)
    | tabsListed => cases htarget
    | updateSubmitted allowed notClosed =>
        cases htarget
        exact absurd (hsame allowed) notClosed
    | tabApproved allowed notClosed =>
        cases htarget
        exact absurd (hsame allowed) notClosed
    | verificationListSet allowed notClosed counted =>
        cases htarget
        exact absurd (hsame allowed) notClosed
    | orderAdded allowed applied =>
        cases htarget
        exact absurd applied hunordered
    | orderRemoved allowed applied =>
        cases htarget
        exact absurd applied hunordered
    | tabClosed allowed =>
        cases htarget
        rw [hs.close_again ht hclosed]
        rfl
    | billPaid dayOr allowed found => rfl
    | tabShown allowed => rfl
  · rw [h.rowsOf_eq htarget]

/-- What was posted is the payment of a bill. -/
def Posting.IsPayment : Posting → Prop
  | order .. => False
  | payment .. => True

/-- Bills after what was posted, where orders open none. -/
def Posting.settle (bills : List Bill) : Posting → List Bill
  | order .. => bills
  | payment billId day => closeBill bills billId day

/-- What of a bill never changes. -/
def Bill.origin (b : Bill) : Int × TabKey × Day := (b.id, b.tab, b.startDate)

theorem map_origin_closeBill {bills : List Bill} {billId : Int} {day : Day} :
    (closeBill bills billId day).map (·.origin) = bills.map (·.origin) := by
  rw [closeBill, List.map_map]
  apply List.map_congr_left
  intro b _
  rw [Function.comp_apply]
  split <;> rfl

theorem map_origin_settle {posted : List Posting} {bills : List Bill} :
    (posted.foldl Posting.settle bills).map (·.origin) = bills.map (·.origin) := by
  induction posted generalizing bills with
  | nil => rfl
  | cons p rest ih =>
      rw [List.foldl_cons, ih]
      rcases p with _ | ⟨billId, day⟩
      · rfl
      · exact map_origin_closeBill

/-- Nothing but payments is posted to the account of a closed tab. -/
theorem BillsAfter.of_closed {key : TabKey} {s : Store} {t : Tab} {posting : Option Posting}
    {bills : List Bill} (h : BillsAfter key s posting bills) (hfound : s.tab? key = some t)
    (hclosed : t.status = .closed) :
    (∀ p ∈ posting.toList, p.IsPayment) ∧ bills = posting.toList.foldl Posting.settle (s.billsOf key) := by
  rcases h with _ | ⟨htab, horderable, _, _⟩ | ⟨htab, horderable, _, _, _⟩ | _
  · exact ⟨by simp, rfl⟩
  · rw [hfound, Option.some.injEq] at htab
    exact absurd (htab ▸ hclosed) horderable.1
  · rw [hfound, Option.some.injEq] at htab
    exact absurd (htab ▸ hclosed) horderable.1
  · exact ⟨by simp [Posting.IsPayment], rfl⟩

/-- How a closed tab is kept while something is posted to its account: its rows stay as they are but for
the bills, nothing but payments is posted, and the bills are those that were there with what was paid. -/
structure Tab.KeptClosed (t : Tab) (s s' : Store) (posted : List Posting) : Prop where
  rows : (s'.rowsOf t.key).unbilled = (s.rowsOf t.key).unbilled
  payments : ∀ p ∈ posted, p.IsPayment
  bills : s'.billsOf t.key = posted.foldl Posting.settle (s.billsOf t.key)

namespace Tab.KeptClosed

variable {t : Tab} {s s₁ s₂ : Store} {posted posted₁ posted₂ : List Posting}

theorem refl (t : Tab) (s : Store) : t.KeptClosed s s [] := ⟨rfl, by simp, rfl⟩

theorem trans (h₁ : t.KeptClosed s s₁ posted₁) (h₂ : t.KeptClosed s₁ s₂ posted₂) :
    t.KeptClosed s s₂ (posted₁ ++ posted₂) := by
  refine ⟨h₂.rows.trans h₁.rows, ?_, ?_⟩
  · intro p hp
    rcases List.mem_append.mp hp with hp | hp
    · exact h₁.payments p hp
    · exact h₂.payments p hp
  · rw [List.foldl_append, ← h₁.bills]
    exact h₂.bills

theorem mem_tabs (h : t.KeptClosed s s₁ posted) (ht : t ∈ s.tabs) : t ∈ s₁.tabs := by
  have hmem : t ∈ (s.rowsOf t.key).unbilled.tabs := List.mem_filter.mpr ⟨ht, decide_eq_true rfl⟩
  rw [← h.rows] at hmem
  exact (List.mem_filter.mp hmem).1

end Tab.KeptClosed

namespace Service.Request

variable {s : Store} {t : Tab}

theorem tabsInOrder (r : Request) (s : Store) (hs : s.TabsInOrder) : (r.after s).TabsInOrder := by
  rcases r.ask.perform_cases r.env r.caller s with ⟨_, hstore⟩ | ⟨_, _, _, _, heffect⟩
  · rw [after, outcome, hstore]
    exact hs
  · exact heffect.tabsAfter.tabsInOrder hs

theorem exists_goesOn (r : Request) (hs : s.TabsInOrder) (ht : t ∈ s.tabs) :
    ∃ t' ∈ (r.after s).tabs, t.GoesOn t' := by
  rcases r.ask.perform_cases r.env r.caller s with ⟨_, hstore⟩ | ⟨_, _, _, _, heffect⟩
  · rw [after, outcome, hstore]
    exact ⟨t, ht, .refl t⟩
  · exact heffect.tabsAfter.exists_goesOn hs.ids ht

theorem keptClosed (r : Request) (hs : s.TabsInOrder) (ht : t ∈ s.tabs) (hclosed : t.status = .closed) :
    t.KeptClosed s (r.after s) (r.posting? t.key s).toList := by
  obtain ⟨hpayments, hbills⟩ :=
    (r.billsAfter s t.key).of_closed (Store.tab?_eq_some hs.ids ht) hclosed
  refine ⟨?_, hpayments, hbills⟩
  rcases r.ask.perform_cases r.env r.caller s with ⟨_, hstore⟩ | ⟨_, _, _, _, heffect⟩
  · rw [after, outcome, hstore]
  · exact heffect.unbilled_of_closed hs ht hclosed

end Service.Request

/-! ### Many requests -/

namespace Store

variable {s : Store} {t : Tab}

theorem tabsInOrder_run (hs : s.TabsInOrder) (history : List Service.Request) :
    (s.run history).TabsInOrder :=
  run_invariant (fun r s hs => r.tabsInOrder s hs) hs history

theorem exists_tab_goesOn_run (hs : s.TabsInOrder) (ht : t ∈ s.tabs) (history : List Service.Request) :
    ∃ t' ∈ (s.run history).tabs, t.GoesOn t' := by
  induction history using List.reverseRecOn with
  | nil => exact ⟨t, ht, .refl t⟩
  | append_singleton rest r ih =>
      obtain ⟨mid, hmid, hgoes⟩ := ih
      obtain ⟨t', ht', hgoes'⟩ := r.exists_goesOn (tabsInOrder_run hs rest) hmid
      rw [run_append_singleton]
      exact ⟨t', ht', hgoes.trans hgoes'⟩

theorem keptClosed_run (hs : s.TabsInOrder) (ht : t ∈ s.tabs) (hclosed : t.status = .closed)
    (history : List Service.Request) :
    t.KeptClosed s (s.run history) (postings t.key s history) := by
  induction history using List.reverseRecOn with
  | nil => exact .refl t s
  | append_singleton rest r ih =>
      rw [run_append_singleton, postings_append_singleton]
      exact ih.trans (r.keptClosed (tabsInOrder_run hs rest) (ih.mem_tabs ht) hclosed)

end Store

/-- A tab keeps its shop and its owner, and its status moves one way.  While it is closed, nothing is
proposed for it; its rows stay as they are for good, but for the bills, and of these it keeps the same ones,
with their first days, of which payments may still change the rest. -/
theorem closed_tabs_stay {s : Store} (hs : s.TabsInOrder) (first later : List Service.Request) :
    let mid := s.run first
    let last := mid.run later
    (∀ t ∈ mid.tabs, ∃ t' ∈ last.tabs, t'.key = t.key ∧ t'.ownerId = t.ownerId ∧
      (t'.status = t.status ∨ t.status.Moves t'.status)) ∧
    ∀ t ∈ mid.tabs, t.status = .closed →
      (∀ u ∈ mid.pending, u.tab ≠ t.key) ∧
      (last.rowsOf t.key).unbilled = (mid.rowsOf t.key).unbilled ∧
      (last.billsOf t.key).map (·.origin) = (mid.billsOf t.key).map (·.origin) ∧
      (∀ p ∈ postings t.key mid later, p.IsPayment) ∧
      last.billsOf t.key = (postings t.key mid later).foldl Posting.settle (mid.billsOf t.key) := by
  intro mid last
  have hmid : mid.TabsInOrder := Store.tabsInOrder_run hs first
  refine ⟨?_, ?_⟩
  · intro t ht
    obtain ⟨t', ht', hgoes⟩ := Store.exists_tab_goesOn_run hmid ht later
    exact ⟨t', ht', hgoes.key, hgoes.ownerId, hgoes.status⟩
  · intro t ht hclosed
    have hkept : t.KeptClosed mid last (postings t.key mid later) :=
      Store.keptClosed_run hmid ht hclosed later
    refine ⟨hmid.unproposed t ht hclosed, hkept.rows, ?_, hkept.payments, hkept.bills⟩
    rw [hkept.bills]
    exact map_origin_settle

/-- A tab with one bill is closed.  The bill is paid; another coffee, approval and a second closing change
nothing. -/
theorem closed_tabs_stay_sample :
    let closed := Sample.store.run [Sample.openTab 7, Sample.order 5,
      Sample.request (.plain (.closeTab Sample.tab))]
    let later := [Sample.pay 1 9, Sample.order 9, Sample.request (.plain (.approveTab Sample.tab)),
      Sample.request (.plain (.closeTab Sample.tab))]
    let tab := { Sample.openedTab 7 with status := .closed }
    tab ∈ closed.tabs ∧
      ((closed.run later).rowsOf tab.key).unbilled = (closed.rowsOf tab.key).unbilled ∧
      (closed.run later).billsOf tab.key = [⟨1, Sample.tab, Sample.january 5, Sample.january 9, true⟩] := by
  intro closed later tab
  have hs : Sample.store.TabsInOrder := ⟨by decide +kernel, by decide +kernel⟩
  have htab : tab ∈ closed.tabs := by decide +kernel
  obtain ⟨_, hstays⟩ := closed_tabs_stay hs [Sample.openTab 7, Sample.order 5,
    Sample.request (.plain (.closeTab Sample.tab))] later
  obtain ⟨_, hrows, _, _, hbills⟩ := hstays tab htab rfl
  refine ⟨htab, hrows, ?_⟩
  rw [hbills]
  decide +kernel

end ShopTabs
