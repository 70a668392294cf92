import ShopTabs.Proofs.Billing.Account
/-!
The settings from which bills follow.  What is set or proposed for a tab came in by a form, so its
billing interval stays positive.
-/

namespace ShopTabs

/-- What is set for a tab, and what is proposed for it, has a positive billing interval. -/
structure Store.Billable (s : Store) (key : TabKey) : Prop where
  set : ∀ t ∈ s.tabs, t.key = key → 0 < t.config.billingInterval
  proposed : ∀ u ∈ s.pending, u.tab = key → 0 < u.config.billingInterval

/-- The billing interval that an operation sets or proposes. -/
def Operation.interval? : Operation → Option Int
  | createTab _ form => some form.config.billingInterval
  | submitUpdate _ form => some form.config.billingInterval
  | _ => none

/-- An interval that comes with a form is positive. -/
theorem Submission.interval_pos {how : Decimal.Shortening} {ask : Submission} {op : Operation} {interval : Int}
    (hproper : ask.isProper = true) (hread : ask.read how = .ok op)
    (h : op.interval? = some interval) : 0 < interval := by
  cases ask with
  | createTab shopId data =>
      simp only [read, bind, Except.bind] at hread
      split at hread
      · cases hread
      · next form hform =>
          cases hread
          cases h
          exact Form.NewTab.read_interval_pos hform
  | submitUpdate key data =>
      simp only [read, bind, Except.bind] at hread
      split at hread
      · cases hread
      · next form hform =>
          cases hread
          cases h
          exact Form.Revision.read_interval_pos hform
  | plain op' =>
      cases hread
      cases op with
      | createTab => cases hproper
      | submitUpdate => cases hproper
      | _ => cases h
  | _ =>
      simp only [read, bind, Except.bind] at hread
      split at hread
      · cases hread
      · cases hread
        cases h

namespace Store.Billable

variable {s s' : Store} {key : TabKey}

theorem of_tab? (h : s.Billable key) {t : Tab} (ht : s.tab? key = some t) :
    0 < t.config.billingInterval :=
  h.set t (Store.mem_of_tab? ht).1 (Store.mem_of_tab? ht).2

theorem congr (h : s.Billable key) (htabs : s'.tabs = s.tabs) (hpending : s'.pending = s.pending) :
    s'.Billable key := by
  refine ⟨?_, ?_⟩
  · rw [htabs]
    exact h.set
  · rw [hpending]
    exact h.proposed

theorem withTab (h : s.Billable key) {t : Tab} (ht : 0 < t.config.billingInterval) :
    (s.withTab t).Billable key := by
  refine ⟨?_, h.proposed⟩
  intro u hu hkey
  rcases List.mem_append.mp hu with hu | hu
  · exact h.set u hu hkey
  · rw [List.mem_singleton.mp hu]
    exact ht

theorem stage (h : s.Billable key) {u : PendingUpdate} (hu : 0 < u.config.billingInterval) :
    (s.stage u).Billable key := by
  refine ⟨h.set, ?_⟩
  intro v hv hkey
  simp only [Store.stage] at hv
  split at hv
  · obtain ⟨p, hp, rfl⟩ := List.mem_map.mp hv
    split
    · exact hu
    · next hother =>
        rw [if_neg hother] at hkey
        exact h.proposed p hp hkey
  · rcases List.mem_append.mp hv with hv | hv
    · exact h.proposed v hv hkey
    · rw [List.mem_singleton.mp hv]
      exact hu

theorem unstage (h : s.Billable key) {other : TabKey} : (s.unstage other).Billable key :=
  ⟨h.set, fun u hu hkey => h.proposed u (List.mem_filter.mp hu).1 hkey⟩

theorem updateTab (h : s.Billable key) {other : TabKey} {change : Tab → Tab}
    (hkey : ∀ t, (change t).key = t.key)
    (hchange : ∀ t ∈ s.tabs, t.key = key → other = key → 0 < (change t).config.billingInterval) :
    (s.updateTab other change).Billable key := by
  refine ⟨?_, h.proposed⟩
  intro t ht htab
  obtain ⟨t₀, ht₀, rfl⟩ := List.mem_map.mp ht
  split at htab
  · next hother =>
      rw [if_pos hother]
      rw [hkey] at htab
      exact hchange t₀ ht₀ htab (hother.symm.trans htab)
  · next hother =>
      rw [if_neg hother]
      exact h.set t₀ ht₀ htab

theorem approved (h : s.Billable key) {other : TabKey} :
    (s.updateTab other (Service.confirmed (s.pending? other))).Billable key := by
  refine h.updateTab (fun _ => rfl) ?_
  rintro t ht htab rfl
  unfold Service.confirmed
  cases hpending : s.pending? other with
  | none => exact h.set t ht htab
  | some u =>
      have hfound := List.find?_some hpending
      exact h.proposed u (List.mem_of_find?_eq_some hpending) (by simpa using hfound)

end Store.Billable

namespace Service.Request

variable {s : Store} {key : TabKey}

/-- Every request keeps the intervals of a tab positive. -/
theorem after_billable (r : Request) (s : Store) (h : s.Billable key) :
    (r.after s).Billable key := by
  cases hresult : (r.outcome s).result with
  | error failure =>
      rw [after_of_error hresult]
      exact h
  | ok reply =>
      obtain ⟨op, hread, heffect⟩ := effect_of_ok hresult
      generalize r.after s = s' at heffect
      cases heffect with
      | @tabCreated shopId form shop tab allowed opened owned =>
          have hform := Submission.interval_pos r.proper hread rfl
          have htab : 0 < tab.config.billingInterval := by
            rw [opened]
            exact hform
          exact (h.withTab htab).congr (by simp) (by simp)
      | @updateSubmitted other form tab allowed notClosed =>
          have hform := Submission.interval_pos r.proper hread rfl
          refine (h.stage (u := ⟨other, form.config.kept, form.emails, form.locationIds⟩) ?_).congr
            (by simp) (by simp)
          exact hform
      | @tabApproved other tab allowed notClosed =>
          have happroved : ((s.updateTab other (confirmed (s.pending? other))).unstage
              other).Billable key := h.approved.unstage
          exact happroved.congr (by simp) (by simp)
      | @tabClosed other tab allowed =>
          have hclosed : (s.updateTab other fun t => { t with status := .closed }).Billable key :=
            h.updateTab (fun _ => rfl) fun t ht htab _ => h.set t ht htab
          have hunstaged : ((s.updateTab other fun t => { t with status := .closed }).unstage
              other).Billable key := hclosed.unstage
          exact hunstaged.congr (by simp) (by simp)
      | billPaid dayOr allowed found => exact h.congr (by simp) (by simp)
      | orderAdded allowed applied =>
          obtain ⟨_, _, _, _, _, _, _, _, _, htabs, hpending⟩ := applied.selected rfl
          exact h.congr (by simpa) (by simpa)
      | orderRemoved allowed applied =>
          obtain ⟨_, _, _, _, _, _, _, _, _, htabs, hpending⟩ := applied.selected rfl
          exact h.congr (by simpa) (by simpa)
      | verificationListSet allowed notClosed counted => exact h.congr (by simp) (by simp)
      | tabShown allowed => exact h
      | tabsListed allowed => exact h

end Service.Request

theorem run_billable {s : Store} {key : TabKey} (hterms : s.Billable key)
    (history : List Service.Request) : (s.run history).Billable key :=
  Store.run_invariant (fun r s h => r.after_billable s h) hterms history

theorem Store.tab?_congr {s s' : Store} {key : TabKey} (h : s'.tabs = s.tabs) : s'.tab? key = s.tab? key := by
  rw [tab?, tab?, h]

theorem Sample.store_billable (key : TabKey) : Sample.store.Billable key := by
  have htabs : Sample.store.tabs = [] := by decide +kernel
  have hpending : Sample.store.pending = [] := by decide +kernel
  refine ⟨?_, ?_⟩
  · rw [htabs]
    simp
  · rw [hpending]
    simp

end ShopTabs
