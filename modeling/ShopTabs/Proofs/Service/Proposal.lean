import ShopTabs.Proofs.Form.Settings
import ShopTabs.Proofs.Service.Life
/-!
How settings are proposed and approved.  The settings of a tab are those with which it was opened, or those
that were approved last; what is proposed for it is what was submitted last, as a whole, and its lists are
those that were given last.  Approval is never in the way of itself: what a form submits can be approved.
-/

namespace ShopTabs

/-- The milestone comes without a form, or its form was read from data. -/
def Milestone.IsRead : Milestone → Prop
  | opened form => ∃ how data, Form.NewTab.read how data = .ok form
  | proposed form => ∃ how data, Form.Revision.read how data = .ok form
  | approved => True
  | closed => True
  | listed form => ∃ data, Form.EmailList.read data = .ok form

/-- Forms come as data. -/
theorem Submission.isRead_of_read {how : Decimal.Shortening} {ask : Submission} {op : Operation}
    {m : Milestone} (hproper : ask.isProper = true) (hread : ask.read how = .ok op)
    (h : op.milestone? = some m) : m.IsRead := by
  cases ask with
  | plain op' =>
      cases hread
      cases op with
      | createTab | submitUpdate | setVerificationList => cases hproper
      | approveTab | closeTab =>
          cases h
          trivial
      | _ => cases h
  | createTab shopId data | submitUpdate tab data =>
      simp only [read, bind, Except.bind] at hread
      split at hread
      · cases hread
      · next form hform =>
          cases hread
          cases h
          exact ⟨how, data, hform⟩
  | setVerificationList tab data =>
      simp only [read, bind, Except.bind] at hread
      split at hread
      · cases hread
      · next form hform =>
          cases hread
          cases h
          exact ⟨data, hform⟩
  | _ =>
      simp only [read, bind, Except.bind] at hread
      split at hread
      · cases hread
      · cases hread
        cases h

theorem Service.Request.isRead_of_milestone {r : Service.Request} {key : TabKey} {s : Store}
    {m : Milestone} (h : r.milestone? key s = some m) : m.IsRead := by
  rw [milestone?] at h
  split at h
  · next op reply hread hresult =>
      rw [Operation.milestoneOf?] at h
      split at h
      · exact Submission.isRead_of_read r.proper hread h
      · cases h
  · cases h

theorem isRead_of_mem_lifeOf {key : TabKey} {s : Store} {history : List Service.Request} {m : Milestone}
    (hm : m ∈ lifeOf key s history) : m.IsRead := by
  induction history generalizing s with
  | nil => cases hm
  | cons r rest ih =>
      rcases List.mem_append.mp hm with hlater | hfirst
      · exact ih hlater
      · exact Service.Request.isRead_of_milestone (Option.mem_toList.mp hfirst)

namespace Life

variable {life : Life}

/-- What is proposed came with a form. -/
theorem isSubmitted_of_proposal (hread : ∀ m ∈ life, m.IsRead) {form : Form.Revision}
    (h : life.proposal? = some form) : Form.IsSubmitted form.config := by
  induction life with
  | nil => cases h
  | cons m earlier ih =>
      obtain ⟨hm, hearlier⟩ := List.forall_mem_cons.mp hread
      cases m with
      | proposed =>
          cases h
          obtain ⟨_, _, hform⟩ := hm
          exact Form.Revision.isSubmitted hform
      | listed => exact ih hearlier h
      | opened | approved | closed => cases h

/-- So did the settings in force. -/
theorem isSubmitted_of_settings (hread : ∀ m ∈ life, m.IsRead) {c : SubmittedConfig}
    (h : life.settings? = some c) : Form.IsSubmitted c := by
  induction life with
  | nil => cases h
  | cons m earlier ih =>
      obtain ⟨hm, hearlier⟩ := List.forall_mem_cons.mp hread
      cases m with
      | opened form =>
          cases h
          obtain ⟨_, _, hform⟩ := hm
          exact Form.NewTab.isSubmitted hform
      | approved =>
          rw [settings?] at h
          split at h
          · next form hproposal =>
              cases h
              exact isSubmitted_of_proposal hearlier hproposal
          · exact ih hearlier h
      | proposed | closed | listed => exact ih hearlier h

/-- The addresses of a verification list are in their normal form. -/
theorem emails_normal (hread : ∀ m ∈ life, m.IsRead) {a : String} (ha : a ∈ life.emails) :
    Form.IsNormalEmail a := by
  induction life with
  | nil => cases ha
  | cons m earlier ih =>
      obtain ⟨hm, hearlier⟩ := List.forall_mem_cons.mp hread
      cases m with
      | opened form =>
          obtain ⟨_, _, hform⟩ := hm
          exact Form.NewTab.emails_normal hform a ha
      | proposed form =>
          obtain ⟨_, _, hform⟩ := hm
          rw [emails] at ha
          cases hemails : form.emails with
          | none => exact ih hearlier (by simpa [hemails] using ha)
          | some given =>
              rw [hemails, Option.getD_some] at ha
              exact Form.Revision.emails_normal hform given hemails a ha
      | listed form =>
          obtain ⟨data, hform⟩ := hm
          exact Form.EmailList.emails_normal hform a ha
      | approved | closed => exact ih hearlier ha

end Life

namespace Store

variable {s : Store} {key : TabKey}

/-- The settings of a tab are those of its life. -/
theorem settings_run (hnew : s.LacksTab key) (history : List Service.Request) :
    List.Forall₂ (fun (t : Tab) c => t.config.Keeps c) ((s.run history).rowsOf key).tabs
      (lifeOf key s history).settings?.toList := by
  have htabs := (leadsTo_run hnew history).tabs
  cases hsettings : (lifeOf key s history).settings? with
  | none =>
      rw [hsettings, Option.map_none, Option.toList_none, List.map_eq_nil_iff] at htabs
      rw [htabs]
      exact .nil
  | some c =>
      have hkeeps := (Life.isSubmitted_of_settings (fun _ => isRead_of_mem_lifeOf) hsettings).keeps
      rw [hsettings, Option.map_some, Option.toList_some, List.map_eq_singleton_iff] at htabs
      obtain ⟨t, ht, hconfig⟩ := htabs
      rw [ht]
      exact .cons (hconfig ▸ hkeeps) .nil

/-- What is proposed for a tab is what its life leaves to approve. -/
theorem proposal_run (hnew : s.LacksTab key) (history : List Service.Request) :
    List.Forall₂ (fun (u : PendingUpdate) (form : Form.Revision) => u.config.Keeps form.config ∧
      u.emails = form.emails ∧ u.locationIds = form.locationIds) ((s.run history).rowsOf key).pending
      (lifeOf key s history).proposal?.toList := by
  rw [(leadsTo_run hnew history).pending]
  cases hproposal : (lifeOf key s history).proposal? with
  | none => exact .nil
  | some form =>
      have hkeeps := (Life.isSubmitted_of_proposal (fun _ => isRead_of_mem_lifeOf) hproposal).keeps
      exact .cons ⟨hkeeps, rfl, rfl⟩ .nil

/-- What is proposed for a tab fits it. -/
theorem fitsTab_run (hnew : s.LacksTab key) (history : List Service.Request) :
    ((s.run history).pending? key).all (·.config.fitsTab) = true := by
  rw [pending?_eq_head?, (leadsTo_run hnew history).pending]
  cases hproposal : (lifeOf key s history).proposal? with
  | none => rfl
  | some form => exact (Life.isSubmitted_of_proposal (fun _ => isRead_of_mem_lifeOf) hproposal).fitsTab

end Store

/-- Approval succeeds where it is allowed, the tab is not closed and what is proposed fits it. -/
theorem Service.approveTab_of_fits {env : Surroundings} {caller : Caller} {key : TabKey} {s : Store}
    {tab : Tab} (hallowed : authorizeTab env caller key .approve s = .ok tab)
    (hopen : tab.status ≠ .closed) (hfits : (s.pending? key).all (·.config.fitsTab) = true)
    (hknown : caller.IsKnown s) :
    approveTab env caller key s = .ok (((s.updateTab key (confirmed (s.pending? key))).unstage
      key).audited caller key (.tabApproved (s.pending? key).isSome)) := by
  simp only [approveTab, bind_eq_ok, ensureNotClosed_eq_ok, ensure_eq_ok, record_eq_ok, exists_const]
  exact ⟨tab, hallowed, hopen, hfits, hknown, trivial⟩

/-- A request for approval that nothing stands in the way of is granted, and the tab is confirmed. -/
theorem Service.Request.approved {r : Request} {key : TabKey} {s : Store} {tab : Tab}
    (hasked : r.ask = .plain (.approveTab key))
    (hallowed : authorizeTab r.env r.caller key .approve s = .ok tab) (hopen : tab.status ≠ .closed)
    (hfits : (s.pending? key).all (·.config.fitsTab) = true) (hknown : r.caller.IsKnown s) :
    (r.outcome s).result = .ok .done ∧
      (r.after s).tab? key = some (confirmed (s.pending? key) tab) := by
  obtain ⟨_, _, hfound, _⟩ := authorizeTab_eq_ok.mp hallowed
  have hattempt : (Operation.approveTab key).attempt r.env r.caller s = .ok (.done,
      ((s.updateTab key (confirmed (s.pending? key))).unstage key).audited r.caller key
        (.tabApproved (s.pending? key).isSome)) := by
    simp only [Operation.attempt, approveTab_of_fits hallowed hopen hfits hknown]
    rfl
  have hperform : r.outcome s = ⟨.ok .done,
      ((s.updateTab key (confirmed (s.pending? key))).unstage key).audited r.caller key
        (.tabApproved (s.pending? key).isSome)⟩ := by
    rw [outcome, hasked, Submission.perform_of_read rfl, Operation.perform, hattempt]
    rfl
  refine ⟨by rw [hperform], ?_⟩
  rw [after, hperform]
  have hchanged : (s.updateTab key (confirmed (s.pending? key))).tab? key =
      (s.tab? key).map (confirmed (s.pending? key)) := Store.tab?_updateTab fun _ => rfl
  rw [hfound] at hchanged
  exact hchanged

/-- What is kept of a tab that is opened in the course of a history follows from its life.  Its settings are
those with which it was opened, or those that were approved last, every field as it was submitted, of the
daily times the time alone and of the amount the cents.  What waits for approval is what was submitted last,
in all its parts, unless it was approved or the tab was closed.  Its lists hold exactly what was given last.
And approval by someone known who may approve succeeds while the tab is not closed. -/
theorem tab_follows_life {s : Store} {key : TabKey} (hnew : s.LacksTab key)
    (history : List Service.Request) :
    let reached := s.run history
    let life := lifeOf key s history
    List.Forall₂ (fun (t : Tab) c => t.config.Keeps c) (reached.rowsOf key).tabs
      life.settings?.toList ∧
    List.Forall₂ (fun (u : PendingUpdate) (form : Form.Revision) => u.config.Keeps form.config ∧
      u.emails = form.emails ∧ u.locationIds = form.locationIds) (reached.rowsOf key).pending
      life.proposal?.toList ∧
    ((reached.emailsOf key).Nodup ∧ (∀ a, a ∈ reached.emailsOf key ↔ a ∈ life.emails) ∧
      ∀ a ∈ reached.emailsOf key, Form.IsNormalEmail a) ∧
    ((reached.placesOf key).Nodup ∧ ∀ id, id ∈ reached.placesOf key ↔ id ∈ life.places) ∧
    ∀ (r : Service.Request) (tab : Tab), r.ask = .plain (.approveTab key) →
      Service.authorizeTab r.env r.caller key .approve reached = .ok tab → tab.status ≠ .closed →
      r.caller.IsKnown reached →
      (r.outcome reached).result = .ok .done ∧
        ∃ t, (r.after reached).tab? key = some t ∧ t.status = .confirmed := by
  intro reached life
  have hlife : life.LeadsTo key (reached.rowsOf key) := Store.leadsTo_run hnew history
  refine ⟨Store.settings_run hnew history, Store.proposal_run hnew history, ?_, ?_, ?_⟩
  · refine ⟨hlife.emails.nodup, hlife.emails.mem_iff, ?_⟩
    intro a ha
    exact Life.emails_normal (fun _ => isRead_of_mem_lifeOf) ((hlife.emails.mem_iff a).mp ha)
  · exact ⟨hlife.places.nodup, hlife.places.mem_iff⟩
  · intro r tab hasked hallowed hopen hknown
    obtain ⟨hresult, hafter⟩ :=
      r.approved hasked hallowed hopen (Store.fitsTab_run hnew history) hknown
    exact ⟨hresult, _, hafter, rfl⟩

namespace Sample

/-- Submits a revision of that year's tab with another billing interval. -/
def revise (interval : Int) : Service.Request := request (.submitUpdate tab (tabForm interval))

def approve : Service.Request := request (.plain (.approveTab tab))

/-- A tab whose daily times are those of a zone two hours ahead. -/
def eastern : Form.NewTab where
  config :=
    { paymentMethod := .inPerson
      organization := "Chess club"
      displayName := "Chess evenings"
      startDate := january 5
      endDate := january 30
      dailyStart := ⟨oclock 8, some 7200⟩
      dailyEnd := ⟨oclock 17, some 7200⟩
      activeDays := 31
      orderLimit := ⟨false, 2000, -2⟩
      verificationMethod := .voucher
      paymentDetails := ""
      billingInterval := 7 }
  emails := []
  locationIds := []
  ownerId := none

/-- Such a tab with a limit that is written to thirty places. -/
def meticulous : Form.NewTab :=
  { eastern with config := { eastern.config with orderLimit := ⟨false, 20 * pow10 30 + 1, -30⟩ } }

end Sample

/-- Of two revisions the second is approved: the bills of the tab are then of three weeks. -/
theorem tab_follows_life_sample :
    let history := [Sample.openTab 7, Sample.revise 14, Sample.order 5, Sample.revise 21]
    (Sample.approve.outcome (Sample.store.run history)).result = .ok .done ∧
      ∀ t ∈ ((Sample.store.run (history ++ [Sample.approve])).rowsOf Sample.tab).tabs,
        t.config.billingInterval = 21 := by
  intro history
  have hnew : Sample.store.LacksTab Sample.tab := by constructor <;> decide +kernel
  obtain ⟨_, _, _, _, happroved⟩ := tab_follows_life hnew history
  obtain ⟨hsettings, _⟩ := tab_follows_life hnew (history ++ [Sample.approve])
  have hallowed : Service.authorizeTab Sample.approve.env Sample.approve.caller Sample.tab .approve
      (Sample.store.run history) = .ok (Sample.openedTab 7) :=
    Service.authorizeTab_eq_ok.mpr ⟨by decide, by decide, by decide +kernel, ⟨1, 2, "Campus Cafe"⟩,
      by decide +kernel, by decide +kernel⟩
  refine ⟨(happroved Sample.approve _ rfl hallowed (by decide) ⟨by decide, by decide +kernel⟩).1, ?_⟩
  intro t ht
  have hinterval : (lifeOf Sample.tab Sample.store (history ++ [Sample.approve])).settings?.map
      (·.billingInterval) = some 21 := by decide +kernel
  obtain ⟨c, hc, hinterval⟩ := Option.map_eq_some_iff.mp hinterval
  rw [hc, Option.toList_some] at hsettings
  generalize ((Sample.store.run (history ++ [Sample.approve])).rowsOf Sample.tab).tabs = rows at *
  rcases hsettings with _ | ⟨hkeeps, ⟨⟩⟩
  rw [List.mem_singleton.mp ht, hkeeps.billingInterval]
  exact hinterval

/-- The offset of a daily time is lost when a tab is opened, and so is the last of thirty places of an
amount. -/
theorem offset_and_digit_lost :
    let history := fun form : Form.NewTab => [Sample.request (.createTab 1 form.toJson)]
    let opened := fun form => ((Sample.store.run (history form)).rowsOf Sample.tab).tabs
    let given := fun form => (lifeOf Sample.tab Sample.store (history form)).settings?.toList
    (¬ List.Forall₂ (fun (t : Tab) (c : SubmittedConfig) =>
      (⟨t.config.dailyStart, none⟩ : OffsetTime) = c.dailyStart) (opened Sample.eastern)
        (given Sample.eastern)) ∧
    ¬ List.Forall₂ (fun (t : Tab) (c : SubmittedConfig) =>
      ∃ cents : Nat, t.config.orderLimit = .amount false cents ∧ (cents / 100 : ℚ) = c.orderLimit.value)
        (opened Sample.meticulous) (given Sample.meticulous) := by
  intro history opened given
  constructor
  · intro h
    have htimes : (opened Sample.eastern).map (·.config.dailyStart) = [Sample.oclock 8] := by
      decide +kernel
    have hgiven : given Sample.eastern = [Sample.eastern.config] := by decide +kernel
    rw [hgiven] at h
    generalize opened Sample.eastern = rows at *
    rcases h with _ | ⟨hsame, ⟨⟩⟩
    rw [List.map_singleton, List.singleton_inj] at htimes
    rw [htimes] at hsame
    exact absurd hsame (by decide)
  · intro h
    have hlimits : (opened Sample.meticulous).map (·.config.orderLimit) = [.amount false 2000] := by
      decide +kernel
    have hgiven : given Sample.meticulous = [Sample.meticulous.config] := by decide +kernel
    rw [hgiven] at h
    generalize opened Sample.meticulous = rows at *
    rcases h with _ | ⟨⟨cents, hcents, hvalue⟩, ⟨⟩⟩
    rw [List.map_singleton, List.singleton_inj] at hlimits
    rw [hlimits] at hcents
    cases hcents
    have hexact : Sample.meticulous.config.orderLimit.value = 20 + 1 / 10 ^ 30 := by
      norm_num [Sample.meticulous, Decimal.value, Decimal.size, pow10]
    rw [hexact] at hvalue
    norm_num at hvalue

end ShopTabs
