import ShopTabs.Proofs.Service.Schema
/-!
What is put on record.  A call that fails changes nothing, and neither does one that only reads; every other
one adds a single entry at the end of the audit log, and what the entry says of the call is true.  So the
log of a history has one entry for each call that changed something, in the order of the calls.
-/

namespace ShopTabs

/-- What an operation is called in the audit log; one that only reads is not put there. -/
def Operation.action? : Operation → Option String
  | createTab .. => some "TAB_CREATED"
  | submitUpdate .. => some "TAB_UPDATE_SUBMITTED"
  | approveTab _ => some "TAB_APPROVED"
  | closeTab _ => some "TAB_CLOSED"
  | markBillPaid .. => some "TAB_BILL_PAID"
  | addOrder .. => some "TAB_ORDER_ADDED"
  | removeOrder .. => some "TAB_ORDER_REMOVED"
  | setVerificationList .. => some "TAB_VERIFICATION_LIST_SET"
  | showTab _ => none
  | listTabs _ => none

/-- A call that changed something: under which settings, by whom, what it was, what it answered, and the
store before and after it. -/
structure Mutation where
  env : Surroundings
  caller : Caller
  op : Operation
  reply : Reply
  before : Store
  after : Store

namespace Mutation

/-- The call wrote its order onto the bill of a number, which is an open bill of the tab, and the bill is
the one that it answered. -/
def OrdersOn (m : Mutation) (tab : TabKey) (billId : Int) : Prop :=
  (∃ b ∈ m.after.bills, b.id = billId ∧ b.tab = tab ∧ b.isPaid = false) ∧
    ∃ e : Booking, m.op.booking? m.env m.reply = some e ∧ e.tab = tab ∧ e.billId = billId ∧
      BooksAfter m.before m.after (some e)

/-- The call closed the bill of a number, a bill of the tab, and no other. -/
def Pays (m : Mutation) (tab : TabKey) (billId : Int) : Prop :=
  m.before.hasBill tab billId = true ∧
    ∃ day, m.after.bills = (m.before.updateBill tab billId fun b => b.closedOn day).bills

/-- The call added so many addresses to the verification list and dropped so many. -/
def ChangesList (m : Mutation) (tab : TabKey) (inserted deleted : Nat) : Prop :=
  inserted = ((m.after.emailsOf tab).toFinset \ (m.before.emailsOf tab).toFinset).card ∧
    deleted = ((m.before.emailsOf tab).toFinset \ (m.after.emailsOf tab).toFinset).card

end Mutation

/-- What the particulars of an event say of a call on a tab is true. -/
def Event.IsTrueOf (m : Mutation) (tab : TabKey) : Event → Prop
  | tabApproved applied => applied = true ↔ ∃ u ∈ m.before.pending, u.tab = tab
  | billPaid billId => m.Pays tab billId
  | orderAdded billId => m.OrdersOn tab billId
  | orderRemoved billId => m.OrdersOn tab billId
  | verificationListSet inserted deleted => m.ChangesList tab inserted deleted
  | _ => True

/-- An entry of the audit log records a call: it is newer than all others, names the caller, the tab and
the action, and tells the truth. -/
structure AuditEntry.Records (e : AuditEntry) (m : Mutation) : Prop where
  newest : ∀ old ∈ m.before.audit, old.id < e.id
  actorId : e.actorId = m.caller.principal.id
  ip : e.ip = m.caller.ip
  tab : m.op.target? m.reply = some e.tab
  action : m.op.action? = some e.event.name
  truth : e.event.IsTrueOf m e.tab

/-! ### One call -/

namespace Store

variable {s : Store} {key : TabKey}

@[simp] theorem withEmails_audit {emails : Option (List String)} :
    (s.withEmails key emails).audit = s.audit := by cases emails <;> rfl

@[simp] theorem withPlaces_audit {places : Option (List Int)} :
    (s.withPlaces key places).audit = s.audit := by cases places <;> rfl

/-- The entry for a call that has not touched the audit log before. -/
theorem records_audited {written : Store} {env : Surroundings} {caller : Caller} {op : Operation}
    {reply : Reply} {event : Event} (haudit : written.audit = s.audit)
    (htarget : op.target? reply = some key) (haction : op.action? = some event.name)
    (htruth : event.IsTrueOf ⟨env, caller, op, reply, s, written.audited caller key event⟩ key) :
    ∃ entry, (written.audited caller key event).audit = s.audit ++ [entry] ∧
      entry.Records ⟨env, caller, op, reply, s, written.audited caller key event⟩ := by
  refine ⟨_, by rw [audited, haudit], ?_⟩
  exact
    { newest := fun old hold => lt_nextId (List.mem_map_of_mem hold)
      actorId := rfl
      ip := rfl
      tab := htarget
      action := haction
      truth := htruth }

end Store

/-- What is booked is written onto an open bill of its tab. -/
theorem BooksAfter.ordersOn {env : Surroundings} {caller : Caller} {s s' : Store} {op : Operation}
    {reply : Reply} {e : Booking} (h : BooksAfter s s' (some e)) (hbooking : op.booking? env reply = some e) :
    Mutation.OrdersOn ⟨env, caller, op, reply, s, s'⟩ e.tab e.billId := by
  refine ⟨?_, e, hbooking, rfl, rfl, h⟩
  obtain ⟨b, hid, htab, hopen, ⟨hb, hbills⟩ | ⟨_, hbills⟩⟩ := h.exists_open_bill
  · exact ⟨b, hbills ▸ hb, hid, htab, hopen⟩
  · exact ⟨b, hbills ▸ List.mem_append_right _ List.mem_cons_self, hid, htab, hopen⟩

/-- An operation that only reads leaves the store as it is. -/
theorem Effect.eq_of_reads {env : Surroundings} {caller : Caller} {s s' : Store} {op : Operation}
    {reply : Reply} (h : Effect env caller s op reply s') (hreads : op.action? = none) : s' = s := by
  cases h with
  | tabShown => rfl
  | tabsListed => rfl
  | _ => cases hreads

/-- Any other one is put on record. -/
theorem Effect.recorded {env : Surroundings} {caller : Caller} {s s' : Store} {op : Operation}
    {reply : Reply} (h : Effect env caller s op reply s') (hacts : op.action?.isSome = true)
    (hemails : s.emails.Nodup) :
    ∃ entry, s'.audit = s.audit ++ [entry] ∧ entry.Records ⟨env, caller, op, reply, s, s'⟩ := by
  have hbooks := h.booksAfter
  cases h with
  | @tabCreated shopId form shop tab allowed opened owned =>
      refine Store.records_audited ?_ ?_ rfl trivial
      · rw [Store.withPlaces_audit, Store.withEmails_audit]
        rfl
      · rw [opened]
        rfl
  | updateSubmitted =>
      refine Store.records_audited ?_ rfl rfl trivial
      rw [Store.withPlaces_audit, Store.withEmails_audit]
      rfl
  | @tabApproved key tab allowed notClosed =>
      refine Store.records_audited rfl rfl rfl ?_
      show (s.pending? key).isSome = true ↔ _
      rw [Store.pending?, List.find?_isSome]
      simp
  | tabClosed => exact Store.records_audited rfl rfl rfl trivial
  | @billPaid key billId on day tab dayOr allowed found =>
      exact Store.records_audited rfl rfl rfl ⟨found, day, rfl⟩
  | @orderAdded key form on tab receipt allowed applied =>
      obtain ⟨_, _, _, hframe⟩ := applied.frame
      refine Store.records_audited (by rw [hframe]) rfl rfl ?_
      exact BooksAfter.ordersOn (e := ⟨key, receipt.result.billId, form, .add⟩) hbooks rfl
  | @orderRemoved key form on policy tab receipt allowed applied =>
      obtain ⟨_, _, _, hframe⟩ := applied.frame
      refine Store.records_audited (by rw [hframe]) rfl rfl ?_
      exact BooksAfter.ordersOn
        (e := ⟨key, receipt.result.billId, form, .remove (policy.getD env.settings.orderRemovalPolicy)⟩)
        hbooks rfl
  | @verificationListSet key form tab result allowed notClosed counted =>
      refine Store.records_audited (by simp) rfl rfl ?_
      have hkeys : (((s.withEmails key (some form.emails)).emailsOf key).toFinset) = form.emails.toFinset :=
        Membership.toFinset_keysOf_replace
      rw [counted]
      refine ⟨?_, ?_⟩
      · show _ = (((s.withEmails key (some form.emails)).emailsOf key).toFinset \ _).card
        rw [hkeys]
        exact Membership.length_missing
      · show _ = (_ \ ((s.withEmails key (some form.emails)).emailsOf key).toFinset).card
        rw [hkeys]
        exact Membership.length_surplus hemails
  | tabShown => cases hacts
  | tabsListed => cases hacts

/-! ### All calls of a history -/

namespace Service.Request

/-- The change that a request makes; nothing if it is refused or only reads. -/
def mutation? (r : Request) (s : Store) : Option Mutation :=
  match r.ask.read r.env.shortening, (r.outcome s).result with
  | .ok op, .ok reply =>
    if op.action?.isSome then some ⟨r.env, r.caller, op, reply, s, r.after s⟩ else none
  | _, _ => none

/-- A request adds the entry of the change that it makes, and nothing if it makes none. -/
theorem recorded (r : Request) {s : Store} (hemails : s.emails.Nodup) :
    ∃ entries, (r.after s).audit = s.audit ++ entries ∧
      List.Forall₂ (fun m (e : AuditEntry) => e.Records m) (r.mutation? s).toList entries := by
  cases hresult : (r.outcome s).result with
  | error failure =>
      have hnone : r.mutation? s = none := by
        unfold mutation?
        rw [hresult]
        split <;> simp_all
      refine ⟨[], ?_, ?_⟩
      · rw [after_of_error hresult, List.append_nil]
      · rw [hnone]
        exact .nil
  | ok reply =>
      obtain ⟨op, hread, heffect⟩ := effect_of_ok hresult
      by_cases hacts : op.action?.isSome = true
      · obtain ⟨entry, haudit, hrecords⟩ := heffect.recorded hacts hemails
        refine ⟨[entry], haudit, ?_⟩
        simp [mutation?, hread, hresult, hacts, hrecords]
      · refine ⟨[], ?_, ?_⟩
        · rw [heffect.eq_of_reads (by simpa using hacts), List.append_nil]
        · simp [mutation?, hread, hresult, hacts]

end Service.Request

/-- All changes that a history makes, in its order. -/
def mutations : Store → List Service.Request → List Mutation
  | _, [] => []
  | s, r :: rest => (r.mutation? s).toList ++ mutations (r.after s) rest

theorem mutations_append_singleton {s : Store} {history : List Service.Request} {r : Service.Request} :
    mutations s (history ++ [r]) = mutations s history ++ (r.mutation? (s.run history)).toList := by
  induction history generalizing s with
  | nil => simp [mutations]
  | cons first rest ih =>
      rw [List.cons_append, mutations, mutations, ih, List.append_assoc]
      rfl

theorem Store.nodup_emails_run {s : Store} (hs : s.emails.Nodup) (history : List Service.Request) :
    (s.run history).emails.Nodup := by
  refine Store.run_invariant (P := fun s => s.emails.Nodup) (fun r s hs => ?_) hs history
  rcases r.ask.perform_cases r.env r.caller s with ⟨_, hstore⟩ | ⟨op, reply, _, _, heffect⟩
  · show (r.ask.perform r.env r.caller s).store.emails.Nodup
    rw [hstore]
    exact hs
  · exact heffect.nodup_emails hs

theorem Store.recorded_run {s : Store} (hemails : s.emails.Nodup) (history : List Service.Request) :
    ∃ entries, (s.run history).audit = s.audit ++ entries ∧
      List.Forall₂ (fun m (e : AuditEntry) => e.Records m) (mutations s history) entries := by
  induction history using List.reverseRecOn with
  | nil => exact ⟨[], (List.append_nil _).symm, .nil⟩
  | append_singleton rest r ih =>
      obtain ⟨entries, haudit, hrecords⟩ := ih
      obtain ⟨more, hafter, hnew⟩ := r.recorded (Store.nodup_emails_run hemails rest)
      refine ⟨entries ++ more, ?_, ?_⟩
      · rw [Store.run_append_singleton, hafter, haudit, List.append_assoc]
      · rw [mutations_append_singleton]
        exact List.rel_append hrecords hnew

/-- Whatever is asked for: a call that fails, for whatever reason, leaves every table as it is, and so does
one that only reads.  Any other call adds a single entry to the audit log, which records it truly.  Over a
history the log grows by one such entry for each of those calls, in their order. -/
theorem calls_on_record (env : Surroundings) (caller : Caller) (ask : Submission) (s : Store) :
    (∀ failure, (ask.perform env caller s).result = .error failure →
      (ask.perform env caller s).store = s) ∧
    (∀ op reply, ask.read env.shortening = .ok op → (ask.perform env caller s).result = .ok reply →
      (op.action? = none → (ask.perform env caller s).store = s) ∧
      (op.action?.isSome = true → s.emails.Nodup →
        ∃ entry, (ask.perform env caller s).store.audit = s.audit ++ [entry] ∧
          entry.Records ⟨env, caller, op, reply, s, (ask.perform env caller s).store⟩)) ∧
    ∀ history, s.emails.Nodup →
      ∃ entries, (s.run history).audit = s.audit ++ entries ∧
        List.Forall₂ (fun m (e : AuditEntry) => e.Records m) (mutations s history) entries := by
  refine ⟨fun _ => Submission.perform_eq_error, ?_, fun history hemails => s.recorded_run hemails history⟩
  intro op reply hread hresult
  obtain ⟨op', s', hread', hattempt, hstore⟩ := Submission.perform_eq_ok.mp hresult
  rw [hread, Except.ok.injEq] at hread'
  subst hread'
  rw [hstore]
  have heffect := Operation.attempt_effect hattempt
  exact ⟨heffect.eq_of_reads, heffect.recorded⟩

/-- A removal that is refused leaves no trace of the bill that it opened.  An order and the payment of its
bill are put on record, and so is the tab before them. -/
theorem calls_on_record_sample :
    let opened := Sample.store.run [Sample.openTab 7]
    let history := [Sample.openTab 7, Sample.takeBack .reject 5, Sample.order 5, Sample.pay 1 6]
    (Sample.takeBack .reject 5).after opened = opened ∧
      ∃ entries, (Sample.store.run history).audit = Sample.store.audit ++ entries ∧
        List.Forall₂ (fun m (e : AuditEntry) => e.Records m) (mutations Sample.store history) entries ∧
        (Sample.store.run history).audit.map (·.event) = [.tabCreated, .orderAdded 1, .billPaid 1] := by
  intro opened history
  have hcalls := fun r : Service.Request => calls_on_record r.env r.caller r.ask
  have hrefused : ((Sample.takeBack .reject 5).outcome opened).result.toOption.isNone = true := by
    decide +kernel
  constructor
  · cases hresult : ((Sample.takeBack .reject 5).outcome opened).result with
    | error failure => exact (hcalls (Sample.takeBack .reject 5) opened).1 failure hresult
    | ok reply =>
        rw [hresult] at hrefused
        cases hrefused
  · obtain ⟨entries, haudit, hrecords⟩ :=
      (hcalls (Sample.order 5) Sample.store).2.2 history (by decide +kernel)
    exact ⟨entries, haudit, hrecords, by decide +kernel⟩

end ShopTabs
