import ShopTabs.Proofs.Billing.Current
import ShopTabs.Proofs.Calendar.Summer
import ShopTabs.Proofs.Http.Sliding
/-!
The day on which bills are written.  What is asked for over HTTP never names it: orders and payments are
then written on the local day of their moment.  As local days never run backwards, neither do the days of
what is posted, as long as the clock of the service does not.
-/

namespace ShopTabs

/-! ### Today -/

namespace Surroundings

variable {env later : Surroundings} {zone : Zone} {d e : Day}

theorem today_eq_ok (h : Zone.ofName env.settings.billingTimezone = .ok zone) :
    env.today = .ok d ↔ zone.dayAt? env.now = some d := by
  rw [today, h]
  exact orFail_eq_ok

/-- There is a billing day exactly in the known zones and within the calendar. -/
theorem exists_today : (∃ d, env.today = .ok d) ↔
    ∃ zone, Zone.ofName env.settings.billingTimezone = .ok zone ∧ zone.IsDated env.now := by
  constructor
  · rintro ⟨d, hd⟩
    cases hzone : Zone.ofName env.settings.billingTimezone with
    | error fault =>
        rw [today, hzone] at hd
        cases hd
    | ok zone => exact ⟨zone, rfl, Zone.isDated_iff.mpr ⟨d, (today_eq_ok hzone).mp hd⟩⟩
  · rintro ⟨zone, hzone, hdated⟩
    obtain ⟨d, hd⟩ := Zone.isDated_iff.mp hdated
    exact ⟨d, (today_eq_ok hzone).mpr hd⟩

/-- The billing day of a later moment is none before. -/
theorem today_mono (hzone : env.settings.billingTimezone = later.settings.billingTimezone)
    (hle : env.now ≤ later.now) (hd : env.today = .ok d) (he : later.today = .ok e) : d ≤ e := by
  obtain ⟨zone, hknown, hdated⟩ := exists_today.mp ⟨e, he⟩
  have hd' := (today_eq_ok (hzone ▸ hknown)).mp hd
  have he' := (today_eq_ok hknown).mp he
  rw [Day.le_def, Zone.dayAt?_eq_some.mp hd', Zone.dayAt?_eq_some.mp he']
  exact Zone.dayNumberOf_mono hknown hdated hle

/-- What is posted without a day is posted on the billing day. -/
theorem today_of_post {key tab : TabKey} {on : Option Day} {posting : Day → Posting} {p : Posting}
    (h : on.isNone = true) (hday : ∀ d, (posting d).day = d) (hposting : env.post? key tab on posting = some p) :
    env.today = .ok p.day := by
  obtain ⟨_, d, htoday, rfl⟩ := post?_eq_some.mp hposting
  rw [Option.isNone_iff_eq_none.mp h] at htoday
  rw [hday]
  exact htoday

end Surroundings

/-! ### Operations that name no day -/

namespace Operation

/-- The operation does not say on which day a bill is to be written. -/
def isUndated : Operation → Bool
  | markBillPaid _ _ on => on.isNone
  | addOrder _ _ on => on.isNone
  | removeOrder _ _ on _ => on.isNone
  | _ => true

/-- The same operation, on a day. -/
def onDay (day : Day) : Operation → Operation
  | markBillPaid tab billId _ => markBillPaid tab billId (some day)
  | addOrder tab form _ => addOrder tab form (some day)
  | removeOrder tab form _ policy => removeOrder tab form (some day) policy
  | op => op

variable {env : Surroundings} {op : Operation} {day : Day}

/-- Where no day is named, the operation comes to what it comes to on the billing day. -/
theorem perform_onDay (h : op.isUndated = true) (htoday : env.today = .ok day) (caller : Caller) (s : Store) :
    op.perform env caller s = (op.onDay day).perform env caller s := by
  have hday : env.dayOr none = env.dayOr (some day) := htoday
  cases op with
  | markBillPaid tab billId on =>
      rw [Option.isNone_iff_eq_none.mp h]
      simp only [perform, onDay, attempt, Service.markBillPaid, hday]
  | addOrder tab form on =>
      rw [Option.isNone_iff_eq_none.mp h]
      simp only [perform, onDay, attempt, Service.order, Ledger.apply, hday]
  | removeOrder tab form on policy =>
      rw [Option.isNone_iff_eq_none.mp h]
      simp only [perform, onDay, attempt, Service.order, Ledger.apply, hday]
  | _ => rfl

/-- What it posts, it posts on the billing day. -/
theorem today_of_posting (h : op.isUndated = true) {key : TabKey} {reply : Reply} {p : Posting}
    (hposting : op.posting? env key reply = some p) : env.today = .ok p.day := by
  unfold posting? at hposting
  split at hposting
  · exact Surroundings.today_of_post h (fun _ => rfl) hposting
  · exact Surroundings.today_of_post h (fun _ => rfl) hposting
  · exact Surroundings.today_of_post h (fun _ => rfl) hposting
  · cases hposting

/-- What an operation leaves of a tab's bills follows from what it posts; a refused one posts nothing. -/
theorem billsAfter (hblind : env.blindReads = 0) (caller : Caller) (s : Store) (key : TabKey) :
    BillsAfter key s ((op.perform env caller s).result.toOption.bind (op.posting? env key))
      ((op.perform env caller s).store.billsOf key) := by
  rcases Submission.perform_cases env caller (.plain op) s with
    ⟨⟨failure, hresult⟩, hstore⟩ | ⟨_, reply, hread, hresult, heffect⟩
  · rw [Submission.perform_of_read rfl] at hresult hstore
    rw [hresult, hstore]
    exact .untouched
  · cases hread
    rw [Submission.perform_of_read rfl] at hresult heffect
    rw [hresult]
    exact heffect.billsAfter hblind key

end Operation

/-! ### Requests to the service -/

/-- What is asked for does not say on which day a bill is to be written. -/
def Submission.isUndated : Submission → Bool
  | addOrder _ _ on => on.isNone
  | removeOrder _ _ on _ => on.isNone
  | plain op => op.isUndated
  | _ => true

theorem Submission.isUndated_of_read {how : Decimal.Shortening} {ask : Submission} {op : Operation}
    (h : ask.read how = .ok op) : op.isUndated = ask.isUndated := by
  cases ask with
  | plain op' =>
      cases h
      rfl
  | _ =>
      simp only [read, bind, Except.bind] at h
      split at h
      · cases h
      · cases h
        rfl

section History

variable {r : Service.Request} {history : List Service.Request} {s : Store} {key : TabKey} {p : Posting}

theorem Service.Request.today_of_posting (h : r.ask.isUndated = true) (hposting : r.posting? key s = some p) :
    r.env.today = .ok p.day := by
  unfold posting? at hposting
  split at hposting
  · next op reply hread _ =>
      rw [← Submission.isUndated_of_read hread] at h
      exact op.today_of_posting h hposting
  · cases hposting

theorem today_of_mem_postings (h : ∀ r ∈ history, r.ask.isUndated = true) (hp : p ∈ postings key s history) :
    ∃ r ∈ history, r.env.today = .ok p.day := by
  induction history generalizing s with
  | nil => cases hp
  | cons r rest ih =>
      rcases List.mem_append.mp hp with hfirst | hlater
      · have hposting := Option.mem_toList.mp hfirst
        exact ⟨r, List.mem_cons_self, r.today_of_posting (h r List.mem_cons_self) hposting⟩
      · obtain ⟨r', hr', htoday⟩ := ih (fun r hr => h r (List.mem_cons_of_mem _ hr)) hlater
        exact ⟨r', List.mem_cons_of_mem r hr', htoday⟩

/-- Requests that name no day post in the order of their days, if their clock does not go back. -/
theorem daysAscend_of_undated {name : String}
    (h : ∀ r ∈ history, r.settings.billingTimezone = name ∧ r.ask.isUndated = true)
    (hclock : history.Pairwise fun r q => r.now ≤ q.now) : DaysAscend key s history := by
  induction history generalizing s with
  | nil => exact List.Pairwise.nil
  | cons r rest ih =>
      obtain ⟨hfirst, hrest⟩ := List.pairwise_cons.mp hclock
      have hlater : ∀ q ∈ rest, q.settings.billingTimezone = name ∧ q.ask.isUndated = true :=
        fun q hq => h q (List.mem_cons_of_mem r hq)
      obtain ⟨hzone, hundated⟩ := h r List.mem_cons_self
      refine List.pairwise_append.mpr ⟨?_, ih hlater hrest, ?_⟩
      · cases r.posting? key s with
        | none => exact List.Pairwise.nil
        | some p => exact List.pairwise_singleton _ p
      · intro p hp q hq
        have hd := r.today_of_posting hundated (Option.mem_toList.mp hp)
        obtain ⟨r', hr', he⟩ := today_of_mem_postings (fun q hq => (hlater q hq).2) hq
        exact Surroundings.today_mono (hzone.trans (hlater r' hr').1.symm) (hfirst r' hr') hd he

end History

/-! ### Requests over HTTP -/

namespace Http

variable {env : Surroundings} {request : Request} {principal : Option Principal} {s : Store}

section Endpoint

variable {α β : Type} {op : Operation}

theorem isUndated_of_map {make : α → Operation} (hmake : ∀ a, (make a).isUndated = true)
    {x : Form.Verdict α} (h : make <$> x = .accepted op) : op.isUndated = true := by
  obtain ⟨a, _, rfl⟩ := Form.Verdict.map_eq_accepted.mp h
  exact hmake a

theorem isUndated_of_seq {make : α → β → Operation} (hmake : ∀ a b, (make a b).isUndated = true)
    {x : Form.Verdict α} {y : Form.Verdict β} (h : make <$> x <*> y = .accepted op) :
    op.isUndated = true := by
  obtain ⟨g, b, hmade, _, rfl⟩ := Form.Verdict.seq_eq_accepted.mp h
  obtain ⟨a, _, rfl⟩ := Form.Verdict.map_eq_accepted.mp hmade
  exact hmake a b

theorem isUndated_of_body {make : α → β → Operation} (hmake : ∀ a b, (make a b).isUndated = true)
    {x : Form.Verdict α} {y : Except Form.Refusal (Form.Verdict β)}
    (h : (do return some (make <$> x <*> (← y))) = Except.ok (some (Form.Verdict.accepted op))) :
    op.isUndated = true := by
  cases y with
  | error refusal => cases h
  | ok form => exact isUndated_of_seq hmake (Option.some.inj (Except.ok.inj h))

/-- No endpoint stands for an operation that names a day. -/
theorem Endpoint.isUndated_of_operation {how : Decimal.Shortening} {e : Endpoint}
    {parameters : List (String × String)} {body : Option Json}
    (h : e.operation how parameters body = .ok (some (.accepted op))) :
    op.isUndated = true := by
  cases e with
  | createTab | submitUpdate | setVerificationList | addOrder | removeOrder =>
      exact isUndated_of_body (fun _ _ => rfl) h
  | listTabs | showTab | approveTab | closeTab =>
      exact isUndated_of_map (fun _ => rfl) (Option.some.inj (Except.ok.inj h))
  | closeBill => exact isUndated_of_seq (fun _ _ => rfl) (Option.some.inj (Except.ok.inj h))
  | health | page => cases h

end Endpoint

/-- The operation that a request stands for, if it leads to one and nothing is found wrong with it. -/
def Request.operation? (request : Request) (how : Decimal.Shortening) : Option Operation :=
  match destination request.method (pathOf request.target) with
  | .endpoint e parameters =>
    match if e.takesBody then request.content else .ok none with
    | .error _ => none
    | .ok body => match e.operation how parameters body with
      | .ok (some (.accepted op)) => some op
      | _ => none
  | _ => none

theorem Request.isUndated_of_operation? {how : Decimal.Shortening} {op : Operation}
    (h : request.operation? how = some op) : op.isUndated = true := by
  unfold operation? at h
  split at h
  · split at h
    · cases h
    · split at h
      · next hoperation =>
          cases h
          exact Endpoint.isUndated_of_operation hoperation
      · cases h
  · cases h

/-- The operation that is carried out, with its outcome; it takes an active person. -/
def carriedOut? (env : Surroundings) (request : Request) (principal : Option Principal) (s : Store) :
    Option (Operation × Outcome Reply) := do
  let p ← principal.filter (·.active)
  let op ← request.operation? env.shortening
  return (op, op.perform env ⟨p, some request.clientAddress⟩ s)

theorem carriedOut?_eq_some {op : Operation} {outcome : Outcome Reply} :
    carriedOut? env request principal s = some (op, outcome) ↔
      ∃ p, principal.filter (·.active) = some p ∧ request.operation? env.shortening = some op ∧
        op.perform env ⟨p, some request.clientAddress⟩ s = outcome := by
  simp only [carriedOut?, Option.bind_eq_bind, Option.bind_eq_some_iff, Option.pure_def, Option.some.injEq,
    Prod.mk.injEq]
  constructor
  · rintro ⟨p, hp, _, hop, rfl, rfl⟩
    exact ⟨p, hp, hop, rfl⟩
  · rintro ⟨p, hp, hop, rfl⟩
    exact ⟨p, hp, op, hop, rfl, rfl⟩

/-- What a request leaves of the store is what its operation leaves of it. -/
theorem dispatch_store : (dispatch env request principal s).2 =
    ((carriedOut? env request principal s).map (·.2.store)).getD s := by
  rw [dispatch, carriedOut?, Request.operation?]
  cases destination request.method (pathOf request.target) with
  | endpoint e parameters =>
      by_cases hhealth : e = .health
      · subst hhealth
        cases principal.filter (·.active) <;> rfl
      by_cases hpage : e = .page
      · subst hpage
        cases principal.filter (·.active) <;> rfl
      simp only [atEndpoint, if_neg hhealth, if_neg hpage]
      cases (if e.takesBody then request.content else .ok none) with
      | error response => cases principal.filter (·.active) <;> rfl
      | ok body =>
          cases principal with
          | none => rfl
          | some p =>
              cases hactive : p.active with
              | false => simp [Option.filter, hactive]
              | true =>
                  simp only [Option.filter, hactive]
                  rcases e.operation env.shortening parameters body with refusal | _ | op | findings
                  · rfl
                  · rfl
                  · rfl
                  · rfl
  | _ => cases principal.filter (·.active) <;> rfl

end Http

/-- A session that is renewed writes only to the sessions. -/
theorem Store.signIn_eq_ok {s s' : Store} {env : Surroundings} {cookie : Option String}
    {principal : Option Principal} (h : s.signIn env cookie = .ok (principal, s')) :
    ∃ sessions, s' = { s with sessions := sessions } := by
  unfold signIn at h
  split at h
  · cases h
    exact ⟨s.sessions, rfl⟩
  · split at h
    · cases h
    · cases h
      exact ⟨_, rfl⟩

theorem BillsAfter.of_signIn {key : TabKey} {s s' : Store} {env : Surroundings} {cookie : Option String}
    {principal : Option Principal} {posting : Option Posting} {bills : List Bill}
    (hsigned : s.signIn env cookie = .ok (principal, s')) (h : BillsAfter key s' posting bills) :
    BillsAfter key s posting bills := by
  obtain ⟨sessions, rfl⟩ := Store.signIn_eq_ok hsigned
  cases h with
  | untouched => exact .untouched
  | kept tab orderable latest takes => exact .kept tab orderable latest takes
  | opened tab orderable passed window free => exact .opened tab orderable passed window free
  | closed found => exact .closed found

namespace Visit

variable {v : Visit} {s : Store} {key : TabKey} {p : Posting}

/-- The request as it is led on, its method in upper case. -/
def led (v : Visit) : Http.Request := { v.request with method := v.request.method.toUpper }

/-- What a visit posts to a tab's account; nothing if it is turned away or refused. -/
def posting? (v : Visit) (key : TabKey) (s : Store) : Option Posting :=
  match s.signIn v.env v.cookie? with
  | .error _ => none
  | .ok (principal, s) =>
    match Http.carriedOut? v.env v.led principal s with
    | none => none
    | some (op, outcome) => outcome.result.toOption.bind (op.posting? v.env key)

/-- A visit posts on the billing day, since its operation names no day. -/
theorem today_of_posting (h : v.posting? key s = some p) : v.env.today = .ok p.day := by
  unfold posting? at h
  split at h
  · cases h
  · split at h
    · cases h
    · next op outcome hcarried =>
        obtain ⟨_, _, hop, _⟩ := Http.carriedOut?_eq_some.mp hcarried
        obtain ⟨reply, _, hposting⟩ := Option.bind_eq_some_iff.mp h
        exact op.today_of_posting (Http.Request.isUndated_of_operation? hop) hposting

/-- What a visit leaves of a tab's bills follows from what it posts. -/
theorem billsAfter (v : Visit) (hblind : v.env.blindReads = 0) (s : Store) (key : TabKey) :
    BillsAfter key s (v.posting? key s) ((v.after s).billsOf key) := by
  cases hsigned : s.signIn v.env v.cookie? with
  | error failure =>
      rw [posting?, hsigned, after_of_fault hsigned]
      exact .untouched
  | ok found =>
      obtain ⟨principal, s'⟩ := found
      have hafter : v.after s = (Http.dispatch v.env v.led principal s').2 := by
        rw [cookie?] at hsigned
        rw [after, Http.answer, hsigned]
        rfl
      rw [posting?, hsigned, hafter, Http.dispatch_store]
      refine .of_signIn hsigned ?_
      cases hcarried : Http.carriedOut? v.env v.led principal s' with
      | none =>
          simp only [hcarried]
          exact .untouched
      | some carried =>
          obtain ⟨op, outcome⟩ := carried
          obtain ⟨p, _, _, rfl⟩ := Http.carriedOut?_eq_some.mp hcarried
          simp only [hcarried]
          exact op.billsAfter hblind _ s' key

end Visit

/-- In every zone that is known, the day on which bills are written is none before that of an earlier moment,
as long as both lie in the calendar, although each autumn clocks in New York go back by an hour.  Whatever is
asked for over HTTP comes to what it comes to with this day named, and what is posted then decides what is
left of the bills of each tab.  So orders and payments are posted on days that never decrease, as long as the
clock of the service does not go back: those of requests over HTTP on whatever tabs, and those of all requests
that name no day on each tab. -/
theorem billing_day_never_back {name : String} {zone : Zone} (hzone : Zone.ofName name = .ok zone) :
    (∀ a b : Surroundings, a.settings.billingTimezone = name → b.settings.billingTimezone = name →
      zone.IsDated a.now → zone.IsDated b.now → a.now ≤ b.now →
      ∃ d e, a.today = .ok d ∧ b.today = .ok e ∧ d ≤ e) ∧
    (∀ year, 1918 ≤ year → (year < 1942 ∨ 1944 < year) → year ≤ 9999 →
      ∃ t d, Zone.easternUS.dayAt? t = some d ∧ Zone.easternUS.dayAt? t.next = some d ∧
        Zone.dayNumber year 9 24 ≤ d.number ∧ d.number ≤ Zone.dayNumber year 11 7 ∧
        Zone.easternUS.clockAt t.next = Zone.easternUS.clockAt t + 1 - 3600 * 1000000) ∧
    (∀ (v : Visit) (op : Operation) (d : Day), v.led.operation? v.env.shortening = some op → v.env.today = .ok d →
      ∀ caller s, op.perform v.env caller s = (op.onDay d).perform v.env caller s) ∧
    (∀ v : Visit, v.env.blindReads = 0 → ∀ s key,
      BillsAfter key s (v.posting? key s) ((v.after s).billsOf key)) ∧
    (∀ visits : List Visit, (∀ v ∈ visits, v.env.settings.billingTimezone = name) →
      (visits.Pairwise fun u v => u.env.now ≤ v.env.now) →
      ∀ (s : Store) before u between v rest, visits = before ++ u :: between ++ v :: rest →
      ∀ key other p q, u.posting? key (s.visited before) = some p →
        v.posting? other (s.visited (before ++ u :: between)) = some q → p.day ≤ q.day) ∧
    ∀ history : List Service.Request,
      (∀ r ∈ history, r.settings.billingTimezone = name ∧ r.ask.isUndated = true) →
      (history.Pairwise fun r q => r.now ≤ q.now) → ∀ key s, DaysAscend key s history := by
  refine ⟨?_, ?_, ?_, ?_, ?_, ?_⟩
  · rintro a b rfl hsame ha hb hle
    obtain ⟨d, hd⟩ := Surroundings.exists_today.mpr ⟨zone, hzone, ha⟩
    obtain ⟨e, he⟩ := Surroundings.exists_today.mpr ⟨zone, hsame.symm ▸ hzone, hb⟩
    exact ⟨d, e, hd, he, Surroundings.today_mono hsame.symm hle hd he⟩
  · intro year hfrom hpeace hcalendar
    exact Zone.autumn_hour hfrom hpeace hcalendar
  · intro v op d hop htoday caller s
    exact op.perform_onDay (Http.Request.isUndated_of_operation? hop) htoday caller s
  · intro v hblind s key
    exact v.billsAfter hblind s key
  · rintro visits hsame hclock s before u between v rest rfl key other p q hp hq
    have hu : u.env.settings.billingTimezone = name := hsame u (by simp)
    have hv : v.env.settings.billingTimezone = name := hsame v (by simp)
    have hle : u.env.now ≤ v.env.now :=
      (List.pairwise_append.mp hclock).2.2 u (by simp) v List.mem_cons_self
    exact Surroundings.today_mono (hu.trans hv.symm) hle (u.today_of_posting hp) (v.today_of_posting hq)
  · intro history hundated hclock key s
    exact daysAscend_of_undated hundated hclock

namespace Sample

/-- The hour from one o'clock on comes twice on the first of November 2026 in New York. -/
def autumn : Instant := Zone.lastOfSummer (Zone.dayNumber 2026 11 1)

/-- The administrator asks for something at a moment, where bills are written by the time of New York. -/
def newYorkVisit (now : Instant) (path body : String) : Visit where
  env := { settings := { billingTimezone := "America/New_York" }, now }
  request :=
    { method := "POST"
      target := path
      headers := [("cookie", "tab_session=abc"), ("content-type", "application/json")]
      body
      peer := "127.0.0.1" }

/-- An order of one coffee. -/
def autumnOrder : Visit := newYorkVisit autumn "/shops/1/tabs/1/add-order"
  "\x7b\"items\": [\x7b\"id\": 1, \"quantity\": 1\x7d]\x7d"

/-- The payment of its bill a moment later, which is an hour earlier by the local clock. -/
def autumnPayment : Visit := newYorkVisit autumn.next "/shops/1/tabs/1/bills/1/close" ""

/-- The shop with a tab, and a session of the administrator that lasts for another hour. -/
def autumnStore : Store :=
  { Sample.store.run [Sample.openTab 7] with
    sessions := [⟨1, "abc", 1, ⟨0⟩, autumn.minutesLater 60, none⟩] }

end Sample

/-- An order and the payment of its bill, between which a clock in New York goes back by an hour: the bill is
not paid on a day before that of the order. -/
theorem billing_day_never_back_newYork :
    Zone.ofName "America/New_York" = .ok .easternUS ∧
      Zone.easternUS.clockAt Sample.autumnPayment.env.now <
        Zone.easternUS.clockAt Sample.autumnOrder.env.now ∧
      ∃ p q, Sample.autumnOrder.posting? Sample.tab Sample.autumnStore = some p ∧
        Sample.autumnPayment.posting? Sample.tab (Sample.autumnStore.visited [Sample.autumnOrder]) = some q ∧
        p.day ≤ q.day := by
  have hzone : Zone.ofName "America/New_York" = .ok .easternUS := by decide +kernel
  obtain ⟨p, hp⟩ := Option.isSome_iff_exists.mp
    (show (Sample.autumnOrder.posting? Sample.tab Sample.autumnStore).isSome = true by decide +kernel)
  obtain ⟨q, hq⟩ := Option.isSome_iff_exists.mp
    (show (Sample.autumnPayment.posting? Sample.tab
      (Sample.autumnStore.visited [Sample.autumnOrder])).isSome = true by decide +kernel)
  obtain ⟨_, _, _, _, hvisits, _⟩ := billing_day_never_back hzone
  have hdays := hvisits [Sample.autumnOrder, Sample.autumnPayment] (by decide) (by decide)
    Sample.autumnStore [] Sample.autumnOrder [] Sample.autumnPayment [] rfl
  exact ⟨hzone, by decide +kernel, p, q, hp, hq, hdays Sample.tab Sample.tab p q hp hq⟩

end ShopTabs
