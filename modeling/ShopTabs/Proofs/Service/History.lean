import Mathlib.Data.List.Induction
import ShopTabs.Proofs.Form.Accepted
import ShopTabs.Proofs.Ledger.Write
import ShopTabs.Proofs.Service.Effect
import ShopTabs.Seed
/-!
Requests to the service, one after the other on one store.  A request that is refused leaves the store
as it is; any other has the effect of its operation.  Of a history of requests it matters for the
billing of a tab which of them put an order on one of its bills, took one off, or closed a bill, and
on which day they did.
-/

namespace ShopTabs

/-- Forms come as data and are read by the rules; only operations without a form are asked for
plainly. -/
def Submission.isProper : Submission → Bool
  | .plain (.approveTab _) => true
  | .plain (.closeTab _) => true
  | .plain (.markBillPaid ..) => true
  | .plain (.showTab _) => true
  | .plain (.listTabs _) => true
  | .plain _ => false
  | _ => true

/-- The tab that an operation names. -/
def Operation.tab? : Operation → Option TabKey
  | createTab .. => none
  | submitUpdate key _ => some key
  | approveTab key => some key
  | closeTab key => some key
  | markBillPaid key .. => some key
  | addOrder key .. => some key
  | removeOrder key .. => some key
  | setVerificationList key _ => some key
  | showTab key => some key
  | listTabs _ => none

/-- The tab that is named by what is asked for. -/
def Submission.tab? : Submission → Option TabKey
  | createTab .. => none
  | submitUpdate key _ => some key
  | addOrder key .. => some key
  | removeOrder key .. => some key
  | setVerificationList key _ => some key
  | plain op => op.tab?

/-- Reading keeps the tab that is named. -/
theorem Submission.tab?_of_read {how : Decimal.Shortening} {ask : Submission} {op : Operation}
    (h : ask.read how = .ok op) : op.tab? = ask.tab? := by
  cases ask with
  | plain op' =>
      cases h
      rfl
  | _ =>
      simp only [read, bind, Except.bind] at h
      split at h
      · cases h
      · cases h
        rfl

namespace Service

/-- Something the service is asked for: under which settings and rule, with which reader of forms, when, by
whom, and what. -/
structure Request where
  settings : Settings := {}
  now : Instant
  authorizer : Authorizer := standingAuthorizer
  shortening : Decimal.Shortening := .rounded
  caller : Caller
  ask : Submission
  proper : ask.isProper = true := by rfl

namespace Request

/-- What surrounds the request; no other writer comes between. -/
def env (r : Request) : Surroundings :=
  { settings := r.settings, now := r.now, authorizer := r.authorizer, shortening := r.shortening }

/-- What the request comes to on a store. -/
def outcome (r : Request) (s : Store) : Outcome Reply := r.ask.perform r.env r.caller s

def after (r : Request) (s : Store) : Store := (r.outcome s).store

end Request

end Service

/-- The store after requests that are made one after the other. -/
def Store.run (s : Store) (history : List Service.Request) : Store :=
  history.foldl (fun s r => r.after s) s

@[simp] theorem Store.run_nil (s : Store) : s.run [] = s := rfl

theorem Store.run_append (s : Store) (first second : List Service.Request) :
    s.run (first ++ second) = (s.run first).run second := by
  rw [Store.run, Store.run, Store.run, List.foldl_append]

@[simp] theorem Store.run_append_singleton (s : Store) (history : List Service.Request)
    (r : Service.Request) : s.run (history ++ [r]) = r.after (s.run history) := by
  rw [Store.run_append]
  rfl

/-- What every request preserves holds of all stores that are reached. -/
theorem Store.run_invariant {P : Store → Prop} {s : Store}
    (hstep : ∀ (r : Service.Request) (s : Store), P s → P (r.after s)) (hs : P s)
    (history : List Service.Request) : P (s.run history) := by
  induction history using List.reverseRecOn with
  | nil => exact hs
  | append_singleton rest r ih =>
      rw [Store.run_append_singleton]
      exact hstep r _ ih

/-! ### One request -/

theorem Submission.perform_eq_ok {env : Surroundings} {caller : Caller} {ask : Submission}
    {s : Store} {reply : Reply} :
    (ask.perform env caller s).result = .ok reply ↔
      ∃ op s', ask.read env.shortening = .ok op ∧ op.attempt env caller s = .ok (reply, s') ∧
        (ask.perform env caller s).store = s' := by
  unfold Submission.perform
  cases ask.read env.shortening with
  | error refusal => simp
  | ok op =>
      simp only [Operation.perform, Except.ok.injEq, exists_eq_left', exists_and_left]
      cases hattempt : op.attempt env caller s with
      | error failure => simp [mapError_error, Outcome.ofAttempt]
      | ok found =>
          obtain ⟨reply', s'⟩ := found
          simp [mapError_ok, Outcome.ofAttempt]

theorem Submission.perform_eq_error {env : Surroundings} {caller : Caller} {ask : Submission}
    {s : Store} {failure : Failure} (h : (ask.perform env caller s).result = .error failure) :
    (ask.perform env caller s).store = s := by
  unfold Submission.perform at *
  cases hread : ask.read env.shortening with
  | error refusal => rfl
  | ok op =>
      rw [hread] at h
      simp only [Operation.perform] at h ⊢
      cases hattempt : op.attempt env caller s with
      | error _ => rfl
      | ok found =>
          obtain ⟨reply', s'⟩ := found
          rw [hattempt] at h
          cases h

namespace Service.Request

variable {r : Request} {s : Store}

/-- A request that is answered was read as an operation, and has that operation's effect. -/
theorem effect_of_ok {reply : Reply} (h : (r.outcome s).result = .ok reply) :
    ∃ op, r.ask.read r.env.shortening = .ok op ∧ Effect r.env r.caller s op reply (r.after s) := by
  obtain ⟨op, s', hread, hattempt, hstore⟩ := Submission.perform_eq_ok.mp h
  refine ⟨op, hread, ?_⟩
  rw [after, outcome, hstore]
  exact Operation.attempt_effect hattempt

/-- A request that is refused changes nothing. -/
theorem after_of_error {failure : Failure} (h : (r.outcome s).result = .error failure) :
    r.after s = s := Submission.perform_eq_error h

end Service.Request

/-! ### A shop to try requests on -/

namespace Sample

open Service

/-- The store with its first content. -/
def store : Store := (({} : Store).seed).toOption.getD {}

/-- The first tab of that shop. -/
def tab : TabKey := ⟨1, 1⟩

def january (day : Nat) : Day := (Day.ofCivil? ⟨2026, 1, day⟩).getD ⟨1, by decide⟩

/-- A full hour of the day. -/
def oclock (hour : Nat) : TimeOfDay := (TimeOfDay.ofMicros? (hour * 3600000000)).getD ⟨0, by decide⟩

/-- The form of a tab for that year, from Monday the fifth of January on. -/
def tabForm (interval : Int) : Json := .obj [
  ("payment_method", .str "IN_PERSON"),
  ("organization", .str "Chess club"),
  ("display_name", .str "Chess evenings"),
  ("start_date", .str "2026-01-05"),
  ("end_date", .str "2026-12-31"),
  ("daily_start_time", .str "08:00"),
  ("daily_end_time", .str "17:00"),
  ("active_days_of_wk", .int 31),
  ("dollar_limit_per_order", .str "20.00"),
  ("verification_method", .str "VOUCHER"),
  ("billing_interval_days", .int interval)]

/-- The tab that is opened by that form. -/
def openedTab (interval : Int) : Tab where
  id := 1
  shopId := 1
  ownerId := 1
  status := .awaitingApproval
  config :=
    { paymentMethod := .inPerson
      organization := "Chess club"
      displayName := "Chess evenings"
      startDate := january 5
      endDate := (Day.ofCivil? ⟨2026, 12, 31⟩).getD (january 5)
      dailyStart := oclock 8
      dailyEnd := oclock 17
      activeDays := 31
      orderLimit := .ofCents 2000
      verificationMethod := .voucher
      paymentDetails := ""
      billingInterval := interval }

/-- The form of an order of one coffee. -/
def orderForm : Json := .obj [("items", .arr [.obj [("id", .int 1), ("quantity", .int 1)]])]

def coffee : Form.Order := ⟨[⟨1, 1, []⟩]⟩

def request (ask : Submission) (proper : ask.isProper = true := by rfl) : Request :=
  { now := ⟨0⟩, caller := ⟨⟨1, "admin@example.com", .admin, true⟩, none⟩, ask, proper }

def openTab (interval : Int) : Request := request (.createTab 1 (tabForm interval))

/-- Orders a coffee on a day of January. -/
def order (day : Nat) : Request := request (.addOrder tab orderForm (some (january day)))

/-- Pays a bill on a day of January. -/
def pay (billId : Int) (day : Nat) : Request :=
  request (.plain (.markBillPaid tab billId (some (january day))))

end Sample

end ShopTabs
