import Mathlib.Logic.Equiv.Basic
import ShopTabs.Proofs.Service.Matching
/-!
What happens on a tab depends on that tab alone.  Of two states of the tables that have the same people,
the same offers and the same rows of a tab, an operation on that tab makes the same, however else they
differ; only a bill that it opens gets the next number, which counts the bills of all tabs.
-/

namespace ShopTabs

/-- A reply with other numbers of bills; only the one to an order names a bill. -/
def Reply.renumbered (ρ : Int → Int) : Reply → Reply
  | ordered result => ordered { result with billId := ρ result.billId }
  | reply => reply

theorem Failure.reported_renumbered (ρ : Int → Int) (f : Failure) :
    (f.renumbered ρ).reported = f.reported.renumbered ρ := by
  cases f <;> rfl

namespace Store

/-- The number that the next bill gets. -/
def nextBillId (s : Store) : Int := nextId (s.bills.map (·.id))

/-- Turns the number of the next bill in one store into that in another, and leaves other numbers alone. -/
def renumbering (s s' : Store) : Int → Int := Equiv.swap s.nextBillId s'.nextBillId

theorem renumbering_injective (s s' : Store) : Function.Injective (renumbering s s') :=
  (Equiv.swap s.nextBillId s'.nextBillId).injective

theorem renumbering_nextBillId (s s' : Store) : renumbering s s' s.nextBillId = s'.nextBillId :=
  Equiv.swap_apply_left ..

theorem renumbering_of_mem {s s' : Store} {b : Bill} (hb : b ∈ s.bills) (hb' : b ∈ s'.bills) :
    renumbering s s' b.id = b.id :=
  Equiv.swap_apply_of_ne_of_ne (lt_nextId (List.mem_map_of_mem hb)).ne
    (lt_nextId (List.mem_map_of_mem hb')).ne

end Store

theorem Ledger.itemChanges_renumbered {ρ : Int → Int} {o : Form.Order} {key : TabKey} {billId : Int}
    {direction : Direction} : itemChanges o key (ρ billId) direction =
      (itemChanges o key billId direction).map (Change.mapKey (·.renumbered ρ)) := by
  rw [itemChanges, itemChanges, List.map_map]
  rfl

theorem Ledger.variantChanges_renumbered {ρ : Int → Int} {o : Form.Order} {key : TabKey} {billId : Int}
    {direction : Direction} : variantChanges o key (ρ billId) direction =
      (variantChanges o key billId direction).map (Change.mapKey (·.renumbered ρ)) := by
  rw [variantChanges, variantChanges, List.map_flatMap]
  simp only [List.map_map]
  rfl

/-- The changes of an order are all to lines of its bill. -/
theorem Ledger.itemChanges_key {o : Form.Order} {key : TabKey} {billId : Int} {direction : Direction} :
    ∀ c ∈ itemChanges o key billId direction, c.key.tab = key ∧ c.key.billId = billId := by
  intro c hc
  obtain ⟨i, _, rfl⟩ := List.mem_map.mp hc
  exact ⟨rfl, rfl⟩

theorem Ledger.variantChanges_key {o : Form.Order} {key : TabKey} {billId : Int} {direction : Direction} :
    ∀ c ∈ variantChanges o key billId direction, c.key.tab = key ∧ c.key.billId = billId := by
  intro c hc
  obtain ⟨i, _, hv⟩ := List.mem_flatMap.mp hc
  obtain ⟨v, _, rfl⟩ := List.mem_map.mp hv
  exact ⟨rfl, rfl⟩

namespace Store.Agree

variable {ρ : Int → Int} {key : TabKey} {s s' : Store}

/-! ### Parts of an operation -/

theorem record (h : Agree ρ key s s') (caller : Caller) (event event' : Event) :
    Matches ρ (Agree ρ key) (Service.record caller key event s) (Service.record caller key event' s') :=
  (Matches.requireWord _).bind fun _ _ _ _ =>
    (Matches.ensure (h.hasUser _) .constraint).bind fun _ _ _ _ => .ok h.audited

theorem syncEmails (h : Agree ρ key s s') (wanted : List String) :
    Matches ρ (fun a b => b.1 = a.1 ∧ Agree ρ key a.2 b.2) (s.syncEmails key wanted)
      (s'.syncEmails key wanted) := by
  have hmissing : ((Membership.missing s'.emails key wanted).isEmpty || s'.hasTab key) =
      ((Membership.missing s.emails key wanted).isEmpty || s.hasTab key) := by
    rw [Membership.missing_eq_of_perm h.rows.emails, h.hasTab]
  exact (Matches.requireWords key).bind fun _ _ _ _ => (Matches.ensure hmissing .constraint).bind
    fun _ _ _ _ => .ok ⟨Membership.result_eq_of_perm h.rows.emails wanted, h.withEmails (some wanted)⟩

theorem syncPlaces (h : Agree ρ key s s') (wanted : List Int) :
    Matches ρ (fun a b => b.1 = a.1 ∧ Agree ρ key a.2 b.2) (s.syncPlaces key wanted)
      (s'.syncPlaces key wanted) := by
  have hmissing := Membership.missing_eq_of_perm h.rows.places wanted
  have hknown : (Membership.missing s'.places key wanted).all (s'.hasLocation key.shopId) =
      (Membership.missing s.places key wanted).all (s.hasLocation key.shopId) := by
    rw [hmissing, funext (h.hasLocation key.shopId)]
  refine (Matches.requireWords key).bind fun _ _ _ _ =>
    (Matches.forM .requireWord wanted).bind fun _ _ _ _ =>
    (Matches.ensure ?_ .constraint).bind fun _ _ _ _ =>
    (Matches.ensure hknown .constraint).bind fun _ _ _ _ =>
    .ok ⟨Membership.result_eq_of_perm h.rows.places wanted, h.withPlaces (some wanted)⟩
  rw [hmissing, h.hasTab]

theorem replaceEmails (h : Agree ρ key s s') (emails : Option (List String)) :
    Matches ρ (Agree ρ key) (Service.replaceEmails key emails s) (Service.replaceEmails key emails s') := by
  cases emails with
  | none => exact .ok h
  | some wanted => exact (h.syncEmails wanted).map fun _ _ related => related.2

theorem replacePlaces (h : Agree ρ key s s') (places : Option (List Int)) :
    Matches ρ (Agree ρ key) (Service.replacePlaces key places s) (Service.replacePlaces key places s') := by
  cases places with
  | none => exact .ok h
  | some wanted => exact (h.syncPlaces wanted).map fun _ _ related => related.2

end Store.Agree

namespace Store.SameFor

variable {ρ : Int → Int} {key : TabKey} {s s' : Store} {env : Surroundings} {caller : Caller}

theorem hasBill (h : SameFor key s s') (id : Int) : s'.hasBill key id = s.hasBill key id := by
  have hagree : Agree (fun id => id) key s s' := h.agree fun _ _ => rfl
  exact hagree.hasBill Function.injective_id id

/-- The caller is let on the tab in both states or refused for one cause in both. -/
theorem authorizeTab (h : SameFor key s s') (env : Surroundings) (caller : Caller) (action : Action) :
    Matches ρ Eq (Service.authorizeTab env caller key action s)
      (Service.authorizeTab env caller key action s') := by
  have hshop : Matches ρ Eq (Service.findShop s key.shopId) (Service.findShop s' key.shopId) :=
    (Matches.requireWord _).bind fun _ _ _ _ => .orFail (h.shop? _) .shopNotFound
  have htab : Matches ρ Eq (Service.findTab s key) (Service.findTab s' key) :=
    (Matches.requireWord _).bind fun _ _ _ _ => .orFail h.tab? .tabNotFound
  refine hshop.bind ?_
  rintro shop _ _ rfl
  refine htab.bind ?_
  rintro tab _ _ rfl
  exact (Matches.ensure rfl .unauthorized).bind fun _ _ _ _ => .ok rfl

section Renumbered

variable (h : SameFor key s s') (hρ : Function.Injective ρ)
  (hstay : ∀ b ∈ (s.rowsOf key).bills, ρ b.id = b.id) (hnext : ρ s.nextBillId = s'.nextBillId)
include h hρ hstay hnext

/-- An order is put on the same bill, or on one that both states open. -/
theorem ledgerApply (env : Surroundings) (o : Form.Order) (direction : Direction) (on : Option Day) :
    Matches ρ (fun a b => b.result = { a.result with billId := ρ a.result.billId } ∧
        Agree ρ key a.store b.store)
      (Ledger.apply env key o direction on s) (Ledger.apply env key o direction on s') := by
  have hagree := h.agree hstay
  refine (Matches.dayOr env on).bind ?_
  rintro day _ _ rfl
  have htab : Matches ρ Eq (s.requireTab key) (s'.requireTab key) :=
    (Matches.requireWords key).bind fun _ _ _ _ => .orFail h.tab? .tabNotFound
  refine htab.bind ?_
  rintro t _ _ rfl
  refine (Matches.ensureOrderable t day).bind fun _ _ _ _ =>
    (hagree.ensureKnown key.shopId o).bind fun _ _ _ _ =>
    (hagree.selectBill h.billsOf hstay hnext t.config.billingTerms day _ env.blindReads).bind ?_
  rintro selected ⟨_, store', reads⟩ hselected ⟨rfl, rfl, hstores⟩
  obtain ⟨hitemLines, hvariantLines⟩ := (selectBill_selectable hselected).lines_eq
  dsimp only
  rw [Ledger.itemChanges_renumbered, Ledger.variantChanges_renumbered]
  refine (hstores.write hρ ?_ ?_ Ledger.itemChanges_key Ledger.variantChanges_key direction).bind ?_
  · rw [hitemLines]
    exact h.sound.itemKeys
  · rw [hvariantLines]
    exact h.sound.variantKeys
  · rintro ⟨count, countVariants, after⟩ ⟨_, _, after'⟩ _ ⟨rfl, rfl, hafter⟩
    exact .ok ⟨rfl, hafter⟩

theorem order (env : Surroundings) (caller : Caller) (form : Form.Order) (direction : Direction)
    (on : Option Day) :
    Matches ρ (fun a b => b.1 = { a.1 with billId := ρ a.1.billId } ∧ Agree ρ key a.2 b.2)
      (Service.order env caller key form direction on s)
      (Service.order env caller key form direction on s') := by
  refine (h.authorizeTab env caller .order).bind fun _ _ _ _ =>
    (h.ledgerApply hρ hstay hnext env form direction on).bind ?_
  rintro receipt receipt' _ ⟨hresult, hstores⟩
  refine (hstores.record caller _ _).bind fun _ _ _ hafter => .ok ⟨hresult, hafter⟩

end Renumbered

/-! ### The other operations -/

section Kept

variable (h : SameFor key s s') (hstay : ∀ b ∈ (s.rowsOf key).bills, ρ b.id = b.id)
include h hstay

theorem markBillPaid (hρ : Function.Injective ρ) (env : Surroundings) (caller : Caller) (billId : Int)
    (on : Option Day) :
    Matches ρ (Agree ρ key) (Service.markBillPaid env caller key billId on s)
      (Service.markBillPaid env caller key billId on s') := by
  refine (Matches.dayOr env on).bind ?_
  rintro day _ _ rfl
  refine (h.authorizeTab env caller .markBillPaid).bind fun _ _ _ _ =>
    (Matches.requireWord billId).bind fun _ _ _ _ =>
    (Matches.ensure (h.hasBill billId) .billNotFound).bind fun _ _ hfound _ => ?_
  obtain ⟨b, hb, htab, rfl⟩ := hasBill_iff.mp (ensure_eq_ok.mp hfound)
  have hid := hstay b (List.mem_filter.mpr ⟨hb, decide_eq_true htab⟩)
  exact ((h.agree hstay).updateBill hρ hid day).record caller _ _

theorem submitUpdate (env : Surroundings) (caller : Caller) (form : Form.Revision) :
    Matches ρ (Agree ρ key) (Service.submitUpdate env caller key form s)
      (Service.submitUpdate env caller key form s') := by
  refine (h.authorizeTab env caller .update).bind ?_
  rintro tab _ _ rfl
  refine (Matches.ensure rfl .tabClosed).bind fun _ _ _ _ =>
    (Matches.ensure rfl .constraint).bind fun _ _ _ _ => ?_
  have hstaged := Agree.stage (u := ⟨key, form.config.kept, form.emails, form.locationIds⟩)
    (h.agree hstay) (h.sound.length_pending key) (h.sound'.length_pending key)
  exact (hstaged.replaceEmails form.emails).bind fun _ _ _ hemails =>
    (hemails.replacePlaces form.locationIds).bind fun _ _ _ hplaces => hplaces.record caller _ _

theorem approveTab (env : Surroundings) (caller : Caller) :
    Matches ρ (Agree ρ key) (Service.approveTab env caller key s)
      (Service.approveTab env caller key s') := by
  refine (h.authorizeTab env caller .approve).bind ?_
  rintro tab _ _ rfl
  dsimp only
  rw [h.pending?]
  exact (Matches.ensure rfl .tabClosed).bind fun _ _ _ _ =>
    (Matches.ensure rfl .constraint).bind fun _ _ _ _ =>
    (((h.agree hstay).updateTab (Service.confirmed _) fun _ => rfl).unstage).record caller _ _

theorem closeTab (env : Surroundings) (caller : Caller) :
    Matches ρ (Agree ρ key) (Service.closeTab env caller key s) (Service.closeTab env caller key s') :=
  (h.authorizeTab env caller .close).bind fun _ _ _ _ =>
    (((h.agree hstay).updateTab (fun tab => { tab with status := .closed }) fun _ => rfl).unstage).record
      caller _ _

theorem setVerificationList (env : Surroundings) (caller : Caller) (form : Form.EmailList) :
    Matches ρ (fun a b => b.1 = a.1 ∧ Agree ρ key a.2 b.2)
      (Service.setVerificationList env caller key form s)
      (Service.setVerificationList env caller key form s') := by
  refine (h.authorizeTab env caller .update).bind ?_
  rintro tab _ _ rfl
  refine (Matches.ensure rfl .tabClosed).bind fun _ _ _ _ =>
    ((h.agree hstay).syncEmails form.emails).bind ?_
  rintro ⟨result, after⟩ ⟨_, after'⟩ _ ⟨rfl, hafter⟩
  exact (hafter.record caller _ _).bind fun _ _ _ hrecorded => .ok ⟨rfl, hrecorded⟩

end Kept

/-- Every operation on the tab comes to the same, up to the number of a bill that it opens. -/
theorem attempt (h : SameFor key s s') (hρ : Function.Injective ρ)
    (hstay : ∀ b ∈ (s.rowsOf key).bills, ρ b.id = b.id) (hnext : ρ s.nextBillId = s'.nextBillId)
    (env : Surroundings) (caller : Caller) {op : Operation} (hop : op.tab? = some key) :
    Matches ρ (fun a b => b.1 = a.1.renumbered ρ ∧ Agree ρ key a.2 b.2) (op.attempt env caller s)
      (op.attempt env caller s') := by
  cases op with
  | createTab | listTabs => cases hop
  | submitUpdate _ form =>
      cases hop
      exact (h.submitUpdate hstay env caller form).bind fun _ _ _ hafter => .ok ⟨rfl, hafter⟩
  | approveTab =>
      cases hop
      exact (h.approveTab hstay env caller).bind fun _ _ _ hafter => .ok ⟨rfl, hafter⟩
  | closeTab =>
      cases hop
      exact (h.closeTab hstay env caller).bind fun _ _ _ hafter => .ok ⟨rfl, hafter⟩
  | markBillPaid _ billId on =>
      cases hop
      exact (h.markBillPaid hstay hρ env caller billId on).bind fun _ _ _ hafter => .ok ⟨rfl, hafter⟩
  | addOrder _ form on =>
      cases hop
      refine (h.order hρ hstay hnext env caller form .add on).bind ?_
      rintro ⟨result, after⟩ ⟨_, after'⟩ _ ⟨rfl, hafter⟩
      exact .ok ⟨rfl, hafter⟩
  | removeOrder _ form on policy =>
      cases hop
      refine (h.order hρ hstay hnext env caller form _ on).bind ?_
      rintro ⟨result, after⟩ ⟨_, after'⟩ _ ⟨rfl, hafter⟩
      exact .ok ⟨rfl, hafter⟩
  | setVerificationList _ form =>
      cases hop
      refine (h.setVerificationList hstay env caller form).bind ?_
      rintro ⟨result, after⟩ ⟨_, after'⟩ _ ⟨rfl, hafter⟩
      exact .ok ⟨rfl, hafter⟩
  | showTab =>
      cases hop
      refine (h.authorizeTab env caller .read).bind ?_
      rintro tab _ hallowed rfl
      obtain ⟨_, _, hfound, _⟩ := Service.authorizeTab_eq_ok.mp hallowed
      refine .ok ⟨?_, h.agree hstay⟩
      rw [h.overview (mem_of_tab? hfound).2]
      rfl

/-- The numbers of the bills that the tab has stay. -/
theorem renumbering_eq (h : SameFor key s s') : ∀ b ∈ (s.rowsOf key).bills, renumbering s s' b.id = b.id := by
  intro b hb
  have hb' := h.rows.bills.mem_iff.mp hb
  exact renumbering_of_mem (List.mem_filter.mp hb).1 (List.mem_filter.mp hb').1

end Store.SameFor

/-- What happens on a tab depends on that tab alone.  Of two states of the tables that agree on people and
catalogues and on the rows of a tab, whatever is asked for on that tab comes to the same: it gets the same
reply or fails for the same cause, and leaves the same rows of the tab, but for the number of a bill that it
opens, which is the next one. -/
theorem operations_local {key : TabKey} {s s' : Store} (h : s.SameFor key s') (env : Surroundings)
    (caller : Caller) {ask : Submission} (hask : ask.tab? = some key) :
    let ρ := Store.renumbering s s'
    let one := ask.perform env caller s
    let other := ask.perform env caller s'
    (∀ b ∈ (s.rowsOf key).bills, ρ b.id = b.id) ∧
    other.result = (one.result.map (·.renumbered ρ)).mapError (·.renumbered ρ) ∧
    ((one.store.rowsOf key).renumbered ρ).Alike (other.store.rowsOf key) := by
  intro ρ one other
  have hstay := h.renumbering_eq
  have hunchanged := (h.agree hstay).rows
  refine ⟨hstay, ?_⟩
  cases hread : ask.read env.shortening with
  | error refusal =>
      have hperform : ∀ s, ask.perform env caller s = ⟨.error (.ofRefusal refusal), s⟩ := by
        intro s
        rw [Submission.perform, hread]
      rw [show one = _ from hperform s, show other = _ from hperform s']
      refine ⟨?_, hunchanged⟩
      cases refusal <;> rfl
  | ok op =>
      have hattempt := h.attempt (Store.renumbering_injective s s') hstay (Store.renumbering_nextBillId s s')
        env caller ((Submission.tab?_of_read hread).trans hask)
      rw [show one = _ from Submission.perform_of_read hread,
        show other = _ from Submission.perform_of_read hread, Operation.perform, Operation.perform]
      generalize op.attempt env caller s = attempted at hattempt
      generalize op.attempt env caller s' = attempted' at hattempt
      cases hattempt with
      | ok related => exact ⟨congrArg Except.ok related.1, related.2.rows⟩
      | error cause => exact ⟨congrArg Except.error (cause.reported_renumbered ρ), hunchanged⟩

namespace Sample

/-- A tab with one bill, alone in the tables. -/
def alone : Store := store.run [openTab 7, order 5]

/-- The same tab beside another with a bill. -/
def besides : Store :=
  store.run [openTab 7, openTab 7, order 5, request (.addOrder ⟨1, 2⟩ orderForm (some (january 5)))]

theorem alone_sameFor : alone.SameFor tab besides where
  sound := store_isSound.run _
  sound' := store_isSound.run _
  catalogue := by
    have hsame : alone.catalogue = besides.catalogue := by decide +kernel
    rw [hsame]
    constructor <;> rfl
  rows := by
    have hsame : alone.rowsOf tab = besides.rowsOf tab := by decide +kernel
    rw [hsame]
    constructor <;> rfl

end Sample

/-- An order for the next week opens the second bill of the one state and the third of the other. -/
theorem operations_local_nextWeek :
    let one := (Sample.order 12).outcome Sample.alone
    let other := (Sample.order 12).outcome Sample.besides
    (one.store.billsOf Sample.tab).map (·.id) = [1, 2] ∧
      (other.store.billsOf Sample.tab).map (·.id) = [1, 3] ∧
      other.result = (one.result.map (·.renumbered (Store.renumbering Sample.alone Sample.besides))).mapError
        (·.renumbered (Store.renumbering Sample.alone Sample.besides)) :=
  ⟨by decide +kernel, by decide +kernel,
    (operations_local Sample.alone_sameFor (Sample.order 12).env (Sample.order 12).caller rfl).2.1⟩

end ShopTabs
