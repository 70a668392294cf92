import ShopTabs.Proofs.Ledger.Bookings
import ShopTabs.Proofs.Membership
/-!
The rows of a store, tab by tab.  Whatever an operation does, it does to the rows of one tab: the one it
names, or the one it opens.  Each write is looked at once, for any choice of tabs that leaves out the one
that is written.
-/

namespace ShopTabs

/-- Rows that belong to tabs. -/
structure TabRows where
  tabs : List Tab
  pending : List PendingUpdate
  emails : List (Member String)
  places : List (Member Int)
  bills : List Bill
  itemLines : List (Line ItemKey)
  variantLines : List (Line VariantKey)
deriving DecidableEq

/-- The people of a store and what its shops have. -/
structure Catalogue where
  users : List User
  shops : List Shop
  locations : List Location
  items : List Item
  variants : List Variant
deriving DecidableEq

/-- Replacing rows does not show where only rows that are left out are replaced, by such rows. -/
theorem filter_map_eq {α : Type} {rows : List α} {change : α → α} {p : α → Bool}
    (h : ∀ r ∈ rows, change r = r ∨ (p r = false ∧ p (change r) = false)) :
    (rows.map change).filter p = rows.filter p := by
  induction rows with
  | nil => rfl
  | cons r rest ih =>
      have hrest := ih fun q hq => h q (List.mem_cons_of_mem r hq)
      rcases h r List.mem_cons_self with hsame | ⟨hout, hout'⟩
      · rw [List.map_cons, hsame, List.filter_cons, List.filter_cons, hrest]
      · rw [List.map_cons, List.filter_cons_of_neg (by simp [hout']),
          List.filter_cons_of_neg (by simp [hout]), hrest]

/-- Where the rows of a kind are changed within that kind, they are those that there were, changed. -/
theorem filter_map_if {α : Type} {P : α → Prop} [DecidablePred P] {change : α → α}
    (h : ∀ r, P r → P (change r)) (rows : List α) :
    (rows.map fun r => if P r then change r else r).filter (fun r => P r) =
      (rows.filter fun r => P r).map change := by
  induction rows with
  | nil => rfl
  | cons r rest ih =>
      by_cases hr : P r
      · simp [hr, h r hr, ih]
      · simp [hr, ih]

/-- Where no two rows have one key, each is found by its own. -/
theorem find?_of_nodup {α κ : Type} [DecidableEq κ] {keyOf : α → κ} {rows : List α} {r : α}
    (h : (rows.map keyOf).Nodup) (hr : r ∈ rows) : rows.find? (fun q => keyOf q = keyOf r) = some r := by
  cases hfound : rows.find? fun q => keyOf q = keyOf r with
  | none => exact absurd (decide_eq_true rfl) (List.find?_eq_none.mp hfound r hr)
  | some q =>
      have hkey : keyOf q = keyOf r := by simpa using List.find?_some hfound
      rw [List.inj_on_of_nodup_map h (List.mem_of_find?_eq_some hfound) hr hkey]

namespace Store

/-- The rows of the tabs that are asked for. -/
def rowsWhere (s : Store) (p : TabKey → Bool) : TabRows where
  tabs := s.tabs.filter fun t => p t.key
  pending := s.pending.filter fun u => p u.tab
  emails := s.emails.filter fun m => p m.tab
  places := s.places.filter fun m => p m.tab
  bills := s.bills.filter fun b => p b.tab
  itemLines := s.itemLines.filter fun l => p l.key.tab
  variantLines := s.variantLines.filter fun l => p l.key.tab

/-- The rows of one tab. -/
def rowsOf (s : Store) (key : TabKey) : TabRows := s.rowsWhere fun k => k = key

def catalogue (s : Store) : Catalogue := ⟨s.users, s.shops, s.locations, s.items, s.variants⟩

variable {s : Store} {key : TabKey} {p : TabKey → Bool}

@[simp] theorem rowsWhere_audited {caller : Caller} {tab : TabKey} {event : Event} :
    (s.audited caller tab event).rowsWhere p = s.rowsWhere p := rfl

theorem catalogue_audited {caller : Caller} {tab : TabKey} {event : Event} :
    (s.audited caller tab event).catalogue = s.catalogue := rfl

theorem catalogue_withEmails {emails : Option (List String)} :
    (s.withEmails key emails).catalogue = s.catalogue := by cases emails <;> rfl

theorem catalogue_withPlaces {places : Option (List Int)} :
    (s.withPlaces key places).catalogue = s.catalogue := by cases places <;> rfl

theorem rowsWhere_withTab {t : Tab} (hp : p t.key = false) :
    (s.withTab t).rowsWhere p = s.rowsWhere p := by
  simp [rowsWhere, withTab, hp]

theorem rowsWhere_withEmails {emails : Option (List String)} (hp : p key = false) :
    (s.withEmails key emails).rowsWhere p = s.rowsWhere p := by
  cases emails with
  | none => rfl
  | some wanted => simp only [rowsWhere, withEmails, Membership.filter_replace hp]

theorem rowsWhere_withPlaces {places : Option (List Int)} (hp : p key = false) :
    (s.withPlaces key places).rowsWhere p = s.rowsWhere p := by
  cases places with
  | none => rfl
  | some wanted => simp only [rowsWhere, withPlaces, Membership.filter_replace hp]

theorem rowsWhere_stage {u : PendingUpdate} (hp : p u.tab = false) :
    (s.stage u).rowsWhere p = s.rowsWhere p := by
  have hpending : (s.stage u).pending.filter (fun v => p v.tab) =
      s.pending.filter fun v => p v.tab := by
    rw [stage]
    split
    · apply filter_map_eq
      intro v _
      by_cases hsame : v.tab = u.tab
      · rw [if_pos hsame, hsame]
        exact Or.inr ⟨hp, hp⟩
      · rw [if_neg hsame]
        exact Or.inl rfl
    · simp [hp]
  rw [rowsWhere, hpending]
  rfl

theorem rowsWhere_unstage (hp : p key = false) :
    (s.unstage key).rowsWhere p = s.rowsWhere p := by
  have hpending : (s.unstage key).pending.filter (fun u => p u.tab) =
      s.pending.filter fun u => p u.tab := by
    rw [unstage, List.filter_filter]
    apply List.filter_congr
    intro u _
    by_cases hsame : u.tab = key
    · simp [hsame, hp]
    · simp [hsame]
  rw [rowsWhere, hpending]
  rfl

theorem rowsWhere_updateTab {change : Tab → Tab} (hp : p key = false)
    (hkey : ∀ t, (change t).key = t.key) :
    (s.updateTab key change).rowsWhere p = s.rowsWhere p := by
  have htabs : (s.updateTab key change).tabs.filter (fun t => p t.key) =
      s.tabs.filter fun t => p t.key := by
    apply filter_map_eq
    intro t _
    by_cases hsame : t.key = key
    · rw [if_pos hsame, hkey, hsame]
      exact Or.inr ⟨hp, hp⟩
    · rw [if_neg hsame]
      exact Or.inl rfl
  rw [rowsWhere, htabs]
  rfl

theorem rowsWhere_updateBill {billId : Int} {day : Day} (hp : p key = false) :
    (s.updateBill key billId fun b => b.closedOn day).rowsWhere p = s.rowsWhere p := by
  have hbills : (s.updateBill key billId fun b => b.closedOn day).bills.filter (fun b => p b.tab) =
      s.bills.filter fun b => p b.tab := by
    apply filter_map_eq
    intro b _
    by_cases hsame : (b.tab = key && b.id = billId) = true
    · rw [if_pos hsame]
      have htab : b.tab = key := by
        simp only [Bool.and_eq_true, decide_eq_true_eq] at hsame
        exact hsame.1
      rw [Bill.closedOn_tab, htab]
      exact Or.inr ⟨hp, hp⟩
    · rw [if_neg hsame]
      exact Or.inl rfl
  rw [rowsWhere, hbills]
  rfl

theorem rowsWhere_withBill {b : Bill} (hp : p b.tab = false) :
    (s.withBill b).rowsWhere p = s.rowsWhere p := by
  simp [rowsWhere, withBill, hp]

end Store

namespace Selectable

variable {terms : BillingTerms} {key : TabKey} {s : Store} {selection : Selection}

theorem rowsWhere_eq {p : TabKey → Bool} (h : Selectable terms key s selection)
    (hp : p key = false) : selection.store.rowsWhere p = s.rowsWhere p := by
  cases h with
  | kept found unpaid => rfl
  | opened seen window free => exact Store.rowsWhere_withBill (b := s.newBill key _ false) hp

end Selectable

namespace Ledger.Applied

variable {env : Surroundings} {key : TabKey} {o : Form.Order} {direction : Direction}
  {on : Option Day} {s : Store} {receipt : Receipt}

/-- An order leaves the rows of all tabs but its own alone. -/
theorem rowsWhere_eq {p : TabKey → Bool} (h : Applied env key o direction on s receipt)
    (hp : p key = false) : receipt.store.rowsWhere p = s.rowsWhere p := by
  obtain ⟨_, _, _, _, _, hselect, hwritten⟩ := h
  obtain ⟨itemLines, variantLines, hitems, hvariants, rfl⟩ := write_rewritten hwritten
  have hitemLines := hitems.filter_eq (p := fun k => p k.tab) (fun c hc => by
    obtain ⟨i, _, rfl⟩ := List.mem_map.mp hc
    exact hp)
  have hvariantLines := hvariants.filter_eq (p := fun k => p k.tab) (fun c hc => by
    obtain ⟨i, _, hi⟩ := List.mem_flatMap.mp hc
    obtain ⟨v, _, rfl⟩ := List.mem_map.mp hi
    exact hp)
  rw [← (selectBill_selectable hselect).rowsWhere_eq hp]
  simp only [Store.rowsWhere, Store.withItemLines, Store.withVariantLines, hitemLines, hvariantLines]

/-- An order writes to the bills and to their lines only. -/
theorem frame (h : Applied env key o direction on s receipt) :
    ∃ bills itemLines variantLines, receipt.store =
      { s with bills := bills, itemLines := itemLines, variantLines := variantLines } := by
  obtain ⟨_, _, _, _, _, hselect, hwritten⟩ := h
  obtain ⟨itemLines, variantLines, rfl⟩ := write_frame hwritten
  obtain ⟨bills, hbills⟩ := (selectBill_selectable hselect).frame
  exact ⟨bills, itemLines, variantLines, by rw [hbills]; rfl⟩

end Ledger.Applied

/-- The tab that an operation is carried out on, by its reply: the one it names, or the one it opens. -/
def Operation.target? : Operation → Reply → Option TabKey
  | .createTab shopId _, .created id => some ⟨shopId, id⟩
  | op, _ => op.tab?

namespace Effect

variable {env : Surroundings} {caller : Caller} {s s' : Store} {op : Operation} {reply : Reply}

/-- An operation leaves the rows of all tabs alone but those of the one it is carried out on. -/
theorem rowsWhere_eq {p : TabKey → Bool} (h : Effect env caller s op reply s')
    (hp : ∀ key, op.target? reply = some key → p key = false) : s'.rowsWhere p = s.rowsWhere p := by
  cases h with
  | @tabCreated shopId form shop tab allowed opened owned =>
      have htab : p tab.key = false := by
        apply hp
        rw [opened]
        rfl
      rw [Store.rowsWhere_audited, Store.rowsWhere_withPlaces htab, Store.rowsWhere_withEmails htab,
        Store.rowsWhere_withTab htab]
  | @updateSubmitted key form tab allowed notClosed =>
      have hkey : p key = false := hp key rfl
      rw [Store.rowsWhere_audited, Store.rowsWhere_withPlaces hkey, Store.rowsWhere_withEmails hkey,
        Store.rowsWhere_stage hkey]
  | @tabApproved key tab allowed notClosed =>
      have hkey : p key = false := hp key rfl
      rw [Store.rowsWhere_audited, Store.rowsWhere_unstage hkey, Store.rowsWhere_updateTab hkey]
      exact fun _ => rfl
  | @tabClosed key tab allowed =>
      have hkey : p key = false := hp key rfl
      rw [Store.rowsWhere_audited, Store.rowsWhere_unstage hkey, Store.rowsWhere_updateTab hkey]
      exact fun _ => rfl
  | @billPaid key billId on day tab dayOr allowed found =>
      rw [Store.rowsWhere_audited, Store.rowsWhere_updateBill (hp key rfl)]
  | @orderAdded key form on tab receipt allowed applied =>
      rw [Store.rowsWhere_audited, applied.rowsWhere_eq (hp key rfl)]
  | @orderRemoved key form on policy tab receipt allowed applied =>
      rw [Store.rowsWhere_audited, applied.rowsWhere_eq (hp key rfl)]
  | @verificationListSet key form tab result allowed notClosed counted =>
      rw [Store.rowsWhere_audited, Store.rowsWhere_withEmails (hp key rfl)]
  | tabShown allowed => rfl
  | tabsListed allowed => rfl

/-- No operation writes to the people of a store or to what its shops have. -/
theorem catalogue_eq (h : Effect env caller s op reply s') : s'.catalogue = s.catalogue := by
  cases h with
  | tabCreated => rfl
  | updateSubmitted =>
      rw [Store.catalogue_audited, Store.catalogue_withPlaces, Store.catalogue_withEmails]
      rfl
  | orderAdded allowed applied | orderRemoved allowed applied =>
      obtain ⟨_, _, _, hframe⟩ := applied.frame
      rw [hframe]
      rfl
  | _ => rfl

end Effect

end ShopTabs
