import ShopTabs.Proofs.Service.Alike
import ShopTabs.Proofs.Service.Rights
/-!
The list of a shop's tabs and the overview of one tab.  The list reads what belongs to its tabs for all of
them at once, puts it in order, and sorts it out by tab; an overview reads the rows of its own tab only.
Both show the same of every tab.
-/

namespace ShopTabs

/-! ### Rows of several tabs -/

theorem TabKey.isAmong_iff {key : TabKey} {shopId : Int} {tabIds : List Int} :
    key.isAmong shopId tabIds = true ↔ key.shopId = shopId ∧ key.tabId ∈ tabIds := by
  simp [isAmong]

theorem TabKey.eq_of_parts {key other : TabKey} (hshop : key.shopId = other.shopId)
    (htab : key.tabId = other.tabId) : key = other := by
  cases key
  cases other
  rw [TabKey.mk.injEq]
  exact ⟨hshop, htab⟩

/-- Of rows that were put in order together, those of one tab come in that order. -/
theorem rowsFor_mergeSort {α : Type} {le : α → α → Bool}
    (htrans : ∀ a b c, le a b = true → le b c = true → le a c = true)
    (htotal : ∀ a b, (le a b || le b a) = true)
    (hantisymm : ∀ a b, le a b = true → le b a = true → a = b) (tabId : Int)
    (rows : List (Int × α)) :
    rowsFor tabId (rows.mergeSort fun a b => le a.2 b.2) = (rowsFor tabId rows).mergeSort le := by
  have hall : (rows.mergeSort fun a b => le a.2 b.2).Pairwise fun a b => le a.2 b.2 = true :=
    List.pairwise_mergeSort (fun a b c => htrans a.2 b.2 c.2) (fun a b => htotal a.2 b.2) rows
  have hone : (rowsFor tabId (rows.mergeSort fun a b => le a.2 b.2)).Pairwise fun a b => le a b = true :=
    List.pairwise_map.mpr (hall.filter _)
  have hperm : (rowsFor tabId (rows.mergeSort fun a b => le a.2 b.2)).Perm
      ((rowsFor tabId rows).mergeSort le) :=
    (((List.mergeSort_perm rows _).filter _).map _).trans (List.mergeSort_perm _ le).symm
  exact hperm.eq_of_pairwise (fun a b _ _ => hantisymm a b) hone
    (List.pairwise_mergeSort htrans htotal _)

/-- Of the rows that were read for several tabs of a shop, those of one of the tabs. -/
theorem filter_isAmong {α : Type} (tabOf : α → TabKey) {key : TabKey} {tabIds : List Int}
    (hkey : key.tabId ∈ tabIds) (rows : List α) :
    ((rows.filter fun r => (tabOf r).isAmong key.shopId tabIds).filter fun r =>
      (tabOf r).tabId = key.tabId) = rows.filter fun r => tabOf r = key := by
  rw [List.filter_filter]
  apply List.filter_congr
  intro r _
  rw [Bool.eq_iff_iff, Bool.and_eq_true_iff, TabKey.isAmong_iff, decide_eq_true_eq, decide_eq_true_eq]
  constructor
  · rintro ⟨htab, hshop, _⟩
    exact TabKey.eq_of_parts hshop htab
  · intro hsame
    rw [hsame]
    exact ⟨rfl, rfl, hkey⟩

/-- Of what is found for rows, one tab has what is found for its rows. -/
theorem rowsFor_filterMap {α β : Type} (tabIdOf : α → Int) (find : α → Option β) (tabId : Int)
    (rows : List α) :
    rowsFor tabId (rows.filterMap fun r => (find r).map fun a => (tabIdOf r, a)) =
      (rows.filter (tabIdOf · = tabId)).filterMap find := by
  rw [rowsFor, List.filter_filterMap, List.map_filterMap, List.filterMap_filter]
  apply List.filterMap_congr
  intro r _
  by_cases hown : tabIdOf r = tabId
  · cases find r <;> simp [hown]
  · cases find r <;> simp [hown]

theorem rowsFor_map {α β : Type} (tabIdOf : α → Int) (value : α → β) (tabId : Int) (rows : List α) :
    rowsFor tabId (rows.map fun r => (tabIdOf r, value r)) =
      (rows.filter (tabIdOf · = tabId)).map value := by
  rw [rowsFor, List.filter_map, List.map_map]
  rfl

theorem getLast?_eq_head? {α : Type} {rows : List α} (h : rows.length ≤ 1) :
    rows.getLast? = rows.head? := by
  match rows, h with
  | [], _ => rfl
  | [_], _ => rfl

namespace Store

variable {s : Store} {key : TabKey} {tabIds : List Int}

/-! ### One tab of those that are read together -/

theorem rowsFor_emailRows (hkey : key.tabId ∈ tabIds) :
    rowsFor key.tabId (s.emailRows key.shopId tabIds) = s.sortedEmails key := by
  have hsorted := @rowsFor_mergeSort String (fun a b => decide (a ≤ b))
    (by simpa using fun a b c => String.le_trans) (by simpa using String.le_total)
    (by simpa using fun a b => String.le_antisymm) key.tabId
  rw [emailRows, hsorted, rowsFor_map, filter_isAmong Member.tab hkey]
  rfl

theorem rowsFor_locationRows (hkey : key.tabId ∈ tabIds) :
    rowsFor key.tabId (s.locationRows key.shopId tabIds) = s.locationViews key := by
  have hsorted := @rowsFor_mergeSort (Int × String) (fun a b => nameIdLe (a.2, a.1) (b.2, b.1))
    (fun _ _ _ => nameIdLe_trans) (fun _ _ => nameIdLe_total _ _)
    (fun _ _ hab hba => Prod.swap_injective (nameIdLe_antisymm hab hba)) key.tabId
  let place (shopId id : Int) : Option (Int × String) :=
    (s.locations.find? fun l => l.shopId = shopId && l.id = id).map fun l => (l.id, l.name)
  have hfound := rowsFor_filterMap (·.tab.tabId) (fun m : Member Int => place m.tab.shopId m.key) key.tabId
    (s.places.filter (·.tab.isAmong key.shopId tabIds))
  have hown : (s.places.filter (·.tab = key)).filterMap (fun m => place m.tab.shopId m.key) =
      (s.placesOf key).filterMap (place key.shopId) := by
    rw [placesOf, List.filterMap_map]
    apply List.filterMap_congr
    intro m hm
    rw [of_decide_eq_true (List.mem_filter.mp hm).2]
    rfl
  rw [filter_isAmong Member.tab hkey, hown] at hfound
  simp only [place, Option.map_map] at hfound
  rw [locationRows, hsorted, locationViews, ← hfound]
  rfl

/-- No tab has two revisions, so the last that is read for it is the one that waits. -/
theorem getLast?_pendingRows (hs : s.IsSound) (hkey : key.tabId ∈ tabIds) :
    (rowsFor key.tabId (s.pendingRows key.shopId tabIds)).getLast? = s.pending? key := by
  have hone : (s.pending.filter (·.tab = key)).length ≤ 1 := hs.length_pending key
  rw [pendingRows, rowsFor_map, filter_isAmong PendingUpdate.tab hkey, List.map_id',
    getLast?_eq_head? hone, pending?_eq_head?]
  rfl

/-- A tab is among those with an unpaid bill if one of its own bills is unpaid. -/
theorem contains_openBalances (hkey : key.tabId ∈ tabIds) :
    (s.openBalances key.shopId tabIds).contains key.tabId = (s.billsOf key).any (!·.isPaid) := by
  rw [Bool.eq_iff_iff, List.contains_iff_mem, openBalances, mem_distinct, List.mem_map, List.any_eq_true]
  constructor
  · rintro ⟨b, hb, hid⟩
    obtain ⟨hmem, hopen⟩ := List.mem_filter.mp hb
    obtain ⟨hamong, hopen⟩ := Bool.and_eq_true_iff.mp hopen
    have hown := TabKey.eq_of_parts (TabKey.isAmong_iff.mp hamong).1 hid
    exact ⟨b, List.mem_filter.mpr ⟨hmem, decide_eq_true hown⟩, hopen⟩
  · rintro ⟨b, hb, hopen⟩
    obtain ⟨hmem, hown⟩ := List.mem_filter.mp hb
    have hown := of_decide_eq_true hown
    have hamong : b.tab.isAmong key.shopId tabIds = true := by
      rw [hown]
      exact TabKey.isAmong_iff.mpr ⟨rfl, hkey⟩
    exact ⟨b, List.mem_filter.mpr ⟨hmem, Bool.and_eq_true_iff.mpr ⟨hamong, hopen⟩⟩, by rw [hown]⟩

/-- Whether a tab has an unpaid bill is seen from the bills that are shown. -/
theorem any_billViews (key : TabKey) :
    (s.billViews key).any (fun b => !b.bill.isPaid) = (s.billsOf key).any (!·.isPaid) := by
  have hshown : (s.billViews key).any (fun b => !b.bill.isPaid) = (s.sortedBills key).any (!·.isPaid) := by
    rw [← map_bill_billViews, List.any_map]
    rfl
  rw [hshown]
  exact (List.mergeSort_perm _ _).any_eq

theorem mem_tabsOf {shopId : Int} {t : Tab} : t ∈ s.tabsOf shopId ↔ t ∈ s.tabs ∧ t.shopId = shopId := by
  rw [tabsOf, (List.mergeSort_perm _ _).mem_iff, List.mem_filter, decide_eq_true_eq]

theorem perm_tabsOf (s : Store) (shopId : Int) :
    (s.tabsOf shopId).Perm (s.tabs.filter (·.shopId = shopId)) := List.mergeSort_perm _ _

/-- The tabs of a shop come in the order of their numbers. -/
theorem pairwise_tabsOf (hids : (s.tabs.map (·.id)).Nodup) (shopId : Int) :
    (s.tabsOf shopId).Pairwise fun t u => t.id < u.id := by
  have hsorted := @List.pairwise_mergeSort Tab (fun a b => decide (a.id ≤ b.id))
    (by simpa using fun a b c => Int.le_trans) (by simpa using fun (a b : Tab) => Int.le_total a.id b.id)
    (s.tabs.filter (·.shopId = shopId))
  have hdistinct : ((s.tabsOf shopId).map (·.id)).Nodup :=
    ((s.perm_tabsOf shopId).map _).nodup_iff.mpr (hids.sublist (List.filter_sublist.map _))
  refine (hsorted.and (List.pairwise_map.mp hdistinct)).imp ?_
  rintro t u ⟨hle, hne⟩
  exact Int.lt_iff_le_and_ne.mpr ⟨of_decide_eq_true hle, hne⟩

/-- The list shows of every tab of the shop what its overview shows. -/
theorem tabViews_eq (hs : s.IsSound) (shopId : Int) :
    s.tabViews shopId = (s.tabsOf shopId).map fun t => (s.overview t).view := by
  rw [tabViews]
  apply List.map_congr_left
  intro t ht
  obtain ⟨_, rfl⟩ := mem_tabsOf.mp ht
  have hkey : t.key.tabId ∈ (s.tabsOf t.shopId).map (·.id) := List.mem_map_of_mem ht
  rw [overview, tabView, any_billViews, ← rowsFor_emailRows hkey, ← rowsFor_locationRows hkey,
    ← getLast?_pendingRows hs hkey, ← contains_openBalances hkey]
  rfl

end Store

/-! ### The list and the overviews -/

/-- An object without the field of a name. -/
def Json.without (name : String) : Json → Json
  | .obj fields => .obj (fields.filter (·.1 ≠ name))
  | value => value

/-- An overview that is written out without its bills is the tab as it stands in the list. -/
theorem Overview.toJson_without_bills (amount : Money → Json) (o : Overview) :
    (o.toJson amount).without "bills" = o.view.toJson amount := by
  simp [Json.without, Overview.toJson, TabView.toJson, TabView.fields, Tab.fields,
    TabConfig.keptFields, TabConfig.fields]

namespace Service

variable {env : Surroundings} {caller : Caller} {s : Store}

/-- Whoever may list a shop by the standing rule may see each of its tabs. -/
theorem mayRead_of_authorizeShop {shopId : Int} {shop : Shop} (hrule : env.authorizer = standingAuthorizer)
    (hallowed : authorizeShop env caller shopId .read s = .ok shop) (t : Tab) :
    env.authorizer caller.principal ⟨shopId, shop.ownerId, some t.id, some t.ownerId⟩ .read = true := by
  obtain ⟨_, _, hrights⟩ := authorizeShop_eq_ok.mp hallowed
  rw [hrule] at hrights ⊢
  obtain ⟨hactive, hadmin | howner | ⟨hcreate, _⟩ | ⟨_, hsome, _⟩⟩ := standingAuthorizer_iff.mp hrights
  · exact standingAuthorizer_iff.mpr ⟨hactive, Or.inl hadmin⟩
  · exact standingAuthorizer_iff.mpr ⟨hactive, Or.inr (Or.inl howner)⟩
  · cases hcreate
  · exact absurd rfl hsome

theorem authorizeTab_of_mayRead {shop : Shop} {t : Tab}
    (hallowed : authorizeShop env caller t.shopId .read s = .ok shop) (hword : isWord t.id = true)
    (hfound : s.tab? t.key = some t)
    (hmay : env.authorizer caller.principal
      ⟨t.shopId, shop.ownerId, some t.id, some t.ownerId⟩ .read = true) :
    authorizeTab env caller t.key .read s = .ok t := by
  obtain ⟨hshopWord, hshop, _⟩ := authorizeShop_eq_ok.mp hallowed
  exact authorizeTab_eq_ok.mpr ⟨hshopWord, hword, hfound, shop, hshop, hmay⟩

theorem showTab_of_allowed {key : TabKey} {t : Tab} (hallowed : authorizeTab env caller key .read s = .ok t) :
    (Submission.perform env caller (.plain (.showTab key)) s).result = .ok (.overview (s.overview t)) := by
  rw [Submission.perform_of_read rfl, Operation.perform, Operation.attempt, hallowed]
  rfl

theorem listTabs_of_allowed {shopId : Int} {shop : Shop}
    (hallowed : authorizeShop env caller shopId .read s = .ok shop) :
    (Submission.perform env caller (.plain (.listTabs shopId)) s).result = .ok (.tabs (s.tabViews shopId)) := by
  rw [Submission.perform_of_read rfl, Operation.perform, Operation.attempt, hallowed]
  rfl

end Service

/-- Whoever may list the tabs of a shop is shown, after any history, exactly what the overviews of its tabs
show, in the order of their numbers and without their bills.  He may see each overview that the rule in force
lets him see, and by the standing rule these are all. -/
theorem listed_as_overviews {s : Store} (hs : s.IsSound) (history : List Service.Request)
    (env : Surroundings) (caller : Caller)
    (hwords : ∀ t ∈ (s.run history).tabs, isWord t.id = true) {shopId : Int} {shop : Shop}
    (hallowed : Service.authorizeShop env caller shopId .read (s.run history) = .ok shop) :
    let reached := s.run history
    let mayRead := fun t : Tab =>
      env.authorizer caller.principal ⟨shopId, shop.ownerId, some t.id, some t.ownerId⟩ .read = true
    ∃ (tabs : List Tab) (overviews : List Overview),
      tabs.Perm (reached.tabs.filter (·.shopId = shopId)) ∧ tabs.Pairwise (fun t u => t.id < u.id) ∧
      List.Forall₂ (fun t o => o.view.tab = t ∧ (mayRead t →
        (Submission.perform env caller (.plain (.showTab t.key)) reached).result = .ok (.overview o)))
        tabs overviews ∧
      (env.authorizer = standingAuthorizer → ∀ t, mayRead t) ∧
      (Submission.perform env caller (.plain (.listTabs shopId)) reached).result =
        .ok (.tabs (overviews.map (·.view))) ∧
      ∀ amount, (Reply.tabs (overviews.map (·.view))).toJson amount =
        .arr (overviews.map fun o => ((Reply.overview o).toJson amount).without "bills") := by
  intro reached mayRead
  have hsound : reached.IsSound := hs.run history
  refine ⟨reached.tabsOf shopId, (reached.tabsOf shopId).map reached.overview,
    reached.perm_tabsOf shopId, Store.pairwise_tabsOf hsound.tabIds shopId, ?_,
    fun hrule => Service.mayRead_of_authorizeShop hrule hallowed, ?_, ?_⟩
  · rw [List.forall₂_map_right_iff, List.forall₂_same]
    intro t ht
    obtain ⟨hmem, rfl⟩ := Store.mem_tabsOf.mp ht
    have hfound : reached.tab? t.key = some t := Store.tab?_eq_some hsound.tabIds hmem
    refine ⟨rfl, fun hmay => ?_⟩
    exact Service.showTab_of_allowed
      (Service.authorizeTab_of_mayRead hallowed (hwords t hmem) hfound hmay)
  · rw [Service.listTabs_of_allowed hallowed, Store.tabViews_eq hsound, List.map_map]
    rfl
  · intro amount
    rw [Reply.toJson, List.map_map]
    exact congrArg Json.arr (List.map_congr_left fun o _ => (o.toJson_without_bills amount).symm)

/-- A shop with two tabs is shown both, each as its overview shows it. -/
theorem listed_as_overviews_twoTabs :
    let reached := Sample.store.run [Sample.openTab 7, Sample.openTab 7, Sample.order 5]
    let perform := fun op : Operation =>
      Submission.perform (Sample.order 5).env (Sample.order 5).caller (.plain op) reached
    ∃ first second, (perform (.listTabs 1)).result = .ok (.tabs [first.view, second.view]) ∧
      (perform (.showTab ⟨1, 1⟩)).result = .ok (.overview first) ∧
      (perform (.showTab ⟨1, 2⟩)).result = .ok (.overview second) := by
  intro reached perform
  have hallowed : Service.authorizeShop (Sample.order 5).env (Sample.order 5).caller 1 .read reached =
      .ok ⟨1, 2, "Campus Cafe"⟩ :=
    Service.authorizeShop_eq_ok.mpr ⟨by decide, by decide +kernel, by decide +kernel⟩
  obtain ⟨tabs, overviews, hperm, hsorted, hshown, hmay, hlisted, _⟩ :=
    listed_as_overviews Sample.store_isSound [Sample.openTab 7, Sample.openTab 7, Sample.order 5]
      (Sample.order 5).env (Sample.order 5).caller (by decide +kernel) hallowed
  have hkeys : tabs.map Tab.key = [⟨1, 1⟩, ⟨1, 2⟩] := by
    have hrows : (reached.tabs.filter (·.shopId = 1)).map Tab.key = [⟨1, 1⟩, ⟨1, 2⟩] := by decide +kernel
    refine ((hperm.map Tab.key).trans (.of_eq hrows)).eq_of_pairwise ?_
      (List.pairwise_map.mpr hsorted : (tabs.map Tab.key).Pairwise fun k l => k.tabId < l.tabId) (by decide)
    intro k l _ _ hkl hlk
    omega
  obtain ⟨t, _, rfl, ht, hrest⟩ := List.map_eq_cons_iff.mp hkeys
  obtain ⟨u, _, rfl, hu, hnil⟩ := List.map_eq_cons_iff.mp hrest
  obtain rfl := List.map_eq_nil_iff.mp hnil
  obtain ⟨o, others, ⟨_, hfirst⟩, hothers, rfl⟩ := List.forall₂_cons_left_iff.mp hshown
  obtain ⟨p, none, ⟨_, hsecond⟩, hnone, rfl⟩ := List.forall₂_cons_left_iff.mp hothers
  obtain rfl := List.forall₂_nil_left_iff.mp hnone
  have hfirst := hfirst (hmay rfl t)
  have hsecond := hsecond (hmay rfl u)
  rw [ht] at hfirst
  rw [hu] at hsecond
  exact ⟨o, p, hlisted, hfirst, hsecond⟩

end ShopTabs
