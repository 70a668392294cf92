import ShopTabs.Proofs.Form.Settings
import ShopTabs.Proofs.Service.Listing
import ShopTabs.Proofs.Service.Rights
/-!
What is opened is what is shown.  A new tab has a number that no tab has had, so nothing is kept under its
key yet; it is opened with all that its form gives or not at all, and its overview shows just that.
-/

namespace ShopTabs

/-! ### Rows under the keys of tabs -/

/-- Rows that belong to a tab are kept under the key of one that is there. -/
def Store.OwnsRows (s : Store) : Prop :=
  ∀ key, s.hasTab key = false → s.rowsOf key = ⟨[], [], [], [], [], [], []⟩

namespace Effect

variable {env : Surroundings} {caller : Caller} {s s' : Store} {op : Operation} {reply : Reply}
  {key : TabKey}

/-- A tab that is there stays. -/
theorem hasTab (h : Effect env caller s op reply s') (hs : s.IsSound) (htab : s.hasTab key = true) :
    s'.hasTab key = true := by
  obtain ⟨t, ht, hkey⟩ := List.any_eq_true.mp htab
  obtain ⟨t', ht', hgoes⟩ := h.tabsAfter.exists_goesOn hs.tabIds ht
  exact List.any_eq_true.mpr ⟨t', ht', decide_eq_true (hgoes.key.trans (of_decide_eq_true hkey))⟩

/-- The tab that an operation was carried out on is there afterwards. -/
theorem hasTab_target (h : Effect env caller s op reply s') (hs : s.IsSound)
    (htarget : op.target? reply = some key) : s'.hasTab key = true := by
  have hthere : ∀ {action : Action} {tab : Tab},
      Service.authorizeTab env caller key action s = .ok tab → s'.hasTab key = true := by
    intro action tab hallowed
    obtain ⟨_, _, hfound, _⟩ := Service.authorizeTab_eq_ok.mp hallowed
    exact h.hasTab hs (Store.hasTab_of_tab? hfound)
  cases h with
  | @tabCreated shopId form shop tab allowed opened owned =>
      have hkey : tab.key = key := by
        rw [opened] at htarget ⊢
        exact Option.some.inj htarget
      exact List.any_eq_true.mpr ⟨tab, by simp, decide_eq_true hkey⟩
  | tabsListed => cases htarget
  | updateSubmitted allowed | tabApproved allowed | tabClosed allowed | billPaid _ allowed
  | orderAdded allowed | orderRemoved allowed | verificationListSet allowed | tabShown allowed =>
      cases htarget
      exact hthere allowed

theorem ownsRows (h : Effect env caller s op reply s') (hs : s.IsSound) (howns : s.OwnsRows) :
    s'.OwnsRows := by
  intro key hkey
  have hother : op.target? reply ≠ some key := by
    intro htarget
    rw [h.hasTab_target hs htarget] at hkey
    cases hkey
  have hbefore : s.hasTab key = false := by
    rw [Bool.eq_false_iff]
    intro htab
    rw [h.hasTab hs htab] at hkey
    cases hkey
  rw [h.rowsOf_eq hother]
  exact howns key hbefore

end Effect

namespace Store

variable {s : Store} {key : TabKey}

/-- After any history rows are kept under the keys of tabs that are there. -/
theorem OwnsRows.run (howns : s.OwnsRows) (hs : s.IsSound) (history : List Service.Request) :
    (s.run history).OwnsRows := by
  have hboth : (s.run history).IsSound ∧ (s.run history).OwnsRows := by
    refine run_invariant (P := fun s => s.IsSound ∧ s.OwnsRows) (fun r s hs => ?_) ⟨hs, howns⟩ history
    obtain ⟨hs, howns⟩ := hs
    refine ⟨hs.perform r.env r.caller r.ask, ?_⟩
    rcases r.ask.perform_cases r.env r.caller s with ⟨_, hstore⟩ | ⟨op, reply, _, _, heffect⟩
    · show (r.ask.perform r.env r.caller s).store.OwnsRows
      rw [hstore]
      exact howns
    · exact heffect.ownsRows hs howns
  exact hboth.2

/-! ### Sets as they are shown -/

/-- The verification list of a tab is shown in strict order. -/
theorem pairwise_sortedEmails (hs : s.emails.Nodup) :
    (s.sortedEmails key).Pairwise (· < ·) := by
  refine (@pairwise_mergeSort_of_nodup String (fun a b => decide (a ≤ b))
    (by simpa using fun a b c => String.le_trans) (by simpa using String.le_total) _
    (Membership.nodup_keysOf hs)).imp ?_
  rintro a b ⟨hle, hne⟩
  by_contra hnot
  exact hne (String.le_antisymm (of_decide_eq_true hle) (String.not_lt.mp hnot))

theorem mem_locationViews (hs : (s.locations.map (·.id)).Nodup) {id : Int} {name : String} :
    (id, name) ∈ s.locationViews key ↔
      id ∈ s.placesOf key ∧ (⟨id, key.shopId, name⟩ : Location) ∈ s.locations := by
  rw [locationViews, List.mem_mergeSort, List.mem_filterMap]
  constructor
  · rintro ⟨place, hplace, hview⟩
    obtain ⟨l, hfound, hl⟩ := Option.map_eq_some_iff.mp hview
    have hkey := List.find?_some hfound
    simp only [Bool.and_eq_true, decide_eq_true_eq] at hkey
    obtain ⟨rfl, rfl⟩ := Prod.mk.inj hl
    refine ⟨hkey.2 ▸ hplace, ?_⟩
    rw [← hkey.1]
    exact List.mem_of_find?_eq_some hfound
  · rintro ⟨hplace, hl⟩
    refine ⟨id, hplace, ?_⟩
    cases hfound : s.locations.find? fun l => l.shopId = key.shopId && l.id = id with
    | none => exact absurd (by simp) (List.find?_eq_none.mp hfound _ hl)
    | some l =>
        have hkey := List.find?_some hfound
        simp only [Bool.and_eq_true, decide_eq_true_eq] at hkey
        have hsame : l = ⟨id, key.shopId, name⟩ :=
          List.inj_on_of_nodup_map hs (List.mem_of_find?_eq_some hfound) hl hkey.2
        rw [hsame]
        rfl

/-- A location is looked up under its own number. -/
theorem id_of_locationView {shopId id : Int} {view : Int × String}
    (h : (s.locations.find? fun l => l.shopId = shopId && l.id = id).map (fun l => (l.id, l.name)) =
      some view) : view.1 = id := by
  obtain ⟨l, hfound, rfl⟩ := Option.map_eq_some_iff.mp h
  have hkey := List.find?_some hfound
  simp only [Bool.and_eq_true, decide_eq_true_eq] at hkey
  exact hkey.2

/-- The locations of a tab are shown in the strict order of their names and numbers. -/
theorem pairwise_locationViews (hs : s.places.Nodup) :
    (s.locationViews key).Pairwise fun a b => NameIdLt (a.2, a.1) (b.2, b.1) := by
  refine @pairwise_nameIdLt _ Prod.snd Prod.fst _ ?_
  rw [((List.mergeSort_perm _ _).map Prod.fst).nodup_iff, List.map_filterMap]
  refine (Membership.nodup_keysOf hs).filterMap ?_
  intro id id' n hn hn'
  obtain ⟨view, hview, rfl⟩ := Option.map_eq_some_iff.mp hn
  obtain ⟨view', hview', hsame⟩ := Option.map_eq_some_iff.mp hn'
  rw [← id_of_locationView hview, ← id_of_locationView hview', hsame]

/-! ### A tab that is opened -/

/-- The store after a tab was opened with all that its form gives. -/
def opened (s : Store) (caller : Caller) (t : Tab) (form : Form.NewTab) : Store :=
  (((s.withTab t).withEmails t.key (some form.emails)).withPlaces t.key
    (some form.locationIds)).audited caller t.key .tabCreated

/-- Locations that are not the shop's cannot be a tab's. -/
theorem syncPlaces_of_foreign {wanted : List Int}
    (hwords : isWord key.shopId = true ∧ isWord key.tabId = true)
    (hids : ∀ id ∈ wanted, isWord id = true) (htab : s.hasTab key = true)
    (hforeign : ¬ ∀ id ∈ Membership.missing s.places key wanted, s.hasLocation key.shopId id = true) :
    s.syncPlaces key wanted = .error .constraint := by
  have hkey : requireWords key = .ok () := requireWords_eq_ok.mpr hwords
  have hwanted : wanted.forM requireWord = .ok () :=
    forM_eq_ok.mpr fun id hid => requireWord_eq_ok.mpr (hids id hid)
  rw [← List.all_eq_true, Bool.not_eq_true] at hforeign
  simp [syncPlaces, hkey, hwanted, htab, hforeign, ensure, bind, Except.bind]

end Store

namespace Service

variable {env : Surroundings} {caller : Caller} {shopId : Int} {shop : Shop} {form : Form.NewTab}
  {s : Store}

/-- The tab that a caller opens by a form. -/
def tabOf (s : Store) (caller : Caller) (shopId : Int) (form : Form.NewTab) : Tab :=
  newTab s shopId (ownerOf caller form) form.config.kept

/-- What a form for a new tab refers to is there: its owner and its locations. -/
structure Refers (s : Store) (caller : Caller) (shopId : Int) (form : Form.NewTab) : Prop where
  owner : s.hasUser (ownerOf caller form) = true
  locations : ∀ id ∈ form.locationIds, s.hasLocation shopId id = true

/-- The numbers that are written when a tab is opened have at most 64 bits. -/
structure OpensInWords (s : Store) (caller : Caller) (shopId : Int) (form : Form.NewTab) : Prop where
  shop : isWord shopId = true
  tab : isWord (nextId (s.tabs.map (·.id))) = true
  owner : isWord (ownerOf caller form) = true
  locations : ∀ id ∈ form.locationIds, isWord id = true

theorem hasTab_tabOf (s : Store) (caller : Caller) (shopId : Int) (form : Form.NewTab) :
    s.hasTab (tabOf s caller shopId form).key = false := by
  rw [Store.hasTab, List.any_eq_false]
  intro t ht
  rw [decide_eq_true_eq]
  exact (newTab_key_ne ht _ _ _).symm

/-- A tab is opened if what its form refers to is there, and otherwise a constraint of the store is
broken. -/
theorem createTab_of_refers (hallowed : authorizeShop env caller shopId .create s = .ok shop)
    (hknown : caller.IsKnown s) (hwords : OpensInWords s caller shopId form)
    (hfits : form.config.kept.fitsTab = true) (hrefers : Refers s caller shopId form) :
    createTab env caller shopId form s = .ok ((tabOf s caller shopId form).id,
      s.opened caller (tabOf s caller shopId form) form) := by
  simp only [createTab, bind_eq_ok, pure_eq_ok, Prod.exists, addTab_eq_ok, Store.syncEmails_eq_ok,
    Store.syncPlaces_eq_ok, record_eq_ok]
  have htab : (s.withTab (tabOf s caller shopId form)).hasTab (tabOf s caller shopId form).key = true :=
    List.any_eq_true.mpr ⟨_, List.mem_append_right _ (List.mem_singleton_self _), decide_eq_true rfl⟩
  refine ⟨shop, hallowed, _, _, ⟨hwords.owner, hrefers.owner, hfits, rfl, rfl⟩, _, _,
    ⟨⟨hwords.shop, hwords.tab⟩, Or.inr htab, rfl, rfl⟩, _, _,
    ⟨⟨hwords.shop, hwords.tab⟩, hwords.locations, Or.inr htab, ?_, rfl, rfl⟩, _, ⟨hknown, rfl⟩, rfl⟩
  exact fun id hid => hrefers.locations id (Membership.mem_missing.mp hid).1

theorem createTab_of_not_refers (hallowed : authorizeShop env caller shopId .create s = .ok shop)
    (hwords : OpensInWords s caller shopId form) (hfits : form.config.kept.fitsTab = true)
    (howns : s.OwnsRows) (hrefers : ¬ Refers s caller shopId form) :
    createTab env caller shopId form s = .error .constraint := by
  by_cases howner : s.hasUser (ownerOf caller form) = true
  · let t := tabOf s caller shopId form
    have hkey : isWord t.key.shopId = true ∧ isWord t.key.tabId = true := ⟨hwords.shop, hwords.tab⟩
    have htab : (s.withTab t).hasTab t.key = true :=
      List.any_eq_true.mpr ⟨t, List.mem_append_right _ (List.mem_singleton_self t), decide_eq_true rfl⟩
    have hadded : addTab shopId (ownerOf caller form) form.config.kept s = .ok (t.key, s.withTab t) :=
      addTab_eq_ok.mpr ⟨hwords.owner, howner, hfits, rfl, rfl⟩
    have hemails := Store.syncEmails_eq_ok.mpr
      ⟨hkey, Or.inr htab, rfl, (rfl : (s.withTab t).withEmails t.key (some form.emails) = _)⟩
    have hnone : Membership.keysOf s.places t.key = [] :=
      congrArg (List.map Member.key) (congrArg TabRows.places (howns t.key (hasTab_tabOf ..)))
    have hforeign : ¬ ∀ id ∈ Membership.missing s.places t.key form.locationIds,
        s.hasLocation shopId id = true := by
      intro hall
      refine hrefers ⟨howner, fun id hid => hall id (Membership.mem_missing.mpr ⟨hid, ?_⟩)⟩
      rw [hnone]
      exact List.not_mem_nil
    have hplaces : ((s.withTab t).withEmails t.key (some form.emails)).syncPlaces t.key
        form.locationIds = .error .constraint :=
      Store.syncPlaces_of_foreign hkey hwords.locations htab hforeign
    simp only [createTab, hallowed, hadded, hemails, hplaces, bind, Except.bind]
  · have hword : requireWord (ownerOf caller form) = .ok () := requireWord_eq_ok.mpr hwords.owner
    simp [createTab, hallowed, addTab, hword, howner, ensure, bind, Except.bind]

end Service

/-! ### What is shown of it -/

/-- An overview shows a tab as it was opened by a form: it waits for approval, with the settings, the
addresses and the locations of the form, each set in its order, and with nothing beyond. -/
structure Overview.ShowsOpened (o : Overview) (s : Store) (key : TabKey) (ownerId : Int)
    (form : Form.NewTab) : Prop where
  tab : o.view.tab = ⟨key.tabId, key.shopId, ownerId, .awaitingApproval, form.config.kept⟩
  settings : form.config.kept.Keeps form.config
  pending : o.view.pending = none
  balance : o.view.hasOpenBalance = false
  bills : o.bills = []
  emails : ∀ a, a ∈ o.view.emails ↔ a ∈ form.emails
  normal : ∀ a ∈ form.emails, Form.IsNormalEmail a
  emailOrder : o.view.emails.Pairwise (· < ·)
  locations : o.view.locations.map (·.1) ⊆ form.locationIds ∧ form.locationIds ⊆ o.view.locations.map (·.1)
  names : ∀ l ∈ o.view.locations, (⟨l.1, key.shopId, l.2⟩ : Location) ∈ s.locations
  locationOrder : o.view.locations.Pairwise fun a b => NameIdLt (a.2, a.1) (b.2, b.1)

namespace Store

variable {s : Store} {caller : Caller} {t : Tab} {form : Form.NewTab}

theorem tab?_opened (hnew : s.hasTab t.key = false) :
    (s.opened caller t form).tab? t.key = some t := by
  have hnone : s.tabs.find? (·.key = t.key) = none := List.find?_eq_none.mpr (List.any_eq_false.mp hnew)
  show (s.tabs ++ [t]).find? (·.key = t.key) = some t
  rw [List.find?_append, hnone, Option.none_or, List.find?_singleton, decide_eq_true rfl]
  rfl

theorem overview_opened (hs : s.IsSound) (howns : s.OwnsRows) (hnew : s.hasTab t.key = false)
    (hstatus : t.status = .awaitingApproval) (hconfig : t.config = form.config.kept)
    (hsubmitted : Form.IsSubmitted form.config) (hnormal : ∀ a ∈ form.emails, Form.IsNormalEmail a)
    (hlocations : ∀ id ∈ form.locationIds, s.hasLocation t.shopId id = true) :
    ((s.opened caller t form).overview t).ShowsOpened s t.key t.ownerId form := by
  have hrows := howns t.key hnew
  have hpending : s.pending.filter (·.tab = t.key) = [] := congrArg TabRows.pending hrows
  have hbills : s.bills.filter (·.tab = t.key) = [] := congrArg TabRows.bills hrows
  have hviews : (s.opened caller t form).billViews t.key = [] := by
    have hnone : (s.opened caller t form).billsOf t.key = [] := hbills
    rw [billViews, sortedBills, hnone, List.mergeSort_nil, List.map_nil]
  have hplaces : ∀ id, id ∈ (s.opened caller t form).placesOf t.key ↔ id ∈ form.locationIds :=
    fun id => Membership.mem_keysOf_replace
  have hviewed : ∀ id name, (id, name) ∈ (s.opened caller t form).locationViews t.key ↔
      id ∈ (s.opened caller t form).placesOf t.key ∧ (⟨id, t.shopId, name⟩ : Location) ∈ s.locations :=
    fun id name => @mem_locationViews (s.opened caller t form) t.key hs.catalogue.locations id name
  refine
    { tab := ?_
      settings := hsubmitted.keeps
      pending := ?_
      balance := ?_
      bills := hviews
      emails := fun a => List.mem_mergeSort.trans Membership.mem_keysOf_replace
      normal := hnormal
      emailOrder := pairwise_sortedEmails (Membership.nodup_replace hs.emails)
      locations := ⟨?_, ?_⟩
      names := fun l hl => ((hviewed _ _).mp hl).2
      locationOrder := pairwise_locationViews (Membership.nodup_replace hs.places) }
  · show t = _
    rw [← hstatus, ← hconfig]
    rfl
  · show s.pending.find? (·.tab = t.key) = none
    rw [← List.head?_filter, hpending]
    rfl
  · show ((s.opened caller t form).billViews t.key).any (fun b => !b.bill.isPaid) = false
    rw [hviews]
    rfl
  · intro id hid
    obtain ⟨⟨_, name⟩, hl, rfl⟩ := List.mem_map.mp hid
    exact (hplaces _).mp ((hviewed _ _).mp hl).1
  · intro id hid
    obtain ⟨⟨n, shopId, name⟩, hl, hkey⟩ := List.any_eq_true.mp (hlocations id hid)
    simp only [Bool.and_eq_true, decide_eq_true_eq] at hkey
    obtain ⟨rfl, rfl⟩ := hkey
    exact List.mem_map.mpr ⟨(n, name), (hviewed n name).mpr ⟨(hplaces n).mpr hid, hl⟩, rfl⟩

end Store

namespace Service

variable {env : Surroundings} {caller : Caller} {shopId : Int} {shop : Shop} {form : Form.NewTab}
  {s : Store} {data : Json}

theorem refers_iff (hknown : caller.IsKnown s) :
    Refers s caller shopId form ↔
      (∀ id ∈ form.locationIds, s.hasLocation shopId id = true) ∧
        (caller.principal.role = .admin → ∀ id ∈ form.ownerId, s.hasUser id = true) := by
  have howner : s.hasUser (ownerOf caller form) = true ↔
      (caller.principal.role = .admin → ∀ id ∈ form.ownerId, s.hasUser id = true) := by
    rw [ownerOf]
    by_cases hadmin : caller.principal.role = .admin
    · cases form.ownerId with
      | none => simp [hadmin, hknown.2]
      | some id => simp [hadmin]
    · simp [hadmin, hknown.2]
  rw [← howner]
  exact ⟨fun h => ⟨h.locations, h.owner⟩, fun h => ⟨h.2, h.1⟩⟩

/-- Whoever is active may open a tab by the standing rule. -/
theorem authorizeShop_create (hrule : env.authorizer = standingAuthorizer)
    (hactive : caller.principal.active = true) (hword : isWord shopId = true)
    (hshop : s.shop? shopId = some shop) : authorizeShop env caller shopId .create s = .ok shop := by
  refine authorizeShop_eq_ok.mpr ⟨hword, hshop, ?_⟩
  rw [hrule]
  exact standingAuthorizer_iff.mpr ⟨hactive, Or.inr (Or.inr (Or.inl ⟨rfl, rfl⟩))⟩

/-- What the submission of a new tab comes to. -/
theorem perform_createTab (hread : Form.NewTab.read env.shortening data = .ok form) (howns : s.OwnsRows)
    (hallowed : authorizeShop env caller shopId .create s = .ok shop)
    (hknown : caller.IsKnown s) (hwords : OpensInWords s caller shopId form) :
    (Refers s caller shopId form → (Submission.createTab shopId data).perform env caller s =
      ⟨.ok (.created (tabOf s caller shopId form).id),
        s.opened caller (tabOf s caller shopId form) form⟩) ∧
    (¬ Refers s caller shopId form →
      (Submission.createTab shopId data).perform env caller s = ⟨.error .conflict, s⟩) := by
  have hfits := (Form.NewTab.isSubmitted hread).fitsTab
  have hasked : (Submission.createTab shopId data).read env.shortening =
      .ok (.createTab shopId form) := by
    rw [Submission.read, hread]
    rfl
  constructor
  · intro hrefers
    rw [Submission.perform_of_read hasked, Operation.perform, Operation.attempt,
      createTab_of_refers hallowed hknown hwords hfits hrefers]
    rfl
  · intro hrefers
    rw [Submission.perform_of_read hasked, Operation.perform, Operation.attempt,
      createTab_of_not_refers hallowed hwords hfits howns hrefers]
    rfl

/-- Whoever may see a tab that was just opened is shown what was submitted. -/
theorem showTab_opened {reading : Surroundings} {reader : Caller} (hs : s.IsSound) (howns : s.OwnsRows)
    (hshop : s.shop? shopId = some shop) (hread : Form.NewTab.read env.shortening data = .ok form)
    (hwords : OpensInWords s caller shopId form) (hrefers : Refers s caller shopId form)
    (hmay : reading.authorizer reader.principal ⟨shopId, shop.ownerId,
      some (tabOf s caller shopId form).id, some (ownerOf caller form)⟩ .read = true) :
    ∃ o, ((Submission.plain (.showTab (tabOf s caller shopId form).key)).perform reading reader
        (s.opened caller (tabOf s caller shopId form) form)).result = .ok (.overview o) ∧
      o.ShowsOpened s (tabOf s caller shopId form).key (ownerOf caller form) form := by
  have hnew := hasTab_tabOf s caller shopId form
  have hallowed : authorizeTab reading reader (tabOf s caller shopId form).key .read
      (s.opened caller (tabOf s caller shopId form) form) = .ok (tabOf s caller shopId form) :=
    authorizeTab_eq_ok.mpr ⟨hwords.shop, hwords.tab, Store.tab?_opened hnew, shop, hshop, hmay⟩
  exact ⟨_, showTab_of_allowed hallowed, Store.overview_opened hs howns hnew rfl rfl
    (Form.NewTab.isSubmitted hread) (Form.NewTab.emails_normal hread) hrefers.locations⟩

end Service

/-- Whoever is active can submit data for a new tab of a shop, in whatever state a history has left the store.
The tab is opened exactly if every location that is given is the shop's and, where an administrator names an
owner, there is such a person; otherwise the submission is at odds with what is stored and leaves it as it
is.  The number of the tab is above those of all tabs that are there.  Whoever may see the tab is shown what
was submitted, each setting as it is kept and each set in its order, and nothing beyond. -/
theorem opened_as_shown {s : Store} (hs : s.IsSound) (howns : s.OwnsRows)
    (history : List Service.Request) (env : Surroundings) (caller : Caller) {shopId : Int} {shop : Shop}
    {data : Json} {form : Form.NewTab} (hrule : env.authorizer = standingAuthorizer)
    (hactive : caller.principal.active = true) (hknown : caller.IsKnown (s.run history))
    (hshop : (s.run history).shop? shopId = some shop) (hread : Form.NewTab.read env.shortening data = .ok form)
    (hwords : Service.OpensInWords (s.run history) caller shopId form) :
    let reached := s.run history
    let outcome := (Submission.createTab shopId data).perform env caller reached
    let owner := if caller.principal.role = .admin then form.ownerId.getD caller.principal.id
      else caller.principal.id
    ((∃ reply, outcome.result = .ok reply) ↔
      (∀ id ∈ form.locationIds, reached.hasLocation shopId id = true) ∧
        (caller.principal.role = .admin → ∀ id ∈ form.ownerId, reached.hasUser id = true)) ∧
    (∀ failure, outcome.result = .error failure →
      failure = .conflict ∧ failure.report? = some .validation ∧ outcome.store = reached) ∧
    ∀ reply, outcome.result = .ok reply → ∃ id, reply = .created id ∧
      (∀ t ∈ reached.tabs, t.id < id) ∧
      ∀ (reading : Surroundings) (reader : Caller),
        reading.authorizer reader.principal ⟨shopId, shop.ownerId, some id, some owner⟩ .read = true →
        ∃ o, ((Submission.plain (.showTab ⟨shopId, id⟩)).perform reading reader outcome.store).result =
            .ok (.overview o) ∧
          o.ShowsOpened reached ⟨shopId, id⟩ owner form := by
  intro reached outcome owner
  have hsound := hs.run history
  have hrows := howns.run hs history
  have hallowed := Service.authorizeShop_create hrule hactive hwords.shop hshop
  obtain ⟨hopened, hrefused⟩ := Service.perform_createTab hread hrows hallowed hknown hwords
  rw [← Service.refers_iff hknown]
  by_cases hrefers : Service.Refers reached caller shopId form
  · have houtcome := hopened hrefers
    let t := Service.tabOf reached caller shopId form
    have hresult : outcome.result = .ok (.created t.id) := congrArg Outcome.result houtcome
    have hstore : outcome.store = reached.opened caller t form := congrArg Outcome.store houtcome
    refine ⟨⟨fun _ => hrefers, fun _ => ⟨_, hresult⟩⟩, ?_, ?_⟩
    · intro failure hfailure
      rw [hresult] at hfailure
      cases hfailure
    · intro reply hreply
      rw [hresult] at hreply
      cases hreply
      refine ⟨t.id, rfl, fun u hu => Store.lt_nextId (List.mem_map_of_mem hu), ?_⟩
      intro reading reader hmay
      rw [hstore]
      exact Service.showTab_opened hsound hrows hshop hread hwords hrefers hmay
  · have houtcome := hrefused hrefers
    have hresult : outcome.result = .error .conflict := congrArg Outcome.result houtcome
    refine ⟨⟨?_, fun h => absurd h hrefers⟩, ?_, ?_⟩
    · rintro ⟨reply, hreply⟩
      rw [hresult] at hreply
      cases hreply
    · intro failure hfailure
      rw [hresult] at hfailure
      cases hfailure
      exact ⟨rfl, rfl, congrArg Outcome.store houtcome⟩
    · intro reply hreply
      rw [hresult] at hreply
      cases hreply

namespace Sample

/-- A form by which the administrator opens a tab of the shop's owner, with an address and a location that are
given twice. -/
def party : Form.NewTab :=
  { gift with emails := ["b@x.co", "a@x.co", "b@x.co"], locationIds := [2, 1, 2], ownerId := some 2 }

/-- The form as it is submitted, before its addresses are brought into normal form. -/
def partyForm : Json := { party with emails := [" B@x.co", "a@X.co", "b@x.co"] }.toJson

/-- Nothing is kept under any tab at the start. -/
theorem store_ownsRows : store.OwnsRows := by
  intro key _
  have htabs : store.tabs = [] ∧ store.pending = [] ∧ store.emails = [] ∧ store.places = [] := by
    decide +kernel
  have hbills : store.bills = [] ∧ store.itemLines = [] ∧ store.variantLines = [] := by
    decide +kernel
  simp only [Store.rowsOf, Store.rowsWhere, htabs, hbills]
  rfl

end Sample

/-- Beside the tab that is there a second one is opened, and its owner sees what was submitted. -/
theorem opened_as_shown_party :
    let reached := Sample.store.run [Sample.openTab 7]
    let outcome := (Submission.createTab 1 Sample.partyForm).perform (Sample.order 5).env
      (Sample.order 5).caller reached
    let owner : Caller := ⟨⟨2, "owner@example.com", .user, true⟩, none⟩
    ∃ id, outcome.result = .ok (.created id) ∧ 1 < id ∧
      ∃ o, ((Submission.plain (.showTab ⟨1, id⟩)).perform (Sample.order 5).env owner
          outcome.store).result = .ok (.overview o) ∧
        o.ShowsOpened reached ⟨1, id⟩ 2 Sample.party := by
  intro reached outcome owner
  have hread : Form.NewTab.read (Sample.order 5).env.shortening Sample.partyForm = .ok Sample.party :=
    toOption_eq_some.mp (by decide +kernel)
  have hshop : reached.shop? 1 = some ⟨1, 2, "Campus Cafe"⟩ := by decide +kernel
  have hknown : (Sample.order 5).caller.IsKnown reached := ⟨by decide, by decide +kernel⟩
  obtain ⟨hdone, _, hshown⟩ := opened_as_shown Sample.store_isSound Sample.store_ownsRows [Sample.openTab 7]
    (Sample.order 5).env (Sample.order 5).caller rfl rfl hknown hshop hread
    ⟨by decide, by decide +kernel, by decide, by decide⟩
  obtain ⟨reply, hreply⟩ := hdone.mpr ⟨by decide +kernel, fun _ => by decide +kernel⟩
  obtain ⟨id, rfl, habove, hread⟩ := hshown reply hreply
  refine ⟨id, hreply, ?_, ?_⟩
  · have hfirst : Sample.openedTab 7 ∈ reached.tabs := by decide +kernel
    exact habove _ hfirst
  · obtain ⟨o, hoverview, hexact⟩ := hread (Sample.order 5).env owner (by rfl)
    exact ⟨o, hoverview, hexact⟩

end ShopTabs
