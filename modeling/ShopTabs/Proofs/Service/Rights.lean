import ShopTabs.Proofs.Service.Isolation
/-!
What the standing rule lets people do.  Whoever does not run a shop may open tabs there, and may read and
revise the tabs that he owns; so however many such people ask for whatever they like, the tabs that the
shop had, its bills and what is ordered on them stay as they were.
-/

namespace ShopTabs

namespace Store

/-- The person owns the shop of a number. -/
def IsShopOwner (s : Store) (p : Principal) (shopId : Int) : Prop :=
  ∃ shop, s.shop? shopId = some shop ∧ shop.ownerId = p.id

/-- The person owns the tab of a key. -/
def IsTabOwner (s : Store) (p : Principal) (key : TabKey) : Prop :=
  ∃ t, s.tab? key = some t ∧ t.ownerId = p.id

/-- The rows of the tabs of a shop. -/
def rowsAt (s : Store) (shopId : Int) : TabRows := s.rowsWhere fun key => key.shopId = shopId

end Store

/-- The person runs a shop: he is active, and he is an administrator or owns it. -/
def Principal.Runs (p : Principal) (s : Store) (shopId : Int) : Prop :=
  p.active = true ∧ (p.role = .admin ∨ s.IsShopOwner p shopId)

namespace Operation

/-- The shop that an operation names. -/
def shopId : Operation → Int
  | createTab shopId _ => shopId
  | submitUpdate key _ => key.shopId
  | approveTab key => key.shopId
  | closeTab key => key.shopId
  | markBillPaid key .. => key.shopId
  | addOrder key .. => key.shopId
  | removeOrder key .. => key.shopId
  | setVerificationList key _ => key.shopId
  | showTab key => key.shopId
  | listTabs shopId => shopId

/-- The operation opens a tab. -/
def opensTab : Operation → Bool
  | createTab .. => true
  | _ => false

/-- The operation is one of those that the owner of a tab is allowed. -/
def isForTabOwner : Operation → Bool
  | submitUpdate .. => true
  | setVerificationList .. => true
  | showTab _ => true
  | _ => false

/-- A person may have the operation carried out: he is active, and he runs the shop, opens a tab, or does
to a tab that he owns what its owner is allowed. -/
def IsOpenTo (op : Operation) (p : Principal) (s : Store) : Prop :=
  p.active = true ∧ (p.role = .admin ∨ s.IsShopOwner p op.shopId ∨ op.opensTab = true ∨
    (op.isForTabOwner = true ∧ ∃ key, op.tab? = some key ∧ s.IsTabOwner p key))

end Operation

/-- What the standing rule allows. -/
theorem standingAuthorizer_iff {p : Principal} {r : Resource} {a : Action} :
    standingAuthorizer p r a = true ↔
      p.active = true ∧ (p.role = .admin ∨ p.id = r.shopOwnerId ∨
        (a = .create ∧ r.tabId = none) ∨
        ((a = .read ∨ a = .update) ∧ r.tabId ≠ none ∧ r.tabOwnerId = some p.id)) := by
  unfold standingAuthorizer
  cases a <;> cases htab : r.tabId <;> simp [or_assoc]

namespace Service

variable {env : Surroundings} {caller : Caller} {key : TabKey} {action : Action} {s : Store}

/-- Who is let in to a tab by the standing rule. -/
theorem rights_of_authorizeTab {tab : Tab} (hrule : env.authorizer = standingAuthorizer)
    (h : authorizeTab env caller key action s = .ok tab) :
    caller.principal.active = true ∧ (caller.principal.role = .admin ∨
      s.IsShopOwner caller.principal key.shopId ∨
      ((action = .read ∨ action = .update) ∧ s.IsTabOwner caller.principal key)) := by
  obtain ⟨_, _, htab, shop, hshop, hallowed⟩ := authorizeTab_eq_ok.mp h
  rw [hrule] at hallowed
  obtain ⟨hactive, hadmin | howner | ⟨_, hnone⟩ | ⟨haction, _, howner⟩⟩ :=
    standingAuthorizer_iff.mp hallowed
  · exact ⟨hactive, Or.inl hadmin⟩
  · exact ⟨hactive, Or.inr (Or.inl ⟨shop, hshop, howner.symm⟩)⟩
  · cases hnone
  · exact ⟨hactive, Or.inr (Or.inr ⟨haction, tab, htab, Option.some.inj howner⟩)⟩

/-- Who is let in to a shop by the standing rule. -/
theorem rights_of_authorizeShop {shopId : Int} {shop : Shop}
    (hrule : env.authorizer = standingAuthorizer)
    (h : authorizeShop env caller shopId action s = .ok shop) :
    caller.principal.active = true ∧ (caller.principal.role = .admin ∨
      s.IsShopOwner caller.principal shopId ∨ action = .create) := by
  obtain ⟨_, hshop, hallowed⟩ := authorizeShop_eq_ok.mp h
  rw [hrule] at hallowed
  obtain ⟨hactive, hadmin | howner | ⟨hcreate, _⟩ | ⟨_, hsome, _⟩⟩ :=
    standingAuthorizer_iff.mp hallowed
  · exact ⟨hactive, Or.inl hadmin⟩
  · exact ⟨hactive, Or.inr (Or.inl ⟨shop, hshop, howner.symm⟩)⟩
  · exact ⟨hactive, Or.inr (Or.inr hcreate)⟩
  · exact absurd rfl hsome

end Service

namespace Operation

variable {env : Surroundings} {caller : Caller} {op : Operation} {key : TabKey} {action : Action}
  {s : Store}

theorem shopId_of_tab? (h : op.tab? = some key) : op.shopId = key.shopId := by
  cases op with
  | createTab | listTabs => cases h
  | _ =>
      cases h
      rfl

/-- Whoever is let in to the tab that an operation names may have it carried out, if what a tab's owner is
let in for is only what he is allowed. -/
theorem isOpenTo_of_authorizeTab {tab : Tab} (hkey : op.tab? = some key)
    (hfor : action = .read ∨ action = .update → op.isForTabOwner = true)
    (hrule : env.authorizer = standingAuthorizer)
    (hallowed : Service.authorizeTab env caller key action s = .ok tab) :
    op.IsOpenTo caller.principal s := by
  obtain ⟨hactive, hadmin | howner | ⟨haction, howner⟩⟩ := Service.rights_of_authorizeTab hrule hallowed
  · exact ⟨hactive, Or.inl hadmin⟩
  · rw [← shopId_of_tab? hkey] at howner
    exact ⟨hactive, Or.inr (Or.inl howner)⟩
  · exact ⟨hactive, Or.inr (Or.inr (Or.inr ⟨hfor haction, key, hkey, howner⟩))⟩

end Operation

/-- What people who do not run a shop leave of it: its tabs, to which others may have been added, its bills
and their lines. -/
structure Store.ShopKept (s s' : Store) (shopId : Int) : Prop where
  shops : s'.shops = s.shops
  tabs : (s.rowsAt shopId).tabs <+: (s'.rowsAt shopId).tabs
  bills : (s'.rowsAt shopId).bills = (s.rowsAt shopId).bills
  itemLines : (s'.rowsAt shopId).itemLines = (s.rowsAt shopId).itemLines
  variantLines : (s'.rowsAt shopId).variantLines = (s.rowsAt shopId).variantLines

namespace Store.ShopKept

variable {s s₁ s₂ : Store} {shopId : Int}

theorem refl (s : Store) (shopId : Int) : s.ShopKept s shopId :=
  ⟨rfl, List.prefix_refl _, rfl, rfl, rfl⟩

theorem trans (h₁ : s.ShopKept s₁ shopId) (h₂ : s₁.ShopKept s₂ shopId) : s.ShopKept s₂ shopId :=
  ⟨h₂.shops.trans h₁.shops, h₁.tabs.trans h₂.tabs, h₂.bills.trans h₁.bills,
    h₂.itemLines.trans h₁.itemLines, h₂.variantLines.trans h₁.variantLines⟩

/-- Tables that are written at their end, or not at all. -/
theorem of_tables (hshops : s₁.shops = s.shops) (htabs : s.tabs <+: s₁.tabs)
    (hbills : s₁.bills = s.bills) (hitems : s₁.itemLines = s.itemLines)
    (hvariants : s₁.variantLines = s.variantLines) : s.ShopKept s₁ shopId := by
  refine ⟨hshops, htabs.filter _, ?_, ?_, ?_⟩
  · simp only [rowsAt, rowsWhere, hbills]
  · simp only [rowsAt, rowsWhere, hitems]
  · simp only [rowsAt, rowsWhere, hvariants]

end Store.ShopKept

namespace Effect

variable {env : Surroundings} {caller : Caller} {s s' : Store} {op : Operation} {reply : Reply}

/-- An operation that succeeds under the standing rule was open to its caller. -/
theorem isOpenTo (h : Effect env caller s op reply s') (hrule : env.authorizer = standingAuthorizer) :
    op.IsOpenTo caller.principal s := by
  cases h with
  | tabCreated allowed opened owned =>
      exact ⟨(Service.rights_of_authorizeShop hrule allowed).1, Or.inr (Or.inr (Or.inl rfl))⟩
  | tabsListed allowed =>
      obtain ⟨hactive, hadmin | howner | hcreate⟩ := Service.rights_of_authorizeShop hrule allowed
      · exact ⟨hactive, Or.inl hadmin⟩
      · exact ⟨hactive, Or.inr (Or.inl howner)⟩
      · cases hcreate
  | updateSubmitted allowed notClosed =>
      exact Operation.isOpenTo_of_authorizeTab rfl (fun _ => rfl) hrule allowed
  | verificationListSet allowed notClosed counted =>
      exact Operation.isOpenTo_of_authorizeTab rfl (fun _ => rfl) hrule allowed
  | tabShown allowed => exact Operation.isOpenTo_of_authorizeTab rfl (fun _ => rfl) hrule allowed
  | tabApproved allowed notClosed =>
      exact Operation.isOpenTo_of_authorizeTab rfl (by simp) hrule allowed
  | tabClosed allowed => exact Operation.isOpenTo_of_authorizeTab rfl (by simp) hrule allowed
  | billPaid dayOr allowed found => exact Operation.isOpenTo_of_authorizeTab rfl (by simp) hrule allowed
  | orderAdded allowed applied => exact Operation.isOpenTo_of_authorizeTab rfl (by simp) hrule allowed
  | orderRemoved allowed applied => exact Operation.isOpenTo_of_authorizeTab rfl (by simp) hrule allowed

/-- The tab that an operation is carried out on is one of the shop that it names. -/
theorem shopId_of_target? (h : Effect env caller s op reply s') {key : TabKey}
    (hkey : op.target? reply = some key) : key.shopId = op.shopId := by
  cases h with
  | tabsListed => cases hkey
  | _ =>
      cases hkey
      rfl

theorem shops_eq (h : Effect env caller s op reply s') : s'.shops = s.shops :=
  congrArg Catalogue.shops h.catalogue_eq

/-- Someone who does not run a shop leaves what it has. -/
theorem shopKept (h : Effect env caller s op reply s') (hrule : env.authorizer = standingAuthorizer)
    {shopId : Int} (hstranger : ¬ caller.principal.Runs s shopId) : s.ShopKept s' shopId := by
  by_cases hshop : op.shopId = shopId
  · obtain ⟨hactive, hadmin | howner | hopens | ⟨hfor, _⟩⟩ := h.isOpenTo hrule
    · exact absurd ⟨hactive, Or.inl hadmin⟩ hstranger
    · exact absurd ⟨hactive, Or.inr (hshop ▸ howner)⟩ hstranger
    · -- The operation opens a tab, and writes nothing else that is looked at.
      have hshops := h.shops_eq
      cases h with
      | tabCreated allowed opened owned =>
          exact .of_tables hshops (by simp) (by simp) (by simp) (by simp)
      | _ => cases hopens
    · have hshops := h.shops_eq
      cases h with
      | updateSubmitted => exact .of_tables hshops (by simp) (by simp) (by simp) (by simp)
      | verificationListSet => exact .of_tables hshops (by simp) (by simp) (by simp) (by simp)
      | tabShown => exact .refl s shopId
      | _ => cases hfor
  · have hrows : s'.rowsAt shopId = s.rowsAt shopId := by
      apply h.rowsWhere_eq
      intro key hkey
      rw [h.shopId_of_target? hkey]
      simpa using hshop
    exact ⟨h.shops_eq, hrows ▸ List.prefix_refl _, congrArg TabRows.bills hrows,
      congrArg TabRows.itemLines hrows, congrArg TabRows.variantLines hrows⟩

/-- A tab that someone opens who is no administrator is his. -/
theorem owner_of_created {shopId : Int} {form : Form.NewTab}
    (h : Effect env caller s (.createTab shopId form) reply s')
    (hrole : caller.principal.role ≠ .admin) :
    ∃ t, s'.tabs = s.tabs ++ [t] ∧ reply = .created t.id ∧ t.shopId = shopId ∧
      t.ownerId = caller.principal.id := by
  obtain @⟨_, _, _, tab, _, opened, _⟩ := h
  refine ⟨tab, by simp, rfl, ?_, ?_⟩
  · rw [opened]
    rfl
  · rw [opened]
    exact if_neg hrole

end Effect

namespace Store

variable {s : Store} {shopId : Int}

/-- Whoever does not run a shop does not run it in a store with the same shops. -/
theorem ShopKept.runs_iff {s' : Store} (h : s.ShopKept s' shopId) (p : Principal) :
    p.Runs s' shopId ↔ p.Runs s shopId := by
  simp only [Principal.Runs, IsShopOwner, shop?, h.shops]

theorem shopKept_run {history : List Service.Request}
    (h : ∀ r ∈ history, r.authorizer = standingAuthorizer ∧ ¬ r.caller.principal.Runs s shopId) :
    s.ShopKept (s.run history) shopId := by
  induction history using List.reverseRecOn with
  | nil => exact .refl s shopId
  | append_singleton rest r ih =>
      have hrest := ih fun q hq => h q (List.mem_append_left _ hq)
      obtain ⟨hrule, hstranger⟩ := h r (by simp)
      rw [run_append_singleton]
      refine hrest.trans ?_
      rcases r.ask.perform_cases r.env r.caller (s.run rest) with ⟨_, hstore⟩ | ⟨_, _, _, _, heffect⟩
      · rw [Service.Request.after, Service.Request.outcome, hstore]
        exact .refl _ shopId
      · refine heffect.shopKept hrule ?_
        rw [hrest.runs_iff]
        exact hstranger

end Store

/-- Under the standing rule only what is open to the caller succeeds, and everything else leaves the store
as it is.  However many requests are made by people who do not run a shop, it keeps its tabs, its bills and
their lines.  And a tab that is opened by someone who is no administrator belongs to him. -/
theorem standing_rule_sound (s : Store) :
    (∀ (env : Surroundings) (caller : Caller) (ask : Submission),
      env.authorizer = standingAuthorizer →
      (∀ reply, (ask.perform env caller s).result = .ok reply →
        ∃ op, ask.read env.shortening = .ok op ∧ op.IsOpenTo caller.principal s) ∧
      ((¬ ∃ op, ask.read env.shortening = .ok op ∧ op.IsOpenTo caller.principal s) →
        (∃ failure, (ask.perform env caller s).result = .error failure) ∧
          (ask.perform env caller s).store = s)) ∧
    (∀ (shopId : Int) (history : List Service.Request),
      (∀ r ∈ history, r.authorizer = standingAuthorizer ∧ ¬ r.caller.principal.Runs s shopId) →
      s.ShopKept (s.run history) shopId) ∧
    ∀ (env : Surroundings) (caller : Caller) (ask : Submission) (shopId : Int) (form : Form.NewTab)
      (reply : Reply), ask.read env.shortening = .ok (.createTab shopId form) →
      (ask.perform env caller s).result = .ok reply → caller.principal.role ≠ .admin →
      ∃ t, (ask.perform env caller s).store.tabs = s.tabs ++ [t] ∧ reply = .created t.id ∧
        t.shopId = shopId ∧ t.ownerId = caller.principal.id := by
  refine ⟨?_, ?_, ?_⟩
  · intro env caller ask hrule
    rcases ask.perform_cases env caller s with ⟨hfailed, hstore⟩ | ⟨op, reply, hread, hok, heffect⟩
    · refine ⟨?_, fun _ => ⟨hfailed, hstore⟩⟩
      intro reply hok
      obtain ⟨failure, hfailed⟩ := hfailed
      rw [hok] at hfailed
      cases hfailed
    · have hopen : ∃ op, ask.read env.shortening = .ok op ∧ op.IsOpenTo caller.principal s :=
        ⟨op, hread, heffect.isOpenTo hrule⟩
      exact ⟨fun _ _ => hopen, fun hnot => absurd hopen hnot⟩
  · intro shopId history h
    exact Store.shopKept_run h
  · intro env caller ask shopId form reply hread hok hrole
    rcases ask.perform_cases env caller s with ⟨⟨failure, hfailed⟩, _⟩ | ⟨op, _, hread', hok', heffect⟩
    · rw [hok] at hfailed
      cases hfailed
    · rw [hread] at hread'
      cases hread'
      rw [hok] at hok'
      cases hok'
      exact heffect.owner_of_created hrole

namespace Sample

/-- A guest, who runs no shop. -/
def guest : Caller := ⟨⟨3, "guest@example.com", .user, true⟩, none⟩

/-- The first content and the guest, when a tab was opened and a coffee ordered on it. -/
def withGuest : Store :=
  let people := store.users ++ [⟨3, "guest@example.com", "Guest", .user, true⟩]
  { store with users := people }.run [openTab 7, order 5]

/-- The form of a tab that the administrator shall own. -/
def gift : Form.NewTab where
  config :=
    { paymentMethod := .inPerson
      organization := "Guests"
      displayName := "Tea"
      startDate := january 5
      endDate := january 30
      dailyStart := ⟨oclock 8, none⟩
      dailyEnd := ⟨oclock 17, none⟩
      activeDays := 31
      orderLimit := ⟨false, 20, 0⟩
      verificationMethod := .voucher
      paymentDetails := ""
      billingInterval := 7 }
  emails := []
  locationIds := []
  ownerId := some 1

end Sample

/-- The guest may not close the tab that is there, and leaves it as it is when he opens one; that one is
his, though he names the administrator as its owner. -/
theorem standing_rule_sound_guest :
    let s := Sample.withGuest
    let opening := Submission.createTab 1 Sample.gift.toJson
    let closing := Submission.plain (.closeTab Sample.tab)
    (closing.perform (Sample.order 5).env Sample.guest s).store = s ∧
      s.ShopKept (s.run [{ Sample.request opening with caller := Sample.guest }]) 1 ∧
      ∃ t, (opening.perform (Sample.order 5).env Sample.guest s).store.tabs = s.tabs ++ [t] ∧
        t.ownerId = 3 := by
  intro s opening closing
  obtain ⟨hopen, hkept, howner⟩ := standing_rule_sound s
  have hshop : s.shop? 1 = some ⟨1, 2, "Campus Cafe"⟩ := by decide +kernel
  have hstranger : ¬ s.IsShopOwner Sample.guest.principal 1 := by
    rintro ⟨shop, hfound, howns⟩
    rw [hshop] at hfound
    cases hfound
    exact absurd howns (by decide)
  have hclosing : ¬ ∃ op, closing.read (Sample.order 5).env.shortening = .ok op ∧
      op.IsOpenTo Sample.guest.principal s := by
    rintro ⟨op, ⟨⟩, _, hadmin | howner | hcreate | ⟨hown, _⟩⟩
    · cases hadmin
    · exact hstranger howner
    · cases hcreate
    · cases hown
  have hread : opening.read (Sample.order 5).env.shortening = .ok (.createTab 1 Sample.gift) := by
    have hform : Form.NewTab.read (Sample.order 5).env.shortening Sample.gift.toJson = .ok Sample.gift :=
      toOption_eq_some.mp (by decide +kernel)
    rw [Submission.read, hform]
    rfl
  refine ⟨((hopen _ _ closing rfl).2 hclosing).2, hkept 1 _ ?_, ?_⟩
  · rintro r hr
    rw [List.mem_singleton.mp hr]
    refine ⟨rfl, ?_⟩
    rintro ⟨_, hadmin | howner⟩
    · cases hadmin
    · exact hstranger howner
  · rcases opening.perform_cases (Sample.order 5).env Sample.guest s with
      ⟨_, hsame⟩ | ⟨_, reply, _, hok, _⟩
    · exact absurd (congrArg (·.tabs.length) hsame) (by decide +kernel)
    · obtain ⟨t, htabs, _, _, howns⟩ := howner _ _ opening 1 Sample.gift reply hread hok (by decide)
      exact ⟨t, htabs, howns⟩

end ShopTabs
