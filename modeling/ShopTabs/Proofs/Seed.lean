import ShopTabs.Command
import ShopTabs.Proofs.Service.Alike
import ShopTabs.Proofs.Service.Schema
/-!
The first content of a database.  Seeding adds what is missing of it behind the rows that are there, or
nothing at all where several shops have the name of the one to be added.  Once it has succeeded, seeding
again adds nothing, and no command changes a row any more unless it drops the schema.
-/

namespace ShopTabs

/-- What the schema guarantees of people and catalogues: each row has a number of its own and each person
an address of his own, and what a row refers to is there. -/
structure Catalogue.FitsSchema (c : Catalogue) : Prop extends Catalogue.IsKeyed c where
  emails : (c.users.map (·.email)).Nodup
  owners : ∀ x ∈ c.shops, ∃ u ∈ c.users, u.id = x.ownerId
  placed : ∀ l ∈ c.locations, ∃ x ∈ c.shops, x.id = l.shopId
  sold : ∀ i ∈ c.items, ∃ x ∈ c.shops, x.id = i.shopId
  varied : ∀ v ∈ c.variants, ∃ i ∈ c.items, i.shopId = v.shopId ∧ i.id = v.itemId

/-- The rows of two catalogues, those of the second behind those of the first. -/
def Catalogue.followedBy (c added : Catalogue) : Catalogue where
  users := c.users ++ added.users
  shops := c.shops ++ added.shops
  locations := c.locations ++ added.locations
  items := c.items ++ added.items
  variants := c.variants ++ added.variants

/-- The store with other people and catalogues; all other tables stay. -/
def Store.withCatalogue (s : Store) (c : Catalogue) : Store :=
  { s with
    users := c.users
    shops := c.shops
    locations := c.locations
    items := c.items
    variants := c.variants }

namespace Seed

/-- A person before there is a number for him. -/
def unnumbered (u : User) : User := { u with id := 0 }

/-- The people of the first content, before they have numbers. -/
def people : List User := [
  ⟨0, "admin@example.com", "Admin", .admin, true⟩,
  ⟨0, "owner@example.com", "Shop Owner", .user, true⟩]

/-- The rows of a new shop of one of these people: two locations, and two items with a variant each. -/
def IsNewShop (users : List User) (added : Catalogue) : Prop :=
  ∃ owner ∈ users, owner.email = "owner@example.com" ∧
    ∃ shopId hall library coffee bagel milk cheese : Int,
      added.shops = [⟨shopId, owner.id, "Campus Cafe"⟩] ∧
      added.locations = [⟨hall, shopId, "Main Hall"⟩, ⟨library, shopId, "Library"⟩] ∧
      added.items = [⟨coffee, shopId, "Coffee", .ofCents 200⟩, ⟨bagel, shopId, "Bagel", .ofCents 300⟩] ∧
      added.variants = [⟨milk, shopId, coffee, "Oat milk", .ofCents 100⟩,
        ⟨cheese, shopId, bagel, "Cream cheese", .ofCents 100⟩]

/-- The added rows are those of the first content that were missing: people by their addresses, and the
shop, with all that belongs to it, by its name. -/
structure IsMissing (before added : Catalogue) : Prop where
  users : added.users.map unnumbered = people.filter fun p => before.users.all (·.email ≠ p.email)
  known : (∃ x ∈ before.shops, x.name = "Campus Cafe") →
    added.shops = [] ∧ added.locations = [] ∧ added.items = [] ∧ added.variants = []
  unknown : (∀ x ∈ before.shops, x.name ≠ "Campus Cafe") →
    IsNewShop (before.users ++ added.users) added

end Seed

/-! ### Looking for one row -/

theorem onlyOne_eq_ok {α : Type} {rows : List α} {found : Option α} :
    onlyOne rows = .ok found ↔ rows = found.toList := by
  match rows with
  | [] => cases found <;> simp [onlyOne]
  | [row] => cases found <;> simp [onlyOne]
  | row :: next :: rest => cases found <;> simp [onlyOne]

theorem onlyOne_eq_error {α : Type} {rows : List α} {failure : Failure} :
    onlyOne rows = .error failure ↔ 1 < rows.length ∧ .severalFound = failure := by
  match rows with
  | [] => simp [onlyOne]
  | [row] => simp [onlyOne]
  | row :: next :: rest => simp [onlyOne]

/-! ### Numbers of new rows -/

/-- New rows that are numbered from the next number on have numbers of their own. -/
theorem nodup_append_numbered {α : Type} {idOf : α → Int} {rows new : List α} (h : (rows.map idOf).Nodup)
    (hnew : (new.map idOf).Nodup) (hnext : ∀ r ∈ new, nextId (rows.map idOf) ≤ idOf r) :
    ((rows ++ new).map idOf).Nodup := by
  rw [List.map_append, List.nodup_append]
  refine ⟨h, hnew, ?_⟩
  intro id hid n hn hsame
  obtain ⟨r, hr, rfl⟩ := List.mem_map.mp hn
  have hbefore : id < nextId (rows.map idOf) := Store.lt_nextId hid
  have hafter := hnext r hr
  omega

namespace Seed

variable {s s' : Store} {email name : String} {role : Role} {user : User}

/-! ### People -/

theorem ensureUser_eq_ok :
    ensureUser s email name role = .ok (user, s') ↔
      (s.users.filter (·.email = email) = [user] ∧ s' = s) ∨
        (s.users.filter (·.email = email) = [] ∧
          user = ⟨nextId (s.users.map (·.id)), email, name, role, true⟩ ∧
          s' = { s with users := s.users ++ [user] }) := by
  rw [ensureUser, bind_eq_ok]
  simp only [onlyOne_eq_ok]
  constructor
  · rintro ⟨found, hfound, hnext⟩
    cases found with
    | none =>
        cases pure_eq_ok.mp hnext
        exact Or.inr ⟨hfound, rfl, rfl⟩
    | some u =>
        cases pure_eq_ok.mp hnext
        exact Or.inl ⟨hfound, rfl⟩
  · rintro (⟨hfound, rfl⟩ | ⟨hnone, rfl, rfl⟩)
    · exact ⟨some user, hfound, rfl⟩
    · exact ⟨none, hnone, rfl⟩

/-- Where no two people share an address, looking for a person does not fail. -/
theorem exists_ensureUser (h : (s.users.map (·.email)).Nodup) (email name : String) (role : Role) :
    ∃ user s', ensureUser s email name role = .ok (user, s') := by
  have hlength : (s.users.filter (·.email = email)).length ≤ 1 := Store.length_filter_le_one h email
  cases hone : onlyOne (s.users.filter (·.email = email)) with
  | error failure =>
      have hseveral := (onlyOne_eq_error.mp hone).1
      omega
  | ok found =>
      have hfound := onlyOne_eq_ok.mp hone
      cases found with
      | none => exact ⟨_, _, ensureUser_eq_ok.mpr (Or.inr ⟨hfound, rfl, rfl⟩)⟩
      | some user => exact ⟨user, s, ensureUser_eq_ok.mpr (Or.inl ⟨hfound, rfl⟩)⟩

theorem ensureUser_of_found (h : s.users.filter (·.email = email) = [user]) (name : String) (role : Role) :
    ensureUser s email name role = .ok (user, s) := ensureUser_eq_ok.mpr (Or.inl ⟨h, rfl⟩)

/-- Afterwards the person is the only one of the address. -/
theorem filter_email_of_ensureUser (h : ensureUser s email name role = .ok (user, s')) :
    s'.users.filter (·.email = email) = [user] := by
  rcases ensureUser_eq_ok.mp h with ⟨hfound, rfl⟩ | ⟨hnone, rfl, rfl⟩
  · exact hfound
  · simp [List.filter_append, hnone]

theorem mem_of_ensureUser (h : ensureUser s email name role = .ok (user, s')) :
    user ∈ s'.users ∧ user.email = email := by
  have hmem : user ∈ s'.users.filter (·.email = email) := by
    rw [filter_email_of_ensureUser h]
    exact List.mem_singleton_self user
  exact ⟨(List.mem_filter.mp hmem).1, of_decide_eq_true (List.mem_filter.mp hmem).2⟩

/-- People of other addresses stay as they are. -/
theorem filter_email_of_ne (h : ensureUser s email name role = .ok (user, s')) {other : String}
    (hne : email ≠ other) : s'.users.filter (·.email = other) = s.users.filter (·.email = other) := by
  rcases ensureUser_eq_ok.mp h with ⟨_, rfl⟩ | ⟨_, rfl, rfl⟩
  · rfl
  · simp [List.filter_append, hne]

/-- Only a person who is missing is added, behind all others. -/
theorem ensureUser_adds (h : ensureUser s email name role = .ok (user, s')) :
    ∃ added : List User, s' = { s with users := s.users ++ added } ∧ (∀ u ∈ added, u.email = email) ∧
      added.map unnumbered =
        if s.users.all (·.email ≠ email) then [⟨0, email, name, role, true⟩] else [] := by
  rcases ensureUser_eq_ok.mp h with ⟨hfound, rfl⟩ | ⟨hnone, rfl, rfl⟩
  · have hthere : ¬ s'.users.all (·.email ≠ email) = true := by
      intro hall
      have hmem : user ∈ s'.users.filter (·.email = email) := by simp [hfound]
      obtain ⟨hu, hsame⟩ := List.mem_filter.mp hmem
      exact of_decide_eq_true (List.all_eq_true.mp hall user hu) (of_decide_eq_true hsame)
    exact ⟨[], by simp, by simp, by rw [if_neg hthere]; rfl⟩
  · have hmissing : s.users.all (·.email ≠ email) = true := by
      simpa [List.filter_eq_nil_iff] using hnone
    exact ⟨_, rfl, by simp, by rw [if_pos hmissing]; rfl⟩

/-- A person who is added gets a number and an address of his own. -/
theorem fitsSchema_ensureUser (h : ensureUser s email name role = .ok (user, s'))
    (hs : s.catalogue.FitsSchema) : s'.catalogue.FitsSchema := by
  rcases ensureUser_eq_ok.mp h with ⟨_, rfl⟩ | ⟨hnone, huser, rfl⟩
  · exact hs
  · have hnumber : nextId (s.users.map (·.id)) ≤ user.id := by simp [huser]
    have haddress : user.email ∉ s.users.map (·.email) := by
      simpa [huser, List.filter_eq_nil_iff] using hnone
    refine { hs with users := ?_, emails := ?_, owners := ?_ }
    · exact nodup_append_numbered hs.users (List.nodup_singleton _) (by simpa using hnumber)
    · show ((s.users ++ [user]).map (·.email)).Nodup
      rw [List.map_append, List.map_singleton, ← List.concat_eq_append]
      exact hs.emails.concat haddress
    · intro x hx
      obtain ⟨u, hu, hid⟩ := hs.owners x hx
      exact ⟨u, List.mem_append_left _ hu, hid⟩

/-! ### The shop -/

/-- A shop that is added gets numbers of its own for all that belongs to it, and its rows refer to each
other. -/
theorem fitsSchema_addShop {ownerId : Int} (hs : s.catalogue.FitsSchema)
    (howner : ∃ u ∈ s.users, u.id = ownerId) : (addShop s ownerId).catalogue.FitsSchema := by
  have hshop : ∃ x ∈ (addShop s ownerId).shops, x.id = nextId (s.shops.map (·.id)) := by simp [addShop]
  have hcoffee : ∃ i ∈ (addShop s ownerId).items, i.shopId = nextId (s.shops.map (·.id)) ∧
      i.id = nextId (s.items.map (·.id)) :=
    ⟨_, List.mem_append_right _ List.mem_cons_self, rfl, rfl⟩
  have hbagel : ∃ i ∈ (addShop s ownerId).items, i.shopId = nextId (s.shops.map (·.id)) ∧
      i.id = nextId (s.items.map (·.id)) + 1 :=
    ⟨_, List.mem_append_right _ (List.mem_cons_of_mem _ List.mem_cons_self), rfl, rfl⟩
  refine { hs with
    shops := ?_, locations := ?_, items := ?_, variants := ?_, owners := ?_, placed := ?_, sold := ?_,
    varied := ?_ }
  · exact nodup_append_numbered hs.shops (List.nodup_singleton _) (by simp)
  · exact nodup_append_numbered hs.locations (by simp) (by simp)
  · exact nodup_append_numbered hs.items (by simp) (by simp)
  · exact nodup_append_numbered hs.variants (by simp) (by simp)
  · intro x hx
    rcases List.mem_append.mp hx with hold | hnew
    · exact hs.owners x hold
    · rw [List.mem_singleton.mp hnew]
      exact howner
  · intro l hl
    rcases List.mem_append.mp hl with hold | hnew
    · obtain ⟨x, hx, hid⟩ := hs.placed l hold
      exact ⟨x, List.mem_append_left _ hx, hid⟩
    · simp only [List.mem_cons, List.not_mem_nil, or_false] at hnew
      rcases hnew with rfl | rfl
      · exact hshop
      · exact hshop
  · intro i hi
    rcases List.mem_append.mp hi with hold | hnew
    · obtain ⟨x, hx, hid⟩ := hs.sold i hold
      exact ⟨x, List.mem_append_left _ hx, hid⟩
    · simp only [List.mem_cons, List.not_mem_nil, or_false] at hnew
      rcases hnew with rfl | rfl
      · exact hshop
      · exact hshop
  · intro v hv
    rcases List.mem_append.mp hv with hold | hnew
    · obtain ⟨i, hi, hids⟩ := hs.varied v hold
      exact ⟨i, List.mem_append_left _ hi, hids⟩
    · simp only [List.mem_cons, List.not_mem_nil, or_false] at hnew
      rcases hnew with rfl | rfl
      · exact hcoffee
      · exact hbagel

end Seed

/-- What a successful seeding does: both people are there or are added, and so is the shop. -/
theorem Store.seed_eq_ok {s s' : Store} :
    s.seed = .ok s' ↔ ∃ admin s₁ owner s₂,
      Seed.ensureUser s "admin@example.com" "Admin" .admin = .ok (admin, s₁) ∧
      Seed.ensureUser s₁ "owner@example.com" "Shop Owner" .user = .ok (owner, s₂) ∧
      ((∃ x, s₂.shops.filter (·.name = Seed.shopName) = [x] ∧ s' = s₂) ∨
        (s₂.shops.filter (·.name = Seed.shopName) = [] ∧ s' = Seed.addShop s₂ owner.id)) := by
  simp only [Store.seed, bind_eq_ok, onlyOne_eq_ok]
  constructor
  · rintro ⟨⟨admin, s₁⟩, hadmin, ⟨owner, s₂⟩, howner, found, hfound, hnext⟩
    refine ⟨admin, s₁, owner, s₂, hadmin, howner, ?_⟩
    cases found with
    | none => exact Or.inr ⟨hfound, (pure_eq_ok.mp hnext).symm⟩
    | some x => exact Or.inl ⟨x, hfound, (pure_eq_ok.mp hnext).symm⟩
  · rintro ⟨admin, s₁, owner, s₂, hadmin, howner, ⟨x, hfound, rfl⟩ | ⟨hnone, rfl⟩⟩
    · exact ⟨(admin, s₁), hadmin, (owner, s'), howner, some x, hfound, rfl⟩
    · exact ⟨(admin, s₁), hadmin, (owner, s₂), howner, none, hnone, rfl⟩

namespace Store

variable {s s' : Store}

/-- Seeding fails exactly if several shops have the name of the one to be added. -/
theorem seed_eq_error_iff (hs : s.catalogue.FitsSchema) {failure : Failure} :
    s.seed = .error failure ↔
      1 < (s.shops.filter (·.name = Seed.shopName)).length ∧ .severalFound = failure := by
  obtain ⟨admin, s₁, hadmin⟩ := Seed.exists_ensureUser hs.emails "admin@example.com" "Admin" .admin
  have hs₁ := Seed.fitsSchema_ensureUser hadmin hs
  obtain ⟨owner, s₂, howner⟩ := Seed.exists_ensureUser hs₁.emails "owner@example.com" "Shop Owner" .user
  have hshops : s₂.shops = s.shops := by
    obtain ⟨_, rfl, _⟩ := Seed.ensureUser_adds hadmin
    obtain ⟨_, rfl, _⟩ := Seed.ensureUser_adds howner
    rfl
  simp only [seed, hadmin, howner, hshops, bind_eq_error, Except.ok.injEq, reduceCtorEq, false_or,
    exists_eq_left', onlyOne_eq_error]
  constructor
  · rintro (hseveral | ⟨found, _, hnext⟩)
    · exact hseveral
    · cases found <;> cases hnext
  · exact Or.inl

/-- Each of the rows that seeding looks for is there, once. -/
structure IsSeeded (s : Store) : Prop where
  admin : ∃ u, s.users.filter (·.email = "admin@example.com") = [u]
  owner : ∃ u, s.users.filter (·.email = "owner@example.com") = [u]
  shop : ∃ x, s.shops.filter (·.name = Seed.shopName) = [x]

/-- Then nothing is missing. -/
theorem IsSeeded.seed (h : s.IsSeeded) : s.seed = .ok s := by
  obtain ⟨admin, hadmin⟩ := h.admin
  obtain ⟨owner, howner⟩ := h.owner
  exact seed_eq_ok.mpr ⟨admin, s, owner, s, Seed.ensureUser_of_found hadmin _ _,
    Seed.ensureUser_of_found howner _ _, Or.inl (h.shop.imp fun x hx => ⟨hx, rfl⟩)⟩

theorem isSeeded_of_seed (h : s.seed = .ok s') : s'.IsSeeded := by
  obtain ⟨admin, s₁, owner, s₂, hadmin, howner, hshop⟩ := seed_eq_ok.mp h
  have hfoundAdmin : s₂.users.filter (·.email = "admin@example.com") = [admin] := by
    rw [Seed.filter_email_of_ne howner (by decide)]
    exact Seed.filter_email_of_ensureUser hadmin
  have hfoundOwner := Seed.filter_email_of_ensureUser howner
  rcases hshop with ⟨x, hfound, rfl⟩ | ⟨hnone, rfl⟩
  · exact ⟨⟨admin, hfoundAdmin⟩, ⟨owner, hfoundOwner⟩, ⟨x, hfound⟩⟩
  · refine ⟨⟨admin, hfoundAdmin⟩, ⟨owner, hfoundOwner⟩,
      ⟨⟨nextId (s₂.shops.map (·.id)), owner.id, Seed.shopName⟩, ?_⟩⟩
    rw [Seed.addShop, List.filter_append, hnone]
    rfl

/-- What is there stays, and what is added is what was missing. -/
theorem seed_adds (h : s.seed = .ok s') :
    ∃ added, s' = s.withCatalogue (s.catalogue.followedBy added) ∧ Seed.IsMissing s.catalogue added := by
  obtain ⟨admin, s₁, owner, s₂, hadmin, howner, hshop⟩ := seed_eq_ok.mp h
  obtain ⟨hthere, haddress⟩ := Seed.mem_of_ensureUser howner
  obtain ⟨first, rfl, hfirst, hadmins⟩ := Seed.ensureUser_adds hadmin
  obtain ⟨second, rfl, _, howners⟩ := Seed.ensureUser_adds howner
  have hpeople : (first ++ second).map Seed.unnumbered =
      Seed.people.filter fun p => s.users.all (·.email ≠ p.email) := by
    have hothers : first.all (·.email ≠ "owner@example.com") = true := by
      rw [List.all_eq_true]
      intro u hu
      rw [hfirst u hu]
      decide
    rw [List.map_append, hadmins, howners, List.all_append, hothers, Bool.and_true]
    simp only [Seed.people, List.filter_cons, List.filter_nil]
    split <;> split <;> rfl
  rcases hshop with ⟨x, hfound, rfl⟩ | ⟨hnone, rfl⟩
  · -- The shop is there, under whatever owner: only people are added.
    have hx : x ∈ s.shops ∧ x.name = Seed.shopName := by
      have hmem : x ∈ s.shops.filter (·.name = Seed.shopName) := by
        rw [hfound]
        exact List.mem_singleton_self x
      exact ⟨(List.mem_filter.mp hmem).1, of_decide_eq_true (List.mem_filter.mp hmem).2⟩
    refine ⟨⟨first ++ second, [], [], [], []⟩, ?_, hpeople, ?_, ?_⟩
    · simp [withCatalogue, catalogue, Catalogue.followedBy]
    · intro _
      exact ⟨rfl, rfl, rfl, rfl⟩
    · intro hnone
      exact absurd hx.2 (hnone x hx.1)
  · have hmissing : ∀ x ∈ s.shops, x.name ≠ Seed.shopName := by
      simpa [List.filter_eq_nil_iff] using hnone
    let shopId := nextId (s.shops.map (·.id))
    let place := nextId (s.locations.map (·.id))
    let coffee := nextId (s.items.map (·.id))
    let extra := nextId (s.variants.map (·.id))
    refine ⟨⟨first ++ second, [⟨shopId, owner.id, Seed.shopName⟩],
      [⟨place, shopId, "Main Hall"⟩, ⟨place + 1, shopId, "Library"⟩],
      [⟨coffee, shopId, "Coffee", .ofCents 200⟩, ⟨coffee + 1, shopId, "Bagel", .ofCents 300⟩],
      [⟨extra, shopId, coffee, "Oat milk", .ofCents 100⟩,
        ⟨extra + 1, shopId, coffee + 1, "Cream cheese", .ofCents 100⟩]⟩, ?_, hpeople, ?_, ?_⟩
    · simp [Seed.addShop, withCatalogue, catalogue, Catalogue.followedBy, shopId, place, coffee, extra]
    · rintro ⟨x, hx, hname⟩
      exact absurd hname (hmissing x hx)
    · intro _
      refine ⟨owner, ?_, haddress, ?_⟩
      · rw [← List.append_assoc]
        exact hthere
      · exact ⟨shopId, place, place + 1, coffee, coffee + 1, extra, extra + 1, rfl, rfl, rfl, rfl⟩

theorem fitsSchema_seed (h : s.seed = .ok s') (hs : s.catalogue.FitsSchema) :
    s'.catalogue.FitsSchema := by
  obtain ⟨admin, s₁, owner, s₂, hadmin, howner, hshop⟩ := seed_eq_ok.mp h
  have hpeople := Seed.fitsSchema_ensureUser howner (Seed.fitsSchema_ensureUser hadmin hs)
  rcases hshop with ⟨x, hfound, rfl⟩ | ⟨hnone, rfl⟩
  · exact hpeople
  · exact Seed.fitsSchema_addShop hpeople ⟨owner, (Seed.mem_of_ensureUser howner).1, rfl⟩

end Store

/-! ### Commands -/

namespace Database

variable {db : Database}

/-- The database after a command line; one that is no command leaves it as it is. -/
def obey (db : Database) (line : List String) : Database :=
  match Command.read line with
  | .ok command => (db.run command).2
  | .error _ => db

/-- The database after command lines, one after the other. -/
def obeyAll (db : Database) (lines : List (List String)) : Database := lines.foldl obey db

theorem run_seed_eq_ok {after : Database} :
    db.run .seed = (.ok (), after) ↔ ∃ s, db.withSchema.seed = .ok s ∧ after = some s := by
  rw [run]
  cases db.withSchema.seed with
  | error failure => simp
  | ok s => simp [eq_comm]

theorem run_seed_eq_error {failure : Failure} {after : Database} :
    db.run .seed = (.error failure, after) ↔
      db.withSchema.seed = .error failure ∧ after = some db.withSchema := by
  rw [run]
  cases db.withSchema.seed with
  | error failure => simp [eq_comm]
  | ok s => simp

/-- Where nothing is missing, every command but that which drops the schema leaves all as it is. -/
theorem obey_of_isSeeded {s : Store} (hs : s.IsSeeded) {line : List String}
    (hline : Command.read line ≠ .ok .drop) : obey (some s) line = some s := by
  rw [obey]
  cases hread : Command.read line with
  | error e => rfl
  | ok command =>
      cases command with
      | create => rfl
      | drop => exact absurd hread hline
      | seed =>
          have hseed : run (some s) .seed = (.ok (), some s) := run_seed_eq_ok.mpr ⟨s, hs.seed, rfl⟩
          exact congrArg Prod.snd hseed

theorem obeyAll_of_isSeeded {s : Store} (hs : s.IsSeeded) {lines : List (List String)}
    (hlines : ∀ line ∈ lines, Command.read line ≠ .ok .drop) : obeyAll (some s) lines = some s := by
  induction lines with
  | nil => rfl
  | cons line rest ih =>
      have hfirst := obey_of_isSeeded hs (hlines line List.mem_cons_self)
      rw [obeyAll, List.foldl_cons, hfirst]
      exact ih fun next hnext => hlines next (List.mem_cons_of_mem line hnext)

end Database

/-- Seeding can be repeated.  Whatever rows are there that fit the schema, it fails exactly if several shops
have the name of the one to be added, and then leaves all rows as they are.  Otherwise it adds behind the
rows that are there just what was missing, with numbers that fit the schema, and touches no other table;
to seed again changes nothing, nor does any series of command lines that does not drop the schema. -/
theorem seeding_repeatable {db : Database} (hdb : db.withSchema.catalogue.FitsSchema) :
    ((db.run .seed).1 = .ok () ↔
      (db.withSchema.shops.filter (·.name = "Campus Cafe")).length ≤ 1) ∧
    (∀ failure after, db.run .seed = (.error failure, after) →
      failure = .severalFound ∧ after = some db.withSchema) ∧
    ∀ after, db.run .seed = (.ok (), after) →
      (∃ added, Seed.IsMissing db.withSchema.catalogue added ∧
        after = some (db.withSchema.withCatalogue (db.withSchema.catalogue.followedBy added))) ∧
      after.withSchema.catalogue.FitsSchema ∧
      after.run .seed = (.ok (), after) ∧
      ∀ lines : List (List String), (∀ line ∈ lines, Command.read line ≠ .ok .drop) →
        after.obeyAll lines = after := by
  refine ⟨?_, ?_, ?_⟩
  · constructor
    · intro hok
      by_contra hnot
      have hfails := (Store.seed_eq_error_iff hdb).mpr ⟨Nat.not_le.mp hnot, rfl⟩
      rw [Database.run_seed_eq_error.mpr ⟨hfails, rfl⟩] at hok
      cases hok
    · intro hone
      cases hseed : db.withSchema.seed with
      | error failure =>
          have hseveral := ((Store.seed_eq_error_iff hdb).mp hseed).1
          exact absurd hone (Nat.not_le.mpr hseveral)
      | ok s => rw [Database.run_seed_eq_ok.mpr ⟨s, hseed, rfl⟩]
  · intro failure after hrun
    obtain ⟨hfails, rfl⟩ := Database.run_seed_eq_error.mp hrun
    exact ⟨((Store.seed_eq_error_iff hdb).mp hfails).2.symm, rfl⟩
  · intro after hrun
    obtain ⟨s, hseed, rfl⟩ := Database.run_seed_eq_ok.mp hrun
    have hseeded := Store.isSeeded_of_seed hseed
    obtain ⟨added, rfl, hmissing⟩ := Store.seed_adds hseed
    refine ⟨⟨added, hmissing, rfl⟩, Store.fitsSchema_seed hseed hdb, ?_, ?_⟩
    · exact Database.run_seed_eq_ok.mpr ⟨_, hseeded.seed, rfl⟩
    · intro lines hlines
      exact Database.obeyAll_of_isSeeded hseeded hlines

namespace Sample

/-- A store in which the owner is known under another name, with a cafe of somebody else. -/
def halfFilled : Store where
  users := [⟨7, "owner@example.com", "Old Owner", .admin, false⟩, ⟨3, "guest@example.com", "Guest", .user, true⟩]
  shops := [⟨4, 3, "Other Cafe"⟩]
  locations := [⟨9, 4, "Main Hall"⟩]
  items := [⟨5, 4, "Coffee", .ofCents 250⟩]
  variants := [⟨2, 4, 5, "Oat milk", .ofCents 50⟩]

/-- The same store with what was missing. -/
def filled : Store where
  users := halfFilled.users ++ [⟨8, "admin@example.com", "Admin", .admin, true⟩]
  shops := halfFilled.shops ++ [⟨5, 7, "Campus Cafe"⟩]
  locations := halfFilled.locations ++ [⟨10, 5, "Main Hall"⟩, ⟨11, 5, "Library"⟩]
  items := halfFilled.items ++ [⟨6, 5, "Coffee", .ofCents 200⟩, ⟨7, 5, "Bagel", .ofCents 300⟩]
  variants := halfFilled.variants ++ [⟨3, 5, 6, "Oat milk", .ofCents 100⟩,
    ⟨4, 5, 7, "Cream cheese", .ofCents 100⟩]

end Sample

/-- The owner keeps his row and gets the shop; afterwards nothing changes any more. -/
theorem seeding_repeatable_halfFilled :
    Sample.halfFilled.catalogue.FitsSchema ∧
      Database.run (some Sample.halfFilled) .seed = (.ok (), some Sample.filled) ∧
      Database.obeyAll (some Sample.filled) [["seed"], ["create"], ["sow"], ["seed", "-h"], ["seed"]] =
        some Sample.filled := by
  have hfits : Sample.halfFilled.catalogue.FitsSchema := by
    refine ⟨⟨?_, ?_, ?_, ?_, ?_⟩, ?_, ?_, ?_, ?_, ?_⟩ <;> decide
  have hrun : Database.run (some Sample.halfFilled) .seed = (.ok (), some Sample.filled) := by
    rfl
  obtain ⟨_, _, hseeded⟩ := @seeding_repeatable (some Sample.halfFilled) hfits
  obtain ⟨_, _, _, hstays⟩ := hseeded _ hrun
  exact ⟨hfits, hrun, hstays _ (by decide +kernel)⟩

end ShopTabs
