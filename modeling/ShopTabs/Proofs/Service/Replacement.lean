import ShopTabs.Proofs.Membership
import ShopTabs.Proofs.Service.History
/-!
Sets that are made to hold exactly the wanted keys.  A call for this succeeds where the rows to be written
find what they refer to; it adds and drops the two set differences and touches no other set, so that only
the wanted keys matter, and of several calls only the last.
-/

namespace ShopTabs

namespace Membership

/-- A kind of sets that belong to tabs: its rows in a store, the store with other rows of that kind, the
keys for which what a row refers to is there, and the call that makes a tab's set hold wanted keys. -/
structure Kind (κ : Type) where
  rows : Store → List (Member κ)
  withRows : Store → List (Member κ) → Store
  admits : Store → TabKey → κ → Prop
  sync : Store → TabKey → List κ → Except Failure (SyncResult × Store)

namespace Kind

/-- Verification lists: a row refers to its tab. -/
def emails : Kind String where
  rows s := s.emails
  withRows s rows := { s with emails := rows }
  admits s tab _ := s.hasTab tab = true
  sync := Store.syncEmails

/-- The locations of tabs: a row refers to its tab and to a location of the shop. -/
def places : Kind Int where
  rows s := s.places
  withRows s rows := { s with places := rows }
  admits s tab id := s.hasTab tab = true ∧ s.hasLocation tab.shopId id = true
  sync := Store.syncPlaces

variable {κ : Type} [DecidableEq κ]

/-- The call makes the set of a tab exactly the wanted keys, with a result and the rows that it leaves of
this kind, and writes nothing else. -/
structure MadeExact (kind : Kind κ) (s : Store) (tab : TabKey) (wanted : List κ)
    (result : SyncResult) (rows : List (Member κ)) : Prop where
  done : kind.sync s tab wanted = .ok (result, kind.withRows s rows)
  held : ∀ k, k ∈ keysOf rows tab ↔ k ∈ wanted
  once : rows.Nodup
  others : rows.filter (·.tab ≠ tab) = (kind.rows s).filter (·.tab ≠ tab)
  inserted : result.inserted =
    (wanted.toFinset \ (keysOf (kind.rows s) tab).toFinset).card
  deleted : result.deleted =
    ((keysOf (kind.rows s) tab).toFinset \ wanted.toFinset).card
  /-- Any list of the same keys comes to the same. -/
  same : ∀ others : List κ, (∀ k, k ∈ others ↔ k ∈ wanted) → ∃ rows',
    kind.sync s tab others = .ok (result, kind.withRows s rows') ∧ rows'.Perm rows
  /-- Made again for the same keys, the call does nothing. -/
  again : ∀ others : List κ, (∀ k, k ∈ others ↔ k ∈ wanted) →
    kind.sync (kind.withRows s rows) tab others = .ok (⟨0, 0⟩, kind.withRows s rows)
  /-- Made after one for other keys, the call leaves the same rows. -/
  last : ∀ first : List κ, (∀ k ∈ first, kind.admits s tab k) → ∃ result₁ rows₁ result₂ rows₂,
    kind.sync s tab first = .ok (result₁, kind.withRows s rows₁) ∧
      kind.sync (kind.withRows s rows₁) tab wanted = .ok (result₂, kind.withRows s rows₂) ∧
      rows₂.Perm rows

/-- It does so where it replaces the rows of any store that differs in these rows alone. -/
theorem madeExact_of_sync {kind : Kind κ} {s : Store} {tab : TabKey} {wanted : List κ}
    (hself : kind.withRows s (kind.rows s) = s) (hrows : (kind.rows s).Nodup)
    (hsync : ∀ rows wanted, (∀ k ∈ wanted, kind.admits s tab k) →
      kind.sync (kind.withRows s rows) tab wanted =
        .ok (result rows tab wanted, kind.withRows s (replace rows tab wanted)))
    (hadmits : ∀ k ∈ wanted, kind.admits s tab k) :
    kind.MadeExact s tab wanted (result (kind.rows s) tab wanted)
      (replace (kind.rows s) tab wanted) := by
  have hfirst : ∀ wanted, (∀ k ∈ wanted, kind.admits s tab k) → kind.sync s tab wanted =
      .ok (result (kind.rows s) tab wanted,
        kind.withRows s (replace (kind.rows s) tab wanted)) := by
    intro wanted hadmits
    have hcall := hsync (kind.rows s) wanted hadmits
    rwa [hself] at hcall
  have hsameAdmits : ∀ same : List κ, (∀ k, k ∈ same ↔ k ∈ wanted) → ∀ k ∈ same, kind.admits s tab k :=
    fun same hsame k hk => hadmits k ((hsame k).mp hk)
  exact
    { done := hfirst wanted hadmits
      held := fun k => mem_keysOf_replace
      once := nodup_replace hrows
      others := filter_replace (p := fun owner => owner ≠ tab) (by simp)
      inserted := length_missing
      deleted := length_surplus hrows
      same := by
        intro same hsame
        refine ⟨replace (kind.rows s) tab same, ?_, perm_replace hrows hsame⟩
        rw [hfirst same (hsameAdmits same hsame), result_congr hrows hsame]
      again := by
        intro same hsame
        have hheld : ∀ k, k ∈ keysOf (replace (kind.rows s) tab wanted) tab ↔ k ∈ same :=
          fun k => mem_keysOf_replace.trans (hsame k).symm
        rw [hsync _ same (hsameAdmits same hsame), result_of_held hheld, replace_of_held hheld]
      last := by
        intro first hfirstAdmits
        exact ⟨_, _, _, _, hfirst first hfirstAdmits, hsync _ wanted hadmits,
          perm_replace_replace hrows⟩ }

variable {s : Store} {tab : TabKey}

/-- A tab that some wanted row refers to is there, unless no row is wanted. -/
theorem missing_eq_nil_or_hasTab {rows : List (Member κ)} {wanted : List κ}
    (h : ∀ k ∈ wanted, s.hasTab tab = true) :
    missing rows tab wanted = [] ∨ s.hasTab tab = true := by
  cases wanted with
  | nil => exact Or.inl rfl
  | cons k rest => exact Or.inr (h k List.mem_cons_self)

theorem sync_emails (hwords : isWord tab.shopId = true ∧ isWord tab.tabId = true)
    {rows : List (Member String)} {wanted : List String}
    (hadmits : ∀ k ∈ wanted, emails.admits s tab k) :
    emails.sync (emails.withRows s rows) tab wanted = .ok (result rows tab wanted,
      emails.withRows s (replace rows tab wanted)) :=
  Store.syncEmails_eq_ok.mpr ⟨hwords, missing_eq_nil_or_hasTab hadmits, rfl, rfl⟩

theorem sync_places (hwords : isWord tab.shopId = true ∧ isWord tab.tabId = true)
    (hlocations : ∀ l ∈ s.locations, isWord l.id = true) {rows : List (Member Int)}
    {wanted : List Int} (hadmits : ∀ id ∈ wanted, places.admits s tab id) :
    places.sync (places.withRows s rows) tab wanted = .ok (result rows tab wanted,
      places.withRows s (replace rows tab wanted)) := by
  have hids : ∀ id ∈ wanted, isWord id = true := by
    intro id hid
    obtain ⟨l, hl, hplace⟩ := List.any_eq_true.mp (hadmits id hid).2
    simp only [Bool.and_eq_true, decide_eq_true_eq] at hplace
    exact hplace.2 ▸ hlocations l hl
  refine Store.syncPlaces_eq_ok.mpr ⟨hwords, hids, ?_, ?_, rfl, rfl⟩
  · exact missing_eq_nil_or_hasTab fun id hid => (hadmits id hid).1
  · exact fun id hid => (hadmits id (mem_missing.mp hid).1).2

end Kind

end Membership

/-- Whatever the sets of tabs are, a call that makes the verification list or the locations of a tab hold
wanted keys does exactly that, if what its rows refer to is there.  What it leaves, and what it counts, depends
on the set of the keys alone; made again it changes nothing, and what earlier calls wrote does not matter. -/
theorem sets_made_exact {s : Store} {tab : TabKey}
    (hwords : isWord tab.shopId = true ∧ isWord tab.tabId = true)
    (hlocations : ∀ l ∈ s.locations, isWord l.id = true) (hemails : s.emails.Nodup)
    (hplaces : s.places.Nodup) :
    (∀ wanted, (∀ k ∈ wanted, Membership.Kind.emails.admits s tab k) →
      ∃ result rows, Membership.Kind.emails.MadeExact s tab wanted result rows) ∧
    ∀ wanted, (∀ id ∈ wanted, Membership.Kind.places.admits s tab id) →
      ∃ result rows, Membership.Kind.places.MadeExact s tab wanted result rows := by
  refine ⟨?_, ?_⟩
  · intro wanted hadmits
    exact ⟨_, _, Membership.Kind.madeExact_of_sync rfl hemails
      (fun _ _ h => Membership.Kind.sync_emails hwords h) hadmits⟩
  · intro wanted hadmits
    exact ⟨_, _, Membership.Kind.madeExact_of_sync rfl hplaces
      (fun _ _ h => Membership.Kind.sync_places hwords hlocations h) hadmits⟩

/-- Two tabs have one address on their lists.  The list of the first is made to hold another address, which
is named twice, and its locations to hold both of the shop's. -/
theorem sets_made_exact_sample :
    let s : Store := { Sample.store.run [Sample.openTab 7, Sample.openTab 7] with
      emails := [⟨Sample.tab, "a@example.com"⟩, ⟨⟨1, 2⟩, "a@example.com"⟩] }
    (∃ rows, Membership.Kind.emails.MadeExact s Sample.tab ["b@example.com", "b@example.com"] ⟨1, 1⟩ rows) ∧
      ∃ rows, Membership.Kind.places.MadeExact s Sample.tab [2, 1] ⟨2, 0⟩ rows := by
  intro s
  have hwords : isWord Sample.tab.shopId = true ∧ isWord Sample.tab.tabId = true := by decide
  have hlocations : ∀ l ∈ s.locations, isWord l.id = true := by decide +kernel
  obtain ⟨hemails, hplaces⟩ := sets_made_exact hwords hlocations (by decide +kernel) (by decide +kernel)
  obtain ⟨emailResult, emailRows, hemailsExact⟩ :=
    hemails ["b@example.com", "b@example.com"] (fun _ _ => by
      show s.hasTab Sample.tab = true
      decide +kernel)
  obtain ⟨placeResult, placeRows, hplacesExact⟩ := hplaces [2, 1] (fun id hid => by
    have hboth : ∀ id ∈ [2, 1], s.hasTab Sample.tab = true ∧ s.hasLocation 1 id = true := by
      decide +kernel
    exact hboth id hid)
  have hemailCounts : emailResult = ⟨1, 1⟩ := by
    obtain ⟨inserted, deleted⟩ := emailResult
    have hinserted := hemailsExact.inserted
    have hdeleted := hemailsExact.deleted
    dsimp only at hinserted hdeleted
    rw [hinserted, hdeleted]
    decide +kernel
  have hplaceCounts : placeResult = ⟨2, 0⟩ := by
    obtain ⟨inserted, deleted⟩ := placeResult
    have hinserted := hplacesExact.inserted
    have hdeleted := hplacesExact.deleted
    dsimp only at hinserted hdeleted
    rw [hinserted, hdeleted]
    decide +kernel
  exact ⟨⟨emailRows, hemailCounts ▸ hemailsExact⟩, ⟨placeRows, hplaceCounts ▸ hplacesExact⟩⟩

end ShopTabs
