import Mathlib.Data.List.Nodup
import ShopTabs.Proofs.Ledger.Merge
import ShopTabs.Proofs.Membership
/-!
Lines under other keys, in another order, or among fewer.  What is written onto lines does not depend on
what their keys are called, on the order in which they stand, or on lines of keys that are not changed.
-/

namespace ShopTabs

section MapKey

variable {κ : Type}

/-- A line under another key. -/
def Line.mapKey (f : κ → κ) (l : Line κ) : Line κ := ⟨f l.key, l.quantity⟩

/-- A change to another key. -/
def Change.mapKey (f : κ → κ) (c : Change κ) : Change κ := ⟨f c.key, c.amount⟩

/-- An overdraft on another key. -/
def Overdraft.mapKey (f : κ → κ) (o : Overdraft κ) : Overdraft κ := ⟨f o.key, o.current, o.delta⟩

theorem map_key_mapKey_lines {f : κ → κ} {lines : List (Line κ)} :
    (lines.map (Line.mapKey f)).map (·.key) = (lines.map (·.key)).map f := by
  rw [List.map_map, List.map_map]
  rfl

theorem map_key_mapKey_changes {f : κ → κ} {changes : List (Change κ)} :
    (changes.map (Change.mapKey f)).map (·.key) = (changes.map (·.key)).map f := by
  rw [List.map_map, List.map_map]
  rfl

end MapKey

/-- What has a key that no two rows share is found whatever the order of rows. -/
theorem find?_eq_of_perm {α κ : Type} {keyOf : α → κ} {p : α → Bool} {rows rows' : List α} {key : κ}
    (h : rows.Perm rows') (hnodup : (rows.map keyOf).Nodup) (hp : ∀ r, p r = true → keyOf r = key) :
    rows.find? p = rows'.find? p := by
  cases hfind : rows.find? p with
  | none =>
      symm
      rw [List.find?_eq_none] at hfind ⊢
      exact fun r hr => hfind r (h.mem_iff.mpr hr)
  | some r =>
      have hr := List.mem_of_find?_eq_some hfind
      have hkey := hp r (List.find?_some hfind)
      cases hfind' : rows'.find? p with
      | none => exact absurd (List.find?_some hfind) (List.find?_eq_none.mp hfind' r (h.mem_iff.mp hr))
      | some r' =>
          have hr' := h.mem_iff.mpr (List.mem_of_find?_eq_some hfind')
          have hkey' := hp r' (List.find?_some hfind')
          exact congrArg some (List.inj_on_of_nodup_map hnodup hr hr' (hkey.trans hkey'.symm))

namespace Ledger

variable {κ : Type} [DecidableEq κ]

/-! ### Other keys -/

section Injective

variable {f : κ → κ} (hf : Function.Injective f) {lines : List (Line κ)} {changes totals : List (Change κ)}
include hf

theorem find?_mapKey_lines (key : κ) :
    (lines.map (Line.mapKey f)).find? (·.key = f key) =
      (lines.find? (·.key = key)).map (Line.mapKey f) := by
  rw [List.find?_map]
  congr 2
  funext l
  simp [Line.mapKey, hf.eq_iff]

theorem find?_mapKey_changes (key : κ) :
    (totals.map (Change.mapKey f)).find? (·.key = f key) =
      (totals.find? (·.key = key)).map (Change.mapKey f) := by
  rw [List.find?_map]
  congr 2
  funext t
  simp [Change.mapKey, hf.eq_iff]

theorem quantityOf_mapKey (key : κ) :
    quantityOf (lines.map (Line.mapKey f)) (f key) = quantityOf lines key := by
  rw [quantityOf, find?_mapKey_lines hf, Option.map_map]
  rfl

theorem amountFor_mapKey (key : κ) :
    amountFor (totals.map (Change.mapKey f)) (f key) = amountFor totals key := by
  rw [amountFor, find?_mapKey_changes hf, Option.map_map]
  rfl

theorem changesTo_mapKey (key : κ) :
    changesTo (changes.map (Change.mapKey f)) (f key) = changesTo changes key := by
  rw [changesTo, List.filter_map, List.map_map, changesTo]
  congr 1
  apply List.filter_congr
  intro c _
  simp [Change.mapKey, hf.eq_iff]

/-- The totals of changes to other keys. -/
theorem totals_mapKey :
    Ledger.totals (changes.map (Change.mapKey f)) =
      (Ledger.totals changes).map (List.map (Change.mapKey f)) := by
  unfold Ledger.totals
  rw [map_key_mapKey_changes, distinct_map hf]
  induction distinct (changes.map (·.key)) with
  | nil => rfl
  | cons key rest ih =>
      rw [List.map_cons, List.mapM_cons, List.mapM_cons, ih, changesTo_mapKey hf]
      cases sumOnto 0 (changesTo changes key) with
      | none => rfl
      | some total =>
          generalize (List.mapM _ rest : Except Failure (List (Change κ))) = others
          cases others with
          | error failure => rfl
          | ok others => rfl

theorem newKeys_mapKey :
    newKeys (lines.map (Line.mapKey f)) (totals.map (Change.mapKey f)) = (newKeys lines totals).map f := by
  rw [newKeys, map_key_mapKey_changes, map_key_mapKey_lines, List.filter_map, newKeys]
  congr 1
  apply List.filter_congr
  intro key _
  simp [hf.eq_iff]

theorem addTotal_mapKey (l : Line κ) :
    addTotal (totals.map (Change.mapKey f)) (l.mapKey f) = (addTotal totals l).mapKey f := by
  have hfind : (totals.map (Change.mapKey f)).find? (·.key = (l.mapKey f).key) =
      (totals.find? (·.key = l.key)).map (Change.mapKey f) := find?_mapKey_changes hf l.key
  rw [addTotal, hfind, addTotal]
  cases totals.find? (·.key = l.key) <;> rfl

theorem merge_mapKey :
    merge (lines.map (Line.mapKey f)) (totals.map (Change.mapKey f)) =
      (merge lines totals).map (Line.mapKey f) := by
  rw [merge, merge, newKeys_mapKey hf, List.map_append, List.map_map, List.map_map, List.map_map,
    List.map_map]
  congr 1
  · apply List.map_congr_left
    intro l _
    exact addTotal_mapKey hf l
  · apply List.map_congr_left
    intro key _
    simp only [Function.comp_apply, amountFor_mapKey hf]
    rfl

theorem clamp_mapKey (keys : List κ) :
    clamp (lines.map (Line.mapKey f)) (keys.map f) = (clamp lines keys).map (Line.mapKey f) := by
  rw [clamp, clamp, List.map_map, List.map_map]
  apply List.map_congr_left
  intro l _
  have hshort : isShort (keys.map f) (l.mapKey f) = isShort keys l := by
    simp [isShort, Line.mapKey, hf.eq_iff]
  rw [Function.comp_apply, Function.comp_apply, hshort]
  split <;> rfl

end Injective

/-! ### Another order -/

section Perm

variable {lines lines' : List (Line κ)} {totals : List (Change κ)}

theorem newKeys_perm (h : lines.Perm lines') : newKeys lines totals = newKeys lines' totals := by
  rw [newKeys, newKeys]
  apply List.filter_congr
  intro key _
  simp only [(h.map (·.key)).mem_iff]

theorem merge_perm (h : lines.Perm lines') : (merge lines totals).Perm (merge lines' totals) := by
  rw [merge, merge, newKeys_perm h]
  exact (h.map _).append_right _

theorem clamp_perm (h : lines.Perm lines') (keys : List κ) : (clamp lines keys).Perm (clamp lines' keys) :=
  h.map _

end Perm

/-! ### Fewer lines -/

section Filter

variable {lines : List (Line κ)} {totals : List (Change κ)} {p : κ → Bool}

theorem quantityOf_filter {key : κ} (hp : p key = true) :
    quantityOf (lines.filter fun l => p l.key) key = quantityOf lines key := by
  rw [quantityOf, List.find?_filter, quantityOf]
  congr 3
  funext l
  by_cases hkey : l.key = key
  · simp [hkey, hp]
  · simp [hkey]

omit [DecidableEq κ] in
theorem mem_keys_filter {key : κ} (hp : p key = true) :
    key ∈ (lines.filter fun l => p l.key).map (·.key) ↔ key ∈ lines.map (·.key) := by
  simp only [List.mem_map, List.mem_filter]
  constructor
  · rintro ⟨l, ⟨hl, _⟩, hsame⟩
    exact ⟨l, hl, hsame⟩
  · rintro ⟨l, hl, hsame⟩
    exact ⟨l, ⟨hl, hsame ▸ hp⟩, hsame⟩

theorem newKeys_filter (hp : ∀ t ∈ totals, p t.key = true) :
    newKeys (lines.filter fun l => p l.key) totals = newKeys lines totals := by
  rw [newKeys, newKeys]
  apply List.filter_congr
  intro key hkey
  obtain ⟨t, ht, rfl⟩ := List.mem_map.mp hkey
  simp only [mem_keys_filter (hp t ht)]

/-- Of the lines after a merge, those of some keys that include all that are changed. -/
theorem merge_filter (hp : ∀ t ∈ totals, p t.key = true) :
    (merge lines totals).filter (fun l => p l.key) = merge (lines.filter fun l => p l.key) totals := by
  have hnew : ((newKeys lines totals).map fun key => (⟨key, .whole (amountFor totals key)⟩ : Line κ)).filter
      (fun l => p l.key) = (newKeys lines totals).map fun key => ⟨key, .whole (amountFor totals key)⟩ := by
    rw [List.filter_eq_self]
    intro l hl
    obtain ⟨key, hkey, rfl⟩ := List.mem_map.mp hl
    obtain ⟨t, ht, rfl⟩ := List.mem_map.mp (List.mem_filter.mp hkey).1
    exact hp t ht
  have hold : (lines.map (addTotal totals)).filter (fun l => p l.key) =
      (lines.filter fun l => p l.key).map (addTotal totals) := by
    rw [List.filter_map]
    simp only [Function.comp_def, addTotal_key]
  rw [merge, List.filter_append, hold, hnew, merge, newKeys_filter hp]

theorem clamp_filter (keys : List κ) :
    (clamp lines keys).filter (fun l => p l.key) = clamp (lines.filter fun l => p l.key) keys := by
  have hkey : ∀ l : Line κ, (if isShort keys l then (⟨l.key, .whole 0⟩ : Line κ) else l).key = l.key := by
    intro l
    split <;> rfl
  rw [clamp, List.filter_map]
  simp only [Function.comp_def, hkey]
  rfl

end Filter

/-! ### Lines that answer to each other -/

/-- The lines of some keys are the same in another order and under other keys. -/
def Corresponds (f : κ → κ) (p : κ → Bool) (lines lines' : List (Line κ)) : Prop :=
  ((lines.filter fun l => p l.key).map (Line.mapKey f)).Perm (lines'.filter fun l => p l.key)

namespace Corresponds

variable {f : κ → κ} {p : κ → Bool} {lines lines' : List (Line κ)} {totals : List (Change κ)}

theorem merge (h : Corresponds f p lines lines') (hf : Function.Injective f)
    (hp : ∀ key, p (f key) = p key) (htotals : ∀ t ∈ totals, p t.key = true) :
    Corresponds f p (merge lines totals) (Ledger.merge lines' (totals.map (Change.mapKey f))) := by
  have htotals' : ∀ t ∈ totals.map (Change.mapKey f), p t.key = true := by
    intro t ht
    obtain ⟨u, hu, rfl⟩ := List.mem_map.mp ht
    exact (hp u.key).trans (htotals u hu)
  rw [Corresponds, merge_filter htotals, merge_filter htotals', ← merge_mapKey hf]
  exact merge_perm h

theorem clamp (h : Corresponds f p lines lines') (hf : Function.Injective f) (keys : List κ) :
    Corresponds f p (clamp lines keys) (Ledger.clamp lines' (keys.map f)) := by
  rw [Corresponds, clamp_filter, clamp_filter, ← clamp_mapKey hf]
  exact clamp_perm h _

theorem newKeys (h : Corresponds f p lines lines') (hf : Function.Injective f)
    (hp : ∀ key, p (f key) = p key) (htotals : ∀ t ∈ totals, p t.key = true) :
    newKeys lines' (totals.map (Change.mapKey f)) = (Ledger.newKeys lines totals).map f := by
  have htotals' : ∀ t ∈ totals.map (Change.mapKey f), p t.key = true := by
    intro t ht
    obtain ⟨u, hu, rfl⟩ := List.mem_map.mp ht
    exact (hp u.key).trans (htotals u hu)
  rw [← newKeys_filter htotals', ← newKeys_perm h, newKeys_mapKey hf, newKeys_filter htotals]

/-- New keys answer to what new keys have to be. -/
theorem all_newKeys (h : Corresponds f p lines lines') (hf : Function.Injective f)
    (hp : ∀ key, p (f key) = p key) (htotals : ∀ t ∈ totals, p t.key = true) {allowed allowed' : κ → Bool}
    (hallowed : ∀ key, p key = true → allowed' (f key) = allowed key) :
    (Ledger.newKeys lines' (totals.map (Change.mapKey f))).all allowed' =
      (Ledger.newKeys lines totals).all allowed := by
  rw [h.newKeys hf hp htotals, List.all_map, Bool.eq_iff_iff, List.all_eq_true, List.all_eq_true]
  refine forall₂_congr fun key hkey => ?_
  obtain ⟨t, ht, rfl⟩ := List.mem_map.mp (List.mem_filter.mp hkey).1
  rw [Function.comp_apply, hallowed _ (htotals t ht)]

omit [DecidableEq κ] in
theorem mem_keys (h : Corresponds f p lines lines') (hf : Function.Injective f)
    (hp : ∀ key, p (f key) = p key) {key : κ} (hkey : p key = true) :
    f key ∈ lines'.map (·.key) ↔ key ∈ lines.map (·.key) := by
  have hkeys := (h.map (·.key)).mem_iff (a := f key)
  rw [map_key_mapKey_lines, List.mem_map_of_injective hf, mem_keys_filter hkey,
    mem_keys_filter ((hp key).trans hkey)] at hkeys
  exact hkeys.symm

theorem quantityOf (h : Corresponds f p lines lines') (hf : Function.Injective f)
    (hp : ∀ key, p (f key) = p key) (hnodup : (lines.map (·.key)).Nodup) {key : κ} (hkey : p key = true) :
    quantityOf lines' (f key) = Ledger.quantityOf lines key := by
  have hunique : (((lines.filter fun l => p l.key).map (Line.mapKey f)).map (·.key)).Nodup := by
    rw [map_key_mapKey_lines]
    exact (hnodup.sublist (List.filter_sublist.map _)).map hf
  have hfind := find?_eq_of_perm (p := fun l => l.key = f key) h hunique fun _ => of_decide_eq_true
  rw [← quantityOf_filter ((hp key).trans hkey), Ledger.quantityOf, ← hfind, ← Ledger.quantityOf,
    quantityOf_mapKey hf, quantityOf_filter hkey]

/-- Changes to other keys overdraw what answers to it. -/
theorem overdrafts (h : Corresponds f p lines lines') (hf : Function.Injective f)
    (hp : ∀ key, p (f key) = p key) (hnodup : (lines.map (·.key)).Nodup) {rank : κ → List Int}
    (htotals : ∀ t ∈ totals, p t.key = true)
    (hrank : ∀ t ∈ totals, ∀ u ∈ totals,
      rankLe (rank (f t.key)) (rank (f u.key)) = rankLe (rank t.key) (rank u.key)) :
    overdrafts rank lines' (totals.map (Change.mapKey f)) =
      (Ledger.overdrafts rank lines totals).map (Overdraft.mapKey f) := by
  rw [Ledger.overdrafts, Ledger.overdrafts]
  have hshort : ∀ o, o ∈ totals.filterMap (fun t =>
      let current := Ledger.quantityOf lines t.key
      if (current.add t.amount).isBelowZero then some (⟨t.key, current, t.amount⟩ : Overdraft κ)
      else none) → ∃ t ∈ totals, o.key = t.key := by
    intro o ho
    obtain ⟨t, ht, hsome⟩ := List.mem_filterMap.mp ho
    refine ⟨t, ht, ?_⟩
    dsimp only at hsome
    split at hsome
    · cases hsome
      rfl
    · cases hsome
  rw [List.map_mergeSort (s := fun a b => rankLe (rank a.key) (rank b.key))]
  · congr 1
    rw [List.filterMap_map, List.map_filterMap]
    apply List.filterMap_congr
    intro t ht
    have hquantity : Ledger.quantityOf lines' (f t.key) = Ledger.quantityOf lines t.key :=
      h.quantityOf hf hp hnodup (htotals t ht)
    simp only [Function.comp_apply, Change.mapKey, hquantity]
    split <;> rfl
  · intro a ha b hb
    obtain ⟨t, ht, hat⟩ := hshort a ha
    obtain ⟨u, hu, hbu⟩ := hshort b hb
    show rankLe (rank a.key) (rank b.key) = rankLe (rank (f a.key)) (rank (f b.key))
    rw [hat, hbu]
    exact (hrank t ht u hu).symm

end Corresponds

end Ledger

end ShopTabs
