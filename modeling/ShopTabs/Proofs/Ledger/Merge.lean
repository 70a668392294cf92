import Mathlib.Algebra.Order.Ring.Int
import Mathlib.Data.List.Nodup
import ShopTabs.Ledger.Order
import ShopTabs.Proofs.Guard
/-!
What becomes of lines when changes are written onto them.  The line of each changed key gets the sum of
its changes, and every other line stays as it is; a direction that clamps then lifts what fell below
zero.
-/

namespace ShopTabs.Ledger

theorem sumOnto_eq_sum {total result : Int} {ns : List Int} (h : sumOnto total ns = some result) :
    result = total + ns.sum := by
  induction ns generalizing total with
  | nil =>
      cases h
      simp
  | cons n rest ih =>
      rw [sumOnto] at h
      split at h
      · rw [ih h, List.sum_cons]
        omega
      · cases h

theorem isWord_of_sumOnto {total result : Int} {ns : List Int} (htotal : isWord total = true)
    (h : sumOnto total ns = some result) : isWord result = true := by
  induction ns generalizing total with
  | nil =>
      cases h
      exact htotal
  | cons n rest ih =>
      rw [sumOnto] at h
      split at h
      · next hword => exact ih hword h
      · cases h

variable {κ : Type} [DecidableEq κ] {changes : List (Change κ)} {totals : List (Change κ)}
  {lines : List (Line κ)} {key : κ}

/-- Each changed key has one total, the sum of its changes. -/
theorem totals_eq_ok (h : Ledger.totals changes = .ok totals) :
    totals.map (·.key) = distinct (changes.map (·.key)) ∧
      ∀ t ∈ totals, t.amount = (changesTo changes t.key).sum ∧ isWord t.amount = true := by
  unfold Ledger.totals at h
  generalize distinct (changes.map (·.key)) = keys at h
  induction keys generalizing totals with
  | nil =>
      cases h
      simp
  | cons k rest ih =>
      rw [List.mapM_cons] at h
      simp only [bind_eq_ok, pure_eq_ok] at h
      obtain ⟨first, hfirst, others, hothers, rfl⟩ := h
      obtain ⟨hkeys, hamounts⟩ := ih hothers
      split at hfirst
      · next total htotal =>
          cases hfirst
          refine ⟨by rw [List.map_cons, hkeys], ?_⟩
          intro t ht
          rcases List.mem_cons.mp ht with rfl | ht
          · exact ⟨by simpa using sumOnto_eq_sum htotal, isWord_of_sumOnto (by decide) htotal⟩
          · exact hamounts t ht
      · cases hfirst

theorem mem_totals_iff (h : Ledger.totals changes = .ok totals) :
    key ∈ totals.map (·.key) ↔ key ∈ changes.map (·.key) := by
  rw [(totals_eq_ok h).1, mem_distinct]

/-- A key that is not changed has no changes to sum. -/
theorem changesTo_eq_nil (h : key ∉ changes.map (·.key)) : changesTo changes key = [] := by
  rw [changesTo, List.map_eq_nil_iff, List.filter_eq_nil_iff]
  intro c hc hkey
  exact h (List.mem_map.mpr ⟨c, hc, by simpa using hkey⟩)

theorem find?_eq_none_of_not_mem {α : Type} {rows : List α} {keyOf : α → κ}
    (h : key ∉ rows.map keyOf) : rows.find? (fun r => keyOf r = key) = none := by
  rw [List.find?_eq_none]
  intro r hr hkey
  exact h (List.mem_map.mpr ⟨r, hr, by simpa using hkey⟩)

theorem find?_isSome_of_mem {α : Type} {rows : List α} {keyOf : α → κ} (h : key ∈ rows.map keyOf) :
    ∃ r ∈ rows, rows.find? (fun r => keyOf r = key) = some r ∧ keyOf r = key := by
  cases hfind : rows.find? (fun r => keyOf r = key) with
  | none =>
      obtain ⟨r, hr, hkey⟩ := List.mem_map.mp h
      have hnone := List.find?_eq_none.mp hfind r hr
      simp [hkey] at hnone
  | some r => exact ⟨r, List.mem_of_find?_eq_some hfind, rfl, by simpa using List.find?_some hfind⟩

theorem quantityOf_of_not_mem (h : key ∉ lines.map (·.key)) :
    quantityOf lines key = .whole 0 := by
  rw [quantityOf, find?_eq_none_of_not_mem h]
  rfl

/-- Where no key has two lines, a line is the one that is found under its key. -/
theorem quantityOf_of_mem (hnodup : (lines.map (·.key)).Nodup) {l : Line κ} (hl : l ∈ lines) :
    quantityOf lines l.key = l.quantity := by
  obtain ⟨found, hmem, hfind, hkey⟩ := find?_isSome_of_mem (List.mem_map_of_mem (f := Line.key) hl)
  have hsame : found = l := List.inj_on_of_nodup_map hnodup hmem hl hkey
  rw [quantityOf, hfind, hsame]
  rfl

/-- The total of a key is the sum of its changes, whether there are any or not. -/
theorem amountFor_totals (h : Ledger.totals changes = .ok totals) :
    amountFor totals key = (changesTo changes key).sum := by
  by_cases hkey : key ∈ totals.map (·.key)
  · obtain ⟨t, ht, hfind, rfl⟩ := find?_isSome_of_mem hkey
    rw [amountFor, hfind]
    exact ((totals_eq_ok h).2 t ht).1
  · rw [amountFor, find?_eq_none_of_not_mem hkey,
      changesTo_eq_nil fun hchanged => hkey ((mem_totals_iff h).mpr hchanged)]
    rfl

theorem isWord_amountFor (h : Ledger.totals changes = .ok totals) :
    isWord (amountFor totals key) = true := by
  by_cases hkey : key ∈ totals.map (·.key)
  · obtain ⟨t, ht, hfind, rfl⟩ := find?_isSome_of_mem hkey
    rw [amountFor, hfind]
    exact ((totals_eq_ok h).2 t ht).2
  · rw [amountFor, find?_eq_none_of_not_mem hkey]
    show isWord 0 = true
    decide

/-! ### One line -/

@[simp] theorem addTotal_key {l : Line κ} : (addTotal totals l).key = l.key := by
  unfold addTotal
  split <;> rfl

theorem addTotal_of_not_mem {l : Line κ} (h : l.key ∉ totals.map (·.key)) : addTotal totals l = l := by
  rw [addTotal, find?_eq_none_of_not_mem h]

theorem addTotal_of_mem {l : Line κ} (h : l.key ∈ totals.map (·.key)) :
    addTotal totals l = ⟨l.key, l.quantity.add (amountFor totals l.key)⟩ := by
  obtain ⟨t, _, hfind, _⟩ := find?_isSome_of_mem h
  rw [addTotal, amountFor, hfind]
  rfl

/-! ### All lines -/

theorem map_key_merge :
    (merge lines totals).map (·.key) = lines.map (·.key) ++ newKeys lines totals := by
  simp [merge, Function.comp_def]

theorem nodup_merge (h : Ledger.totals changes = .ok totals) (hlines : (lines.map (·.key)).Nodup) :
    ((merge lines totals).map (·.key)).Nodup := by
  rw [map_key_merge, List.nodup_append]
  refine ⟨hlines, ?_, ?_⟩
  · rw [newKeys, (totals_eq_ok h).1]
    exact (nodup_distinct _).filter _
  · rintro k hk k' hk' rfl
    have hnew := (List.mem_filter.mp hk').2
    simp only [decide_eq_true_eq] at hnew
    exact hnew hk

/-- A line that is there after a merge was there before it, or is the first of its key. -/
theorem mem_merge {l : Line κ} (h : l ∈ merge lines totals) :
    (∃ l' ∈ lines, l = addTotal totals l') ∨
      (l.key ∈ totals.map (·.key) ∧ l.key ∉ lines.map (·.key) ∧
        l.quantity = .whole (amountFor totals l.key)) := by
  rcases List.mem_append.mp h with h | h
  · obtain ⟨l', hl', rfl⟩ := List.mem_map.mp h
    exact Or.inl ⟨l', hl', rfl⟩
  · obtain ⟨k, hk, rfl⟩ := List.mem_map.mp h
    obtain ⟨htotal, hnew⟩ := List.mem_filter.mp hk
    exact Or.inr ⟨htotal, by simpa using hnew, rfl⟩

theorem find?_map_addTotal :
    (lines.map (addTotal totals)).find? (·.key = key) =
      (lines.find? (·.key = key)).map (addTotal totals) := by
  rw [List.find?_map]
  simp only [Function.comp_def, addTotal_key]

/-- The quantity under a key after a merge: the sum of its changes is added, to zero if there was no
line. -/
theorem quantityOf_merge (h : Ledger.totals changes = .ok totals) (hkey : key ∈ changes.map (·.key)) :
    quantityOf (merge lines totals) key =
      (quantityOf lines key).add (changesTo changes key).sum := by
  have htotal := (mem_totals_iff h).mpr hkey
  rw [← amountFor_totals h, quantityOf, quantityOf, merge, List.find?_append, find?_map_addTotal]
  by_cases hline : key ∈ lines.map (·.key)
  · obtain ⟨l, _, hfind, rfl⟩ := find?_isSome_of_mem hline
    rw [hfind, Option.map_some, addTotal_of_mem htotal]
    rfl
  · have hnew : key ∈ (newKeys lines totals).map fun k => k := by
      rw [List.map_id']
      exact List.mem_filter.mpr ⟨htotal, by simpa using hline⟩
    obtain ⟨k, _, hfindNew, rfl⟩ := find?_isSome_of_mem hnew
    rw [find?_eq_none_of_not_mem hline, List.find?_map]
    simp only [Function.comp_def, hfindNew, Option.map_none, Option.map_some, Option.none_or,
      Option.getD_some, Option.getD_none]
    have hword : isWord (amountFor totals k) = true := isWord_amountFor h
    rw [Quantity.add_whole (by simpa using hword), Int.zero_add]

theorem quantityOf_merge_of_not_mem (h : Ledger.totals changes = .ok totals)
    (hkey : key ∉ changes.map (·.key)) : quantityOf (merge lines totals) key = quantityOf lines key := by
  have htotal : key ∉ totals.map (·.key) := fun hmem => hkey ((mem_totals_iff h).mp hmem)
  have hnew : (newKeys lines totals).find? (fun k => k = key) = none := by
    rw [List.find?_eq_none]
    intro k hk hsame
    have hsame' : k = key := by simpa using hsame
    exact htotal (hsame' ▸ (List.mem_filter.mp hk).1)
  rw [quantityOf, quantityOf, merge, List.find?_append, find?_map_addTotal, List.find?_map]
  simp only [Function.comp_def, hnew, Option.map_none, Option.or_none]
  by_cases hline : key ∈ lines.map (·.key)
  · obtain ⟨l, _, hfind, rfl⟩ := find?_isSome_of_mem hline
    rw [hfind, Option.map_some, addTotal_of_not_mem htotal]
  · rw [find?_eq_none_of_not_mem hline]
    rfl

/-- Lines of which none is changed stand after a merge as they did before it. -/
theorem filter_merge {p : κ → Bool} (h : Ledger.totals changes = .ok totals)
    (hp : ∀ c ∈ changes, p c.key = false) :
    (merge lines totals).filter (fun l => p l.key) = lines.filter fun l => p l.key := by
  have hnone : ∀ k ∈ totals.map (·.key), p k = false := by
    intro k hk
    obtain ⟨c, hc, rfl⟩ := List.mem_map.mp ((mem_totals_iff h).mp hk)
    exact hp c hc
  have hold : (lines.map (addTotal totals)).filter (fun l => p l.key) =
      lines.filter fun l => p l.key := by
    rw [List.filter_map]
    simp only [Function.comp_def, addTotal_key]
    rw [List.map_congr_left (g := id), List.map_id]
    intro l hl
    have hkey : l.key ∉ totals.map (·.key) := by
      intro hmem
      have htrue := (List.mem_filter.mp hl).2
      rw [hnone _ hmem] at htrue
      cases htrue
    exact addTotal_of_not_mem hkey
  have hnew : ((newKeys lines totals).map fun k => (⟨k, .whole (amountFor totals k)⟩ : Line κ)).filter
      (fun l => p l.key) = [] := by
    rw [List.filter_eq_nil_iff]
    intro l hl
    obtain ⟨k, hk, rfl⟩ := List.mem_map.mp hl
    simp [hnone k (List.mem_filter.mp hk).1]
  rw [merge, List.filter_append, hold, hnew, List.append_nil]

/-! ### Clamping -/

variable {keys : List κ}

theorem map_key_clamp : (clamp lines keys).map (·.key) = lines.map (·.key) := by
  rw [clamp, List.map_map]
  apply List.map_congr_left
  intro l _
  rw [Function.comp_apply]
  split <;> rfl

/-- No line of the given keys is below zero after it was clamped. -/
theorem mem_clamp {l : Line κ} (h : l ∈ clamp lines keys) :
    l.quantity = .whole 0 ∨ (l ∈ lines ∧ (l.quantity.isBelowZero = false ∨ l.key ∉ keys)) := by
  obtain ⟨l', hl', rfl⟩ := List.mem_map.mp h
  by_cases hshort : isShort keys l' = true
  · rw [if_pos hshort]
    exact Or.inl rfl
  · rw [if_neg hshort]
    refine Or.inr ⟨hl', ?_⟩
    simp only [isShort, Bool.and_eq_true, List.contains_iff_mem, not_and] at hshort
    by_cases hbelow : l'.quantity.isBelowZero = true
    · exact Or.inr (hshort hbelow)
    · exact Or.inl (by simpa using hbelow)

/-- Clamping lifts the quantity under a given key to zero if it is below, and leaves any other. -/
theorem quantityOf_clamp : quantityOf (clamp lines keys) key =
    if (quantityOf lines key).isBelowZero && keys.contains key then .whole 0
    else quantityOf lines key := by
  have hkey : ∀ l : Line κ, (if isShort keys l then ⟨l.key, .whole 0⟩ else l).key = l.key := by
    intro l
    split <;> rfl
  have hquantity : ∀ l : Line κ, (if isShort keys l then ⟨l.key, .whole 0⟩ else l).quantity =
      if isShort keys l then .whole 0 else l.quantity := by
    intro l
    split <;> rfl
  rw [quantityOf, quantityOf, clamp, List.find?_map]
  simp only [Function.comp_def, hkey]
  by_cases hline : key ∈ lines.map (·.key)
  · obtain ⟨l, _, hfind, rfl⟩ := find?_isSome_of_mem hline
    rw [hfind]
    exact hquantity l
  · rw [find?_eq_none_of_not_mem hline]
    simp [Quantity.isBelowZero]

theorem filter_clamp {p : κ → Bool} (hp : ∀ k ∈ keys, p k = false) :
    (clamp lines keys).filter (fun l => p l.key) = lines.filter fun l => p l.key := by
  induction lines with
  | nil => rfl
  | cons l rest ih =>
      rw [clamp] at ih ⊢
      rw [List.map_cons]
      by_cases hshort : isShort keys l = true
      · have hkey : p l.key = false := by
          simp only [isShort, Bool.and_eq_true, List.contains_iff_mem] at hshort
          exact hp l.key hshort.2
        simp [hshort, hkey, ih]
      · simp [hshort, List.filter_cons, ih]

/-! ### Changes that an order writes -/

/-- The lines that a direction leaves of changes with these totals. -/
def settle (direction : Direction) (changes totals : List (Change κ)) (lines : List (Line κ)) :
    List (Line κ) :=
  if direction.clamps then clamp (merge lines totals) (changes.map (·.key)) else merge lines totals

/-- How changes are written onto lines: they are summed, checked where overdrafts are refused, and
settled. -/
inductive Rewritten (direction : Direction) (changes : List (Change κ)) (lines : List (Line κ)) :
    List (Line κ) → Prop where
  | intro {totals : List (Change κ)} (summed : Ledger.totals changes = .ok totals)
      (covered : direction.rejects = true →
        ∀ t ∈ totals, ((quantityOf lines t.key).add t.amount).isBelowZero = false) :
    Rewritten direction changes lines (settle direction changes totals lines)

theorem map_key_settle {direction : Direction} :
    (settle direction changes totals lines).map (·.key) =
      lines.map (·.key) ++ newKeys lines totals := by
  rw [settle]
  split
  · rw [map_key_clamp, map_key_merge]
  · exact map_key_merge

/-! ### Overdrafts -/

variable {rank : κ → List Int}

/-- What is overdrawn is exactly what the sum of its changes would bring below zero. -/
theorem mem_overdrafts (h : Ledger.totals changes = .ok totals) {o : Overdraft κ} :
    o ∈ overdrafts rank lines totals ↔ o.key ∈ changes.map (·.key) ∧
      o.current = quantityOf lines o.key ∧ o.delta = (changesTo changes o.key).sum ∧
      (o.current.add o.delta).isBelowZero = true := by
  simp only [overdrafts, List.mem_mergeSort, List.mem_filterMap, Option.ite_none_right_eq_some,
    Option.some.injEq]
  constructor
  · rintro ⟨t, ht, hbelow, rfl⟩
    exact ⟨(mem_totals_iff h).mp (List.mem_map_of_mem ht), rfl, ((totals_eq_ok h).2 t ht).1, hbelow⟩
  · rintro ⟨hkey, hcurrent, hdelta, hbelow⟩
    obtain ⟨t, ht, htkey⟩ := List.mem_map.mp ((mem_totals_iff h).mpr hkey)
    have hamount := ((totals_eq_ok h).2 t ht).1
    rw [htkey] at hamount
    rw [hcurrent, hdelta, ← hamount, ← htkey] at hbelow
    refine ⟨t, ht, hbelow, ?_⟩
    rw [hamount, htkey, ← hcurrent, ← hdelta]

/-- No key is overdrawn twice. -/
theorem nodup_overdrafts (h : Ledger.totals changes = .ok totals) :
    ((overdrafts rank lines totals).map (·.key)).Nodup := by
  have hkeys : (totals.map (·.key)).Nodup := by
    rw [(totals_eq_ok h).1]
    exact nodup_distinct _
  refine ((List.mergeSort_perm _ _).map _).nodup_iff.mpr ?_
  rw [List.Nodup, List.pairwise_map] at hkeys ⊢
  rw [List.pairwise_filterMap]
  apply hkeys.imp
  intro t t' hdiffer o ho o' ho'
  simp only [Option.ite_none_right_eq_some, Option.some.injEq] at ho ho'
  rw [← ho.2, ← ho'.2]
  exact hdiffer

/-- Where nothing is overdrawn, no total brings its line below zero. -/
theorem covered_of_overdrafts (hsummed : Ledger.totals changes = .ok totals)
    (h : overdrafts rank lines totals = []) :
    ∀ t ∈ totals, ((quantityOf lines t.key).add t.amount).isBelowZero = false := by
  intro t ht
  rw [← Bool.not_eq_true]
  intro hbelow
  have hkey := (mem_totals_iff hsummed).mp (List.mem_map_of_mem (f := Change.key) ht)
  have hfound : (⟨t.key, quantityOf lines t.key, t.amount⟩ : Overdraft κ) ∈
      overdrafts rank lines totals :=
    (mem_overdrafts hsummed).mpr ⟨hkey, rfl, ((totals_eq_ok hsummed).2 t ht).1, hbelow⟩
  rw [h] at hfound
  cases hfound

namespace Rewritten

variable {direction : Direction} {lines' : List (Line κ)}

theorem nodup (h : Rewritten direction changes lines lines') (hlines : (lines.map (·.key)).Nodup) :
    (lines'.map (·.key)).Nodup := by
  obtain ⟨summed, _⟩ := h
  rw [map_key_settle, ← map_key_merge]
  exact nodup_merge summed hlines

/-- Lines whose keys an order does not change are left alone. -/
theorem filter_eq (h : Rewritten direction changes lines lines') {p : κ → Bool}
    (hp : ∀ c ∈ changes, p c.key = false) :
    lines'.filter (fun l => p l.key) = lines.filter fun l => p l.key := by
  obtain ⟨summed, _⟩ := h
  rw [settle]
  split
  · rw [filter_clamp, filter_merge summed hp]
    intro k hk
    obtain ⟨c, hc, rfl⟩ := List.mem_map.mp hk
    exact hp c hc
  · exact filter_merge summed hp

end Rewritten

end ShopTabs.Ledger
