import Mathlib.Data.Finset.Card
import ShopTabs.Membership
/-!
What becomes of the set of a tab that is made to hold the wanted keys: it holds them, each once, and the
sets of other tabs stay as they are.  The numbers that are counted are those of the two set differences.
-/

namespace ShopTabs

/-- Distinct elements stay distinct under an injective function, and in their order. -/
theorem distinct_map {α β : Type} [DecidableEq α] [DecidableEq β] {f : α → β}
    (hf : Function.Injective f) (as : List α) : distinct (as.map f) = (distinct as).map f := by
  induction as with
  | nil => rfl
  | cons a rest ih =>
      rw [List.map_cons, distinct, ih, distinct, List.map_cons, List.filter_map]
      congr 2
      apply List.filter_congr
      intro b _
      simp [hf.eq_iff]

/-- Elements that do not repeat, put in order, stand in it strictly. -/
theorem pairwise_mergeSort_of_nodup {α : Type} {le : α → α → Bool}
    (htrans : ∀ a b c, le a b = true → le b c = true → le a c = true)
    (htotal : ∀ a b, (le a b || le b a) = true) {as : List α} (hnodup : as.Nodup) :
    (as.mergeSort le).Pairwise fun a b => le a b = true ∧ a ≠ b := by
  have hsorted := List.pairwise_mergeSort htrans htotal as
  exact hsorted.and ((List.mergeSort_perm as le).nodup_iff.mpr hnodup)

namespace Membership

/-- Rows hold exactly the wanted keys, each once. -/
structure Holds {κ : Type} (rows : List (Member κ)) (wanted : List κ) : Prop where
  nodup : (rows.map (·.key)).Nodup
  mem_iff : ∀ k, k ∈ rows.map (·.key) ↔ k ∈ wanted

variable {κ : Type} {rows : List (Member κ)} {tab : TabKey}

theorem mem_keysOf {k : κ} : k ∈ keysOf rows tab ↔ ⟨tab, k⟩ ∈ rows := by
  simp only [keysOf, List.mem_map, List.mem_filter, decide_eq_true_eq]
  constructor
  · rintro ⟨⟨_, _⟩, ⟨hm, rfl⟩, rfl⟩
    exact hm
  · intro hm
    exact ⟨⟨tab, k⟩, ⟨hm, rfl⟩, rfl⟩

theorem nodup_keysOf (h : rows.Nodup) : (keysOf rows tab).Nodup := by
  apply (h.filter _).map_on
  intro m hm n hn hkey
  have hmtab := of_decide_eq_true (List.mem_filter.mp hm).2
  have hntab := of_decide_eq_true (List.mem_filter.mp hn).2
  cases m
  cases n
  simp_all

variable [DecidableEq κ] {wanted : List κ}

/-- The sets of other tabs stay. -/
theorem filter_replace {p : TabKey → Bool} (hp : p tab = false) :
    (replace rows tab wanted).filter (fun m => p m.tab) = rows.filter fun m => p m.tab := by
  have hnew : ((missing rows tab wanted).map (Member.mk tab)).filter (fun m => p m.tab) = [] := by
    rw [List.filter_eq_nil_iff]
    intro m hm
    obtain ⟨k, _, rfl⟩ := List.mem_map.mp hm
    simp [hp]
  rw [replace, List.filter_append, hnew, List.append_nil, List.filter_filter]
  apply List.filter_congr
  intro m _
  by_cases hmember : m.tab = tab
  · simp [hmember, hp]
  · simp [hmember]

/-- The keys of a tab after its set was made to hold the wanted ones. -/
theorem keysOf_replace :
    keysOf (replace rows tab wanted) tab =
      (keysOf rows tab).filter (· ∈ wanted) ++ missing rows tab wanted := by
  rw [keysOf, replace, List.filter_append, List.map_append]
  congr 1
  · rw [keysOf, List.filter_map, List.filter_filter, List.filter_filter]
    congr 1
    apply List.filter_congr
    intro m _
    by_cases hmember : m.tab = tab
    · simp [hmember]
    · simp [hmember]
  · rw [List.filter_eq_self.mpr, List.map_map]
    · exact List.map_id _
    · intro m hm
      obtain ⟨k, _, rfl⟩ := List.mem_map.mp hm
      simp

theorem mem_missing {k : κ} : k ∈ missing rows tab wanted ↔ k ∈ wanted ∧ k ∉ keysOf rows tab := by
  simp [missing]

theorem holds_replace (h : (keysOf rows tab).Nodup) :
    Holds ((replace rows tab wanted).filter (·.tab = tab)) wanted := by
  have hkeys : ((replace rows tab wanted).filter (·.tab = tab)).map (·.key) =
      (keysOf rows tab).filter (· ∈ wanted) ++ missing rows tab wanted := keysOf_replace
  refine ⟨?_, ?_⟩
  · rw [hkeys, List.nodup_append]
    refine ⟨h.filter _, (nodup_distinct wanted).filter _, ?_⟩
    rintro k hk _ hmissing rfl
    exact (mem_missing.mp hmissing).2 (List.mem_filter.mp hk).1
  · intro k
    rw [hkeys, List.mem_append, List.mem_filter, mem_missing, decide_eq_true_eq]
    by_cases hkept : k ∈ keysOf rows tab
    · simp [hkept]
    · simp [hkept]

/-- A row that is there afterwards is a wanted one of the tab, or an old one of another tab. -/
theorem mem_replace {m : Member κ} :
    m ∈ replace rows tab wanted ↔ (m.tab = tab ∧ m.key ∈ wanted) ∨ (m.tab ≠ tab ∧ m ∈ rows) := by
  obtain ⟨owner, k⟩ := m
  rw [replace, List.mem_append, List.mem_filter]
  simp only [List.mem_map, mem_missing, mem_keysOf, Member.mk.injEq, exists_eq_right_right,
    decide_eq_true_eq]
  by_cases howner : owner = tab
  · subst howner
    by_cases hold : (⟨owner, k⟩ : Member κ) ∈ rows
    · simp [hold]
    · simp [hold]
  · simp [howner, Ne.symm howner]

theorem mem_keysOf_replace {k : κ} : k ∈ keysOf (replace rows tab wanted) tab ↔ k ∈ wanted := by
  rw [mem_keysOf, mem_replace]
  simp

/-- A set that is made to hold other keys has no row twice. -/
theorem nodup_replace (h : rows.Nodup) : (replace rows tab wanted).Nodup := by
  rw [replace, List.nodup_append]
  refine ⟨h.filter _, ?_, ?_⟩
  · apply List.Nodup.map
    · exact fun _ _ hsame => congrArg Member.key hsame
    · exact (nodup_distinct wanted).filter _
  · rintro m hm _ hnew rfl
    obtain ⟨k, hk, rfl⟩ := List.mem_map.mp hnew
    exact (mem_missing.mp hk).2 (mem_keysOf.mpr (List.mem_filter.mp hm).1)

/-! ### What the counts count -/

theorem toFinset_keysOf_replace :
    (keysOf (replace rows tab wanted) tab).toFinset = wanted.toFinset := by
  ext k
  rw [List.mem_toFinset, List.mem_toFinset, mem_keysOf_replace]

/-- The keys that are counted as added are those that are wanted and were not there. -/
theorem length_missing :
    (missing rows tab wanted).length = (wanted.toFinset \ (keysOf rows tab).toFinset).card := by
  have hnodup : (missing rows tab wanted).Nodup := (nodup_distinct wanted).filter _
  rw [← List.toFinset_card_of_nodup hnodup]
  congr 1
  ext k
  rw [Finset.mem_sdiff, List.mem_toFinset, List.mem_toFinset, List.mem_toFinset]
  exact mem_missing

/-- The keys that are counted as dropped are those that were there and are not wanted. -/
theorem length_surplus (h : rows.Nodup) :
    (surplus rows tab wanted).length = ((keysOf rows tab).toFinset \ wanted.toFinset).card := by
  have hnodup : (surplus rows tab wanted).Nodup := (nodup_keysOf h).filter _
  rw [← List.toFinset_card_of_nodup hnodup]
  congr 1
  ext k
  rw [Finset.mem_sdiff, List.mem_toFinset, List.mem_toFinset, List.mem_toFinset, surplus,
    List.mem_filter, decide_eq_true_eq]

/-! ### One set after another -/

variable {same first : List κ}

/-- Only the set of the wanted keys matters for the rows. -/
theorem perm_replace (h : rows.Nodup) (hsame : ∀ k, k ∈ same ↔ k ∈ wanted) :
    (replace rows tab same).Perm (replace rows tab wanted) := by
  rw [List.perm_ext_iff_of_nodup (nodup_replace h) (nodup_replace h)]
  intro m
  rw [mem_replace, mem_replace, hsame]

theorem result_congr (h : rows.Nodup) (hsame : ∀ k, k ∈ same ↔ k ∈ wanted) :
    result rows tab same = result rows tab wanted := by
  have hset : same.toFinset = wanted.toFinset := by
    ext k
    rw [List.mem_toFinset, List.mem_toFinset, hsame]
  rw [result, result, length_missing, length_missing, length_surplus h, length_surplus h, hset]

/-- The last set is what remains. -/
theorem perm_replace_replace (h : rows.Nodup) :
    (replace (replace rows tab first) tab wanted).Perm (replace rows tab wanted) := by
  rw [List.perm_ext_iff_of_nodup (nodup_replace (nodup_replace h)) (nodup_replace h)]
  intro m
  rw [mem_replace, mem_replace, mem_replace]
  by_cases hm : m.tab = tab
  · simp [hm]
  · simp [hm]

variable (hheld : ∀ k, k ∈ keysOf rows tab ↔ k ∈ wanted)
include hheld

theorem missing_of_held : missing rows tab wanted = [] := by
  rw [List.eq_nil_iff_forall_not_mem]
  intro k hk
  obtain ⟨hwanted, hnew⟩ := mem_missing.mp hk
  exact hnew ((hheld k).mpr hwanted)

/-- A set that holds just the wanted keys is left alone. -/
theorem replace_of_held : replace rows tab wanted = rows := by
  rw [replace, missing_of_held hheld, List.map_nil, List.append_nil, List.filter_eq_self]
  intro m hm
  by_cases hmember : m.tab = tab
  · have hkey : m.key ∈ wanted := (hheld m.key).mp (mem_keysOf.mpr (by rwa [← hmember]))
    simp [hkey]
  · simp [hmember]

theorem result_of_held : result rows tab wanted = ⟨0, 0⟩ := by
  have hsurplus : surplus rows tab wanted = [] := by
    rw [surplus, List.filter_eq_nil_iff]
    intro k hk
    simp [(hheld k).mp hk]
  rw [result, missing_of_held hheld, hsurplus]
  rfl

end Membership

end ShopTabs
