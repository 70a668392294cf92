import ShopTabs.Failure
/-!
When steps that may fail succeed.  Each lemma opens one kind of step, so that an operation is taken
apart by rewriting and never by unfolding what it calls.
-/

namespace ShopTabs

theorem pure_eq_ok {α : Type} {a b : α} : (pure a : Except Failure α) = .ok b ↔ a = b := by
  simp [pure, Except.pure]

/-- A sequence of two steps fails where one of them does. -/
theorem bind_eq_error {α β : Type} {x : Except Failure α} {next : α → Except Failure β}
    {cause : Failure} :
    (x >>= next) = .error cause ↔ x = .error cause ∨ ∃ a, x = .ok a ∧ next a = .error cause := by
  cases x with
  | error failure => simp [bind, Except.bind]
  | ok a => simp [bind, Except.bind]

theorem ensure_eq_error {condition : Bool} {cause failure : Failure} :
    ensure condition cause = .error failure ↔ condition = false ∧ cause = failure := by
  cases condition <;> simp [ensure]

theorem requireWord_eq_error {n : Int} {failure : Failure} :
    requireWord n = .error failure ↔ isWord n = false ∧ .wideNumber = failure := by
  cases h : isWord n <;> simp [requireWord, h]

theorem mapError_ok {α ε ε' : Type} {a : α} {report : ε → ε'} :
    (Except.ok a : Except ε α).mapError report = .ok a := rfl

theorem mapError_error {α ε ε' : Type} {failure : ε} {report : ε → ε'} :
    (Except.error failure : Except ε α).mapError report = .error (report failure) := rfl

theorem map_eq_ok {α β : Type} {x : Except Failure α} {f : α → β} {b : β} :
    x.map f = .ok b ↔ ∃ a, x = .ok a ∧ f a = b := by
  cases x with
  | error failure => simp [Except.map]
  | ok a => simp [Except.map]

theorem toOption_eq_some {α ε : Type} {x : Except ε α} {a : α} : x.toOption = some a ↔ x = .ok a := by
  cases x <;> simp [Except.toOption]

theorem requireWords_eq_ok {key : TabKey} {u : Unit} :
    requireWords key = .ok u ↔ isWord key.shopId = true ∧ isWord key.tabId = true := by
  simp only [requireWords, bind_eq_ok, requireWord_eq_ok]
  exact ⟨fun ⟨_, hshop, htab⟩ => ⟨hshop, htab⟩, fun ⟨hshop, htab⟩ => ⟨(), hshop, htab⟩⟩

/-- A check of all elements succeeds exactly when each of them passes it. -/
theorem forM_eq_ok {α : Type} {check : α → Except Failure Unit} {as : List α} {u : Unit} :
    as.forM check = .ok u ↔ ∀ a ∈ as, check a = .ok () := by
  induction as with
  | nil => simp [pure_eq_ok]
  | cons a rest ih =>
      rw [List.forM, bind_eq_ok]
      constructor
      · rintro ⟨_, hhead, hrest⟩
        intro b hb
        rcases List.mem_cons.mp hb with rfl | hb
        · exact hhead
        · exact ih.mp hrest b hb
      · intro hall
        refine ⟨(), hall a List.mem_cons_self, ?_⟩
        exact ih.mpr fun b hb => hall b (List.mem_cons_of_mem a hb)

end ShopTabs
