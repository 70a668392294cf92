import ShopTabs.Proofs.Form.Resubmission
import ShopTabs.Proofs.Service.Proposal
/-!
The settings of a tab, and those that are proposed for it, keep the rules by which they were admitted, but
for two.  Daily times may be submitted with offsets that put them in order, and are kept without; and an
amount of more digits than decimal arithmetic keeps may be rounded up to one with a digit too many.
-/

namespace ShopTabs

/-- What can be said of kept settings and the form that they came with: they are within its bounds, and shown
and submitted again, to whatever reader of forms, they are accepted as they stand, unless the daily times have
changed their order or the amount has got a digit too many. -/
structure TabConfig.Readmitted (k : KeptConfig) (c : SubmittedConfig) : Prop where
  inBounds : k.InBounds
  same : k.written.kept = k
  accepted : k.LimitFits → k.DailyInOrder → ∀ how,
    Form.Revision.read how k.shown = .ok ⟨k.written, none, none⟩
  refusedTimes : k.LimitFits → ¬ k.DailyInOrder → ∀ how,
    Form.Revision.read how k.shown = .error (.findings ⟨[], .endTimeNotAfterStart, k.shown⟩ [])
  refusedLimit : ¬ k.LimitFits → ∀ how,
    Form.Revision.read how k.shown = .error (.findings ⟨[.field "dollar_limit_per_order"],
      .wholeDigits (Form.amountDigits - Form.amountPlaces), .str k.orderLimit.text⟩ [])
  inOrder : (∀ x ∈ c.dailyStart.offset, ∀ y ∈ c.dailyEnd.offset, x ≤ y) → k.DailyInOrder
  limitFits : c.orderLimit.trimmed.extent.digits ≤ Decimal.precision → k.LimitFits

theorem Form.IsSubmitted.readmitted {c : SubmittedConfig} (h : Form.IsSubmitted c) :
    c.kept.Readmitted c where
  inBounds := h.inBounds
  same := TabConfig.kept_written h.inBounds
  accepted := fun hfits horder how => by
    rw [Form.Revision.read_shown how h.inBounds hfits, if_pos horder]
  refusedTimes := fun hfits horder how => by
    rw [Form.Revision.read_shown how h.inBounds hfits, if_neg horder]
  refusedLimit := fun hnot how => Form.Revision.read_shown_refused how h.inBounds hnot
  inOrder := h.dailyInOrder
  limitFits := h.limitFits

/-- The settings of a tab that is opened in the course of a history, and those that are proposed for it, are
within the bounds of the form.  Shown and submitted again they are accepted and give the same settings exactly
when the daily end that is kept is after the daily start and the amount that is kept has no digit too many.
The former is so unless the form that they came with gave a start further ahead of universal time than the
end, the latter unless it gave an amount of more digits than decimal arithmetic keeps. -/
theorem shown_settings_readmitted {s : Store} {key : TabKey} (hnew : s.LacksTab key)
    (history : List Service.Request) :
    let reached := s.run history
    let life := lifeOf key s history
    (∀ t ∈ reached.tabs, t.key = key → ∃ c, life.settings? = some c ∧ t.config.Readmitted c) ∧
    ∀ u ∈ reached.pending, u.tab = key →
      ∃ form, life.proposal? = some form ∧ u.config.Readmitted form.config := by
  intro reached life
  have hlife : life.LeadsTo key (reached.rowsOf key) := Store.leadsTo_run hnew history
  constructor
  · intro t ht hkey
    have hrow : t.config ∈ (reached.rowsOf key).tabs.map (·.config) :=
      List.mem_map_of_mem (List.mem_filter.mpr ⟨ht, decide_eq_true hkey⟩)
    rw [hlife.tabs, Option.mem_toList, Option.map_eq_some_iff] at hrow
    obtain ⟨c, hsettings, hkept⟩ := hrow
    have hsubmitted : Form.IsSubmitted c :=
      Life.isSubmitted_of_settings (fun _ => isRead_of_mem_lifeOf) hsettings
    exact ⟨c, hsettings, hkept ▸ hsubmitted.readmitted⟩
  · intro u hu hkey
    have hrow : u ∈ (reached.rowsOf key).pending := List.mem_filter.mpr ⟨hu, decide_eq_true hkey⟩
    rw [hlife.pending, Option.mem_toList, Option.map_eq_some_iff] at hrow
    obtain ⟨form, hproposal, rfl⟩ := hrow
    have hsubmitted : Form.IsSubmitted form.config :=
      Life.isSubmitted_of_proposal (fun _ => isRead_of_mem_lifeOf) hproposal
    exact ⟨form, hproposal, hsubmitted.readmitted⟩

namespace Sample

/-- A tab that is open from ten o'clock in one zone to nine o'clock in another, two hours behind: for an hour
of universal time. -/
def morning : Form.NewTab :=
  { eastern with config := { eastern.config with
      dailyStart := ⟨oclock 10, some 7200⟩
      dailyEnd := ⟨oclock 9, some 0⟩ } }

/-- A tab with a limit of thirty-four digits, just below a hundred million. -/
def brimming : Form.NewTab :=
  { eastern with config := { eastern.config with orderLimit := ⟨false, pow10 34 - 1, -26⟩ } }

end Sample

/-- The tab of two zones is opened, and its settings as they are shown are then refused; so are those of the
tab whose limit was rounded up. -/
theorem shown_settings_readmitted_morning :
    let history := fun form : Form.NewTab => [Sample.request (.createTab 1 form.toJson)]
    (∃ t ∈ (Sample.store.run (history Sample.morning)).tabs, t.config.InBounds ∧ ∀ how,
      Form.Revision.read how t.config.shown =
        .error (.findings ⟨[], .endTimeNotAfterStart, t.config.shown⟩ [])) ∧
    ∃ t ∈ (Sample.store.run (history Sample.brimming)).tabs, t.config.InBounds ∧ ∀ how,
      Form.Revision.read how t.config.shown =
        .error (.findings ⟨[.field "dollar_limit_per_order"], .wholeDigits 8, .str "100000000.00"⟩ []) := by
  intro history
  have hnew : Sample.store.LacksTab Sample.tab := by constructor <;> decide +kernel
  constructor
  · obtain ⟨hsettings, _⟩ := shown_settings_readmitted hnew (history Sample.morning)
    have hopened : (Sample.store.run (history Sample.morning)).tabs.map (fun t => (t.key,
        t.config.dailyStart, t.config.dailyEnd, t.config.orderLimit)) =
        [(Sample.tab, Sample.oclock 10, Sample.oclock 9, .amount false 2000)] := by
      decide +kernel
    obtain ⟨t, ht, hrow⟩ := List.map_eq_singleton_iff.mp hopened
    simp only [Prod.mk.injEq] at hrow
    obtain ⟨hkey, hstart, hend, hlimit⟩ := hrow
    have hmem : t ∈ (Sample.store.run (history Sample.morning)).tabs := ht ▸ List.mem_singleton_self t
    obtain ⟨c, _, hreadmitted⟩ := hsettings t hmem hkey
    have hdisorder : ¬ t.config.DailyInOrder := by
      rw [TabConfig.DailyInOrder, hstart, hend]
      decide
    exact ⟨t, hmem, hreadmitted.inBounds, hreadmitted.refusedTimes ⟨2000, hlimit, by decide⟩ hdisorder⟩
  · obtain ⟨hsettings, _⟩ := shown_settings_readmitted hnew (history Sample.brimming)
    have hopened : (Sample.store.run (history Sample.brimming)).tabs.map (fun t => (t.key,
        t.config.orderLimit)) = [(Sample.tab, .amount false (10 ^ 10))] := by
      decide +kernel
    obtain ⟨t, ht, hrow⟩ := List.map_eq_singleton_iff.mp hopened
    simp only [Prod.mk.injEq] at hrow
    obtain ⟨hkey, hlimit⟩ := hrow
    have hmem : t ∈ (Sample.store.run (history Sample.brimming)).tabs := ht ▸ List.mem_singleton_self t
    obtain ⟨c, _, hreadmitted⟩ := hsettings t hmem hkey
    have hlarge : ¬ t.config.LimitFits := by
      rintro ⟨cents, hcents, hsmall⟩
      rw [hlimit] at hcents
      cases hcents
      exact absurd hsmall (by decide)
    have hrefused := hreadmitted.refusedLimit hlarge
    rw [hlimit, show (Money.amount false (10 ^ 10)).text = "100000000.00" by decide] at hrefused
    exact ⟨t, hmem, hreadmitted.inBounds, hrefused⟩

end ShopTabs
