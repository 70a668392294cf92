import ShopTabs.Proofs.Service.Isolation
/-!
The life of a tab.  Of a history it matters to a tab when it was opened, revised, approved, closed, and
given a new verification list.  All that is kept of the tab apart from its bills follows from that: the
settings in force, what is proposed, who is listed, and where.
-/

namespace ShopTabs

/-- What happens to a tab, orders and payments apart. -/
inductive Milestone where
  | opened (form : Form.NewTab)
  | proposed (form : Form.Revision)
  | approved
  | closed
  | listed (form : Form.EmailList)

/-- The life of a tab: its milestones, the latest first. -/
abbrev Life := List Milestone

namespace Life

/-- The revision that waits for approval: the latest since the tab was opened or approved, unless the tab
was closed. -/
def proposal? : Life → Option Form.Revision
  | [] => none
  | .opened _ :: _ => none
  | .proposed form :: _ => some form
  | .approved :: _ => none
  | .closed :: _ => none
  | .listed _ :: earlier => proposal? earlier

/-- The settings in force: those with which the tab was opened, or those that were approved last. -/
def settings? : Life → Option SubmittedConfig
  | [] => none
  | .opened form :: _ => some form.config
  | .proposed _ :: earlier => settings? earlier
  | .approved :: earlier =>
    match proposal? earlier with
    | some form => some form.config
    | none => settings? earlier
  | .closed :: earlier => settings? earlier
  | .listed _ :: earlier => settings? earlier

/-- The addresses that were listed last. -/
def emails : Life → List String
  | [] => []
  | .opened form :: _ => form.emails
  | .proposed form :: earlier => form.emails.getD (emails earlier)
  | .approved :: earlier => emails earlier
  | .closed :: earlier => emails earlier
  | .listed form :: _ => form.emails

/-- The locations that were given last. -/
def places : Life → List Int
  | [] => []
  | .opened form :: _ => form.locationIds
  | .proposed form :: earlier => form.locationIds.getD (places earlier)
  | .approved :: earlier => places earlier
  | .closed :: earlier => places earlier
  | .listed _ :: earlier => places earlier

end Life

/-- What an operation is in the life of the tab that it is carried out on. -/
def Operation.milestone? : Operation → Option Milestone
  | createTab _ form => some (.opened form)
  | submitUpdate _ form => some (.proposed form)
  | approveTab _ => some .approved
  | closeTab _ => some .closed
  | setVerificationList _ form => some (.listed form)
  | _ => none

/-- What an operation with its reply is in the life of a tab. -/
def Operation.milestoneOf? (op : Operation) (reply : Reply) (key : TabKey) : Option Milestone :=
  if op.target? reply = some key then op.milestone? else none

/-- What a request is in the life of a tab; nothing if it is refused. -/
def Service.Request.milestone? (r : Service.Request) (key : TabKey) (s : Store) : Option Milestone :=
  match r.ask.read r.env.shortening, (r.outcome s).result with
  | .ok op, .ok reply => op.milestoneOf? reply key
  | _, _ => none

/-- The life of a tab over a history. -/
def lifeOf (key : TabKey) : Store → List Service.Request → Life
  | _, [] => []
  | s, r :: rest => lifeOf key (r.after s) rest ++ (r.milestone? key s).toList

theorem lifeOf_append_singleton {key : TabKey} {s : Store} {history : List Service.Request}
    {r : Service.Request} :
    lifeOf key s (history ++ [r]) = (r.milestone? key (s.run history)).toList ++ lifeOf key s history := by
  induction history generalizing s with
  | nil => simp [lifeOf]
  | cons first rest ih =>
      rw [List.cons_append, lifeOf, lifeOf, ih, List.append_assoc]
      rfl

/-! ### What a tab's rows become -/

namespace Store

variable {s : Store} {key : TabKey}

@[simp] theorem withPlaces_emails {places : Option (List Int)} :
    (s.withPlaces key places).emails = s.emails := by cases places <;> rfl

@[simp] theorem stage_places {u : PendingUpdate} : (s.stage u).places = s.places := rfl

@[simp] theorem withEmails_places {emails : Option (List String)} :
    (s.withEmails key emails).places = s.places := by cases emails <;> rfl

/-- The verification list is the given one, or without one stays. -/
theorem holds_withEmails {emails : Option (List String)} {listed : List String}
    (h : Membership.Holds (s.rowsOf key).emails listed) :
    Membership.Holds ((s.withEmails key emails).rowsOf key).emails (emails.getD listed) := by
  cases emails with
  | none => exact h
  | some wanted => exact Membership.holds_replace h.nodup

theorem holds_withPlaces {places : Option (List Int)} {given : List Int}
    (h : Membership.Holds (s.rowsOf key).places given) :
    Membership.Holds ((s.withPlaces key places).rowsOf key).places (places.getD given) := by
  cases places with
  | none => exact h
  | some wanted => exact Membership.holds_replace h.nodup

/-- Where at most one revision waits for a tab, the next takes its place. -/
theorem pending_stage {u : PendingUpdate} (h : (s.rowsOf u.tab).pending.length ≤ 1) :
    ((s.stage u).rowsOf u.tab).pending = [u] := by
  have hone : (s.pending.filter (·.tab = u.tab)).length ≤ 1 := h
  show (s.stage u).pending.filter (·.tab = u.tab) = [u]
  rw [stage]
  split
  · next hany =>
      obtain ⟨p, hp, htab⟩ := List.any_eq_true.mp hany
      have hmem : p ∈ s.pending.filter (·.tab = u.tab) := List.mem_filter.mpr ⟨hp, htab⟩
      have hpos := List.length_pos_of_mem hmem
      obtain ⟨q, hq⟩ := List.length_eq_one_iff.mp (Nat.le_antisymm hone hpos)
      have hput : (s.pending.map fun p => if p.tab = u.tab then u else p).filter (·.tab = u.tab) =
          (s.pending.filter (·.tab = u.tab)).map fun _ => u :=
        filter_map_if (P := fun p => p.tab = u.tab) (fun _ _ => rfl) s.pending
      rw [hq] at hput
      exact hput
  · next hnone =>
      rw [Bool.not_eq_true, List.any_eq_false] at hnone
      rw [List.filter_append, List.filter_eq_nil_iff.mpr hnone]
      simp

theorem pending_unstage : ((s.unstage key).rowsOf key).pending = [] := by
  show (s.pending.filter (·.tab ≠ key)).filter (·.tab = key) = []
  rw [List.filter_filter, List.filter_eq_nil_iff]
  simp

theorem tabs_updateTab {change : Tab → Tab} (hkey : ∀ t, (change t).key = t.key) :
    ((s.updateTab key change).rowsOf key).tabs = (s.rowsOf key).tabs.map change := by
  apply filter_map_if
  intro t ht
  rw [hkey]
  exact ht

theorem pending?_eq_head? : s.pending? key = (s.rowsOf key).pending.head? :=
  (List.head?_filter ..).symm

theorem tab?_eq_head? : s.tab? key = (s.rowsOf key).tabs.head? := (List.head?_filter ..).symm

theorem tab?_updateTab {change : Tab → Tab} (hkey : ∀ t, (change t).key = t.key) :
    (s.updateTab key change).tab? key = (s.tab? key).map change := by
  rw [tab?_eq_head?, tab?_eq_head?, tabs_updateTab hkey, List.head?_map]

theorem tabs_ne_nil {t : Tab} (h : s.tab? key = some t) : (s.rowsOf key).tabs ≠ [] := by
  obtain ⟨hmem, hkey⟩ := mem_of_tab? h
  exact List.ne_nil_of_mem (List.mem_filter.mpr ⟨hmem, decide_eq_true hkey⟩)

end Store

namespace Life

/-- The row of a revision that waits for a tab. -/
def pendingFor (key : TabKey) (form : Form.Revision) : PendingUpdate :=
  ⟨key, form.config.kept, form.emails, form.locationIds⟩

/-- The rows of a tab are what its life leads to. -/
structure LeadsTo (life : Life) (key : TabKey) (rows : TabRows) : Prop where
  began : life ≠ [] → life.settings? ≠ none
  tabs : rows.tabs.map (·.config) = (life.settings?.map TabConfig.kept).toList
  pending : rows.pending = (life.proposal?.map (pendingFor key)).toList
  emails : Membership.Holds rows.emails life.emails
  places : Membership.Holds rows.places life.places

namespace LeadsTo

variable {life : Life} {key : TabKey} {rows : TabRows}

theorem pending_length (h : life.LeadsTo key rows) : rows.pending.length ≤ 1 := by
  rw [h.pending]
  cases life.proposal? <;> simp

theorem congr {rows' : TabRows} (h : life.LeadsTo key rows) (htabs : rows'.tabs = rows.tabs)
    (hpending : rows'.pending = rows.pending) (hemails : rows'.emails = rows.emails)
    (hplaces : rows'.places = rows.places) : life.LeadsTo key rows' :=
  ⟨h.began, htabs ▸ h.tabs, hpending ▸ h.pending, hemails ▸ h.emails, hplaces ▸ h.places⟩

/-- A tab that has a row was opened. -/
theorem settings_ne_none (h : life.LeadsTo key rows) (htabs : rows.tabs ≠ []) :
    life.settings? ≠ none := by
  intro hnone
  apply htabs
  simpa [hnone] using h.tabs

/-- A tab without a row was not opened. -/
theorem eq_nil (h : life.LeadsTo key rows) (htabs : rows.tabs = []) : life = [] := by
  by_contra hlife
  have hsettings := h.tabs
  rw [htabs] at hsettings
  cases hfound : life.settings? with
  | none => exact h.began hlife hfound
  | some c => simp [hfound] at hsettings

variable {rows' : TabRows}

theorem opened {form : Form.NewTab} {t : Tab} (h : life.LeadsTo key rows) (hfresh : rows.tabs = [])
    (hconfig : t.config = form.config.kept) (htabs : rows'.tabs = [t])
    (hpending : rows'.pending = rows.pending) (hemails : Membership.Holds rows'.emails form.emails)
    (hplaces : Membership.Holds rows'.places form.locationIds) :
    LeadsTo (.opened form :: life) key rows' := by
  obtain rfl := h.eq_nil hfresh
  refine ⟨fun _ => by simp [settings?], ?_, ?_, hemails, hplaces⟩
  · rw [htabs]
    simp [settings?, hconfig]
  · rw [hpending, h.pending]
    rfl

theorem proposed {form : Form.Revision} (h : life.LeadsTo key rows) (hopened : rows.tabs ≠ [])
    (htabs : rows'.tabs = rows.tabs) (hpending : rows'.pending = [pendingFor key form])
    (hemails : Membership.Holds rows'.emails (form.emails.getD life.emails))
    (hplaces : Membership.Holds rows'.places (form.locationIds.getD life.places)) :
    LeadsTo (.proposed form :: life) key rows' := by
  refine ⟨fun _ => h.settings_ne_none hopened, ?_, hpending, hemails, hplaces⟩
  rw [htabs]
  exact h.tabs

/-- Approval puts in force what is proposed, if anything is. -/
theorem approved (h : life.LeadsTo key rows) (hopened : rows.tabs ≠ [])
    (htabs : rows'.tabs = rows.tabs.map (Service.confirmed rows.pending.head?))
    (hpending : rows'.pending = []) (hemails : rows'.emails = rows.emails)
    (hplaces : rows'.places = rows.places) : LeadsTo (.approved :: life) key rows' := by
  have hsettings := h.settings_ne_none hopened
  have htabs' := h.tabs
  refine ⟨fun _ => ?_, ?_, hpending, hemails ▸ h.emails, hplaces ▸ h.places⟩
  · cases hproposal : life.proposal? with
    | none => simpa [settings?, hproposal] using hsettings
    | some form => simp [settings?, hproposal]
  · obtain ⟨c, hc⟩ := Option.ne_none_iff_exists'.mp hsettings
    rw [htabs, List.map_map, h.pending]
    rw [hc, Option.map_some, Option.toList_some] at htabs'
    cases hproposal : life.proposal? with
    | none =>
        simp only [settings?, hproposal, hc, Option.map_none, Option.toList_none, List.head?_nil,
          Option.map_some, Option.toList_some]
        exact htabs'
    | some form =>
        obtain ⟨t, ht⟩ : ∃ t, rows.tabs = [t] := by
          apply List.length_eq_one_iff.mp
          simpa using congrArg List.length htabs'
        rw [ht]
        simp [settings?, hproposal, pendingFor, Service.confirmed]

theorem closed (h : life.LeadsTo key rows) (hopened : rows.tabs ≠ [])
    (htabs : rows'.tabs.map (·.config) = rows.tabs.map (·.config)) (hpending : rows'.pending = [])
    (hemails : rows'.emails = rows.emails) (hplaces : rows'.places = rows.places) :
    LeadsTo (.closed :: life) key rows' := by
  refine ⟨fun _ => h.settings_ne_none hopened, ?_, hpending, hemails ▸ h.emails, hplaces ▸ h.places⟩
  rw [htabs]
  exact h.tabs

theorem listed {form : Form.EmailList} (h : life.LeadsTo key rows) (hopened : rows.tabs ≠ [])
    (htabs : rows'.tabs = rows.tabs) (hpending : rows'.pending = rows.pending)
    (hemails : Membership.Holds rows'.emails form.emails) (hplaces : rows'.places = rows.places) :
    LeadsTo (.listed form :: life) key rows' := by
  refine ⟨fun _ => h.settings_ne_none hopened, ?_, ?_, hemails, hplaces ▸ h.places⟩
  · rw [htabs]
    exact h.tabs
  · rw [hpending]
    exact h.pending

variable {s : Store}

/-- A tab is opened with what its form lists. -/
theorem of_withTab {t : Tab} {form : Form.NewTab} (h : life.LeadsTo t.key (s.rowsOf t.key))
    (hfresh : (s.rowsOf t.key).tabs = []) (hconfig : t.config = form.config.kept) :
    LeadsTo (.opened form :: life) t.key ((((s.withTab t).withEmails t.key
      (some form.emails)).withPlaces t.key (some form.locationIds)).rowsOf t.key) := by
  have htabs : (s.tabs ++ [t]).filter (·.key = t.key) = [t] := by
    rw [List.filter_append, List.filter_eq_nil_iff.mpr (List.filter_eq_nil_iff.mp hfresh)]
    simp
  have hemails : Membership.Holds
      (((s.withTab t).withEmails t.key (some form.emails)).rowsOf t.key).emails form.emails :=
    Store.holds_withEmails h.emails
  exact h.opened hfresh hconfig htabs rfl hemails (Store.holds_withPlaces h.places)

/-- A revision waits for a tab, and what it lists is written at once. -/
theorem of_stage {form : Form.Revision} (h : life.LeadsTo key (s.rowsOf key))
    (hopened : (s.rowsOf key).tabs ≠ []) :
    LeadsTo (.proposed form :: life) key ((((s.stage (pendingFor key form)).withEmails key
      form.emails).withPlaces key form.locationIds).rowsOf key) := by
  have hpending : ((s.stage (pendingFor key form)).rowsOf key).pending = [pendingFor key form] :=
    Store.pending_stage h.pending_length
  have hemails : Membership.Holds (((s.stage (pendingFor key form)).withEmails key
      form.emails).rowsOf key).emails (form.emails.getD life.emails) :=
    Store.holds_withEmails h.emails
  refine h.proposed hopened ?_ ?_ ?_ (Store.holds_withPlaces ?_)
  · simp [Store.rowsOf, Store.rowsWhere]
  · simpa [Store.rowsOf, Store.rowsWhere] using hpending
  · simpa [Store.rowsOf, Store.rowsWhere] using hemails
  · simpa [Store.rowsOf, Store.rowsWhere] using h.places

end LeadsTo

end Life

namespace Effect

variable {env : Surroundings} {caller : Caller} {s s' : Store} {op : Operation} {reply : Reply}

/-- The rows of a tab follow its life through every operation. -/
theorem leadsTo {life : Life} {key : TabKey} (h : Effect env caller s op reply s')
    (hlife : life.LeadsTo key (s.rowsOf key)) :
    Life.LeadsTo ((op.milestoneOf? reply key).toList ++ life) key (s'.rowsOf key) := by
  by_cases htarget : op.target? reply = some key
  · rw [Operation.milestoneOf?, if_pos htarget]
    have hopened : ∀ {action : Action} {tab : Tab},
        Service.authorizeTab env caller key action s = .ok tab → (s.rowsOf key).tabs ≠ [] := by
      intro action tab hallowed
      obtain ⟨_, _, hfound, _⟩ := Service.authorizeTab_eq_ok.mp hallowed
      exact Store.tabs_ne_nil hfound
    cases h with
    | @tabCreated shopId form shop tab allowed opened owned =>
        have hkey : tab.key = key := by
          rw [opened] at htarget ⊢
          exact Option.some.inj htarget
        subst hkey
        have hfresh : (s.rowsOf tab.key).tabs = [] := by
          apply List.filter_eq_nil_iff.mpr
          intro t ht hsame
          rw [opened] at hsame
          exact Service.newTab_key_ne ht _ _ _ (of_decide_eq_true hsame).symm
        have hconfig : tab.config = form.config.kept := by
          rw [opened]
          rfl
        exact hlife.of_withTab hfresh hconfig
    | @updateSubmitted _ form tab allowed notClosed =>
        cases htarget
        exact hlife.of_stage (hopened allowed)
    | tabApproved allowed notClosed =>
        cases htarget
        refine hlife.approved (hopened allowed) ?_ ?_ rfl rfl
        · rw [← Store.pending?_eq_head?]
          exact Store.tabs_updateTab fun _ => rfl
        · exact Store.pending_unstage
    | tabClosed allowed =>
        cases htarget
        refine hlife.closed (hopened allowed) ?_ ?_ rfl rfl
        · have htabs : ((s.updateTab key fun t => { t with status := .closed }).rowsOf key).tabs =
              (s.rowsOf key).tabs.map fun t => { t with status := .closed } :=
            Store.tabs_updateTab fun _ => rfl
          exact (congrArg (List.map _) htabs).trans (List.map_map ..)
        · exact Store.pending_unstage
    | @verificationListSet _ form tab result allowed notClosed counted =>
        cases htarget
        refine hlife.listed (hopened allowed) rfl rfl ?_ rfl
        exact Store.holds_withEmails hlife.emails
    | billPaid dayOr allowed found => exact hlife.congr rfl rfl rfl rfl
    | orderAdded allowed applied | orderRemoved allowed applied =>
        obtain ⟨_, _, _, hframe⟩ := applied.frame
        rw [hframe]
        exact hlife.congr rfl rfl rfl rfl
    | tabShown allowed => exact hlife
    | tabsListed => cases htarget
  · rw [Operation.milestoneOf?, if_neg htarget, h.rowsOf_eq htarget]
    exact hlife

end Effect

theorem Service.Request.leadsTo {life : Life} {key : TabKey} {s : Store} (r : Service.Request)
    (hlife : life.LeadsTo key (s.rowsOf key)) :
    Life.LeadsTo ((r.milestone? key s).toList ++ life) key ((r.after s).rowsOf key) := by
  rcases r.ask.perform_cases r.env r.caller s with
    ⟨⟨failure, hresult⟩, hstore⟩ | ⟨op, reply, hread, hresult, heffect⟩
  · have hnone : r.milestone? key s = none := by
      rw [milestone?, outcome, hresult]
      split <;> simp_all
    rw [hnone, after, outcome, hstore]
    exact hlife
  · have hsome : r.milestone? key s = op.milestoneOf? reply key := by
      rw [milestone?, outcome, hread, hresult]
    rw [hsome]
    exact heffect.leadsTo hlife

/-- Nothing is kept of a tab. -/
structure Store.LacksTab (s : Store) (key : TabKey) : Prop where
  tabs : (s.rowsOf key).tabs = []
  pending : (s.rowsOf key).pending = []
  emails : (s.rowsOf key).emails = []
  places : (s.rowsOf key).places = []

theorem Store.LacksTab.leadsTo {s : Store} {key : TabKey} (h : s.LacksTab key) :
    Life.LeadsTo [] key (s.rowsOf key) := by
  refine ⟨fun hnil => absurd rfl hnil, ?_, ?_, ?_, ?_⟩
  · rw [h.tabs]
    rfl
  · rw [h.pending]
    rfl
  · rw [h.emails]
    exact ⟨List.nodup_nil, fun _ => Iff.rfl⟩
  · rw [h.places]
    exact ⟨List.nodup_nil, fun _ => Iff.rfl⟩

/-- Over any history, the rows of a tab follow its life. -/
theorem Store.leadsTo_run {s : Store} {key : TabKey} (hnew : s.LacksTab key)
    (history : List Service.Request) :
    (lifeOf key s history).LeadsTo key ((s.run history).rowsOf key) := by
  induction history using List.reverseRecOn with
  | nil => exact hnew.leadsTo
  | append_singleton rest r ih =>
      rw [run_append_singleton, lifeOf_append_singleton]
      exact r.leadsTo ih

end ShopTabs
