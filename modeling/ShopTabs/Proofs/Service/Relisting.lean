import ShopTabs.Proofs.Form.Email
import ShopTabs.Proofs.Membership
import ShopTabs.Proofs.Service.Proposal
/-!
The verification list of a tab that is submitted again as it is shown.  Its addresses are in normal form,
so each is read as itself and the list is made to hold what it holds; only an address that has become too
long in lower case stands in the way.
-/

namespace ShopTabs

open Text

section

variable {s : Store} {key : TabKey} {env : Surroundings} {caller : Caller} {tab : Tab}

theorem Store.mem_sortedEmails {a : String} :
    a ∈ s.sortedEmails key ↔ a ∈ Membership.keysOf s.emails key := List.mem_mergeSort

/-- After any history the addresses of a tab's verification list are in normal form. -/
theorem Store.sortedEmails_normal (hnew : s.LacksTab key) (history : List Service.Request) :
    ∀ a ∈ (s.run history).sortedEmails key, Form.IsNormalEmail a := by
  intro a ha
  have hlisted := ((leadsTo_run hnew history).emails.mem_iff a).mp (mem_sortedEmails.mp ha)
  exact Life.emails_normal (fun _ => isRead_of_mem_lifeOf) hlisted

/-- A verification list that is set to what it holds stays as it is. -/
theorem Service.setVerificationList_of_held {form : Form.EmailList}
    (hallowed : authorizeTab env caller key .update s = .ok tab) (hopen : tab.status ≠ .closed)
    (hknown : caller.IsKnown s)
    (hheld : ∀ a, a ∈ Membership.keysOf s.emails key ↔ a ∈ form.emails) :
    setVerificationList env caller key form s =
      .ok (⟨0, 0⟩, s.audited caller key (.verificationListSet 0 0)) := by
  obtain ⟨hshop, htab, _⟩ := authorizeTab_eq_ok.mp hallowed
  have hsync : s.syncEmails key form.emails = .ok (⟨0, 0⟩, s) := by
    refine Store.syncEmails_eq_ok.mpr ⟨⟨hshop, htab⟩, ?_, ?_, ?_⟩
    · exact Or.inl (Membership.missing_of_held hheld)
    · exact (Membership.result_of_held hheld).symm
    · rw [Store.withEmails, Membership.replace_of_held hheld]
  simp only [setVerificationList, bind_eq_ok, ensureNotClosed_eq_ok, pure_eq_ok, Prod.exists,
    record_eq_ok, exists_const]
  exact ⟨tab, hallowed, hopen, _, _, hsync, _, ⟨hknown, rfl⟩, rfl⟩

/-- A list of addresses in normal form that is submitted to a tab whose list it is changes nothing, unless
one of them is too long; then it is refused on account of each such address. -/
theorem Submission.perform_held {form : Form.EmailList}
    (hallowed : Service.authorizeTab env caller key .update s = .ok tab) (hopen : tab.status ≠ .closed)
    (hknown : caller.IsKnown s) (hnormal : ∀ a ∈ form.emails, Form.IsNormalEmail a)
    (hheld : ∀ a, a ∈ Membership.keysOf s.emails key ↔ a ∈ form.emails) :
    (Submission.setVerificationList key form.toJson).perform env caller s =
      match form.tooLong with
      | [] => ⟨.ok (.synced ⟨0, 0⟩), s.audited caller key (.verificationListSet 0 0)⟩
      | first :: others => ⟨.error (.invalidForm first others), s⟩ := by
  have hread := Form.EmailList.read_toJson hnormal
  cases hlong : form.tooLong with
  | nil =>
      rw [hlong] at hread
      have hasked : (Submission.setVerificationList key form.toJson).read env.shortening =
          .ok (.setVerificationList key form) := by
        rw [read, hread]
        rfl
      rw [perform_of_read hasked, Operation.perform, Operation.attempt,
        Service.setVerificationList_of_held hallowed hopen hknown hheld]
      rfl
  | cons first others =>
      rw [hlong] at hread
      have hasked : (Submission.setVerificationList key form.toJson).read env.shortening =
          .error (.findings first others) := by
        rw [read, hread]
        rfl
      rw [perform, hasked]
      rfl

end

/-- An address that was accepted is kept in lower case, as one character for each that was submitted without
the blanks around it and one more for each `İ`.  As long as that is within the bound, the address that is kept
is accepted again as itself.  After any history, whoever may change the verification list of a tab that is not
closed can submit the list as it is shown.  If all its addresses are within the bound, this inserts and
deletes nothing; if not, it is refused with a finding on each that is too long. -/
theorem shown_emails_relisted {s : Store} {key : TabKey} (hnew : s.LacksTab key)
    (history : List Service.Request) :
    (∀ input a, Form.email input = .accepted a → ∃ text, input = .str text ∧
      (trim isWhiteSpace text.toList).length ≤ Form.emailLimit ∧
      a.length =
        (trim isWhiteSpace text.toList).length + (trim isWhiteSpace text.toList).count 'İ' ∧
      Form.email (.str a) =
        if Form.emailLimit < a.length then .finding (.longText Form.emailLimit) (.str a)
        else .accepted a) ∧
    ∀ (env : Surroundings) (caller : Caller) (tab : Tab),
      Service.authorizeTab env caller key .update (s.run history) = .ok tab → tab.status ≠ .closed →
      caller.IsKnown (s.run history) →
      let reached := s.run history
      let shown : Form.EmailList := ⟨(reached.overview tab).view.emails⟩
      let again := (Submission.setVerificationList key shown.toJson).perform env caller reached
      (∀ a ∈ shown.emails, Form.IsNormalEmail a) ∧
      ((∀ a ∈ shown.emails, a.length ≤ Form.emailLimit) →
        again = ⟨.ok (.synced ⟨0, 0⟩), reached.audited caller key (.verificationListSet 0 0)⟩) ∧
      ((∃ a ∈ shown.emails, Form.emailLimit < a.length) → ∃ first others,
        shown.tooLong = first :: others ∧ again = ⟨.error (.invalidForm first others), reached⟩) := by
  refine ⟨?_, ?_⟩
  · intro input a haccepted
    obtain ⟨text, rfl, hnormal⟩ := Form.email_eq_accepted.mp haccepted
    obtain ⟨hlength, _, _⟩ := Form.normalizeEmail_eq_ok.mp hnormal
    refine ⟨text, rfl, hlength, Form.length_of_normalizeEmail hnormal, ?_⟩
    rw [Form.email_normal ⟨text, hnormal⟩, Form.tooLong?]
    split <;> rfl
  · intro env caller tab hallowed hopen hknown reached shown again
    obtain ⟨_, _, hfound, _⟩ := Service.authorizeTab_eq_ok.mp hallowed
    have hkey : tab.key = key := (Store.mem_of_tab? hfound).2
    have hshown : shown.emails = reached.sortedEmails key := by rw [← hkey]; rfl
    have hnormal : ∀ a ∈ shown.emails, Form.IsNormalEmail a := by
      rw [hshown]
      exact Store.sortedEmails_normal hnew history
    have hheld : ∀ a, a ∈ Membership.keysOf reached.emails key ↔ a ∈ shown.emails := by
      intro a
      rw [hshown, Store.mem_sortedEmails]
    have hagain := Submission.perform_held hallowed hopen hknown hnormal hheld
    refine ⟨hnormal, ?_, ?_⟩
    · intro hshort
      rw [Form.EmailList.tooLong_eq_nil.mpr hshort] at hagain
      exact hagain
    · rintro ⟨a, ha, hlong⟩
      have hsome : shown.tooLong ≠ [] := fun hnone =>
        absurd (Form.EmailList.tooLong_eq_nil.mp hnone a ha) (Nat.not_le.mpr hlong)
      obtain ⟨first, others, hfindings⟩ := List.exists_cons_of_ne_nil hsome
      rw [hfindings] at hagain
      exact ⟨first, others, hfindings, hagain⟩

namespace Sample

/-- Sets the verification list of the first tab. -/
def list (emails : List String) : Service.Request :=
  request (.setVerificationList tab (Form.EmailList.mk emails).toJson)

/-- An address of 165 characters that has 325 in lower case. -/
def dotted : List Char := List.replicate 160 'İ' ++ "@b.co".toList

end Sample

/-- An address with one `İ` is shown with two characters in its place and listed again.  One with so many
that it becomes too long is accepted, and what is kept of it is not. -/
theorem shown_emails_relisted_dotted :
    let reached := Sample.store.run [Sample.openTab 7, Sample.list [" İ@B.co"]]
    let shown : Form.EmailList := ⟨(reached.overview (Sample.openedTab 7)).view.emails⟩
    let again := (Submission.setVerificationList Sample.tab shown.toJson).perform (Sample.order 5).env
      (Sample.order 5).caller reached
    shown.emails = ["i\u0307@b.co"] ∧ again.result = .ok (.synced ⟨0, 0⟩) ∧
      ∃ a, Form.email (.str (String.ofList Sample.dotted)) = .accepted a ∧
        Form.email (.str a) = .finding (.longText 320) (.str a) := by
  intro reached shown again
  have hnew : Sample.store.LacksTab Sample.tab := by constructor <;> decide +kernel
  obtain ⟨hkept, hrelisted⟩ :=
    shown_emails_relisted hnew [Sample.openTab 7, Sample.list [" İ@B.co"]]
  refine ⟨?_, ?_, ?_⟩
  · decide +kernel
  · have hallowed : Service.authorizeTab (Sample.order 5).env (Sample.order 5).caller Sample.tab .update
        reached = .ok (Sample.openedTab 7) :=
      Service.authorizeTab_eq_ok.mpr ⟨by decide, by decide, by decide +kernel, ⟨1, 2, "Campus Cafe"⟩,
        by decide +kernel, by decide +kernel⟩
    obtain ⟨_, hshort, _⟩ := hrelisted _ _ _ hallowed (by decide)
      ⟨by decide, by decide +kernel⟩
    exact congrArg Outcome.result (hshort (by decide +kernel))
  · have htrim : trim isWhiteSpace (String.ofList Sample.dotted).toList = Sample.dotted := by
      rw [String.toList_ofList]
      decide +kernel
    have hnormal : Form.normalizeEmail (String.ofList Sample.dotted) =
        .ok (String.ofList (lower Sample.dotted)) := by
      rw [Form.normalizeEmail_eq_ok, htrim]
      exact ⟨by decide +kernel, by decide +kernel, rfl⟩
    have haccepted := Form.email_eq_accepted.mpr ⟨_, rfl, hnormal⟩
    obtain ⟨text, htext, _, hlength, hagain⟩ := hkept _ _ haccepted
    obtain rfl := Json.str.inj htext
    have hlong : Form.emailLimit < (String.ofList (lower Sample.dotted)).length := by
      rw [hlength, htrim]
      decide +kernel
    rw [if_pos hlong] at hagain
    exact ⟨_, haccepted, hagain⟩

end ShopTabs
