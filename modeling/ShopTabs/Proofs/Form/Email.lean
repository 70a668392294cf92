import Mathlib.Data.List.TakeWhile
import ShopTabs.Form.Printer
import ShopTabs.Proofs.Form.Settings
import ShopTabs.Proofs.Number.Decimal
import ShopTabs.Proofs.Text.LowerCase
/-!
Email addresses in normal form that are submitted again.  Lower-casing keeps the shape of an address and
what it gives is in lower case, so the normal form of an address in normal form is that address.  Only the
bound on the length is tested before lower-casing, which makes two characters of each `İ`: an address that
has become too long is refused when it is submitted again.
-/

namespace ShopTabs.Form

open Text

/-! ### The shape of an address -/

/-- A part of an address: something, and neither white space nor an `@` in it. -/
structure IsPart (cs : List Char) : Prop where
  ne_nil : cs ≠ []
  notBlank : ∀ c ∈ cs, isWhiteSpace c = false
  notAt : '@' ∉ cs

theorem IsPart.lowered {cs es : List Char} (h : IsPart cs) (hlow : Lowered cs es) : IsPart es := by
  refine ⟨hlow.ne_nil h.ne_nil, ?_, ?_⟩
  · intro c hc
    rw [Bool.eq_false_iff]
    intro hblank
    have hold := hlow.mem_of_isUnreached hc (isUnreached_of_isWhiteSpace hblank)
    rw [h.notBlank c hold] at hblank
    cases hblank
  · exact fun hc => h.notAt (hlow.mem_of_isUnreached hc (by decide))

/-- An address in its three parts. -/
def address (user left right : List Char) : List Char := user ++ '@' :: (left ++ '.' :: right)

theorem hasInnerPoint_iff {cs : List Char} :
    hasInnerPoint cs = true ↔ ∃ left right, cs = left ++ '.' :: right ∧ left ≠ [] ∧ right ≠ [] := by
  rw [hasInnerPoint, List.contains_iff_mem]
  constructor
  · intro h
    cases cs with
    | nil => cases h
    | cons c rest =>
        have hrest : rest ≠ [] := by
          rintro rfl
          cases h
        obtain ⟨front, back, hsplit⟩ := List.append_of_mem h
        rw [List.drop_succ_cons, List.drop_zero] at hsplit
        refine ⟨c :: front, back ++ [rest.getLast hrest], ?_, by simp, by simp⟩
        calc c :: rest = c :: (rest.dropLast ++ [rest.getLast hrest]) := by
              rw [List.dropLast_append_getLast hrest]
          _ = (c :: front) ++ '.' :: (back ++ [rest.getLast hrest]) := by simp [hsplit]
  · rintro ⟨left, right, rfl, hleft, hright⟩
    obtain ⟨c, front, rfl⟩ := List.exists_cons_of_ne_nil hleft
    rw [List.cons_append, List.drop_succ_cons, List.drop_zero,
      List.dropLast_append_of_ne_nil (by simp), List.dropLast_cons_of_ne_nil hright]
    simp

theorem splitAt_address {user host : List Char} (huser : '@' ∉ user) :
    splitAt (user ++ '@' :: host) = (user, host) := by
  have hfront : ∀ c ∈ user, decide (c ≠ '@') = true := by
    intro c hc
    exact decide_eq_true fun hat => huser (hat ▸ hc)
  rw [splitAt, List.takeWhile_append_of_pos hfront, List.dropWhile_append_of_pos hfront]
  simp

/-- A text is split at its `@`, if it has one. -/
theorem exists_splitAt {cs : List Char} (h : '@' ∈ cs) :
    ∃ user host, '@' ∉ user ∧ cs = user ++ '@' :: host := by
  induction cs with
  | nil => cases h
  | cons c rest ih =>
      by_cases hc : c = '@'
      · exact ⟨[], rest, by simp, by simp [hc]⟩
      · have hrest : '@' ∈ rest := (List.mem_cons.mp h).resolve_left (Ne.symm hc)
        obtain ⟨user, host, huser, rfl⟩ := ih hrest
        refine ⟨c :: user, host, ?_, rfl⟩
        simp [huser, Ne.symm hc]

/-- A text has the shape of an address exactly when it is put together from three parts. -/
theorem isEmail_iff {cs : List Char} :
    isEmail cs = true ↔
      ∃ user left right, cs = address user left right ∧ IsPart user ∧ IsPart left ∧ IsPart right := by
  constructor
  · intro h
    simp only [isEmail, Bool.and_eq_true, List.all_eq_true, Bool.not_eq_true', beq_iff_eq] at h
    obtain ⟨⟨⟨hblank, hcount⟩, hfirst⟩, hpoint⟩ := h
    have hat : '@' ∈ cs := List.count_pos_iff.mp (by omega)
    obtain ⟨user, host, huser, rfl⟩ := exists_splitAt hat
    rw [splitAt_address huser] at hfirst hpoint
    obtain ⟨left, right, rfl, hleft, hright⟩ := hasInnerPoint_iff.mp hpoint
    have hhost : '@' ∉ left ++ '.' :: right := by
      rw [List.count_append, List.count_cons_self, List.count_eq_zero_of_not_mem huser] at hcount
      exact List.count_eq_zero.mp (by omega)
    simp only [List.mem_append, List.mem_cons, not_or] at hblank hhost
    refine ⟨user, left, right, rfl, ⟨by simpa using hfirst, ?_, huser⟩, ⟨hleft, ?_, hhost.1⟩,
      ⟨hright, ?_, hhost.2.2⟩⟩
    · exact fun c hc => hblank c (.inl hc)
    · exact fun c hc => hblank c (.inr (.inr (.inl hc)))
    · exact fun c hc => hblank c (.inr (.inr (.inr (.inr hc))))
  · rintro ⟨user, left, right, rfl, huser, hleft, hright⟩
    have hpoint : hasInnerPoint (left ++ '.' :: right) = true :=
      hasInnerPoint_iff.mpr ⟨left, right, rfl, hleft.ne_nil, hright.ne_nil⟩
    have hblank : (address user left right).all (fun c => !isWhiteSpace c) = true := by
      simp only [address, List.all_append, List.all_cons, Bool.and_eq_true, List.all_eq_true,
        Bool.not_eq_true']
      exact ⟨huser.notBlank, by decide, hleft.notBlank, by decide, hright.notBlank⟩
    have hcount : (address user left right).count '@' = 1 := by
      simp [address, List.count_eq_zero_of_not_mem, huser.notAt, hleft.notAt,
        hright.notAt]
    have hfirst : user.isEmpty = false := by simpa using huser.ne_nil
    simp only [isEmail, hblank, hcount]
    rw [address, splitAt_address huser.notAt]
    simp only [hfirst, hpoint]
    rfl

theorem isSettled_at : IsSettled '@' := ⟨by decide +kernel, by decide, by decide⟩

theorem isSettled_point : IsSettled '.' := ⟨by decide +kernel, by decide, by decide⟩

/-- Lower-casing keeps the shape of an address. -/
theorem isEmail_lower {cs : List Char} (h : isEmail cs = true) : isEmail (lower cs) = true := by
  obtain ⟨user, left, right, rfl, huser, hleft, hright⟩ := isEmail_iff.mp h
  obtain ⟨user', _, heq, huser', hhost⟩ := (lowered_lower (address user left right)).append_inv
  obtain ⟨_, rfl, hparts⟩ := hhost.cons_settled isSettled_at
  obtain ⟨left', _, rfl, hleft', hending⟩ := hparts.append_inv
  obtain ⟨right', rfl, hright'⟩ := hending.cons_settled isSettled_point
  exact isEmail_iff.mpr
    ⟨user', left', right', heq, huser.lowered huser', hleft.lowered hleft', hright.lowered hright'⟩

theorem trim_of_isEmail {cs : List Char} (h : isEmail cs = true) : trim isWhiteSpace cs = cs := by
  simp only [isEmail, Bool.and_eq_true, List.all_eq_true, Bool.not_eq_true'] at h
  exact trim_eq_self h.1.1.1

/-! ### Normal forms -/

theorem normalizeEmail_eq_ok {text a : String} :
    normalizeEmail text = .ok a ↔
      (trim isWhiteSpace text.toList).length ≤ emailLimit ∧
        isEmail (trim isWhiteSpace text.toList) = true ∧
        a = String.ofList (lower (trim isWhiteSpace text.toList)) := by
  rw [normalizeEmail]
  split
  · next hlong => simp [Nat.not_le.mpr hlong]
  · next hshort =>
      split
      · next hshape => simp_all
      · next hshape =>
          simp only [Except.ok.injEq]
          constructor
          · rintro rfl
            exact ⟨Nat.not_lt.mp hshort, by simpa using hshape, rfl⟩
          · rintro ⟨_, _, rfl⟩
            rfl

/-- An address in normal form has the shape of one and is in lower case. -/
theorem IsNormalEmail.shape {a : String} (h : IsNormalEmail a) :
    isEmail a.toList = true ∧ lower a.toList = a.toList := by
  obtain ⟨text, hnormal⟩ := h
  obtain ⟨_, hshape, rfl⟩ := normalizeEmail_eq_ok.mp hnormal
  rw [String.toList_ofList]
  exact ⟨isEmail_lower hshape, lower_lower _⟩

/-- The normal form of an address in normal form is that address, if it is not too long. -/
theorem IsNormalEmail.normalize {a : String} (h : IsNormalEmail a) :
    normalizeEmail a = if emailLimit < a.length then .error (.longText emailLimit) else .ok a := by
  obtain ⟨hshape, hlower⟩ := h.shape
  rw [normalizeEmail, trim_of_isEmail hshape, hshape, hlower, String.ofList_toList,
    String.length_toList]
  rfl

theorem email_eq_accepted {input : Json} {a : String} :
    email input = .accepted a ↔ ∃ text, input = .str text ∧ normalizeEmail text = .ok a := by
  constructor
  · intro h
    cases input with
    | str text =>
        refine ⟨text, rfl, ?_⟩
        have hread : email (.str text) = scalar (fun _ => normalizeEmail text) (.str text) := rfl
        rw [hread, scalar] at h
        split at h
        · next hnormal =>
            cases h
            exact hnormal
        · cases h
    | _ => cases h
  · rintro ⟨text, rfl, hnormal⟩
    show scalar (fun _ => normalizeEmail text) (.str text) = _
    rw [scalar, hnormal]

/-- A normal form has one character for each of the trimmed text and one more for each `İ`. -/
theorem length_of_normalizeEmail {text a : String} (h : normalizeEmail text = .ok a) :
    a.length = (trim isWhiteSpace text.toList).length + (trim isWhiteSpace text.toList).count 'İ' := by
  obtain ⟨_, _, rfl⟩ := normalizeEmail_eq_ok.mp h
  rw [String.length_ofList, length_lower]

/-! ### A list that is submitted again -/

namespace Verdict

variable {α β : Type}

/-- A value is accepted if nothing was found on it. -/
def ofFindings (a : α) : List Finding → Verdict α
  | [] => accepted a
  | first :: others => refused first others

theorem seq_ofFindings (g : α → β) (a : α) (found others : List Finding) :
    ofFindings g found <*> ofFindings a others = ofFindings (g a) (found ++ others) := by
  change Verdict.seq (ofFindings g found) (ofFindings a others) = _
  cases found with
  | nil => cases others <;> rfl
  | cons f fs =>
      cases others with
      | nil =>
          rw [List.append_nil]
          rfl
      | cons o os => rfl

theorem under_ofFindings (step : Step) (a : α) (found : List Finding) :
    (ofFindings a found).under step =
      ofFindings a (found.map fun f => { f with path := step :: f.path }) := by
  cases found <;> rfl

end Verdict

/-- An address that is too long, at its place in a list. -/
def tooLong? (a : String) (place : List Step) : Option Finding :=
  if emailLimit < a.length then some ⟨place, .longText emailLimit, .str a⟩ else none

/-- The addresses of a list that are too long, from an index on. -/
def tooLongFrom (index : Nat) (emails : List String) : List Finding :=
  (emails.zipIdx index).filterMap fun entry => tooLong? entry.1 [.item entry.2]

theorem email_normal {a : String} (h : IsNormalEmail a) :
    email (.str a) = .ofFindings a (tooLong? a []).toList := by
  have hread : email (.str a) = scalar (fun _ => normalizeEmail a) (.str a) := rfl
  rw [hread, scalar, h.normalize, tooLong?]
  by_cases hlong : emailLimit < a.length
  · rw [if_pos hlong, if_pos hlong]
    rfl
  · rw [if_neg hlong, if_neg hlong]
    rfl

/-- Addresses in normal form are read as they stand, but for those that are too long. -/
theorem readItems_email {emails : List String} (h : ∀ a ∈ emails, IsNormalEmail a) (index : Nat) :
    readItems email index (emails.map .str) = .ofFindings emails (tooLongFrom index emails) := by
  induction emails generalizing index with
  | nil => rfl
  | cons a rest ih =>
      have hrest := ih (fun b hb => h b (List.mem_cons_of_mem a hb)) (index + 1)
      have hfirst : (List.cons <$> (email (.str a)).under (.item index) : Verdict _) =
          .ofFindings (List.cons a) (tooLong? a [.item index]).toList := by
        rw [email_normal (h a List.mem_cons_self), Verdict.under_ofFindings, tooLong?, tooLong?]
        split <;> rfl
      rw [List.map_cons, readItems, hfirst, hrest, Verdict.seq_ofFindings]
      congr 1
      rw [tooLongFrom, tooLongFrom, List.zipIdx_cons, List.filterMap_cons]
      cases tooLong? a [.item index] <;> rfl

/-- The findings on a list of addresses in normal form that is submitted: one for each that is too long. -/
def EmailList.tooLong (form : EmailList) : List Finding :=
  (tooLongFrom 0 form.emails).map fun f => { f with path := .field "emails" :: f.path }

theorem EmailList.read_toJson {form : EmailList} (h : ∀ a ∈ form.emails, IsNormalEmail a) :
    EmailList.read form.toJson = settle (.ofFindings form form.tooLong) := by
  have hlist : field "emails" (listOf email) form.toJson = .ofFindings form.emails form.tooLong := by
    have hget : form.toJson.get? "emails" = some (textList form.emails) := rfl
    rw [field, hget]
    show (readItems email 0 (form.emails.map .str)).under (.field "emails") = _
    rw [readItems_email h, Verdict.under_ofFindings]
    rfl
  show settle (EmailList.mk <$> field "emails" (listOf email) form.toJson) = _
  rw [hlist]
  cases form.tooLong <;> rfl

/-- Where no address is too long, the list is accepted as it stands. -/
theorem EmailList.tooLong_eq_nil {form : EmailList} :
    form.tooLong = [] ↔ ∀ a ∈ form.emails, a.length ≤ emailLimit := by
  rw [tooLong, List.map_eq_nil_iff, tooLongFrom, List.filterMap_eq_nil_iff]
  constructor
  · intro h a ha
    obtain ⟨i, hi, rfl⟩ := List.getElem_of_mem ha
    have hnone := h (form.emails[i], i) (List.mem_zipIdx_iff_getElem?.mpr (by simp [hi]))
    rw [tooLong?] at hnone
    split at hnone
    · cases hnone
    · next hshort => exact Nat.not_lt.mp hshort
  · intro h entry hentry
    have hmem : entry.1 ∈ form.emails := List.fst_mem_of_mem_zipIdx hentry
    rw [tooLong?, if_neg (Nat.not_lt.mpr (h entry.1 hmem))]

end ShopTabs.Form
