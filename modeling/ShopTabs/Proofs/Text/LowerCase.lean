import ShopTabs.Text.Blank
import ShopTabs.Text.LowerCase
/-!
What lower-casing makes of a text.  Whatever stands around a character, it becomes one character, `İ`
alone two; a text in lower case stays as it is; and white space, `@` and `.` come only from themselves.
That the images of upper-case letters are no upper-case letters is read off the table range by range.
-/

namespace ShopTabs.Text

/-! ### Images of the ranges -/

namespace LowerRange

/-- Where the first letter of a range is shifted to. -/
def imageFirst (r : LowerRange) : Nat := (r.first + r.shift).toNat

/-- Where the last letter of a range is shifted to. -/
def imageLast (r : LowerRange) : Nat := (r.last + r.shift).toNat

/-- No letter of a range is shifted onto a place of another: all land before it, or behind it, or next to
its places, where these are two apart. -/
def misses (r q : LowerRange) : Bool :=
  r.imageLast.blt q.first || q.last.blt r.imageFirst
    || ((r.stride == 2 || r.first == r.last) && q.stride == 2 && (r.imageFirst + q.first) % 2 == 1)

/-- All letters of a range are shifted onto characters. -/
def staysInside (r : LowerRange) : Bool :=
  0 ≤ r.first + r.shift
    && (r.imageLast < 0xD800 || (0xDFFF < r.imageFirst && r.imageLast < 0x110000))

variable {r q : LowerRange} {n : Nat}

theorem covers_iff :
    r.covers n = true ↔ r.first ≤ n ∧ n ≤ r.last ∧ (n - r.first) % r.stride = 0 := by
  simp [covers, and_assoc]

theorem staysInside_nonneg (h : r.staysInside = true) : 0 ≤ r.first + r.shift :=
  of_decide_eq_true (Bool.and_eq_true_iff.mp h).1

theorem not_covers_of_misses {m : Nat} (hin : r.staysInside = true) (h : r.misses q = true)
    (hn : r.covers n = true) (hm : (m : Int) = n + r.shift) : q.covers m = false := by
  rw [Bool.eq_false_iff]
  intro hq
  have hnonneg := staysInside_nonneg hin
  obtain ⟨hfirst, hlast, hplace⟩ := covers_iff.mp hn
  obtain ⟨hqfirst, hqlast, hqplace⟩ := covers_iff.mp hq
  simp only [misses, imageFirst, imageLast, Bool.or_eq_true, Bool.and_eq_true, Nat.blt_eq,
    beq_iff_eq] at h
  rcases h with (hbefore | hbehind) | ⟨⟨heven, htwo⟩, hodd⟩
  · omega
  · omega
  · rw [htwo] at hqplace
    rcases heven with heven | hone
    · rw [heven] at hplace
      omega
    · omega

/-- A letter of a range is shifted onto a character. -/
theorem exists_image (hin : r.staysInside = true) (hn : r.covers n = true) :
    ∃ m : Nat, (m : Int) = n + r.shift ∧ m.isValidChar := by
  obtain ⟨hfirst, hlast, _⟩ := covers_iff.mp hn
  have hnonneg := staysInside_nonneg hin
  obtain ⟨m, hm⟩ := Int.eq_ofNat_of_zero_le (show 0 ≤ n + r.shift by omega)
  refine ⟨m, hm.symm, ?_⟩
  simp only [staysInside, Bool.or_eq_true, Bool.and_eq_true, decide_eq_true_eq] at hin
  rw [imageFirst, imageLast] at hin
  rw [Nat.isValidChar]
  omega

end LowerRange

/-- White space, `@`, `.` and `İ`, as ranges that nothing shifts. -/
def unreachedRanges : List LowerRange := [
    ⟨0x9, 0xD, 1, 0⟩, ⟨0x20, 0x20, 1, 0⟩, ⟨0x2E, 0x2E, 1, 0⟩, ⟨0x40, 0x40, 1, 0⟩, ⟨0x85, 0x85, 1, 0⟩,
    ⟨0xA0, 0xA0, 1, 0⟩, ⟨0x130, 0x130, 1, 0⟩, ⟨0x1680, 0x1680, 1, 0⟩, ⟨0x2000, 0x200A, 1, 0⟩,
    ⟨0x2028, 0x2029, 1, 0⟩, ⟨0x202F, 0x202F, 1, 0⟩, ⟨0x205F, 0x205F, 1, 0⟩, ⟨0x3000, 0x3000, 1, 0⟩]

/-- White space, `@`, `.` or `İ`. -/
def isUnreached (c : Char) : Bool := unreachedRanges.any (·.covers c.toNat)

theorem isUnreached_of_isWhiteSpace {c : Char} (h : isWhiteSpace c = true) : isUnreached c = true := by
  simp only [isWhiteSpace, Bool.or_eq_true, Bool.and_eq_true, decide_eq_true_eq, beq_iff_eq] at h
  simp only [isUnreached, unreachedRanges, List.any_cons, List.any_nil, Bool.or_eq_true,
    LowerRange.covers_iff, Nat.mod_one, and_true, Bool.false_eq_true, or_false]
  omega

theorem lowerRanges_stayInside : lowerRanges.all LowerRange.staysInside = true := by decide +kernel

theorem staysInside_of_mem {r : LowerRange} (h : r ∈ lowerRanges) : r.staysInside = true :=
  List.all_eq_true.mp lowerRanges_stayInside r h

theorem lowerRanges_miss : (lowerRanges.all fun r => lowerRanges.all r.misses) = true := by
  decide +kernel

theorem lowerRanges_miss_unreached :
    (lowerRanges.all fun r => unreachedRanges.all r.misses) = true := by
  decide +kernel

/-! ### One character -/

theorem toNat_ofNat {n : Nat} (h : n.isValidChar) : (Char.ofNat n).toNat = n := by
  rw [Char.ofNat, dif_pos h]
  rfl

/-- A character is its own lower-case form, or one of the table's ranges shifts it there. -/
theorem lowerSimple_cases (c : Char) :
    (lowerSimple c = c ∧ ∀ q ∈ lowerRanges, q.covers c.toNat = false) ∨
      ∃ r ∈ lowerRanges, r.covers c.toNat = true ∧
        ((lowerSimple c).toNat : Int) = c.toNat + r.shift := by
  unfold lowerSimple
  cases hfind : lowerRanges.find? (·.covers c.toNat) with
  | none =>
      refine Or.inl ⟨rfl, fun q hq => ?_⟩
      simpa using List.find?_eq_none.mp hfind q hq
  | some r =>
      have hmem := List.mem_of_find?_eq_some hfind
      have hcovers := List.find?_some hfind
      obtain ⟨m, hm, hvalid⟩ := LowerRange.exists_image (staysInside_of_mem hmem) hcovers
      refine Or.inr ⟨r, hmem, hcovers, ?_⟩
      show ((Char.ofNat (c.toNat + r.shift).toNat).toNat : Int) = _
      rw [← hm, Int.toNat_natCast, toNat_ofNat hvalid]

theorem lowerSimple_of_not_covered {c : Char} (h : ∀ q ∈ lowerRanges, q.covers c.toNat = false) :
    lowerSimple c = c := by
  have hfind : lowerRanges.find? (·.covers c.toNat) = none :=
    List.find?_eq_none.mpr fun q hq => by simp [h q hq]
  rw [lowerSimple, hfind]

/-- No range of the table covers a lower-case form. -/
theorem lowerSimple_not_covered (c : Char) :
    ∀ q ∈ lowerRanges, q.covers (lowerSimple c).toNat = false := by
  intro q hq
  rcases lowerSimple_cases c with ⟨hself, hnone⟩ | ⟨r, hr, hcovers, hshift⟩
  · rw [hself]
    exact hnone q hq
  · have hmiss := List.all_eq_true.mp (List.all_eq_true.mp lowerRanges_miss r hr) q hq
    exact LowerRange.not_covers_of_misses (staysInside_of_mem hr) hmiss hcovers hshift

@[simp] theorem lowerSimple_lowerSimple (c : Char) : lowerSimple (lowerSimple c) = lowerSimple c :=
  lowerSimple_of_not_covered (lowerSimple_not_covered c)

/-- White space, `@`, `.` and `İ` come only from themselves. -/
theorem eq_of_isUnreached_lowerSimple {c : Char} (h : isUnreached (lowerSimple c) = true) :
    lowerSimple c = c := by
  obtain ⟨q, hq, hcovers⟩ := List.any_eq_true.mp h
  rcases lowerSimple_cases c with ⟨hself, _⟩ | ⟨r, hr, hcovered, hshift⟩
  · exact hself
  · have hmiss := List.all_eq_true.mp (List.all_eq_true.mp lowerRanges_miss_unreached r hr) q hq
    rw [LowerRange.not_covers_of_misses (staysInside_of_mem hr) hmiss hcovered hshift] at hcovers
    cases hcovers

/-- Lower-casing leaves a character as it is, wherever it stands. -/
structure IsSettled (c : Char) : Prop where
  simple : lowerSimple c = c
  notDotted : c ≠ 'İ'
  notSigma : c ≠ 'Σ'

theorem isSettled_lowerSimple {c : Char} (hdotted : c ≠ 'İ') : IsSettled (lowerSimple c) := by
  refine ⟨lowerSimple_lowerSimple c, ?_, ?_⟩
  · intro hsame
    have hunreached : isUnreached (lowerSimple c) = true := by
      rw [hsame]
      decide
    exact hdotted ((eq_of_isUnreached_lowerSimple hunreached).symm.trans hsame)
  · intro hsame
    have hcovered : lowerRanges.any (·.covers (lowerSimple c).toNat) = true := by
      rw [hsame]
      decide +kernel
    obtain ⟨q, hq, hcovers⟩ := List.any_eq_true.mp hcovered
    rw [lowerSimple_not_covered c q hq] at hcovers
    cases hcovers

/-- What lower-casing makes of a character in some text. -/
inductive Piece : Char → List Char → Prop
  | dotted : Piece 'İ' ['i', '\u0307']
  | sigma : Piece 'Σ' ['σ']
  | finalSigma : Piece 'Σ' ['ς']
  | simple {c : Char} (notDotted : c ≠ 'İ') (notSigma : c ≠ 'Σ') : Piece c [lowerSimple c]

theorem piece_lowerIn (before : List Char) (c : Char) (after : List Char) :
    Piece c (lowerIn before c after) := by
  unfold lowerIn
  split
  · next h => exact h ▸ .dotted
  · next hdotted =>
      split
      · next h =>
          subst h
          split
          · exact .finalSigma
          · exact .sigma
      · next hsigma => exact .simple hdotted hsigma

namespace Piece

variable {c d : Char} {ds : List Char}

theorem ne_nil (h : Piece c ds) : ds ≠ [] := by cases h <;> simp

theorem length_eq (h : Piece c ds) : ds.length = 1 + if c = 'İ' then 1 else 0 := by
  cases h with
  | dotted => rfl
  | sigma | finalSigma => rfl
  | simple notDotted => rw [if_neg notDotted, List.length_singleton]

theorem settled (h : Piece c ds) (hd : d ∈ ds) : IsSettled d := by
  cases h with
  | dotted =>
      rcases List.mem_cons.mp hd with rfl | hd
      · exact ⟨by decide +kernel, by decide, by decide⟩
      · obtain rfl := List.mem_singleton.mp hd
        exact ⟨by decide +kernel, by decide, by decide⟩
  | sigma =>
      obtain rfl := List.mem_singleton.mp hd
      exact ⟨by decide +kernel, by decide, by decide⟩
  | finalSigma =>
      obtain rfl := List.mem_singleton.mp hd
      exact ⟨by decide +kernel, by decide, by decide⟩
  | simple notDotted =>
      obtain rfl := List.mem_singleton.mp hd
      exact isSettled_lowerSimple notDotted

/-- White space, `@` and `.` come only from themselves. -/
theorem eq_of_isUnreached (h : Piece c ds) (hd : d ∈ ds) (hunreached : isUnreached d = true) :
    d = c := by
  cases h with
  | dotted =>
      rcases List.mem_cons.mp hd with rfl | hd
      · exact absurd hunreached (by decide)
      · obtain rfl := List.mem_singleton.mp hd
        exact absurd hunreached (by decide)
  | sigma | finalSigma =>
      obtain rfl := List.mem_singleton.mp hd
      exact absurd hunreached (by decide)
  | simple =>
      obtain rfl := List.mem_singleton.mp hd
      exact eq_of_isUnreached_lowerSimple hunreached

/-- A character that lower-casing leaves as it is stays alone. -/
theorem eq_singleton (h : Piece c ds) (hc : IsSettled c) : ds = [c] := by
  cases h with
  | dotted => exact absurd rfl hc.notDotted
  | sigma | finalSigma => exact absurd rfl hc.notSigma
  | simple => rw [hc.simple]

end Piece

/-! ### A text -/

/-- A text is lower-cased character by character, each in some surroundings. -/
inductive Lowered : List Char → List Char → Prop
  | nil : Lowered [] []
  | cons {c : Char} {cs ds es : List Char} (first : Piece c ds) (rest : Lowered cs es) :
    Lowered (c :: cs) (ds ++ es)

theorem lowered_lowerFrom (before cs : List Char) : Lowered cs (lowerFrom before cs) := by
  induction cs generalizing before with
  | nil => exact .nil
  | cons c rest ih => exact .cons (piece_lowerIn before c rest) (ih (c :: before))

theorem lowered_lower (cs : List Char) : Lowered cs (lower cs) := lowered_lowerFrom [] cs

namespace Lowered

variable {cs ds es : List Char}

/-- The parts of a text are lower-cased one behind the other. -/
theorem append_inv (h : Lowered (cs ++ ds) es) :
    ∃ es₁ es₂, es = es₁ ++ es₂ ∧ Lowered cs es₁ ∧ Lowered ds es₂ := by
  induction cs generalizing es with
  | nil => exact ⟨[], es, rfl, .nil, h⟩
  | cons c rest ih =>
      cases h with
      | @cons _ _ ps qs first hrest =>
          obtain ⟨es₁, es₂, rfl, h₁, h₂⟩ := ih hrest
          exact ⟨ps ++ es₁, es₂, (List.append_assoc ..).symm, .cons first h₁, h₂⟩

/-- In front of a text stands what its first character becomes; one that stays as it is stands there
itself. -/
theorem cons_settled {c : Char} (h : Lowered (c :: cs) es) (hc : IsSettled c) :
    ∃ rest, es = c :: rest ∧ Lowered cs rest := by
  cases h with
  | @cons _ _ ps qs first hrest => exact ⟨qs, by rw [first.eq_singleton hc]; rfl, hrest⟩

theorem ne_nil (h : Lowered cs es) (hcs : cs ≠ []) : es ≠ [] := by
  cases h with
  | nil => exact hcs
  | cons first rest => exact List.append_ne_nil_of_left_ne_nil first.ne_nil _

theorem settled (h : Lowered cs es) : ∀ d ∈ es, IsSettled d := by
  induction h with
  | nil => simp
  | cons first rest ih =>
      intro d hd
      rcases List.mem_append.mp hd with hd | hd
      · exact first.settled hd
      · exact ih d hd

theorem mem_of_isUnreached {d : Char} (h : Lowered cs es) (hd : d ∈ es)
    (hunreached : isUnreached d = true) : d ∈ cs := by
  induction h with
  | nil => exact hd
  | cons first rest ih =>
      rcases List.mem_append.mp hd with hd | hd
      · exact List.mem_cons.mpr (Or.inl (first.eq_of_isUnreached hd hunreached))
      · exact List.mem_cons_of_mem _ (ih hd)

/-- Each `İ` adds one character. -/
theorem length_eq (h : Lowered cs es) : es.length = cs.length + cs.count 'İ' := by
  induction h with
  | nil => rfl
  | cons first rest ih =>
      rw [List.length_append, first.length_eq, ih, List.length_cons, List.count_cons]
      simp only [beq_iff_eq]
      omega

end Lowered

theorem lowerFrom_of_settled {cs : List Char} (h : ∀ c ∈ cs, IsSettled c) (before : List Char) :
    lowerFrom before cs = cs := by
  induction cs generalizing before with
  | nil => rfl
  | cons c rest ih =>
      have hfirst := (piece_lowerIn before c rest).eq_singleton (h c List.mem_cons_self)
      rw [lowerFrom, hfirst, ih fun d hd => h d (List.mem_cons_of_mem c hd)]
      rfl

/-- A text in lower case stays as it is. -/
@[simp] theorem lower_lower (cs : List Char) : lower (lower cs) = lower cs :=
  lowerFrom_of_settled (lowered_lower cs).settled []

theorem length_lower (cs : List Char) : (lower cs).length = cs.length + cs.count 'İ' :=
  (lowered_lower cs).length_eq

end ShopTabs.Text
