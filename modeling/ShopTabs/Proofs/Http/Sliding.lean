import ShopTabs.Proofs.Http.Answer
/-!
Sessions over many requests.  Every request that is recognised puts off the end of its session, and so
decides whether the next one is; a request that is not leaves everything as it is, and no later one can be
recognised again.
-/

namespace ShopTabs

/-- The moment so many minutes later. -/
def Instant.minutesLater (t : Instant) (minutes : Int) : Instant := ⟨t.micros + minutes * 60000000⟩

theorem Instant.lt_def {a b : Instant} : a < b ↔ a.micros < b.micros := Iff.rfl

theorem Instant.le_def {a b : Instant} : a ≤ b ↔ a.micros ≤ b.micros := Iff.rfl

theorem Instant.not_lt {a b : Instant} : ¬ a < b ↔ b ≤ a := Int.not_lt

theorem Instant.addMinutes_eq_ok {t later : Instant} {minutes : Int}
    (h : t.addMinutes minutes = .ok later) : later = t.minutesLater minutes := by
  simp only [addMinutes] at h
  split at h
  · cases h
  · cases h
    rfl
  · cases h

/-- A request as it reaches the service, with what surrounds it. -/
structure Visit where
  env : Surroundings
  request : Http.Request

namespace Visit

/-- What the cookie for sessions holds. -/
def cookie? (v : Visit) : Option String := v.request.cookie? v.env.settings.sessionCookieName

/-- The token that the visit carries; an empty one is none. -/
def token? (v : Visit) : Option String := v.cookie?.filter (· ≠ "")

/-- The visit is recognised: it is answered on behalf of a person. -/
def IsRecognised (v : Visit) (s : Store) : Prop := ∃ p after, s.signIn v.env v.cookie? = .ok (some p, after)

/-- The store after the visit was answered. -/
def after (v : Visit) (s : Store) : Store := (Http.answer v.env v.request s).2

end Visit

/-- The store after visits, one after the other. -/
def Store.visited (s : Store) (visits : List Visit) : Store := visits.foldl (fun s v => v.after s) s

/-- A store has a session that no other shares the token of, that is not revoked and has a person. -/
structure Store.Admits (s : Store) (x : Session) : Prop where
  tokens : (s.sessions.map (·.token)).Nodup
  mem : x ∈ s.sessions
  unrevoked : x.revokedAt = none
  person : ∃ u, s.user? x.userId = some u

/-! ### One visit -/

namespace Visit

variable {v : Visit} {s : Store} {x : Session} {later : Instant}

/-- What an answer writes, it writes to the store in which its session was looked up. -/
theorem after_of_signIn {p : Option Principal} {s' : Store} (h : s.signIn v.env v.cookie? = .ok (p, s')) :
    ∃ request, v.after s = (Http.dispatch v.env request p s').2 := by
  refine ⟨{ v.request with method := v.request.method.toUpper }, ?_⟩
  rw [cookie?] at h
  rw [after, Http.answer, h]

theorem after_of_fault {failure : Failure} (h : s.signIn v.env v.cookie? = .error failure) :
    v.after s = s := by
  rw [cookie?] at h
  rw [after, Http.answer, h]

/-- Without a session that can be used, the visit is not recognised and nothing is written. -/
theorem refused_of_none (h : s.liveSession? v.env.now v.cookie? = none) :
    ¬ v.IsRecognised s ∧ v.after s = s := by
  have hsigned := Store.signIn_of_none h
  constructor
  · rintro ⟨p, s', hrecognised⟩
    rw [hsigned] at hrecognised
    cases hrecognised
  · obtain ⟨request, hafter⟩ := after_of_signIn hsigned
    rw [hafter]
    apply Http.dispatch_store_eq
    rintro p ⟨⟩

/-- A token that is missing, unknown, revoked or expired lets nobody in. -/
theorem refused (h : ∀ x ∈ s.sessions, v.token? = some x.token →
      x.revokedAt ≠ none ∨ x.expiresAt ≤ v.env.now) : ¬ v.IsRecognised s ∧ v.after s = s := by
  apply refused_of_none
  cases hlive : s.liveSession? v.env.now v.cookie? with
  | none => rfl
  | some found =>
      obtain ⟨x, u⟩ := found
      obtain ⟨htoken, hfound, _, hnow⟩ := Store.liveSession?_eq_some.mp hlive
      simp only [Session.isLive, Bool.and_eq_true, decide_eq_true_eq, Option.isNone_iff_eq_none] at hnow
      rcases h x (List.mem_of_find?_eq_some hfound) htoken with hrevoked | hexpired
      · exact absurd hnow.1 hrevoked
      · exact absurd hnow.2 (Instant.not_lt.mpr hexpired)

/-- Where its person is not active, a visit writes nothing, or it renews the session of its token. -/
theorem after_of_inactive (htokens : (s.sessions.map (·.token)).Nodup) (hx : x ∈ s.sessions)
    (htoken : v.token? = some x.token) {u : User} (huser : s.user? x.userId = some u)
    (hinactive : u.active = false) :
    v.after s = s ∨ v.after s =
      s.renewed x.token v.env.now (v.env.now.minutesLater v.env.settings.sessionTtlMinutes) := by
  cases hlive : s.liveSession? v.env.now v.cookie? with
  | none => exact Or.inl (refused_of_none hlive).2
  | some found =>
      obtain ⟨y, w⟩ := found
      obtain ⟨hcarried, hfound, hperson, _⟩ := Store.liveSession?_eq_some.mp hlive
      have hsame : y.token = x.token := Option.some.inj (hcarried.symm.trans htoken)
      rw [hsame, find?_of_nodup htokens hx] at hfound
      cases hfound
      rw [huser] at hperson
      cases hperson
      cases hlater : v.env.now.addMinutes v.env.settings.sessionTtlMinutes with
      | error fault => exact Or.inl (after_of_fault (Store.signIn_of_fault hlive hlater))
      | ok later =>
          obtain ⟨request, hafter⟩ := after_of_signIn (Store.signIn_of_live hlive hlater)
          rw [hafter, ← Instant.addMinutes_eq_ok hlater]
          refine Or.inr (Http.dispatch_store_eq ?_)
          rintro p ⟨⟩
          exact hinactive

/-- The visit carries a token and, once recognised, lets its session last for so many minutes from then. -/
structure Extends (v : Visit) (token : String) (ttl : Int) : Prop where
  carries : v.token? = some token
  later : v.env.now.addMinutes v.env.settings.sessionTtlMinutes = .ok (v.env.now.minutesLater ttl)

section Admitted

variable (h : s.Admits x)
include h

/-- The session of an admitted visit can be used as long as it has not expired. -/
theorem liveSession?_of_lt (htoken : v.token? = some x.token) (hlive : v.env.now < x.expiresAt) :
    ∃ u, s.liveSession? v.env.now v.cookie? = some (x, u) := by
  obtain ⟨u, huser⟩ := h.person
  refine ⟨u, Store.liveSession?_eq_some.mpr ⟨htoken, find?_of_nodup h.tokens h.mem, huser, ?_⟩⟩
  simp [Session.isLive, h.unrevoked, hlive]

theorem refused_of_expired (htoken : v.token? = some x.token) (hexpired : x.expiresAt ≤ v.env.now) :
    ¬ v.IsRecognised s ∧ v.after s = s := by
  apply refused
  intro y hy hcarried
  have hsame : y.token = x.token := Option.some.inj (hcarried.symm.trans htoken)
  rw [List.inj_on_of_nodup_map h.tokens hy h.mem hsame]
  exact Or.inr hexpired

variable {ttl : Int} (hv : v.Extends x.token ttl)
include hv

/-- The visit is recognised exactly before its session expires. -/
theorem isRecognised_iff : v.IsRecognised s ↔ v.env.now < x.expiresAt := by
  constructor
  · intro hrecognised
    by_contra hnot
    exact (refused_of_expired h hv.carries (Instant.not_lt.mp hnot)).1 hrecognised
  · intro hlive
    obtain ⟨u, hlive⟩ := liveSession?_of_lt h hv.carries hlive
    exact ⟨_, _, Store.signIn_of_live hlive hv.later⟩

theorem not_isRecognised_iff : ¬ v.IsRecognised s ↔ x.expiresAt ≤ v.env.now := by
  rw [isRecognised_iff h hv, Instant.not_lt]

/-- It then renews its session, and leaves people and all other sessions as they are. -/
theorem after_of_recognised (hrecognised : v.IsRecognised s) :
    (v.after s).users = s.users ∧
      (v.after s).sessions = (s.renewed x.token v.env.now (v.env.now.minutesLater ttl)).sessions := by
  obtain ⟨u, hlive⟩ := liveSession?_of_lt h hv.carries ((isRecognised_iff h hv).mp hrecognised)
  obtain ⟨request, hafter⟩ := after_of_signIn (Store.signIn_of_live hlive hv.later)
  obtain ⟨husers, hsessions⟩ := @Http.dispatch_keeps v.env request (some u.principal)
    (s.renewed x.token v.env.now (v.env.now.minutesLater ttl))
  rw [hafter]
  exact ⟨husers, hsessions⟩

/-- The session is there again, with its new end. -/
theorem admits_of_recognised (hrecognised : v.IsRecognised s) :
    (v.after s).Admits (x.renewed v.env.now (v.env.now.minutesLater ttl)) := by
  obtain ⟨husers, hsessions⟩ := after_of_recognised h hv hrecognised
  obtain ⟨u, huser⟩ := h.person
  refine ⟨?_, ?_, h.unrevoked, u, ?_⟩
  · have hsame : (v.after s).sessions.map (·.token) = s.sessions.map (·.token) := by
      rw [hsessions, Store.renewed, List.map_map]
      apply List.map_congr_left
      intro y _
      rw [Function.comp_apply]
      split
      · rfl
      · rfl
    rw [hsame]
    exact h.tokens
  · rw [hsessions]
    exact List.mem_map.mpr ⟨x, h.mem, if_pos rfl⟩
  · rw [Store.user?, husers]
    exact huser

end Admitted

end Visit

/-! ### Many visits -/

section Visits

variable {s : Store} {x : Session} {ttl : Int} {u v : Visit} {visits : List Visit}

theorem Store.visited_append (s : Store) (first second : List Visit) :
    s.visited (first ++ second) = (s.visited first).visited second := List.foldl_append

namespace Store.Admits

variable (h : s.Admits x)
include h

/-- Of two visits the later is recognised exactly if the earlier was and its session has not expired since. -/
theorem isRecognised_after (hu : u.Extends x.token ttl) (hv : v.Extends x.token ttl)
    (hle : u.env.now ≤ v.env.now) :
    v.IsRecognised (u.after s) ↔ u.IsRecognised s ∧ v.env.now < u.env.now.minutesLater ttl := by
  by_cases hrecognised : u.IsRecognised s
  · rw [v.isRecognised_iff (u.admits_of_recognised h hu hrecognised) hv]
    exact ⟨fun hlt => ⟨hrecognised, hlt⟩, fun hboth => hboth.2⟩
  · have hexpired := (u.not_isRecognised_iff h hu).mp hrecognised
    rw [(u.refused_of_expired h hu.carries hexpired).2]
    have hrefused := (v.refused_of_expired h hv.carries (Int.le_trans hexpired hle)).1
    exact ⟨fun hv => absurd hv hrefused, fun hboth => absurd hboth.1 hrecognised⟩

/-- The session stays admitted, with whatever end. -/
theorem visited (hvisits : ∀ v ∈ visits, v.Extends x.token ttl) :
    ∃ y, (s.visited visits).Admits y ∧ y.token = x.token := by
  induction visits generalizing s x with
  | nil => exact ⟨x, h, rfl⟩
  | cons v rest ih =>
      have hv := hvisits v List.mem_cons_self
      have hrest : ∀ w ∈ rest, w.Extends x.token ttl := fun w hw => hvisits w (List.mem_cons_of_mem v hw)
      by_cases hrecognised : v.IsRecognised s
      · have hrenewed := v.admits_of_recognised h hv hrecognised
        obtain ⟨y, hy, hsame⟩ := ih hrenewed hrest
        exact ⟨y, hy, hsame⟩
      · have hexpired := (v.not_isRecognised_iff h hv).mp hrecognised
        have hsame : s.visited (v :: rest) = s.visited rest :=
          congrArg (·.visited rest) (v.refused_of_expired h hv.carries hexpired).2
        rw [hsame]
        exact ih h hrest

/-- After its session has expired, nothing is written. -/
theorem visited_of_expired (hvisits : ∀ v ∈ visits, v.Extends x.token ttl)
    (hexpired : ∀ v ∈ visits, x.expiresAt ≤ v.env.now) : s.visited visits = s := by
  induction visits with
  | nil => rfl
  | cons v rest ih =>
      have hv := (hvisits v List.mem_cons_self).carries
      have hsame : s.visited (v :: rest) = s.visited rest :=
        congrArg (·.visited rest) (v.refused_of_expired h hv (hexpired v List.mem_cons_self)).2
      rw [hsame]
      exact ih (fun w hw => hvisits w (List.mem_cons_of_mem v hw))
        fun w hw => hexpired w (List.mem_cons_of_mem v hw)

/-- From a visit that is refused on nothing is written, and no visit is recognised. -/
theorem visited_of_refused (hvisits : ∀ v ∈ u :: visits, v.Extends x.token ttl)
    (hlast : ∀ v ∈ visits, u.env.now ≤ v.env.now) (hrefused : ¬ u.IsRecognised s) :
    s.visited (u :: visits) = s ∧ ∀ between v rest, visits = between ++ v :: rest →
      ¬ v.IsRecognised (s.visited (u :: between)) := by
  rw [u.not_isRecognised_iff h (hvisits u List.mem_cons_self)] at hrefused
  have hexpired : ∀ w ∈ u :: visits, x.expiresAt ≤ w.env.now := by
    rintro w (_ | ⟨_, hw⟩)
    · exact hrefused
    · exact Int.le_trans hrefused (hlast w hw)
  refine ⟨h.visited_of_expired hvisits hexpired, ?_⟩
  rintro between v rest rfl
  have hbefore : ∀ w ∈ u :: between, w ∈ u :: (between ++ v :: rest) :=
    fun w hw => List.mem_append_left (v :: rest) hw
  have hv : v ∈ u :: (between ++ v :: rest) := by simp
  rw [h.visited_of_expired (fun w hw => hvisits w (hbefore w hw)) fun w hw => hexpired w (hbefore w hw)]
  exact (v.refused_of_expired h (hvisits v hv).carries (hexpired v hv)).1

end Store.Admits

end Visits

/-- Visits that carry the token of a session that is not revoked, at moments that never decrease and with one
time to live, are recognised by a sliding rule: the first before the session expires, and each later one if
the one before it was recognised and not longer ago than that time.  A recognised visit puts off the end of
this session and leaves all others as they are; after one that is refused nothing is written any more, and all
that follow are refused.  Whatever it is for, a visit without a session that can be used writes nothing, and
one whose person is not active renews at most the session whose token it carries. -/
theorem session_slides {s : Store} {x : Session} (h : s.Admits x) {ttl : Int} {visits : List Visit}
    (hcarry : ∀ v ∈ visits, v.token? = some x.token)
    (hascend : visits.Pairwise fun u v => u.env.now ≤ v.env.now)
    (httl : ∀ v ∈ visits, v.env.settings.sessionTtlMinutes = ttl)
    (hlater : ∀ v ∈ visits, ∃ later, v.env.now.addMinutes ttl = .ok later) :
    (∀ v rest, visits = v :: rest → (v.IsRecognised s ↔ v.env.now < x.expiresAt)) ∧
    (∀ before u v rest, visits = before ++ u :: v :: rest →
      (v.IsRecognised (s.visited (before ++ [u])) ↔
        u.IsRecognised (s.visited before) ∧ v.env.now < u.env.now.minutesLater ttl)) ∧
    (∀ before v rest, visits = before ++ v :: rest → v.IsRecognised (s.visited before) →
      (s.visited (before ++ [v])).sessions = (s.visited before).sessions.map fun y =>
        if y.token = x.token then
          { y with lastSeenAt := v.env.now, expiresAt := v.env.now.minutesLater ttl } else y) ∧
    (∀ before u rest, visits = before ++ u :: rest → ¬ u.IsRecognised (s.visited before) →
      s.visited visits = s.visited before ∧ ∀ between v last, rest = between ++ v :: last →
        ¬ v.IsRecognised (s.visited (before ++ u :: between))) ∧
    ∀ (s : Store) (v : Visit),
      ((∀ y ∈ s.sessions, v.token? = some y.token → y.revokedAt ≠ none ∨ y.expiresAt ≤ v.env.now) →
        v.after s = s) ∧
      ((s.sessions.map (·.token)).Nodup → ∀ y ∈ s.sessions, v.token? = some y.token →
        ∀ person, s.user? y.userId = some person → person.active = false →
        v.after s = s ∨ v.after s =
          s.renewed y.token v.env.now (v.env.now.minutesLater v.env.settings.sessionTtlMinutes)) := by
  have hextends : ∀ v ∈ visits, v.Extends x.token ttl := by
    intro v hv
    obtain ⟨later, hlater⟩ := hlater v hv
    refine ⟨hcarry v hv, ?_⟩
    rw [httl v hv, hlater, Instant.addMinutes_eq_ok hlater]
  -- Before each visit the session is there, with the end that the visits so far have given it.
  have hreached : ∀ before rest, visits = before ++ rest →
      ∃ y, (s.visited before).Admits y ∧ y.token = x.token ∧
        (∀ v ∈ rest, v.Extends y.token ttl) ∧ rest.Pairwise fun u v => u.env.now ≤ v.env.now := by
    rintro before rest rfl
    obtain ⟨y, hy, hsame⟩ := h.visited fun v hv => hextends v (List.mem_append_left rest hv)
    refine ⟨y, hy, hsame, ?_, (List.pairwise_append.mp hascend).2.1⟩
    rw [hsame]
    exact fun v hv => hextends v (List.mem_append_right before hv)
  refine ⟨?_, ?_, ?_, ?_, ?_⟩
  · rintro v rest rfl
    exact v.isRecognised_iff h (hextends v List.mem_cons_self)
  · intro before u v rest hvisits
    obtain ⟨y, hy, _, hrest, htimes⟩ := hreached before (u :: v :: rest) hvisits
    rw [Store.visited_append]
    exact hy.isRecognised_after (hrest u List.mem_cons_self) (hrest v (by simp))
      ((List.pairwise_cons.mp htimes).1 v List.mem_cons_self)
  · intro before v rest hvisits hrecognised
    obtain ⟨y, hy, hsame, hrest, _⟩ := hreached before (v :: rest) hvisits
    rw [Store.visited_append, ← hsame]
    exact (v.after_of_recognised hy (hrest v List.mem_cons_self) hrecognised).2
  · intro before u rest hvisits hrefused
    obtain ⟨y, hy, _, hrest, htimes⟩ := hreached before (u :: rest) hvisits
    obtain ⟨hkept, hnone⟩ := hy.visited_of_refused hrest (List.pairwise_cons.mp htimes).1 hrefused
    refine ⟨?_, ?_⟩
    · rw [hvisits, Store.visited_append]
      exact hkept
    · intro between v last hlast
      rw [Store.visited_append]
      exact hnone between v last hlast
  · intro s v
    refine ⟨fun hnone => (v.refused hnone).2, ?_⟩
    intro htokens y hy htoken person hperson hinactive
    exact v.after_of_inactive htokens hy htoken hperson hinactive

namespace Sample

/-- A session of the first person that ends after two minutes. -/
def session : Session := ⟨1, "abc", 1, ⟨0⟩, ⟨2 * 60000000⟩, none⟩

/-- A visit with that session in a minute of the first day, where sessions last for half an hour. -/
def visit (minute : Int) : Visit where
  env := { settings := { sessionTtlMinutes := 30 }, now := ⟨minute * 60000000⟩ }
  request :=
    { method := "GET"
      target := "/shops/1/tabs"
      headers := [("cookie", "tab_session=abc")]
      peer := "127.0.0.1" }

end Sample

/-- After one minute and after thirty the person is recognised, but not after sixty: the half hour from the
thirtieth minute on is over then. -/
theorem session_slides_halfHour :
    let s := { Sample.store with sessions := [Sample.session] }
    (Sample.visit 1).IsRecognised s ∧
      (Sample.visit 30).IsRecognised (s.visited [Sample.visit 1]) ∧
      ¬ (Sample.visit 60).IsRecognised (s.visited [Sample.visit 1, Sample.visit 30]) := by
  intro s
  let visits := [Sample.visit 1, Sample.visit 30, Sample.visit 60]
  have hadmits : s.Admits Sample.session := by
    refine ⟨by decide, List.mem_singleton_self _, rfl, ?_⟩
    exact Option.isSome_iff_exists.mp (by decide +kernel : (s.user? 1).isSome = true)
  have hcarry : ∀ v ∈ visits, v.token? = some Sample.session.token := by decide +kernel
  have hascend : visits.Pairwise fun u v => u.env.now ≤ v.env.now := by decide
  have hlater : ∀ v ∈ visits, ∃ later, v.env.now.addMinutes 30 = .ok later := by
    intro v hv
    have hput : ∀ v ∈ visits, v.env.now.addMinutes 30 = .ok (v.env.now.minutesLater 30) := by decide +kernel
    exact ⟨_, hput v hv⟩
  obtain ⟨hfirst, hnext, _⟩ := session_slides hadmits hcarry hascend (by decide) hlater
  have hone : (Sample.visit 1).IsRecognised s := (hfirst _ _ rfl).mpr (by decide)
  have htwo : (Sample.visit 30).IsRecognised (s.visited [Sample.visit 1]) :=
    (hnext [] _ _ _ rfl).mpr ⟨hone, by decide⟩
  refine ⟨hone, htwo, ?_⟩
  intro hthree
  have hlate := ((hnext [Sample.visit 1] _ _ _ rfl).mp hthree).2
  exact absurd hlate (by decide)

end ShopTabs
