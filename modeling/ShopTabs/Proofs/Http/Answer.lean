import ShopTabs.Http.Exchange
import ShopTabs.Proofs.Service.Isolation
/-!
What an answer leaves of the store.  The session that a request names is renewed, if it can be used; after
that only an operation writes, on behalf of an active person, and no operation writes to people or sessions.
-/

namespace ShopTabs

/-! ### Sessions that can be used -/

namespace Store

variable {s : Store} {env : Surroundings} {cookie : Option String} {x : Session} {u : User}

/-- The store in which the session of a token was used at a moment. -/
def renewed (s : Store) (token : String) (now expiresAt : Instant) : Store :=
  { s with sessions := s.sessions.map fun x => if x.token = token then x.renewed now expiresAt else x }

theorem session?_eq_some {token : String} :
    s.session? token = some (x, u) ↔
      s.sessions.find? (·.token = token) = some x ∧ s.user? x.userId = some u := by
  simp only [session?, Option.bind_eq_bind, Option.bind_eq_some_iff, Option.pure_def, Option.some.injEq,
    Prod.mk.injEq]
  constructor
  · rintro ⟨_, hfound, _, huser, rfl, rfl⟩
    exact ⟨hfound, huser⟩
  · rintro ⟨hfound, huser⟩
    exact ⟨x, hfound, u, huser, rfl, rfl⟩

/-- A session can be used if the cookie holds its token, which is not empty, if it has a person, and if it is
live. -/
theorem liveSession?_eq_some {now : Instant} :
    s.liveSession? now cookie = some (x, u) ↔
      cookie.filter (· ≠ "") = some x.token ∧ s.sessions.find? (·.token = x.token) = some x ∧
        s.user? x.userId = some u ∧ x.isLive now = true := by
  cases cookie with
  | none => simp [liveSession?]
  | some token =>
      by_cases hempty : token = ""
      · simp [liveSession?, hempty]
      · have hfilter : (some token).filter (· ≠ "") = some token := by simp [hempty]
        have hlooked : s.liveSession? now (some token) = (s.session? token).bind fun found =>
            if found.1.isLive now then some found else none := by
          simp [liveSession?, hempty]
        rw [hfilter, hlooked, Option.bind_eq_some_iff]
        constructor
        · rintro ⟨found, hfound, hlive⟩
          split at hlive
          · next hnow =>
              cases hlive
              obtain ⟨hx, hu⟩ := session?_eq_some.mp hfound
              have htoken : x.token = token := by simpa using List.find?_some hx
              subst htoken
              exact ⟨rfl, hx, hu, hnow⟩
          · cases hlive
        · rintro ⟨htoken, hx, hu, hnow⟩
          cases htoken
          exact ⟨(x, u), session?_eq_some.mpr ⟨hx, hu⟩, if_pos hnow⟩

theorem signIn_of_none (h : s.liveSession? env.now cookie = none) :
    s.signIn env cookie = .ok (none, s) := by
  rw [signIn, h]

theorem signIn_of_live (h : s.liveSession? env.now cookie = some (x, u)) {later : Instant}
    (hlater : env.now.addMinutes env.settings.sessionTtlMinutes = .ok later) :
    s.signIn env cookie = .ok (some u.principal, s.renewed x.token env.now later) := by
  rw [signIn, h]
  simp only [hlater]
  rfl

theorem signIn_of_fault (h : s.liveSession? env.now cookie = some (x, u)) {fault : Day.SpanFault}
    (hfault : env.now.addMinutes env.settings.sessionTtlMinutes = .error fault) :
    s.signIn env cookie = .error (.span fault) := by
  rw [signIn, h]
  simp only [hfault]

theorem sessions_withEmails {key : TabKey} {emails : Option (List String)} :
    (s.withEmails key emails).sessions = s.sessions := by cases emails <;> rfl

theorem sessions_withPlaces {key : TabKey} {places : Option (List Int)} :
    (s.withPlaces key places).sessions = s.sessions := by cases places <;> rfl

end Store

/-- No operation writes to the sessions. -/
theorem Effect.sessions_eq {env : Surroundings} {caller : Caller} {s s' : Store} {op : Operation}
    {reply : Reply} (h : Effect env caller s op reply s') : s'.sessions = s.sessions := by
  cases h with
  | updateSubmitted => exact Store.sessions_withPlaces.trans Store.sessions_withEmails
  | orderAdded allowed applied | orderRemoved allowed applied =>
      obtain ⟨_, _, _, hframe⟩ := applied.frame
      show (Store.audited _ _ _ _).sessions = _
      rw [hframe]
      rfl
  | _ => rfl

namespace Http

variable {env : Surroundings} {request : Request} {principal : Option Principal} {s : Store}

/-- At an endpoint the store stays as it is, or an operation is carried out for an active person. -/
theorem atEndpoint_cases (e : Endpoint) (parameters : List (String × String)) :
    (atEndpoint env request principal e parameters s).2 = s ∨
      ∃ (p : Principal) (op : Operation), principal = some p ∧ p.active = true ∧
        (atEndpoint env request principal e parameters s).2 =
          (op.perform env ⟨p, some request.clientAddress⟩ s).store := by
  rw [atEndpoint]
  split
  · exact Or.inl rfl
  · split
    · exact Or.inl rfl
    · split
      · exact Or.inl rfl
      · split
        · exact Or.inl rfl
        · next p =>
            split
            · exact Or.inl rfl
            · next hactive =>
                split
                · next op _ => exact Or.inr ⟨p, op, rfl, by simpa using hactive, rfl⟩
                · exact Or.inl rfl
                · exact Or.inl rfl

/-- So it is wherever a request leads. -/
theorem dispatch_cases :
    (dispatch env request principal s).2 = s ∨
      ∃ (p : Principal) (op : Operation), principal = some p ∧ p.active = true ∧
        (dispatch env request principal s).2 =
          (op.perform env ⟨p, some request.clientAddress⟩ s).store := by
  rw [dispatch]
  split
  · exact atEndpoint_cases _ _
  · exact Or.inl rfl
  · exact Or.inl rfl
  · exact Or.inl rfl

/-- For nobody, and for a person who is not active, nothing is written. -/
theorem dispatch_store_eq (h : ∀ p, principal = some p → p.active = false) :
    (dispatch env request principal s).2 = s := by
  rcases dispatch_cases with hsame | ⟨p, _, hp, hactive, _⟩
  · exact hsame
  · rw [h p hp] at hactive
    cases hactive

/-- Where a request leads, people and sessions stay as they are. -/
theorem dispatch_keeps :
    (dispatch env request principal s).2.users = s.users ∧
      (dispatch env request principal s).2.sessions = s.sessions := by
  rcases dispatch_cases with hsame | ⟨p, op, _, _, hstore⟩
  · rw [hsame]
    exact ⟨rfl, rfl⟩
  · rw [hstore]
    rcases Submission.perform_cases env ⟨p, some request.clientAddress⟩ (.plain op) s with
      ⟨_, hsame⟩ | ⟨_, _, hread, _, heffect⟩
    · rw [Submission.perform_of_read rfl] at hsame
      rw [hsame]
      exact ⟨rfl, rfl⟩
    · rw [Submission.perform_of_read rfl] at heffect
      exact ⟨congrArg Catalogue.users heffect.catalogue_eq, heffect.sessions_eq⟩

end Http

end ShopTabs
