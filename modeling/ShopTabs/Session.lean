import ShopTabs.Ledger.Order
/-!
Web sessions.  A session names a person until it expires or is revoked, and every use of it puts off
its end.
-/

namespace ShopTabs

namespace Session

/-- The session can be used at a moment: it is not revoked and has not expired. -/
def isLive (session : Session) (now : Instant) : Bool :=
  session.revokedAt.isNone && now < session.expiresAt

/-- The session after its use at a moment. -/
def renewed (session : Session) (now expiresAt : Instant) : Session :=
  { session with lastSeenAt := now, expiresAt := expiresAt }

end Session

/-- The person on whose behalf his sessions act. -/
def User.principal (u : User) : Principal := ⟨u.id, u.email, u.role, u.active⟩

namespace Store

/-- The session of a token with its person. -/
def session? (s : Store) (token : String) : Option (Session × User) := do
  let session ← s.sessions.find? (·.token = token)
  let user ← s.user? session.userId
  return (session, user)

/-- The session of a token, with its person, if it can be used now. -/
def liveSession? (s : Store) (now : Instant) (token : Option String) : Option (Session × User) := do
  let token ← token
  if token.isEmpty then none
  let (session, user) ← s.session? token
  if session.isLive now then some (session, user) else none

/-- Renews the session of a token and gives the person it names; without a session that can be used
there is nobody and nothing changes. -/
def signIn (s : Store) (env : Surroundings) (token : Option String) :
    Except Failure (Option Principal × Store) :=
  match s.liveSession? env.now token with
  | none => .ok (none, s)
  | some (session, user) =>
    match env.now.addMinutes env.settings.sessionTtlMinutes with
    | .error fault => .error (.span fault)
    | .ok expiresAt =>
      .ok (some user.principal, { s with
        sessions := s.sessions.map fun x =>
          if x.token = session.token then x.renewed env.now expiresAt else x })

end Store

/-- A person by his number, his address, his role and whether he is active. -/
def Principal.toJson (p : Principal) : Json := .obj [
  ("id", .int p.id), ("email", .str p.email), ("role", .str p.role.name), ("active", .bool p.active)]

end ShopTabs
