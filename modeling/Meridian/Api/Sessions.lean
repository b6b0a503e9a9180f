import Meridian.Foundations.Datetime
import Meridian.Foundations.Execution
import Meridian.Foundations.Text
import Meridian.Responses.Contract

/-!
# Chat sessions

The sessions that `post_chat` of `backend/app/api/routes/chat.py` saves in the store of
`backend/app/session/store.py`. Every request saves its session before it builds a response, so a
session is stored even where the response raises; what is saved afterwards differs only in the last
response and job, which nothing here reads.

## Main definitions

* `Meridian.Api.sessionStateForRequest`: the session of a chat request.
* `Meridian.Api.postChat`: a request as a step of the session store.
* `Meridian.Api.SessionState.WellFormed`: what holds of every stored session.

## Main results

* `Meridian.Api.wellFormed_of_reachable`: it does.
* `Meridian.Api.SessionState.WellFormed.scope_mem_iff`: the stored scope is one of the contract's
  unless the active resource is of the type `session`.
-/

namespace Meridian.Api

open Foundations

/-! ### Records -/

/-- `ResourceType`. -/
inductive ResourceType
  | shipment
  | carrier
  | lane
  | analytics
  | session
  deriving DecidableEq

/-- The literal of a resource type. -/
def ResourceType.text : ResourceType → String
  | shipment => "shipment"
  | carrier => "carrier"
  | lane => "lane"
  | analytics => "analytics"
  | session => "session"

/-- `ActiveResourceBinding`. -/
structure ActiveResourceBinding where
  resourceType : ResourceType
  resourceId : String
  resourceFingerprint : String
  deriving DecidableEq

/-- `SessionState`, without its module and its last response and job. -/
structure SessionState where
  sessionId : String
  sessionAccessToken : String
  brokerId : String
  officeId : String
  role : String
  conversationScope : String
  contextBindingState : String
  screenSyncState : String
  activeResource : Option ActiveResourceBinding

/-- `TrustedIdentity`. -/
structure TrustedIdentity where
  brokerId : String
  officeId : String
  role : String

/-- `ActiveResourcePayload`, with its minimal lengths. -/
structure ActiveResourcePayload where
  resourceType : ResourceType
  resourceId : String
  resourceFingerprint : Option String
  resourceId_ne : resourceId ≠ ""
  resourceFingerprint_ne : resourceFingerprint ≠ some ""

/-- `ChatRequest`, with the fields that decide about the session. -/
structure ChatRequest where
  prompt : String
  sessionId : Option String
  sessionAccessToken : Option String
  currentResource : Option ActiveResourcePayload

/-- An answer of `secrets.token_urlsafe(24)`. -/
abbrev AccessToken := { token : String // token.length = 32 }

/-- The sessions by id and the counters by date. -/
structure SessionStore where
  sessions : String → Option SessionState
  counters : String → ℕ

/-- The store over a new database. -/
def SessionStore.empty : SessionStore := ⟨fun _ => none, fun _ => 0⟩

/-! ### The session of a request -/

/-- `_scope_for_resource`, with `str.lower` of the runtime's Unicode tables. -/
def scopeForResource (lower : String → String) (resource : Option ActiveResourceBinding)
    (prompt : String) : String :=
  match resource with
  | some resource => resource.resourceType.text
  | none =>
    if ["analytics", "ranking", "metric", "refresh", "background", "async"].any
        (Text.contains · (lower prompt)) then
      "analytics"
    else "office"

/-- `_normalize_resource` on a given resource. -/
def ActiveResourcePayload.normalize (resource : ActiveResourcePayload) : ActiveResourceBinding :=
  { resourceType := resource.resourceType
    resourceId := resource.resourceId
    resourceFingerprint := resource.resourceFingerprint.getD
      (resource.resourceType.text ++ ":" ++ resource.resourceId ++ ":v1") }

/-- `strftime("%Y%m%d")`. -/
def stamp (now : UtcTime) : String :=
  let (year, month, day) := ordinalToYmd now.1.ordinal
  .ofList (Datetime.padded 4 year ++ Datetime.padded 2 month ++ Datetime.padded 2 day)

/-- The id of the session with the given index of its day. -/
def sessionIdAt (now : UtcTime) (index : ℕ) : String :=
  "chat_s_" ++ stamp now ++ "_" ++ .ofList (Datetime.padded 4 index)

/-- `_session_state_for_request`: the session, unless it raises `HTTPException`. -/
def sessionStateForRequest (lower : String → String) (store : SessionStore)
    (request : ChatRequest) (identity : TrustedIdentity) (now : UtcTime) (token : AccessToken) :
    Option SessionState :=
  let incoming := request.currentResource.map ActiveResourcePayload.normalize
  match request.sessionId with
  | none =>
    some
      { sessionId := sessionIdAt now (store.counters (stamp now) + 1)
        sessionAccessToken := token
        brokerId := identity.brokerId
        officeId := identity.officeId
        role := identity.role
        conversationScope := scopeForResource lower incoming request.prompt
        contextBindingState := if incoming.isSome then "bound" else "missing"
        screenSyncState := "not_applicable"
        activeResource := incoming }
  | some sessionId =>
    match store.sessions sessionId with
    | none => none
    | some existing =>
      if request.sessionAccessToken ≠ some existing.sessionAccessToken then none
      else if existing.brokerId ≠ identity.brokerId ∨ existing.officeId ≠ identity.officeId ∨
          existing.role ≠ identity.role then
        none
      else
        some
          { existing with
            conversationScope :=
              scopeForResource lower (incoming.or existing.activeResource) request.prompt
            contextBindingState :=
              if incoming.isNone then
                (if existing.activeResource.isSome then "bound" else "missing")
              else if existing.activeResource.isNone ∨ existing.activeResource = incoming then
                "bound"
              else "stale"
            screenSyncState := "not_applicable"
            activeResource := incoming.or existing.activeResource }

/-! ### Requests as steps -/

/-- What a chat request depends on: the request, the identity and the readings of the clock and of
the random source. -/
structure ChatCall where
  request : ChatRequest
  identity : TrustedIdentity
  now : UtcTime
  token : AccessToken

variable (lower : String → String) (brokersForOffice : String → List String)

/-- `post_chat` up to the saved session; it raises before it saves if the identity is not a broker
of the office or the session is not the identity's. -/
def postChat (store : SessionStore) (call : ChatCall) : Option SessionStore :=
  if call.identity.role = "broker" ∧
      call.identity.brokerId ∈ brokersForOffice call.identity.officeId then
    (sessionStateForRequest lower store call.request call.identity call.now call.token).map
      fun session : SessionState =>
        { sessions := Function.update store.sessions session.sessionId (some session)
          counters :=
            if call.request.sessionId.isNone then
              Function.update store.counters (stamp call.now) (store.counters (stamp call.now) + 1)
            else store.counters }
  else none

/-! ### Stored sessions -/

/-- What holds of every stored session. -/
structure SessionState.WellFormed (session : SessionState) : Prop where
  sessionId : Responses.wordAfter "chat_s_" session.sessionId = true
  sessionAccessToken : session.sessionAccessToken.length = 32
  role : session.role = "broker"
  scope_of_resource : ∀ resource ∈ session.activeResource,
    session.conversationScope = resource.resourceType.text
  scope_of_none : session.activeResource = none →
    session.conversationScope ∈ ["analytics", "office"]
  contextBindingState : session.contextBindingState ∈ ["bound", "missing", "stale"]
  screenSyncState : session.screenSyncState = "not_applicable"
  activeResource : ∀ resource ∈ session.activeResource,
    resource.resourceId ≠ "" ∧ resource.resourceFingerprint ≠ ""

variable {lower : String → String} {brokersForOffice : String → List String}
  {store store' : SessionStore} {session : SessionState} {call : ChatCall}

/-- A date and some letters and digits make a word. -/
theorem wordAfter_stamp {start : String} (now : UtcTime) {word : List Char}
    (hword : ∀ c ∈ word, c.isAlphanum = true) :
    Responses.wordAfter start (start ++ stamp now ++ "_" ++ .ofList word) = true := by
  rw [String.append_assoc, String.append_assoc]
  have hdigit {c : Char} {width n : ℕ} (h : c ∈ Datetime.padded width n) : c.isAlphanum = true := by
    rw [Char.isAlphanum, Datetime.isDigit_of_mem_padded h, Bool.or_true]
  refine Responses.wordAfter_append ?_ fun c hc => ?_
  · intro h
    have hlen := congrArg String.length h
    simp at hlen
  · simp only [String.toList_append, stamp, String.toList_ofList, List.mem_append] at hc
    rcases hc with ((hc | hc) | hc) | hc | hc
    · exact .inl (hdigit hc)
    · exact .inl (hdigit hc)
    · exact .inl (hdigit hc)
    · exact .inr (by simpa using hc)
    · exact .inl (hword c hc)

theorem wordAfter_sessionIdAt (now : UtcTime) (index : ℕ) :
    Responses.wordAfter "chat_s_" (sessionIdAt now index) = true :=
  wordAfter_stamp now fun c hc => by
    rw [Char.isAlphanum, Datetime.isDigit_of_mem_padded hc, Bool.or_true]

theorem scopeForResource_none (prompt : String) :
    scopeForResource lower none prompt ∈ ["analytics", "office"] := by
  simp only [scopeForResource]
  split <;> simp

theorem ActiveResourcePayload.normalize_ne (resource : ActiveResourcePayload) :
    resource.normalize.resourceId ≠ "" ∧ resource.normalize.resourceFingerprint ≠ "" := by
  refine ⟨resource.resourceId_ne, ?_⟩
  have hne := resource.resourceFingerprint_ne
  rw [normalize]
  cases h : resource.resourceFingerprint with
  | none => simp
  | some fingerprint =>
    rw [h] at hne
    simpa using hne

/-- A request that names a session goes on with it. -/
theorem exists_existing_of_named {request : ChatRequest} {identity : TrustedIdentity}
    {now : UtcTime} {token : AccessToken} {id : String} (hid : request.sessionId = some id)
    (h : sessionStateForRequest lower store request identity now token = some session) :
    ∃ existing, store.sessions id = some existing ∧ session.sessionId = existing.sessionId := by
  simp only [sessionStateForRequest, hid] at h
  cases hget : store.sessions id with
  | none => simp [hget] at h
  | some existing =>
    simp only [hget] at h
    split at h
    · cases h
    split at h
    · cases h
    · obtain rfl := Option.some.inj h
      exact ⟨existing, rfl, rfl⟩

/-- What a request decides about its session. -/
theorem sessionStateForRequest_spec {request : ChatRequest} {identity : TrustedIdentity}
    {now : UtcTime} {token : AccessToken}
    (h : sessionStateForRequest lower store request identity now token = some session) :
    session.brokerId = identity.brokerId ∧ session.officeId = identity.officeId ∧
      session.role = identity.role ∧
      session.conversationScope =
        scopeForResource lower session.activeResource request.prompt ∧
      session.contextBindingState ∈ ["bound", "missing", "stale"] ∧
      session.screenSyncState = "not_applicable" := by
  rw [sessionStateForRequest] at h
  cases hid : request.sessionId with
  | none =>
    simp only [hid, Option.some.injEq] at h
    subst h
    refine ⟨rfl, rfl, rfl, rfl, ?_, rfl⟩
    dsimp only
    split_ifs <;> simp
  | some id =>
    simp only [hid] at h
    cases hget : store.sessions id with
    | none => simp [hget] at h
    | some existing =>
      simp only [hget] at h
      split at h
      · cases h
      split at h
      · cases h
      · next hidentity =>
        cases h
        simp only [not_or, not_not] at hidentity
        refine ⟨hidentity.1, hidentity.2.1, hidentity.2.2, rfl, ?_, rfl⟩
        dsimp only
        split_ifs <;> simp

/-- The id, the token and the resource of a request's session are new or those that are stored. -/
theorem sessionStateForRequest_new_or_stored {request : ChatRequest} {identity : TrustedIdentity}
    {now : UtcTime} {token : AccessToken}
    (hstore : ∀ id existing, store.sessions id = some existing → existing.WellFormed)
    (h : sessionStateForRequest lower store request identity now token = some session) :
    Responses.wordAfter "chat_s_" session.sessionId = true ∧
      session.sessionAccessToken.length = 32 ∧
      ∀ resource ∈ session.activeResource,
        resource.resourceId ≠ "" ∧ resource.resourceFingerprint ≠ "" := by
  have hincoming : ∀ r ∈ request.currentResource.map ActiveResourcePayload.normalize,
      r.resourceId ≠ "" ∧ r.resourceFingerprint ≠ "" := by
    intro r hr
    obtain ⟨payload, -, rfl⟩ := Option.map_eq_some_iff.mp hr
    exact payload.normalize_ne
  revert h
  rw [sessionStateForRequest]
  generalize request.currentResource.map ActiveResourcePayload.normalize = incoming at hincoming ⊢
  intro h
  cases hid : request.sessionId with
  | none =>
    simp only [hid, Option.some.injEq] at h
    subst h
    exact ⟨wordAfter_sessionIdAt _ _, token.2, hincoming⟩
  | some id =>
    simp only [hid] at h
    cases hget : store.sessions id with
    | none => simp [hget] at h
    | some existing =>
      have hwf := hstore id existing hget
      simp only [hget] at h
      split at h
      · cases h
      split at h
      · cases h
      cases h
      refine ⟨hwf.sessionId, hwf.sessionAccessToken, fun resource hresource => ?_⟩
      cases incoming with
      | none => exact hwf.activeResource resource hresource
      | some r => exact hincoming resource hresource

/-- The session of a request is well formed if those stored are. -/
theorem sessionStateForRequest_wellFormed {request : ChatRequest} {identity : TrustedIdentity}
    {now : UtcTime} {token : AccessToken} (hrole : identity.role = "broker")
    (hstore : ∀ id existing, store.sessions id = some existing → existing.WellFormed)
    (h : sessionStateForRequest lower store request identity now token = some session) :
    session.WellFormed := by
  obtain ⟨-, -, hidentity, hscope, hbinding, hscreen⟩ := sessionStateForRequest_spec h
  obtain ⟨hid, htoken, hresource⟩ := sessionStateForRequest_new_or_stored hstore h
  refine ⟨hid, htoken, hidentity.trans hrole, fun resource hsome => ?_, fun hnone => ?_, hbinding,
    hscreen, hresource⟩
  · rw [hscope, hsome]
    rfl
  · rw [hscope, hnone]
    exact scopeForResource_none _

/-- A request keeps the stored sessions well formed. -/
theorem wellFormed_of_postChat
    (hstore : ∀ id existing, store.sessions id = some existing → existing.WellFormed)
    (h : postChat lower brokersForOffice store call = some store') :
    ∀ id existing, store'.sessions id = some existing → existing.WellFormed := by
  rw [postChat] at h
  split at h
  swap
  · cases h
  rename_i hbroker
  obtain ⟨session, hsession, rfl⟩ := Option.map_eq_some_iff.mp h
  intro id existing hexisting
  simp only [Function.update_apply] at hexisting
  split_ifs at hexisting with hid
  · cases hexisting
    exact sessionStateForRequest_wellFormed hbroker.1 hstore hsession
  · exact hstore id existing hexisting

/-- Every session that requests have stored is well formed. -/
theorem wellFormed_of_reachable {id : String}
    (h : Reachable (postChat lower brokersForOffice) .empty store)
    (hsession : store.sessions id = some session) : session.WellFormed :=
  h.invariant (fun s : SessionStore => ∀ id existing, s.sessions id = some existing →
    existing.WellFormed) (fun _ _ _ hs hstep => wellFormed_of_postChat hs hstep)
    (fun _ _ => nofun) id session hsession

/-- The first request of a broker of the office stores a session with its resource. -/
theorem exists_session_of_new_request (hrole : call.identity.role = "broker")
    (hbroker : call.identity.brokerId ∈ brokersForOffice call.identity.officeId)
    (hnew : call.request.sessionId = none) :
    ∃ store session, Reachable (postChat lower brokersForOffice) .empty store ∧
      store.sessions session.sessionId = some session ∧
      session.activeResource =
        call.request.currentResource.map ActiveResourcePayload.normalize ∧
      session.officeId = call.identity.officeId := by
  obtain ⟨session, hstate, hresource, hoffice⟩ : ∃ session, sessionStateForRequest lower .empty
      call.request call.identity call.now call.token = some session ∧
      session.activeResource = call.request.currentResource.map ActiveResourcePayload.normalize ∧
      session.officeId = call.identity.officeId := by
    rw [sessionStateForRequest]
    simp only [hnew]
    exact ⟨_, rfl, rfl, rfl⟩
  have hpost : postChat lower brokersForOffice .empty call = some
      { sessions := Function.update (fun _ => none) session.sessionId (some session)
        counters := Function.update (fun _ => 0) (stamp call.now) 1 } := by
    rw [postChat, if_pos ⟨hrole, hbroker⟩, hstate]
    simp [hnew, SessionStore.empty]
  refine ⟨_, session, (Reachable.refl _).tail hpost, ?_, hresource, hoffice⟩
  simp only [Function.update_self]

/-- A resource of the type `session` is the one reason for a scope outside the contract. -/
theorem SessionState.WellFormed.scope_mem_iff (h : session.WellFormed) :
    session.conversationScope ∈ Responses.conversationScopes ↔
      ∀ resource ∈ session.activeResource, resource.resourceType ≠ .session := by
  cases hresource : session.activeResource with
  | none =>
    have hscope := h.scope_of_none hresource
    simp only [List.mem_cons, List.not_mem_nil, or_false] at hscope
    rcases hscope with hscope | hscope <;> simp [hscope, Responses.conversationScopes]
  | some resource =>
    rw [h.scope_of_resource resource hresource]
    cases hr : resource.resourceType <;>
      simp [hr, ResourceType.text, Responses.conversationScopes]

end Meridian.Api
