import Meridian.Api.JobRoutes
import Meridian.Api.SessionIds

/-!
# The binding of a session to a resource

Requests of `post_chat` one after the other, of any sessions, with requests of the routes of jobs
between them. Which binding a request of a session computes, and which resource it leaves, depends
on the resources of the earlier requests of that session and on nothing else.

## Main definitions

* `Meridian.Api.Binding.Event`, `Meridian.Api.Binding.run`: what happens to the stores.
* `Meridian.Api.Binding.requestsOn`: the requests of a session that have been admitted.
* `Meridian.Api.Binding.BindingLaw`: the binding and the resource, from the requests.

## Main results

* `Meridian.Api.Binding.readResource_resourceColumns`: the three columns of a resource give it back.
* `Meridian.Api.Binding.binding_of_conversation`: every admitted request obeys the law.
-/

namespace Meridian.Api.Binding

open Foundations Chat Routes Autonomy

variable {F : Type}

/-! ### The columns of a resource -/

/-- The type with the given literal. -/
def resourceType? (text : String) : Option ResourceType :=
  [.shipment, .carrier, .lane, .analytics, .session].find? fun resourceType : ResourceType =>
    resourceType.text = text

/-- `_resource_columns`. -/
def resourceColumns :
    Option ActiveResourceBinding → Option String × Option String × Option String
  | none => (none, none, none)
  | some resource =>
    (some resource.resourceType.text, some resource.resourceId, some resource.resourceFingerprint)

/-- The resource that `get_session` reads from the columns, if they are those of a resource. -/
def readResource : Option String × Option String × Option String → Option ActiveResourceBinding
  | (some type, some id, some fingerprint) =>
    (resourceType? type).map fun resourceType => ⟨resourceType, id, fingerprint⟩
  | _ => none

/-- **The three columns of a resource give it back.** -/
theorem readResource_resourceColumns (resource : Option ActiveResourceBinding) :
    readResource (resourceColumns resource) = resource := by
  cases resource with
  | none => rfl
  | some resource =>
    obtain ⟨resourceType, id, fingerprint⟩ := resource
    have htype : resourceType? resourceType.text = some resourceType := by
      cases resourceType <;> decide
    simp only [resourceColumns, readResource, htype, Option.map_some]

/-! ### Runs -/

/-- What happens to the stores: a chat request, or a request of the routes of jobs. -/
inductive Event (F : Type)
  | chat (post : Post)
  | job (request : JobRequest F)

section Run

variable (app : App) (py : PythonText F)

/-- The stores after an event. -/
def next (stores : Stores F) : Event F → Stores F
  | .chat post => (Chat.postChat app stores post).2
  | .job request => (handleJob app py stores request).2

/-- The stores after some events. -/
def run (stores : Stores F) (events : List (Event F)) : Stores F :=
  events.foldl (next app py) stores

/-- The stores of a new application. -/
def emptyStores : Stores F := ⟨.empty, fun _ => 0, .empty⟩

/-- The session of a request, if its identity and its token are accepted. -/
def admittedTo (stores : Stores F) : Event F → Option String
  | .chat post => (admission app stores post).toOption.map fun admitted => admitted.2.sessionId
  | .job _ => none

/-- The resource of a request, normalised. -/
def incomingResource (post : Post) : Option ActiveResourceBinding :=
  post.request.currentResource.map ActiveResourcePayload.normalize

/-- The resource of an event. -/
def Event.resource : Event F → Option ActiveResourceBinding
  | .chat post => incomingResource post
  | .job _ => none

/-- The admitted requests of a session, in their order. -/
def requestsOn (sessionId : String) : Stores F → List (Event F) → List (Event F)
  | _, [] => []
  | stores, event :: events =>
    let rest := requestsOn sessionId (next app py stores event) events
    if admittedTo app stores event = some sessionId then event :: rest else rest

/-- The last resource of the requests of a session. -/
def lastResource (sessionId : String) (stores : Stores F) (events : List (Event F)) :
    Option ActiveResourceBinding :=
  ((requestsOn app py sessionId stores events).filterMap Event.resource).getLast?

end Run

/-- The resources differ in their type, their id or their fingerprint. -/
def Differ (resource resource' : ActiveResourceBinding) : Prop :=
  resource.resourceType ≠ resource'.resourceType ∨ resource.resourceId ≠ resource'.resourceId ∨
    resource.resourceFingerprint ≠ resource'.resourceFingerprint

/-- The binding of a session from the resource of a request and that of the requests before it. -/
structure BindingState (incoming previous : Option ActiveResourceBinding) (state : String) :
    Prop where
  stale : state = "stale" ↔ ∃ r ∈ incoming, ∃ p ∈ previous, Differ r p
  missing : state = "missing" ↔ incoming = none ∧ previous = none
  bound : state = "bound" ↔ ¬ (∃ r ∈ incoming, ∃ p ∈ previous, Differ r p) ∧
    ¬ (incoming = none ∧ previous = none)

/-- What a request computes of the binding of its session and what it leaves, given the resource of
the requests before it. -/
structure BindingLaw (app : App) (stores : Stores F) (post : Post) (session : ChatSession)
    (previous : Option ActiveResourceBinding) : Prop where
  computed : BindingState (incomingResource post) previous session.contextBindingState
  stored : ∃ row, (Chat.postChat app stores post).2.sessions.lookup session.sessionId = some row ∧
    row.activeResource = (incomingResource post).or previous ∧
    row.contextBindingState = session.contextBindingState

variable {app : App} {py : PythonText F} {stores : Stores F} {post : Post}
  {identity : TrustedIdentity} {session : ChatSession} {sessionId : String}

/-! ### One request -/

theorem differ_iff {r p : ActiveResourceBinding} : Differ r p ↔ r ≠ p := by
  obtain ⟨type, id, fingerprint⟩ := r
  obtain ⟨type', id', fingerprint'⟩ := p
  simp only [Differ, ne_eq, ActiveResourceBinding.mk.injEq]
  tauto

/-- The resource that is stored of a session. -/
def storedResource (store : SessionStore) (sessionId : String) : Option ActiveResourceBinding :=
  (store.sessions sessionId).bind SessionState.activeResource

/-- What a request decides about the binding, from what is stored of the session that it names. -/
theorem sessionStateForRequest_binding {lower : String → String} {store : SessionStore}
    {request : ChatRequest} {now : UtcTime} {token : AccessToken} {session : SessionState}
    (h : sessionStateForRequest lower store request identity now token = some session) :
    let incoming := request.currentResource.map ActiveResourcePayload.normalize
    let previous := request.sessionId.bind (storedResource store)
    BindingState incoming previous session.contextBindingState ∧
      session.activeResource = incoming.or previous := by
  rw [sessionStateForRequest] at h
  dsimp only
  generalize request.currentResource.map ActiveResourcePayload.normalize = incoming at h ⊢
  cases hid : request.sessionId with
  | none =>
    simp only [hid, Option.some.injEq] at h
    subst h
    cases incoming with
    | none => exact ⟨⟨by simp, by simp, by simp⟩, rfl⟩
    | some r => exact ⟨⟨by simp, by simp, by simp⟩, rfl⟩
  | some id =>
    simp only [hid] at h
    cases hget : store.sessions id with
    | none => simp [hget] at h
    | some existing =>
      simp only [hget] at h
      split at h
      · cases h
      split at h
      · cases h
      obtain rfl := Option.some.inj h
      have hprevious : (some id).bind (storedResource store) = existing.activeResource := by
        rw [Option.bind_some, storedResource, hget, Option.bind_some]
      rw [hprevious]
      refine ⟨?_, rfl⟩
      cases incoming with
      | none =>
        cases existing.activeResource with
        | none => exact ⟨by simp, by simp, by simp⟩
        | some p => exact ⟨by simp, by simp, by simp⟩
      | some r =>
        cases existing.activeResource with
        | none => exact ⟨by simp, by simp, by simp⟩
        | some p =>
          by_cases hrp : p = r
          · subst hrp
            exact ⟨by simp [differ_iff], by simp, by simp [differ_iff]⟩
          · have hne : r ≠ p := fun h => hrp h.symm
            exact ⟨by simp [differ_iff, hrp, hne], by simp [hrp], by simp [differ_iff, hrp, hne]⟩

/-! ### Stored sessions and the counters -/

/-- What an admitted request makes of the sessions and of the counters. -/
theorem view_of_admission (h : admission app stores post = .ok (identity, session)) :
    (Chat.postChat app stores post).2.view =
      { sessions := Function.update stores.view.sessions session.sessionId
          (some session.toSessionState)
        counters :=
          if post.request.sessionId.isNone then countedAt stores.counters post.now
          else stores.counters } := by
  have hview := view_postChat h
  obtain ⟨hidentity, hstate, -⟩ := admission_eq_ok h
  rw [Api.postChat, if_pos (trustedChatIdentity_eq_ok hidentity), hstate, Option.map_some,
    Option.some.injEq] at hview
  exact hview.symm

/-- A chat request keeps the ids issued. -/
theorem idsIssued_postChat (h : IdsIssued stores.view) :
    IdsIssued (Chat.postChat app stores post).2.view := by
  cases hadmitted : admission app stores post with
  | error failure =>
    rw [Chat.postChat, hadmitted]
    exact h
  | ok admitted =>
    obtain ⟨identity, session⟩ := admitted
    rw [view_of_admission hadmitted]
    intro id existing hexisting
    simp only [Function.update_apply] at hexisting ⊢
    cases hnamed : post.request.sessionId with
    | none =>
      simp only [Option.isNone_none, if_true]
      split_ifs at hexisting with hid
      · rw [hid, sessionId_of_new hadmitted hnamed]
        exact issued_countedAt
      · exact (h id existing hexisting).mono le_countedAt
    | some named =>
      simp only [Option.isNone_some, Bool.false_eq_true, if_false]
      obtain ⟨hsession, row, hrow⟩ := exists_row_of_admission hadmitted hnamed
      split_ifs at hexisting with hid
      · rw [hid, hsession]
        exact h named row.toSessionState (congrArg (Option.map _) hrow)
      · exact h id existing hexisting

/-- What an admitted request goes on from is what is stored of its session. -/
theorem bind_storedResource (hids : IdsIssued stores.view)
    (h : admission app stores post = .ok (identity, session)) :
    post.request.sessionId.bind (storedResource stores.view) =
      storedResource stores.view session.sessionId := by
  cases hnamed : post.request.sessionId with
  | none =>
    have hnone : stores.view.sessions session.sessionId = none := by
      rw [← Option.not_isSome_iff_eq_none, sessionId_of_new h hnamed]
      intro hsome
      obtain ⟨existing, hexisting⟩ := Option.isSome_iff_exists.mp hsome
      exact not_issued_next (hids _ _ hexisting)
    rw [storedResource, hnone]
    rfl
  | some named => rw [Option.bind_some, (exists_row_of_admission h hnamed).1]

/-- An admitted request obeys the law for what is stored of its session. -/
theorem bindingLaw_storedResource (hids : IdsIssued stores.view)
    (h : admission app stores post = .ok (identity, session)) :
    BindingLaw app stores post session (storedResource stores.view session.sessionId) := by
  obtain ⟨hstate, hresource⟩ := sessionStateForRequest_binding (admission_eq_ok h).2.1
  rw [bind_storedResource hids h] at hstate hresource
  refine ⟨hstate, ?_⟩
  have hview := congrArg (SessionStore.sessions · session.sessionId) (view_of_admission h)
  simp only [Function.update_self] at hview
  obtain ⟨row, hrow, hsession⟩ := Option.map_eq_some_iff.mp hview
  refine ⟨row, hrow, ?_, congrArg SessionState.contextBindingState hsession⟩
  rw [congrArg SessionState.activeResource hsession, hresource]
  rfl

/-! ### Runs -/

theorem idsIssued_next (h : IdsIssued stores.view) (event : Event F) :
    IdsIssued (next app py stores event).view := by
  cases event with
  | chat post => exact idsIssued_postChat h
  | job request =>
    have hview : (next app py stores (.job request)).view = stores.view := view_handleJob request
    rw [hview]
    exact h

/-- What an event does to the resource that is stored of a session. -/
theorem storedResource_next (h : IdsIssued stores.view) (event : Event F) :
    storedResource (next app py stores event).view sessionId =
      if admittedTo app stores event = some sessionId then
        event.resource.or (storedResource stores.view sessionId)
      else storedResource stores.view sessionId := by
  cases event with
  | job request =>
    rw [show admittedTo app stores (.job request) = none from rfl,
      if_neg (Option.some_ne_none sessionId).symm]
    exact congrArg (storedResource · sessionId) (view_handleJob request)
  | chat post =>
    cases hadmitted : admission app stores post with
    | error failure =>
      simp only [next, admittedTo, Chat.postChat, hadmitted]
      exact (if_neg (Option.some_ne_none sessionId).symm).symm
    | ok admitted =>
      obtain ⟨identity, session⟩ := admitted
      simp only [next, admittedTo, hadmitted, Except.toOption, Option.map_some, Option.some.injEq,
        Event.resource]
      split_ifs with hid
      · subst hid
        obtain ⟨row, hrow, hresource, -⟩ := (bindingLaw_storedResource h hadmitted).stored
        rw [← hresource]
        simp only [storedResource, Stores.view, hrow, Option.map_some, Option.bind_some]
      · have hother : sessionId ≠ session.sessionId := fun h => hid h.symm
        rw [storedResource, view_of_admission hadmitted]
        simp only [Function.update_of_ne hother]
        rfl

/-- A run leaves of a session the last resource of its requests, if one of them has a resource. -/
theorem storedResource_run (events : List (Event F)) (h : IdsIssued stores.view) :
    storedResource (run app py stores events).view sessionId =
      (lastResource app py sessionId stores events).or (storedResource stores.view sessionId) := by
  induction events generalizing stores with
  | nil => rfl
  | cons event events ih =>
    have hids : IdsIssued (next app py stores event).view := idsIssued_next h event
    have hnext := ih hids
    rw [storedResource_next h] at hnext
    refine hnext.trans ?_
    rw [lastResource, lastResource, requestsOn]
    split_ifs
    · rw [List.filterMap_cons]
      cases event.resource with
      | none => rfl
      | some r =>
        rw [List.getLast?_cons]
        cases List.getLast? _ <;> rfl
    · rfl

theorem idsIssued_run (events : List (Event F)) (h : IdsIssued stores.view) :
    IdsIssued (run app py stores events).view := by
  induction events generalizing stores with
  | nil => exact h
  | cons event events ih => exact ih (idsIssued_next h event)

/-- **The binding is a function of the conversation.** After any requests of a new application, a
request that is admitted to a session computes its binding from its own resource and from the last
resource of the requests of the session before it, and leaves its own resource or else that one;
also if it raises later on. -/
theorem binding_of_conversation (events : List (Event F))
    (h : admission app (run app py emptyStores events) post = .ok (identity, session)) :
    BindingLaw app (run app py emptyStores events) post session
      (lastResource app py session.sessionId emptyStores events) := by
  have hempty : IdsIssued (emptyStores : Stores F).view := nofun
  have hlaw := bindingLaw_storedResource (idsIssued_run events hempty) h
  have hnone : storedResource (emptyStores : Stores F).view session.sessionId = none := rfl
  rwa [storedResource_run events hempty, hnone, Option.or_none] at hlaw

section Memphis

/-! A shipment, and then another one. -/

/-- A question about a shipment. -/
def shipmentPost (sessionId : Option String) (resource : ActiveResourcePayload) : Post :=
  memphisPost ⟨"Show delays", sessionId, sessionId.map fun _ => (memphisChat none).token,
    some resource⟩ .empty

/-- A question about a shipment in a new session. -/
def firstShipment : Post :=
  shipmentPost none ⟨.shipment, "ship-1", none, by decide, nofun⟩

/-- A question about another shipment in that session. -/
def otherShipment : Post :=
  shipmentPost (some "chat_s_00010101_0001") ⟨.shipment, "ship-2", none, by decide, nofun⟩

end Memphis

theorem binding_of_conversation_stale : ∃ identity session,
    admission testApp (run testApp plainText emptyStores [.chat firstShipment]) otherShipment =
      .ok (identity, session) ∧
    session.contextBindingState = "stale" ∧
    BindingLaw testApp (run testApp plainText emptyStores [.chat firstShipment]) otherShipment
      session (some ⟨.shipment, "ship-1", "shipment:ship-1:v1"⟩) := by
  have hrun : ((admission testApp (run testApp plainText emptyStores [.chat firstShipment])
      otherShipment).toOption.map fun admitted =>
        (admitted.2.contextBindingState,
          lastResource testApp plainText admitted.2.sessionId emptyStores [.chat firstShipment])) =
      some ("stale", some ⟨.shipment, "ship-1", "shipment:ship-1:v1"⟩) := by
    decide +kernel
  cases hadmitted : admission testApp (run testApp plainText emptyStores [.chat firstShipment])
    otherShipment with
  | error failure =>
    rw [hadmitted] at hrun
    cases hrun
  | ok admitted =>
    obtain ⟨identity, session⟩ := admitted
    simp only [hadmitted, Except.toOption, Option.map_some, Option.some.injEq,
      Prod.mk.injEq] at hrun
    obtain ⟨hstate, hlast⟩ := hrun
    have hlaw := binding_of_conversation [.chat firstShipment] hadmitted
    rw [hlast] at hlaw
    exact ⟨identity, session, rfl, hstate, hlaw⟩

end Meridian.Api.Binding
