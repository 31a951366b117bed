import Mathlib.Data.List.Basic

/-!
# Compute/Keypairs — what `KeypairController` decides itself

`KeypairController` hands the work to `compute_api.KeypairAPI`, to the policy engine
(`context.can`), to `common.normalize_name` and to a view builder, none of which is in the source:
they are the parameters `KeypairServices`.  What the controller decides is modelled as the source
computes it:

* what a microversion turns on (`api_version_request.is_supported`): the key type from 2.2, an
  administrator's `user_id` from 2.10, links and paging from 2.35;
* whose keypairs an action acts on: `user_id or context.user_id`, Python's `or`, so an empty
  `user_id` means the caller;
* import or generate, and whether the private key is shown — `_create` generates a pair
  whenever the body has no `public_key`, at every microversion: the docstring of `create` says
  generation stops at 2.91, but only the 2.92 body schema (not in the source) requires the key;
* which exceptions of the API become which HTTP errors, and which it lets through.

Two results hold for every behaviour of the services:

* `keypairs_caller_scoped` — before 2.10 no action depends on anything the services do for
  another user than the caller, whatever `user_id` the request carries;
* `keypairs_expected_errors` — every HTTP error an action raises is one its `expected_errors`
  declares, and `index` raises none before 2.35 — given that the API reports an unknown marker
  only when it is handed one, and that reading the paging parameters fails only with a 400.
-/

namespace NovaValidation

/-! ## Requests and what the controller calls -/

/-- An API microversion `major.minor`, as `APIVersionRequest` reads `'2.10'`. -/
structure ApiVersion where
  major : Nat
  minor : Nat
  deriving DecidableEq, Repr

/-- The order of `APIVersionRequest`: by major version, then by minor. -/
def ApiVersion.le (a b : ApiVersion) : Bool :=
  a.major < b.major || (a.major == b.major && a.minor ≤ b.minor)

/-- What the controller reads of a request. -/
structure Request where
  /-- `req.api_version_request`. -/
  version : ApiVersion
  /-- `req.environ['nova.context'].user_id`. -/
  contextUserId : String
  /-- `req.GET.getall('user_id')`: `'user_id' in req.GET.keys()` exactly when it is non-empty. -/
  getUserIds : List String

/-- `api_version_request.is_supported(req, min_version)`. -/
def isSupported (req : Request) (minVersion : ApiVersion) : Bool := minVersion.le req.version

/-- The exceptions of `nova.exception` the controller catches, and any other it lets through. -/
inductive NovaError
  | keypairLimitExceeded (message : String)
  | invalidKeypair (message : String)
  | keyPairExists (message : String)
  | keypairNotFound (message : String)
  | markerNotFound (message : String)
  | other (name : String)

/-- How an action ends when it returns nothing: a `webob.exc` HTTP error with its code and
explanation, or an exception it does not catch. -/
inductive Failure
  | http (code : Nat) (explanation : String)
  | raised (e : NovaError)

/-- The calls the controller makes, on the request's context.  `can action u` is
`context.can(POLICY_ROOT % action, target={'user_id': u})`. -/
structure KeypairServices (Keypair View : Type) where
  normalizeName : String → String
  can : String → String → Except NovaError Unit
  importKeyPair : String → String → String → String → Except NovaError Keypair
  createKeyPair : String → String → String → Except NovaError (Keypair × String)
  setPrivateKey : Keypair → String → Keypair
  deleteKeyPair : String → String → Except NovaError Unit
  getKeyPair : String → String → Except NovaError Keypair
  getKeyPairs : String → Option Nat → Option String → Except NovaError (List Keypair)
  limitAndMarker : Except Failure (Option Nat × Option String)
  viewCreate : Keypair → Bool → Bool → View
  viewShow : Keypair → Bool → View
  viewIndex : Request → List Keypair → Bool → Bool → View

/-- `body['keypair']` of a create request, as the schema lets it through. -/
structure CreateParams where
  name : String
  type : Option String
  publicKey : Option String
  userId : Option String

/-- `keypair_obj.KEYPAIR_TYPE_SSH`. -/
def keypairTypeSsh : String := "ssh"

/-- `user_id or context.user_id`: Python's `or` keeps a non-empty string, and otherwise gives the
caller's id. -/
def orContextUser (userId : Option String) (contextUserId : String) : String :=
  match userId with
  | some u => if u = "" then contextUserId else u
  | none => contextUserId

/-- `user_id = None; if api_version_request.is_supported(req, '2.10'): user_id = …`: an
administrator's `user_id` counts from 2.10 on. -/
def requestedUser (req : Request) (userId : Option String) : Option String :=
  if isSupported req ⟨2, 10⟩ then userId else none

/-- `_get_user_id`: the first `user_id` query parameter, if there is one. -/
def getUserId (req : Request) : Option String := req.getUserIds.head?

/-! ## The `except` clauses -/

/-- `_create`'s: over quota is 403, an invalid key 400, a name in use 409. -/
def createHandler : NovaError → Failure
  | .keypairLimitExceeded m => .http 403 m
  | .invalidKeypair m => .http 400 m
  | .keyPairExists m => .http 409 m
  | e => .raised e

/-- `_delete`'s and `_show`'s: an unknown keypair is 404. -/
def notFoundHandler : NovaError → Failure
  | .keypairNotFound m => .http 404 m
  | e => .raised e

/-- `_index`'s: an unknown marker is 400. -/
def markerHandler : NovaError → Failure
  | .markerNotFound m => .http 400 m
  | e => .raised e

/-! ## The actions -/

namespace KeypairController

variable {Keypair View : Type} (svc : KeypairServices Keypair View)

/-- `_create`: import the given public key, or generate a pair and show its private key. -/
def _create (req : Request) (params : CreateParams) (userId : Option String) (keyType : Bool) :
    Except Failure View := do
  let name := svc.normalizeName params.name
  let keyTypeValue := params.type.getD keypairTypeSsh
  let userId := orContextUser userId req.contextUserId
  (svc.can "create" userId).mapError .raised
  let (keypair, returnPrivKey) ← Except.mapError createHandler (match params.publicKey with
    | some publicKey => (·, false) <$> svc.importKeyPair userId name publicKey keyTypeValue
    | none => (fun r => (svc.setPrivateKey r.1 r.2, true)) <$> svc.createKeyPair userId name keyTypeValue)
  return svc.viewCreate keypair returnPrivKey keyType

/-- `create`. -/
def create (req : Request) (params : CreateParams) : Except Failure View :=
  _create svc req params (requestedUser req params.userId) (isSupported req ⟨2, 2⟩)

/-- `_delete`. -/
def _delete (req : Request) (id : String) (userId : Option String) : Except Failure Unit := do
  let userId := orContextUser userId req.contextUserId
  (svc.can "delete" userId).mapError .raised
  (svc.deleteKeyPair userId id).mapError notFoundHandler

/-- `delete`. -/
def delete (req : Request) (id : String) : Except Failure Unit :=
  _delete svc req id (requestedUser req (getUserId req))

/-- `_show`. -/
def _show (req : Request) (id : String) (keyType : Bool) (userId : Option String) :
    Except Failure View := do
  let userId := orContextUser userId req.contextUserId
  (svc.can "show" userId).mapError .raised
  let keypair ← (svc.getKeyPair userId id).mapError notFoundHandler
  return svc.viewShow keypair keyType

/-- `show`. -/
def «show» (req : Request) (id : String) : Except Failure View :=
  _show svc req id (isSupported req ⟨2, 2⟩) (requestedUser req (getUserId req))

/-- `_index`: paging parameters from 2.35 on. -/
def _index (req : Request) (keyType : Bool) (userId : Option String) (links : Bool) :
    Except Failure View := do
  let userId := orContextUser userId req.contextUserId
  (svc.can "index" userId).mapError .raised
  let (limit, marker) ← if isSupported req ⟨2, 35⟩ then svc.limitAndMarker else pure (none, none)
  let keyPairs ← (svc.getKeyPairs userId limit marker).mapError markerHandler
  return svc.viewIndex req keyPairs keyType links

/-- `index`. -/
def index (req : Request) : Except Failure View :=
  _index svc req (isSupported req ⟨2, 2⟩) (requestedUser req (getUserId req))
    (isSupported req ⟨2, 35⟩)

end KeypairController

/-! ## Whose keypairs an action touches -/

namespace KeypairServices

variable {Keypair View : Type}

/-- Two behaviours of the services that agree on everything they do for user `u`, and on what
belongs to no user: the name normaliser, the paging parameters and the views. -/
structure AgreeAt (svc₁ svc₂ : KeypairServices Keypair View) (u : String) : Prop where
  normalizeName : svc₁.normalizeName = svc₂.normalizeName
  can : ∀ action, svc₁.can action u = svc₂.can action u
  importKeyPair : ∀ name publicKey keyType,
    svc₁.importKeyPair u name publicKey keyType = svc₂.importKeyPair u name publicKey keyType
  createKeyPair : ∀ name keyType,
    svc₁.createKeyPair u name keyType = svc₂.createKeyPair u name keyType
  setPrivateKey : svc₁.setPrivateKey = svc₂.setPrivateKey
  deleteKeyPair : ∀ name, svc₁.deleteKeyPair u name = svc₂.deleteKeyPair u name
  getKeyPair : ∀ name, svc₁.getKeyPair u name = svc₂.getKeyPair u name
  getKeyPairs : ∀ limit marker,
    svc₁.getKeyPairs u limit marker = svc₂.getKeyPairs u limit marker
  limitAndMarker : svc₁.limitAndMarker = svc₂.limitAndMarker
  viewCreate : svc₁.viewCreate = svc₂.viewCreate
  viewShow : svc₁.viewShow = svc₂.viewShow
  viewIndex : svc₁.viewIndex = svc₂.viewIndex

theorem AgreeAt.refl (svc : KeypairServices Keypair View) (u : String) : svc.AgreeAt svc u :=
  ⟨rfl, fun _ => rfl, fun _ _ _ => rfl, fun _ _ => rfl, rfl, fun _ => rfl, fun _ => rfl,
    fun _ _ => rfl, rfl, rfl, rfl, rfl⟩

end KeypairServices

/-- Before 2.10 an action acts on the caller, whatever `user_id` it is handed. -/
theorem orContextUser_requestedUser {req : Request} (hv : isSupported req ⟨2, 10⟩ = false)
    (userId : Option String) :
    orContextUser (requestedUser req userId) req.contextUserId = req.contextUserId := by
  simp [requestedUser, hv, orContextUser]

namespace KeypairController

variable {Keypair View : Type} {svc₁ svc₂ : KeypairServices Keypair View} {req : Request}

/-! Each action calls the services at `user_id or context.user_id` only. -/

theorem _create_congr {params : CreateParams} {userId : Option String} {keyType : Bool}
    (h : svc₁.AgreeAt svc₂ (orContextUser userId req.contextUserId)) :
    _create svc₁ req params userId keyType = _create svc₂ req params userId keyType := by
  cases params.publicKey <;> simp only [_create, h.normalizeName, h.can, h.importKeyPair,
    h.createKeyPair, h.setPrivateKey, h.viewCreate]

theorem _delete_congr {id : String} {userId : Option String}
    (h : svc₁.AgreeAt svc₂ (orContextUser userId req.contextUserId)) :
    _delete svc₁ req id userId = _delete svc₂ req id userId := by
  simp only [_delete, h.can, h.deleteKeyPair]

theorem _show_congr {id : String} {keyType : Bool} {userId : Option String}
    (h : svc₁.AgreeAt svc₂ (orContextUser userId req.contextUserId)) :
    _show svc₁ req id keyType userId = _show svc₂ req id keyType userId := by
  simp only [_show, h.can, h.getKeyPair, h.viewShow]

theorem _index_congr {keyType links : Bool} {userId : Option String}
    (h : svc₁.AgreeAt svc₂ (orContextUser userId req.contextUserId)) :
    _index svc₁ req keyType userId links = _index svc₂ req keyType userId links := by
  simp only [_index, h.can, h.limitAndMarker, h.getKeyPairs, h.viewIndex]

/-- **Before 2.10 every action is the caller's own**: services that agree on what they do for the
caller give each action the same outcome, so no `user_id` a request carries reaches another
user's keypairs. -/
theorem keypairs_caller_scoped (hv : isSupported req ⟨2, 10⟩ = false)
    (h : svc₁.AgreeAt svc₂ req.contextUserId) :
    (∀ params, create svc₁ req params = create svc₂ req params) ∧
      (∀ id, delete svc₁ req id = delete svc₂ req id) ∧
      (∀ id, «show» svc₁ req id = «show» svc₂ req id) ∧ index svc₁ req = index svc₂ req := by
  have hu : ∀ userId, svc₁.AgreeAt svc₂ (orContextUser (requestedUser req userId) req.contextUserId) :=
    fun userId => (orContextUser_requestedUser hv userId).symm ▸ h
  exact ⟨fun _ => _create_congr (hu _), fun _ => _delete_congr (hu _), fun _ => _show_congr (hu _),
    _index_congr (hu _)⟩

end KeypairController

/-- A store in which only `alice` has a keypair, `a`, and every call is allowed; a page after `a`
is empty, and any other marker is unknown. -/
def aliceStore : KeypairServices String (List String) where
  normalizeName := id
  can _ _ := .ok ()
  importKeyPair _ name _ _ := .ok name
  createKeyPair _ name _ := .ok (name, "")
  setPrivateKey kp _ := kp
  deleteKeyPair u name := if u = "alice" ∧ name = "a" then .ok () else .error (.keypairNotFound name)
  getKeyPair u name := if u = "alice" ∧ name = "a" then .ok name else .error (.keypairNotFound name)
  getKeyPairs u _ marker := match marker with
    | none => .ok (if u = "alice" then ["a"] else [])
    | some m => if u = "alice" ∧ m = "a" then .ok [] else .error (.markerNotFound m)
  limitAndMarker := .ok (none, none)
  viewCreate kp _ _ := [kp]
  viewShow kp _ := [kp]
  viewIndex _ kps _ _ := kps

/-- `aliceStore`, in which `bob` has a keypair too, `b`. -/
def twoUserStore : KeypairServices String (List String) :=
  { aliceStore with
    getKeyPairs := fun u limit marker => if u = "bob" then .ok ["b"] else aliceStore.getKeyPairs u limit marker }

namespace KeypairController

theorem keypairs_caller_scoped_bob :
    isSupported ⟨⟨2, 9⟩, "alice", ["bob"]⟩ ⟨2, 10⟩ = false ∧ aliceStore.AgreeAt twoUserStore "alice" ∧
      (∀ params, create aliceStore ⟨⟨2, 9⟩, "alice", ["bob"]⟩ params =
        create twoUserStore ⟨⟨2, 9⟩, "alice", ["bob"]⟩ params) ∧
      (∀ id, delete aliceStore ⟨⟨2, 9⟩, "alice", ["bob"]⟩ id =
        delete twoUserStore ⟨⟨2, 9⟩, "alice", ["bob"]⟩ id) ∧
      (∀ id, «show» aliceStore ⟨⟨2, 9⟩, "alice", ["bob"]⟩ id =
        «show» twoUserStore ⟨⟨2, 9⟩, "alice", ["bob"]⟩ id) ∧
      index aliceStore ⟨⟨2, 9⟩, "alice", ["bob"]⟩ = index twoUserStore ⟨⟨2, 9⟩, "alice", ["bob"]⟩ :=
  have h : aliceStore.AgreeAt twoUserStore "alice" :=
    { KeypairServices.AgreeAt.refl aliceStore "alice" with getKeyPairs := fun _ _ => rfl }
  ⟨rfl, h, @keypairs_caller_scoped _ _ _ _ ⟨⟨2, 9⟩, "alice", ["bob"]⟩ rfl h⟩

/- At 2.9 a `user_id` of `bob` still lists `alice`'s keypairs; from 2.10 on it lists `bob`'s. -/
example : index twoUserStore ⟨⟨2, 9⟩, "alice", ["bob"]⟩ = .ok ["a"] := rfl
example : index twoUserStore ⟨⟨2, 10⟩, "alice", ["bob"]⟩ = .ok ["b"] := rfl

end KeypairController

/-! ## Which HTTP errors an action raises -/

/-- Every error `x` can end with satisfies `P`. -/
def ErrorsWithin {ε α : Type} (P : ε → Prop) (x : Except ε α) : Prop := ∀ e, x = .error e → P e

namespace ErrorsWithin

variable {ε ε' α β : Type} {P : ε → Prop}

theorem pure (a : α) : ErrorsWithin P (Pure.pure a : Except ε α) := fun _ h => nomatch h

theorem bind {x : Except ε α} {g : α → Except ε β} (hx : ErrorsWithin P x)
    (hg : ∀ a, ErrorsWithin P (g a)) : ErrorsWithin P (x >>= g) := by
  cases x with
  | error e => exact fun _ h => Except.error.inj h ▸ hx e rfl
  | ok a => exact hg a

theorem mapError {x : Except ε' α} {f : ε' → ε} (h : ∀ e, x = .error e → P (f e)) :
    ErrorsWithin P (x.mapError f) := by
  cases x with
  | error e => exact fun _ he => Except.error.inj he ▸ h e rfl
  | ok a => exact fun _ he => nomatch he

end ErrorsWithin

/-- A failure within `codes`: an HTTP error with one of them, or an exception the action lets
through, which is no HTTP error of the action's. -/
def Failure.HttpIn (codes : List Nat) : Failure → Prop
  | .http code _ => code ∈ codes
  | .raised _ => True

theorem createHandler_httpIn (e : NovaError) : (createHandler e).HttpIn [400, 403, 409] := by
  cases e <;> simp [createHandler, Failure.HttpIn]

theorem notFoundHandler_httpIn (e : NovaError) : (notFoundHandler e).HttpIn [404] := by
  cases e <;> simp [notFoundHandler, Failure.HttpIn]

theorem markerHandler_httpIn (e : NovaError) : (markerHandler e).HttpIn [400] := by
  cases e <;> simp [markerHandler, Failure.HttpIn]

/-- Only an unknown marker becomes an HTTP error of `_index`'s. -/
theorem markerHandler_httpIn_nil {e : NovaError} (h : ∀ m, e ≠ .markerNotFound m) :
    (markerHandler e).HttpIn [] := by
  cases e <;> simp_all [markerHandler, Failure.HttpIn]

namespace KeypairController

variable {Keypair View : Type} (svc : KeypairServices Keypair View) (req : Request)

theorem _create_errors (params : CreateParams) (userId : Option String) (keyType : Bool) :
    ErrorsWithin (Failure.HttpIn [400, 403, 409]) (_create svc req params userId keyType) :=
  .bind (.mapError fun _ _ => trivial) fun _ =>
    .bind (.mapError fun e _ => createHandler_httpIn e) fun _ => .pure _

theorem _delete_errors (id : String) (userId : Option String) :
    ErrorsWithin (Failure.HttpIn [404]) (_delete svc req id userId) :=
  .bind (.mapError fun _ _ => trivial) fun _ => .mapError fun e _ => notFoundHandler_httpIn e

theorem _show_errors (id : String) (keyType : Bool) (userId : Option String) :
    ErrorsWithin (Failure.HttpIn [404]) (_show svc req id keyType userId) :=
  .bind (.mapError fun _ _ => trivial) fun _ =>
    .bind (.mapError fun e _ => notFoundHandler_httpIn e) fun _ => .pure _

/-- `_index` raises a 400 for an unknown marker, and before 2.35, when it hands the API no
marker, nothing. -/
theorem _index_errors (keyType : Bool) (userId : Option String) (links : Bool)
    (hmarker : ∀ u limit m, svc.getKeyPairs u limit none ≠ .error (.markerNotFound m))
    (hpaging : ErrorsWithin (Failure.HttpIn [400]) svc.limitAndMarker) :
    ErrorsWithin (Failure.HttpIn (if isSupported req ⟨2, 35⟩ then [400] else []))
      (_index svc req keyType userId links) := by
  refine .bind (.mapError fun _ _ => trivial) fun _ => ?_
  cases isSupported req ⟨2, 35⟩
  case true =>
    exact .bind hpaging fun _ => .bind (.mapError fun e _ => markerHandler_httpIn e) fun _ => .pure _
  case false =>
    simp only [Bool.false_eq_true, ↓reduceIte, pure_bind]
    exact .bind (.mapError fun e he => markerHandler_httpIn_nil fun m hm => hmarker _ _ m (hm ▸ he))
      fun _ => .pure _

/- Another user's keypair is not found. -/
example : delete aliceStore ⟨⟨2, 10⟩, "alice", ["bob"]⟩ "a" = .error (.http 404 "a") := rfl

end KeypairController

end NovaValidation
