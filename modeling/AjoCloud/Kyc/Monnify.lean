import AjoCloud.Kyc.Service
import AjoCloud.Lib.Tickets

/-!
# The session with the identity provider

`MonnifyIdentityProvider`.  Calls that overlap share one sign-in with the provider: whoever finds no token
that is good begins it, the others wait for it.  Each turn of the event loop is a step, from one `await` to
the next.
-/

namespace AjoCloud.Kyc.Monnify

open Lib ServiceError

/-! ## What the provider answers -/

def TOKEN_EXPIRY_SKEW_MS : Int := 60000
def BANK_LIST_CACHE_TTL_MS : Int := 24 * 60 * 60 * 1000

/-- What comes of the request to sign in. -/
inductive LoginAnswer where
  /-- There was no response. -/
  | unreachable
  | rejected (status : Nat)
  /-- The `accessToken` and the `expiresIn` of the response, in seconds. -/
  | answered (accessToken : Option String) (expiresIn : Option Int)
deriving DecidableEq

/-- What comes of any other request, whose `responseBody` is an `α`. -/
inductive Answer (α : Type) where
  | unreachable
  | rejected (status : Nat)
  | answered (requestSuccessful : Option Bool) (responseBody : Option α)
deriving DecidableEq

def unavailable : ServiceError := .http .serviceUnavailable "Identity verification is unavailable"

/-- The token that a sign-in brings, and for how many milliseconds. -/
def LoginAnswer.token : LoginAnswer → Except ServiceError (String × Int)
  | .answered (some accessToken) expiresIn =>
      if accessToken = "" then .error unavailable else .ok (accessToken, expiresIn.getD 3600 * 1000)
  | _ => .error unavailable

/-- The end of `request`: an identifier that is not known is an answer. -/
def Answer.entity {α : Type} : Answer α → Except ServiceError (Option α)
  | .unreachable => .error unavailable
  | .rejected status => if status = 404 then .ok none else .error unavailable
  | .answered requestSuccessful responseBody =>
      if requestSuccessful = some false then .ok none else .ok responseBody

/-- `MonnifyBankBody`. -/
structure MonnifyBankBody where
  code : Option String
  name : Option String
  nipBankCode : Option String
deriving DecidableEq

/-- The banks that are worth listing. -/
def banksOf (entities : Option (List MonnifyBankBody)) : List ProviderBank :=
  ((entities.getD []).map fun entity ↦
    ProviderBank.mk ((entity.nipBankCode.or entity.code).getD "") (entity.name.getD "")).filter
    fun bank ↦ bank.code ≠ "" && bank.name ≠ ""

/-! ## The state of the adapter -/

structure Token where
  value : String
  expiresAt : Timestamp

structure BankCache where
  banks : List ProviderBank
  fetchedAt : Timestamp

/-- A sign-in that brought a token. -/
structure Login where
  value : String
  lifetime : Int
  answeredAt : Timestamp

/-- A token that a call was given. -/
structure Handed where
  value : String
  readAt : Timestamp
  fromCache : Bool

/-- The fields of the adapter; and what none of them keeps: the sign-ins, in the order in which they began,
and what was given out. -/
structure Adapter where
  configured : Bool
  token : Option Token
  /-- The sign-in that `tokenRequest` is the promise of. -/
  tokenRequest : Option Nat
  bankCache : Option BankCache
  /-- How many sign-ins have begun. -/
  begun : Nat
  /-- What became of their promises. -/
  settled : List (Nat × Except ServiceError String)
  logins : List Login
  handed : List Handed
  /-- The lists that were fetched, and those that callers were given. -/
  fetched : List (List ProviderBank)
  listed : List (List ProviderBank)
  /-- For each caller who was given none, how many lists had been fetched before they asked. -/
  unlisted : List Nat

/-- What a call is about, once it has a token. -/
inductive Want where
  /-- `verifyIdentity` and `inquireAccount`. -/
  | lookup
  /-- `listBanks`, with the list that was cached when it was called, after so many were fetched. -/
  | banks (cached : Option BankCache) (known : Nat)

/-- How far a call has come. -/
inductive Task where
  | lookUp
  | listBanks
  /-- The request to sign in is on its way. -/
  | login (want : Want) (request : Nat)
  /-- It was answered; `finally` comes next. -/
  | settle (want : Want) (request : Nat) (result : Except ServiceError String)
  /-- It waits for the promise. -/
  | awaiting (want : Want) (request : Nat)
  /-- It was given a token, and its own request is on its way. -/
  | sent (want : Want) (token : String)

/-- What a step is told. -/
structure Told where
  now : Timestamp
  login : LoginAnswer
  banks : Answer (List MonnifyBankBody)

/-- A call goes on with a token. -/
def hand (a : Adapter) (now : Timestamp) (want : Want) (value : String) (fromCache : Bool) :
    Adapter × Option Task :=
  ({ a with handed := a.handed ++ [⟨value, now, fromCache⟩] }, some (.sent want value))

/-- A call that fails: a list that is cached is better than none. -/
def fail (a : Adapter) : Want → Adapter
  | .lookup => a
  | .banks (some cached) _ => { a with listed := a.listed ++ [cached.banks] }
  | .banks none known => { a with unlisted := a.unlisted ++ [known] }

/-- `authenticate`, up to its first `await`. -/
def authenticate (a : Adapter) (now : Timestamp) (want : Want) : Adapter × Option Task :=
  if a.configured then
    match a.token.filter fun cached ↦ now < cached.expiresAt with
    | some cached => hand a now want cached.value true
    | none =>
        match a.tokenRequest with
        | some request => (a, some (.awaiting want request))
        | none =>
            ({ a with tokenRequest := some a.begun, begun := a.begun + 1 }, some (.login want a.begun))
  else (fail a want, none)

/-- The response to the request to sign in. -/
def answerLogin (a : Adapter) (now : Timestamp) (want : Want) (request : Nat) (answer : LoginAnswer) :
    Adapter × Option Task :=
  match answer.token with
  | .ok (value, lifetime) =>
      ({ a with
          token := some ⟨value, now + max (lifetime - TOKEN_EXPIRY_SKEW_MS) 0⟩
          logins := a.logins ++ [⟨value, lifetime, now⟩] }, some (.settle want request (.ok value)))
  | .error e => (a, some (.settle want request (.error e)))

/-- The promise is settled, for a call that waits for it. -/
def resume (a : Adapter) (now : Timestamp) (want : Want) : Except ServiceError String → Adapter × Option Task
  | .ok value => hand a now want value false
  | .error _ => (fail a want, none)

/-- The end of `listBanks`, once its request was answered. -/
def answerBanks (a : Adapter) (now : Timestamp) (cached : Option BankCache) (known : Nat)
    (answer : Answer (List MonnifyBankBody)) : Adapter :=
  match answer.entity with
  | .error _ => fail a (.banks cached known)
  | .ok entities =>
      match cached.filter fun _ ↦ (banksOf entities).isEmpty with
      | some cached => { a with listed := a.listed ++ [cached.banks] }
      | none =>
          { a with
            bankCache := some ⟨banksOf entities, now⟩
            fetched := a.fetched ++ [banksOf entities]
            listed := a.listed ++ [banksOf entities] }

/-- One turn of the event loop. -/
def exec (o : Told) (a : Adapter) : Task → Adapter × Option Task
  | .lookUp => authenticate a o.now .lookup
  | .listBanks =>
      match a.bankCache.filter fun cached ↦ o.now - cached.fetchedAt < BANK_LIST_CACHE_TTL_MS with
      | some cached => ({ a with listed := a.listed ++ [cached.banks] }, none)
      | none => authenticate a o.now (.banks a.bankCache a.fetched.length)
  | .login want request => answerLogin a o.now want request o.login
  | .settle want request result =>
      resume { a with tokenRequest := none, settled := a.settled ++ [(request, result)] } o.now want result
  | .awaiting want request =>
      match a.settled.find? fun s ↦ s.1 = request with
      | some s => resume a o.now want s.2
      | none => (a, some (.awaiting want request))
  | .sent .lookup _ => (a, none)
  | .sent (.banks cached known) _ => (answerBanks a o.now cached known o.banks, none)

/-! ## What is given out -/

variable {o : Told} {a a' : Adapter} {t t' : Task} {now : Timestamp} {want : Want}

/-- When a token is given up: a minute before it expires. -/
def Login.goodUntil (l : Login) : Timestamp := l.answeredAt + max (l.lifetime - TOKEN_EXPIRY_SKEW_MS) 0

/-- Some sign-in brought the token. -/
def Brought (a : Adapter) (value : String) : Prop := ∃ l ∈ a.logins, l.value = value

/-- What a call remembers of the cache is true. -/
def Want.Fits (a : Adapter) : Want → Prop
  | .lookup => True
  | .banks (some cached) _ => cached.banks ∈ a.fetched
  | .banks none known => known = 0

/-- What a call under way relies on. -/
def Task.Fits (a : Adapter) : Task → Prop
  | .lookUp | .listBanks => True
  | .login want _ | .awaiting want _ | .sent want _ => want.Fits a
  | .settle want _ result => want.Fits a ∧ ∀ value, result = .ok value → Brought a value

/-- All that was given out came from the provider. -/
structure Sound (a : Adapter) : Prop where
  token : ∀ t, a.token = some t → ∃ l ∈ a.logins, l.value = t.value ∧ t.expiresAt = l.goodUntil
  settled : ∀ s ∈ a.settled, ∀ value, s.2 = .ok value → Brought a value
  handed : ∀ h ∈ a.handed, ∃ l ∈ a.logins, l.value = h.value ∧ (h.fromCache = true → h.readAt < l.goodUntil)
  cache : ∀ c, a.bankCache = some c → c.banks ∈ a.fetched
  unfetched : a.bankCache = none → a.fetched = []
  listed : ∀ l ∈ a.listed, l ∈ a.fetched
  unlisted : ∀ n ∈ a.unlisted, n = 0

/-- Nothing is forgotten of what the provider said. -/
structure Grows (a a' : Adapter) : Prop where
  logins : a.logins ⊆ a'.logins
  fetched : a.fetched ⊆ a'.fetched

theorem Grows.refl (a : Adapter) : Grows a a := ⟨fun _ ↦ id, fun _ ↦ id⟩

theorem Want.Fits.mono (h : want.Fits a) (hgrows : Grows a a') : want.Fits a' := by
  cases want with
  | lookup => trivial
  | banks cached known =>
      cases cached with
      | none => exact h
      | some cached => exact hgrows.fetched h

theorem Brought.mono {value : String} (h : Brought a value) (hgrows : Grows a a') : Brought a' value := by
  obtain ⟨l, hl, hvalue⟩ := h
  exact ⟨l, hgrows.logins hl, hvalue⟩

theorem Task.Fits.mono (h : t.Fits a) (hgrows : Grows a a') : t.Fits a' := by
  cases t with
  | lookUp | listBanks => trivial
  | login | awaiting | sent => exact Want.Fits.mono h hgrows
  | settle => exact ⟨h.1.mono hgrows, fun value hvalue ↦ (h.2 value hvalue).mono hgrows⟩

/-- A step that keeps the facts: those of the state, and that of the call that goes on. -/
structure Keeps (a : Adapter) (after : Adapter × Option Task) : Prop where
  sound : Sound after.1
  grows : Grows a after.1
  next : ∀ t', after.2 = some t' → t'.Fits after.1

theorem Sound.hand (h : Sound a) {value : String} {fromCache : Bool} (hwant : want.Fits a)
    (hlogin : ∃ l ∈ a.logins, l.value = value ∧ (fromCache = true → now < l.goodUntil)) :
    Keeps a (hand a now want value fromCache) where
  sound := { h with
    handed := by
      intro x hx
      rcases List.mem_append.mp hx with hx | hx
      · exact h.handed x hx
      · rw [List.mem_singleton.mp hx]
        exact hlogin }
  grows := ⟨fun _ ↦ id, fun _ ↦ id⟩
  next := by
    rintro t' ⟨⟩
    exact hwant.mono ⟨fun _ ↦ id, fun _ ↦ id⟩

theorem Sound.fail (h : Sound a) (hwant : want.Fits a) : Keeps a (fail a want, none) := by
  refine ⟨?_, ?_, fun t' ht' ↦ by cases ht'⟩
  · unfold Monnify.fail
    split
    · exact h
    · refine { h with listed := fun l hl ↦ ?_ }
      rcases List.mem_append.mp hl with hl | hl
      · exact h.listed l hl
      · rw [List.mem_singleton.mp hl]
        exact hwant
    · refine { h with unlisted := fun n hn ↦ ?_ }
      rcases List.mem_append.mp hn with hn | hn
      · exact h.unlisted n hn
      · rw [List.mem_singleton.mp hn]
        exact hwant
  · unfold Monnify.fail
    split
    · exact .refl a
    · exact ⟨fun _ ↦ id, fun _ ↦ id⟩
    · exact ⟨fun _ ↦ id, fun _ ↦ id⟩

theorem Sound.authenticate (h : Sound a) (hwant : want.Fits a) : Keeps a (authenticate a now want) := by
  unfold Monnify.authenticate
  split
  · split
    · next cached hcached =>
        obtain ⟨htoken, hlive⟩ := Option.filter_eq_some_iff.mp hcached
        obtain ⟨l, hl, hvalue, huntil⟩ := h.token cached htoken
        refine h.hand hwant ⟨l, hl, hvalue, fun _ ↦ ?_⟩
        rw [← huntil]
        exact of_decide_eq_true hlive
    · split
      · refine ⟨h, .refl a, ?_⟩
        rintro t' ⟨⟩
        exact hwant
      · refine ⟨{ h with }, ⟨fun _ ↦ id, fun _ ↦ id⟩, ?_⟩
        rintro t' ⟨⟩
        exact hwant.mono ⟨fun _ ↦ id, fun _ ↦ id⟩
  · exact h.fail hwant

theorem Sound.answerLogin (h : Sound a) (hwant : want.Fits a) (request : Nat) (answer : LoginAnswer) :
    Keeps a (answerLogin a now want request answer) := by
  unfold Monnify.answerLogin
  split
  · next value lifetime _ =>
      have hgrows : a.logins ⊆ a.logins ++ [⟨value, lifetime, now⟩] := List.subset_append_left _ _
      have hlast : (⟨value, lifetime, now⟩ : Login) ∈ a.logins ++ [⟨value, lifetime, now⟩] :=
        List.mem_append_right _ (List.mem_singleton_self _)
      refine ⟨?_, ⟨hgrows, fun _ ↦ id⟩, ?_⟩
      · refine { h with token := ?_, settled := ?_, handed := ?_ }
        · rintro t ⟨⟩
          exact ⟨_, hlast, rfl, rfl⟩
        · intro s hs value' hvalue
          exact (h.settled s hs value' hvalue).mono ⟨hgrows, fun _ ↦ id⟩
        · intro x hx
          obtain ⟨l, hl, hfacts⟩ := h.handed x hx
          exact ⟨l, hgrows hl, hfacts⟩
      · rintro t' ⟨⟩
        refine ⟨hwant.mono ⟨hgrows, fun _ ↦ id⟩, ?_⟩
        rintro value' ⟨⟩
        exact ⟨_, hlast, rfl⟩
  · refine ⟨h, .refl a, ?_⟩
    rintro t' ⟨⟩
    exact ⟨hwant, fun value' hvalue ↦ by cases hvalue⟩

theorem Sound.resume (h : Sound a) (hwant : want.Fits a) {result : Except ServiceError String}
    (hresult : ∀ value, result = .ok value → Brought a value) : Keeps a (resume a now want result) := by
  cases result with
  | ok value =>
      obtain ⟨l, hl, hvalue⟩ := hresult value rfl
      exact h.hand hwant ⟨l, hl, hvalue, fun hcache ↦ by cases hcache⟩
  | error e => exact h.fail hwant

theorem Sound.answerBanks (h : Sound a) {cached : Option BankCache} {known : Nat}
    (hwant : (Want.banks cached known).Fits a) (answer : Answer (List MonnifyBankBody)) :
    Keeps a (answerBanks a now cached known answer, none) := by
  unfold Monnify.answerBanks
  split
  · exact h.fail hwant
  · next entities _ =>
      split
      · next cached' hcached =>
          obtain ⟨rfl, -⟩ := Option.filter_eq_some_iff.mp hcached
          exact h.fail hwant
      · have hgrows : a.fetched ⊆ a.fetched ++ [banksOf entities] := List.subset_append_left _ _
        have hlast : banksOf entities ∈ a.fetched ++ [banksOf entities] :=
          List.mem_append_right _ (List.mem_singleton_self _)
        refine ⟨?_, ⟨fun _ ↦ id, hgrows⟩, fun t' ht' ↦ by cases ht'⟩
        refine { h with cache := ?_, unfetched := ?_, listed := ?_ }
        · rintro c ⟨⟩
          exact hlast
        · intro hnone
          cases hnone
        · intro l hl
          rcases List.mem_append.mp hl with hl | hl
          · exact hgrows (h.listed l hl)
          · rw [List.mem_singleton.mp hl]
            exact hlast

/-- Every turn keeps the facts. -/
theorem Sound.exec (h : Sound a) (ht : t.Fits a) : Keeps a (exec o a t) := by
  cases t with
  | lookUp => exact h.authenticate trivial
  | listBanks =>
      unfold Monnify.exec
      dsimp only
      split
      · next cached hcached =>
          obtain ⟨hcached, -⟩ := Option.filter_eq_some_iff.mp hcached
          exact h.fail (show Want.Fits a (.banks (some cached) 0) from h.cache cached hcached)
      · refine h.authenticate ?_
        cases hcache : a.bankCache with
        | none =>
            show a.fetched.length = 0
            rw [h.unfetched hcache]
            rfl
        | some cached => exact h.cache cached hcache
  | login want request => exact h.answerLogin ht request o.login
  | settle want request result =>
      have hsettled : Sound { a with tokenRequest := none, settled := a.settled ++ [(request, result)] } := by
        refine { h with settled := fun s hs value hvalue ↦ ?_ }
        rcases List.mem_append.mp hs with hs | hs
        · exact h.settled s hs value hvalue
        · rw [List.mem_singleton.mp hs] at hvalue
          exact ht.2 value hvalue
      obtain ⟨hsound, hgrows, hnext⟩ : Keeps _ (Monnify.resume _ o.now want result) :=
        hsettled.resume (ht.1.mono ⟨fun _ ↦ id, fun _ ↦ id⟩) ht.2
      exact ⟨hsound, ⟨hgrows.logins, hgrows.fetched⟩, hnext⟩
  | awaiting want request =>
      unfold Monnify.exec
      dsimp only
      split
      · next s hs => exact h.resume ht (h.settled s (List.mem_of_find?_eq_some hs))
      · refine ⟨h, .refl a, ?_⟩
        rintro t' ⟨⟩
        exact ht
  | sent want token =>
      cases want with
      | lookup => exact ⟨h, .refl a, fun t' ht' ↦ by cases ht'⟩
      | banks cached known => exact h.answerBanks ht o.banks

/-! ## One sign-in at a time -/

variable {p q : Pool Adapter Task}

/-- The sign-in that a call carries out. -/
def flights : Tickets Adapter Task Nat where
  held
    | .login _ request | .settle _ request _ => some request
    | _ => none
  drawn a request := request < a.begun
  used a := a.settled.map (·.1)

/-- The promise that a call waits for. -/
def Task.promise : Task → Option Nat
  | .awaiting _ request => some request
  | _ => none

/-- The promise is settled, or somebody is about to settle it. -/
def Due (a : Adapter) (request : Nat) : Prop :=
  a.tokenRequest = some request ∨ ∃ s ∈ a.settled, s.1 = request

/-- The sign-in that is under way is the one that the adapter knows of, and all earlier ones are settled. -/
structure Single (p : Pool Adapter Task) : Prop where
  carried : p.threads.filterMap flights.held = p.shared.tokenRequest.toList
  counted : p.shared.begun = p.shared.settled.length + p.shared.tokenRequest.toList.length
  due : ∀ t ∈ p.threads, ∀ request, t.promise = some request → Due p.shared request

/-- What a turn does with the sign-ins. -/
inductive Turns (a : Adapter) (t : Task) (a' : Adapter) (t' : Option Task) : Prop
  /-- It carries none, and begins none; it may wait for the one that is under way. -/
  | idle (held : flights.held t = none) (next : t'.bind flights.held = none)
      (same : a'.tokenRequest = a.tokenRequest ∧ a'.begun = a.begun ∧ a'.settled = a.settled)
      (waits : ∀ request, t'.bind Task.promise = some request →
        a.tokenRequest = some request ∨ t.promise = some request)
  /-- It begins one, when none is under way. -/
  | begins (held : flights.held t = none) (free : a.tokenRequest = none)
      (next : t'.bind flights.held = some a.begun) (no_promise : t'.bind Task.promise = none)
      (now : a'.tokenRequest = some a.begun ∧ a'.begun = a.begun + 1 ∧ a'.settled = a.settled)
  /-- The one that it carries was answered. -/
  | answered (request : Nat) (held : flights.held t = some request)
      (next : t'.bind flights.held = some request) (no_promise : t'.bind Task.promise = none)
      (same : a'.tokenRequest = a.tokenRequest ∧ a'.begun = a.begun ∧ a'.settled = a.settled)
  /-- The one that it carries is settled. -/
  | settles (request : Nat) (result : Except ServiceError String) (held : flights.held t = some request)
      (next : t'.bind flights.held = none) (no_promise : t'.bind Task.promise = none)
      (now : a'.tokenRequest = none ∧ a'.begun = a.begun ∧ a'.settled = a.settled ++ [(request, result)])

/-- A call that only reads the promise, the counter and the settled promises. -/
def Untouched (a a' : Adapter) : Prop :=
  a'.tokenRequest = a.tokenRequest ∧ a'.begun = a.begun ∧ a'.settled = a.settled

theorem untouched_fail (a : Adapter) (want : Want) : Untouched a (fail a want) := by
  unfold Monnify.fail
  split
  · exact ⟨rfl, rfl, rfl⟩
  · exact ⟨rfl, rfl, rfl⟩
  · exact ⟨rfl, rfl, rfl⟩

theorem turns_authenticate (now : Timestamp) (want : Want) (ht : flights.held t = none) :
    Turns a t (authenticate a now want).1 (authenticate a now want).2 := by
  unfold Monnify.authenticate
  split
  · split
    · exact .idle ht rfl ⟨rfl, rfl, rfl⟩ fun request hrequest ↦ by cases hrequest
    · split
      · next request hrequest =>
          refine .idle ht rfl ⟨rfl, rfl, rfl⟩ ?_
          rintro request' ⟨⟩
          exact .inl hrequest
      · next hfree => exact .begins ht hfree rfl rfl ⟨rfl, rfl, rfl⟩
  · exact .idle ht rfl (untouched_fail a want) fun request hrequest ↦ by cases hrequest

theorem turns_exec (o : Told) (a : Adapter) (t : Task) : Turns a t (exec o a t).1 (exec o a t).2 := by
  cases t with
  | lookUp => exact turns_authenticate o.now _ rfl
  | listBanks =>
      unfold Monnify.exec
      dsimp only
      split
      · exact .idle rfl rfl ⟨rfl, rfl, rfl⟩ fun request hrequest ↦ by cases hrequest
      · exact turns_authenticate o.now _ rfl
  | login want request =>
      show Turns a _ (answerLogin a o.now want request o.login).1 (answerLogin a o.now want request o.login).2
      unfold Monnify.answerLogin
      split
      · exact .answered request rfl rfl rfl ⟨rfl, rfl, rfl⟩
      · exact .answered request rfl rfl rfl ⟨rfl, rfl, rfl⟩
  | settle want request result =>
      cases result with
      | ok value => exact .settles request (.ok value) rfl rfl rfl ⟨rfl, rfl, rfl⟩
      | error e =>
          obtain ⟨htoken, hbegun, hsettled⟩ := untouched_fail
            { a with tokenRequest := none, settled := a.settled ++ [(request, .error e)] } want
          exact .settles request (.error e) rfl rfl rfl ⟨htoken, hbegun, hsettled⟩
  | awaiting want request =>
      unfold Monnify.exec
      dsimp only
      split
      · next s _ =>
          obtain ⟨number, result⟩ := s
          cases result with
          | ok value => exact .idle rfl rfl ⟨rfl, rfl, rfl⟩ fun request hrequest ↦ by cases hrequest
          | error e =>
              exact .idle rfl rfl (untouched_fail a want) fun request hrequest ↦ by cases hrequest
      · refine .idle rfl rfl ⟨rfl, rfl, rfl⟩ ?_
        rintro request' ⟨⟩
        exact .inr rfl
  | sent want token =>
      cases want with
      | lookup => exact .idle rfl rfl ⟨rfl, rfl, rfl⟩ fun request hrequest ↦ by cases hrequest
      | banks cached known =>
          refine .idle rfl rfl ?_ fun request hrequest ↦ by cases hrequest
          show Untouched a (answerBanks a o.now cached known o.banks)
          unfold Monnify.answerBanks
          split
          · exact untouched_fail a _
          · split
            · exact ⟨rfl, rfl, rfl⟩
            · exact ⟨rfl, rfl, rfl⟩

/-- The move is one of the event loop: a call arrives, or one takes its turn; none is lost. -/
def Turn (_ : Pool Adapter Task) : Move Task Told → Prop
  | .spawn t => t = .lookUp ∨ t = .listBanks
  | .run _ _ => True
  | .stop _ => False

/-- A list with the element of an option at most is known from its elements. -/
theorem eq_toList_of_perm {o : Option Nat} {l : List Nat} (h : o.toList.Perm l) : l = o.toList := by
  cases o with
  | none => exact h.nil_eq.symm
  | some n => exact List.perm_singleton.mp h.symm

/-- A turn leaves a single sign-in, when `others` are those that the other calls carry. -/
theorem Turns.single {t' : Option Task} {others : List Nat} (h : Turns a t a' t')
    (hcounted : a.begun = a.settled.length + a.tokenRequest.toList.length)
    (hperm : a.tokenRequest.toList.Perm (others ++ (flights.held t).toList)) :
    others ++ (t'.bind flights.held).toList = a'.tokenRequest.toList ∧
      a'.begun = a'.settled.length + a'.tokenRequest.toList.length ∧
      (∀ request, Due a request → Due a' request) ∧
      ∀ request, t'.bind Task.promise = some request →
        a'.tokenRequest = some request ∨ t.promise = some request := by
  have hbefore := eq_toList_of_perm hperm
  cases h with
  | idle held next same waits =>
      obtain ⟨htoken, hbegun, hsettled⟩ := same
      rw [held, Option.toList_none, List.append_nil] at hbefore
      refine ⟨?_, ?_, ?_, ?_⟩
      · rw [next, Option.toList_none, List.append_nil, htoken, hbefore]
      · rw [hbegun, hsettled, htoken, hcounted]
      · intro request hdue
        rwa [Due, htoken, hsettled]
      · rwa [htoken]
  | begins held free next no_promise now =>
      obtain ⟨htoken, hbegun, hsettled⟩ := now
      rw [held, free, Option.toList_none, List.append_nil] at hbefore
      rw [free, Option.toList_none, List.length_nil, Nat.add_zero] at hcounted
      refine ⟨?_, ?_, ?_, ?_⟩
      · rw [next, htoken, hbefore, List.nil_append]
      · rw [hbegun, hsettled, htoken, hcounted]
        rfl
      · rintro request (hrequest | hdone)
        · rw [free] at hrequest
          cases hrequest
        · exact .inr (hsettled ▸ hdone)
      · intro request hrequest
        rw [no_promise] at hrequest
        cases hrequest
  | answered request held next no_promise same =>
      obtain ⟨htoken, hbegun, hsettled⟩ := same
      rw [held] at hbefore
      refine ⟨?_, ?_, ?_, ?_⟩
      · rw [next, htoken, hbefore]
      · rw [hbegun, hsettled, htoken, hcounted]
      · intro request hdue
        rwa [Due, htoken, hsettled]
      · intro request hrequest
        rw [no_promise] at hrequest
        cases hrequest
  | settles request result held next no_promise now =>
      obtain ⟨htoken, hbegun, hsettled⟩ := now
      rw [held, Option.toList_some] at hbefore
      -- No other call carries one beside it.
      have honly : others = [] ∧ a.tokenRequest = some request := by
        cases hrequest : a.tokenRequest with
        | none => simp [hrequest] at hbefore
        | some n =>
            rw [hrequest, Option.toList_some, List.append_eq_singleton_iff] at hbefore
            rcases hbefore with ⟨hnil, hn⟩ | ⟨-, hnil⟩
            · cases hn
              exact ⟨hnil, rfl⟩
            · cases hnil
      refine ⟨?_, ?_, ?_, ?_⟩
      · rw [next, htoken, honly.1]
        rfl
      · rw [hbegun, hsettled, htoken, hcounted, honly.2, List.length_append]
        rfl
      · rintro request' (hrequest | ⟨s, hs, hnumber⟩)
        · rw [honly.2] at hrequest
          cases hrequest
          exact .inr ⟨(request, result), by simp [hsettled], rfl⟩
        · exact .inr ⟨s, by simp [hsettled, hs], hnumber⟩
      · intro request' hrequest
        rw [no_promise] at hrequest
        cases hrequest

/-- One turn keeps a single sign-in. -/
theorem Single.advance (h : Single p) (m : Move Task Told) (hm : Turn p m) : Single (p.advance exec m) := by
  rcases m with t | ⟨i, o⟩ | i
  · have hnone : flights.held t = none ∧ t.promise = none := by
      rcases hm with rfl | rfl
      · exact ⟨rfl, rfl⟩
      · exact ⟨rfl, rfl⟩
    refine ⟨?_, h.counted, fun u hu request hrequest ↦ ?_⟩
    · simp [Pool.advance, hnone.1, h.carried]
    · rcases List.mem_append.mp hu with hu | hu
      · exact h.due u hu request hrequest
      · rw [List.mem_singleton.mp hu, hnone.2] at hrequest
        cases hrequest
  · cases hi : p.threads[i]? with
    | none =>
        rw [Pool.advance, hi]
        exact h
    | some t =>
        have hstate : p.advance exec (.run i o) =
            ⟨(exec o p.shared t).1, p.threads.eraseIdx i ++ (exec o p.shared t).2.toList⟩ := by
          rw [Pool.advance, hi]
        have hperm := Tickets.perm_filterMap (T := flights) hi
        rw [h.carried] at hperm
        obtain ⟨hcarried, hcounted, hdue, hwaits⟩ := (turns_exec o p.shared t).single h.counted hperm
        rw [hstate]
        refine ⟨?_, hcounted, fun u hu request hrequest ↦ ?_⟩
        · rw [Tickets.filterMap_append_toList]
          exact hcarried
        · rcases List.mem_append.mp hu with hu | hu
          · exact hdue request (h.due u (List.mem_of_mem_eraseIdx hu) request hrequest)
          · have hnext := Option.mem_toList.mp hu
            rcases hwaits request (by rw [hnext]; exact hrequest) with hnow | hbefore
            · exact .inl hnow
            · exact hdue request (h.due t (List.mem_of_getElem? hi) request hbefore)
  · exact hm.elim

/-- An adapter that has not been used. -/
def Adapter.fresh (configured : Bool) : Adapter where
  configured := configured
  token := none
  tokenRequest := none
  bankCache := none
  begun := 0
  settled := []
  logins := []
  handed := []
  fetched := []
  listed := []
  unlisted := []

/-- **Calls share one sign-in.**  However calls overlap, no two requests to sign in are under way at once;
the one that the adapter remembers is always one that a call is about to settle, so no failure is
remembered; whoever waits for a sign-in waits for that one or for one that is settled; and every token that
a call is given was brought by a sign-in, and has a minute left when it comes from the cache.  Every list of
banks that a caller is given was fetched, and one who is given none asked before any was. -/
theorem calls_share_sign_in {configured : Bool} (h : Reaches (Pool.advance exec) Turn
      ⟨.fresh configured, []⟩ q) :
    (q.threads.filterMap flights.held = q.shared.tokenRequest.toList ∧
        q.shared.begun = q.shared.settled.length + q.shared.tokenRequest.toList.length) ∧
      (∀ want request, .awaiting want request ∈ q.threads →
        q.shared.tokenRequest = some request ∨ ∃ s ∈ q.shared.settled, s.1 = request) ∧
      (∀ x ∈ q.shared.handed, ∃ l ∈ q.shared.logins, l.value = x.value ∧
        (x.fromCache = true → x.readAt < l.answeredAt + max (l.lifetime - 60000) 0)) ∧
      (∀ banks ∈ q.shared.listed, banks ∈ q.shared.fetched) ∧ ∀ known ∈ q.shared.unlisted, known = 0 := by
  have hsingle : Single q := by
    refine h.invariant ⟨rfl, rfl, fun t ht ↦ by cases ht⟩ fun p m hp hm ↦ hp.advance m hm
  have hholds : Pool.Holds Sound (fun a t ↦ t.Fits a) q := by
    have hadmitted : Reaches (Pool.advance exec) (Pool.Admitted (fun _ t ↦ t = .lookUp ∨ t = .listBanks)
        fun _ _ _ ↦ True) ⟨.fresh configured, []⟩ q := by
      refine h.mono fun p m hm ↦ ?_
      cases m with
      | spawn t => exact hm
      | run i o => exact fun _ _ ↦ trivial
      | stop i => trivial
    refine Pool.invariant_of_guarantees hadmitted ⟨?_, fun t ht ↦ by cases ht⟩ ?_ ?_
    · constructor <;> simp [Adapter.fresh]
    · rintro a t - (rfl | rfl)
      · trivial
      · trivial
    · intro o a t ha ht _
      obtain ⟨hsound, hgrows, hnext⟩ := ha.exec ht
      exact ⟨hsound, hnext, fun u hu ↦ hu.mono hgrows⟩
  have hsound := hholds.shared
  exact ⟨⟨hsingle.carried, hsingle.counted⟩, fun want request hmem ↦ hsingle.due _ hmem request rfl,
    hsound.handed, hsound.listed, hsound.unlisted⟩

/-! ### Two calls at once -/

section Sample

/-- The provider signs in for an hour, and has one bank. -/
def sampleTold (now : Timestamp) : Told where
  now := now
  login := .answered (some "token") (some 3600)
  banks := .answered (some true) (some [⟨some "044", some "Access Bank", none⟩])

/-- Two calls find no token; the second one waits for the sign-in of the first. -/
def sampleTurns : List (Move Task Told) :=
  [.spawn .lookUp, .run 0 (sampleTold 1000), .spawn .listBanks, .run 1 (sampleTold 1001),
    .run 0 (sampleTold 1500), .run 1 (sampleTold 1500), .run 0 (sampleTold 1500), .run 1 (sampleTold 1700)]

def sampleAdapter : Pool Adapter Task := sampleTurns.foldl (Pool.advance exec) ⟨.fresh true, []⟩

end Sample

theorem calls_share_sign_in_sample :
    sampleAdapter.shared.begun = 1 ∧ sampleAdapter.shared.handed.length = 2 ∧
      ∀ x ∈ sampleAdapter.shared.handed, ∃ l ∈ sampleAdapter.shared.logins, l.value = x.value ∧
        (x.fromCache = true → x.readAt < l.answeredAt + max (l.lifetime - 60000) 0) := by
  have hrun : Reaches (Pool.advance exec) Turn ⟨.fresh true, []⟩ sampleAdapter := by
    refine reaches_of_allAdmitted ?_
    simp [sampleTurns, AllAdmitted, Turn]
  exact ⟨by decide +kernel, by decide +kernel, (calls_share_sign_in hrun).2.2.1⟩

end AjoCloud.Kyc.Monnify
