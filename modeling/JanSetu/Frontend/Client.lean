import JanSetu.Library.SingleFlight
import JanSetu.Library.Transition

/-!
# The API client of the browser

`request`, `restoreSession` and `refreshAccessToken` of `api/client.ts`.  An
event is the start of a call or the continuation that runs when what a call
waits for has settled; a continuation goes on to its next `await`.  What the
network and the server answer is part of the event.
-/

namespace JanSetu.Frontend

open SingleFlight (Promise Slot)

/-- `Init` is the rest of a `RequestInit`, which `fetch` is handed as it is. -/
structure RequestOptions (Init : Type*) where
  auth : Bool
  isRetry : Bool
  init : Init
deriving DecidableEq

structure ApiError where
  status : Nat
  message : String
deriving DecidableEq

/-- What the promise of a call ends with. -/
inductive Outcome (Body : Type*) where
  | resolved (body : Body)
  /-- `undefined`, for a response without content. -/
  | noContent
  | apiError (error : ApiError)
  /-- The rejection of `response.json()`. -/
  | syntaxError
  | restored (token : Option String)
deriving DecidableEq

/-- What a call waits for. -/
inductive CallStage (Body : Type*) where
  | fetching
  | refreshing (refresh : Nat)
  | readingError (status : Nat) (statusText : String)
  | reading
  | settled (outcome : Outcome Body)
deriving DecidableEq

inductive Asked (Init : Type*) where
  | request (path : String) (options : RequestOptions Init)
  | restoreSession
deriving DecidableEq

structure Call (Init Body : Type*) where
  asked : Asked Init
  stage : CallStage Body
deriving DecidableEq

inductive RefreshStage where
  | fetching
  | reading
deriving DecidableEq

/-- A use of `fetch`, by a call or for a refresh. -/
inductive Sent (Init : Type*) where
  | own (id : Nat) (url : String) (init : Init) (authorization : Option String)
  | refresh (id : Nat) (url : String)
deriving DecidableEq

inductive FetchOutcome where
  | rejected
  | response (status : Nat) (statusText : String)
deriving DecidableEq

/-- The body of an error; a field is `none` when it is missing or no string. -/
inductive ErrorBody where
  | notJson
  | json (detail message : Option String)
deriving DecidableEq

/-- The body of a refresh, an object with an `access_token` or without. -/
inductive RefreshBody where
  | notJson
  | null
  | object (accessToken : Option String)
deriving DecidableEq

/-- `log` lists the uses of `fetch`, the last one first; no step reads it. -/
structure Client (Init Body : Type*) where
  memoryToken : Option String
  pathname : String
  refresh : Slot RefreshStage (Option String)
  calls : List (Call Init Body)
  log : List (Sent Init)
deriving DecidableEq

inductive Event (Init Body : Type*) where
  | request (path : String) (options : RequestOptions Init)
  | restoreSession
  | fetched (id : Nat) (outcome : FetchOutcome)
  | refreshed (id : Nat)
  | readError (id : Nat) (body : ErrorBody)
  | read (id : Nat) (body : Option Body)
  | refreshFetched (id : Nat) (outcome : FetchOutcome)
  | refreshRead (id : Nat) (body : RefreshBody)
  /-- The application's own uses of `setAccessToken`. -/
  | setAccessToken (token : Option String)
  | navigate (pathname : String)

def ok (status : Nat) : Bool :=
  200 ≤ status && status ≤ 299

/-- Whether a token counts as one: `null`, `undefined` and `""` do not. -/
def truthy : Option String → Bool
  | some token => token ≠ ""
  | none => false

def readErrorMessage (status : Nat) (statusText : String) :
    ErrorBody → String
  | .json (some detail) _ => detail
  | .json none (some message) => message
  | .json none none | .notJson =>
      if statusText ≠ "" then statusText
      else "Request failed with status " ++ toString status

def unreachable : ApiError :=
  { status := 0
    message :=
      "We couldn’t reach Jan Setu. Check your connection and try again." }

def sessionExpired : ApiError :=
  { status := 401, message := "Session expired. Please log in again." }

namespace Client

variable {Init Body : Type*}

def setAccessToken (client : Client Init Body) (token : Option String) :
    Client Init Body :=
  { client with memoryToken := token }

/-- The `Authorization` header of `buildHeaders`. -/
def authorization (client : Client Init Body) (includeAuth : Bool) :
    Option String :=
  if includeAuth && truthy client.memoryToken then
    client.memoryToken.map ("Bearer " ++ ·)
  else none

def setStage (client : Client Init Body) (id : Nat) (asked : Asked Init)
    (stage : CallStage Body) : Client Init Body :=
  { client with
    calls := client.calls.set id { asked := asked, stage := stage } }

def redirectToLogin (client : Client Init Body) : Client Init Body :=
  { client.setAccessToken none with pathname := "/login" }

section

variable (apiBase : String)

/-- The promise to wait for and the state once `fetch` was used, if it was. -/
def refreshAccessToken (client : Client Init Body) :
    Nat × Client Init Body :=
  let (id, slot) := client.refresh.join .fetching
  let sent :=
    match client.refresh.inFlight with
    | some _ => client.log
    | none => .refresh id (apiBase ++ "/auth/refresh") :: client.log
  (id, { client with refresh := slot, log := sent })

/-- The use of `fetch` at the start of `request`. -/
def fetchOwn (client : Client Init Body) (id : Nat) (path : String)
    (options : RequestOptions Init) : Client Init Body :=
  { client with
    log := .own id (apiBase ++ path) options.init
      (client.authorization options.auth) :: client.log }

def request (client : Client Init Body) (path : String)
    (options : RequestOptions Init) : Client Init Body :=
  let started := client.fetchOwn apiBase client.calls.length path options
  { started with
    calls := client.calls ++
      [{ asked := .request path options, stage := .fetching }] }

def restoreSession (client : Client Init Body) : Client Init Body :=
  let (refresh, joined) := client.refreshAccessToken apiBase
  { joined with
    calls := client.calls ++
      [{ asked := .restoreSession, stage := .refreshing refresh }] }

def afterFetch (client : Client Init Body) (id : Nat) (path : String)
    (options : RequestOptions Init) : FetchOutcome → Client Init Body
  | .rejected =>
      client.setStage id (.request path options)
        (.settled (.apiError unreachable))
  | .response status statusText =>
      if status = 401 && options.auth && !options.isRetry then
        let (refresh, joined) := client.refreshAccessToken apiBase
        joined.setStage id (.request path options) (.refreshing refresh)
      else if !ok status then
        client.setStage id (.request path options)
          (.readingError status statusText)
      else if status = 204 then
        client.setStage id (.request path options) (.settled .noContent)
      else
        client.setStage id (.request path options) .reading

/-- With a token the request is made again; its promise takes on that of the
second one, so that the call goes on under its own number. -/
def afterRefresh (client : Client Init Body) (id : Nat)
    (newToken : Option String) : Asked Init → Client Init Body
  | .restoreSession =>
      client.setStage id .restoreSession (.settled (.restored newToken))
  | .request path options =>
      if truthy newToken then
        let again := { options with isRetry := true }
        (client.fetchOwn apiBase id path again).setStage id
          (.request path again) .fetching
      else
        client.redirectToLogin.setStage id (.request path options)
          (.settled (.apiError sessionExpired))

/-- The continuations inside `refreshAccessToken`; its `finally` runs in the
one that ends it. -/
def afterRefreshFetch (client : Client Init Body) (id : Nat) :
    FetchOutcome → Client Init Body
  | .rejected => { client with refresh := client.refresh.settle id none }
  | .response status _ =>
      if ok status then
        { client with refresh := client.refresh.advance id .reading }
      else
        { client with refresh := client.refresh.settle id none }

def afterRefreshRead (client : Client Init Body) (id : Nat) :
    RefreshBody → Client Init Body
  | .notJson | .null =>
      { client with refresh := client.refresh.settle id none }
  | .object accessToken =>
      { client.setAccessToken accessToken with
        refresh := client.refresh.settle id accessToken }

def step (client : Client Init Body) :
    Event Init Body → Option (Client Init Body)
  | .request path options => some (client.request apiBase path options)
  | .restoreSession => some (client.restoreSession apiBase)
  | .fetched id outcome =>
      match client.calls[id]? with
      | some { asked := .request path options, stage := .fetching } =>
          some (client.afterFetch apiBase id path options outcome)
      | _ => none
  | .refreshed id =>
      match client.calls[id]? with
      | some { asked := asked, stage := .refreshing refresh } =>
          match client.refresh.promises[refresh]? with
          | some (.settled newToken) =>
              some (client.afterRefresh apiBase id newToken asked)
          | _ => none
      | _ => none
  | .readError id body =>
      match client.calls[id]? with
      | some { asked := asked, stage := .readingError status statusText } =>
          some
            (client.setStage id asked
              (.settled
                (.apiError
                  { status := status
                    message := readErrorMessage status statusText body })))
      | _ => none
  | .read id body =>
      match client.calls[id]? with
      | some { asked := asked, stage := .reading } =>
          match body with
          | some body =>
              some (client.setStage id asked (.settled (.resolved body)))
          | none => some (client.setStage id asked (.settled .syntaxError))
      | _ => none
  | .refreshFetched id outcome =>
      match client.refresh.promises[id]? with
      | some (.pending .fetching) => some (client.afterRefreshFetch id outcome)
      | _ => none
  | .refreshRead id body =>
      match client.refresh.promises[id]? with
      | some (.pending .reading) => some (client.afterRefreshRead id body)
      | _ => none
  | .setAccessToken token => some (client.setAccessToken token)
  | .navigate pathname => some { client with pathname := pathname }

/-- The page once it is loaded. -/
def loaded (pathname : String) : Client Init Body :=
  { memoryToken := none
    pathname := pathname
    refresh := Slot.empty
    calls := []
    log := [] }

def system : Transition.System (Client Init Body) (Event Init Body) :=
  { initial := fun client => ∃ pathname, client = loaded pathname
    step := step apiBase }

end

end Client

end JanSetu.Frontend
