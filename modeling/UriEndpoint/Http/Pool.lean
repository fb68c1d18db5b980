import UriEndpoint.Http.Fetch

/-!
# Ownership of clients

Several fetchers may share a client, and several endpoints a fetcher. A fetcher that was given its
client leaves it open; a fetcher that made its own client closes it when the fetcher is closed, if
it is not closed yet. An endpoint that is closed or left closes the fetcher that it uses. What a
client is, and what requests and closing make of it, is up to the library that clients come from.
-/

namespace UriEndpoint

/-- Clients of a library: whether one is closed, and what becomes of it. -/
structure ClientKind where
  Client : Type
  isClosed : Client → Bool
  /-- A client once it was told to close. -/
  close : Client → Client
  /-- A client once it requested a URI and the request ended as given. -/
  requested : Client → Text → Except FetchFault FetchResult → Client

/-- What fetchers rely on: a client is closed once it was told to close, and a request does not
change whether it is. -/
structure ClientKind.Lawful (kind : ClientKind) : Prop where
  isClosed_close : ∀ client, kind.isClosed (kind.close client) = true
  isClosed_requested : ∀ client uri answer,
    kind.isClosed (kind.requested client uri answer) = kind.isClosed client

/-- The life of a client: its first request opens it, and once closed it stays so. -/
inductive ClientLife where
  | unopened
  | opened
  | closed
deriving DecidableEq, Repr

namespace ClientLife

/-- A client once it requested something. -/
def requested : ClientLife → ClientLife
  | closed => closed
  | _ => opened

/-- Clients of which only their lives are known. -/
def kind : ClientKind where
  Client := ClientLife
  isClosed life := life == closed
  close _ := closed
  requested life _ _ := life.requested

theorem lawful : kind.Lawful where
  isClosed_close _ := rfl
  isClosed_requested life _ _ := by cases life <;> rfl

end ClientLife

/-- A fetcher: the client that it uses, by position, and whether it made that client. -/
structure ClientUse where
  client : Nat
  owns : Bool
deriving DecidableEq, Repr

/-- Clients, the fetchers that use them and the endpoints that use fetchers. -/
structure ClientPool (kind : ClientKind) where
  clients : List kind.Client := []
  fetchers : List ClientUse := []
  /-- The fetcher of each endpoint, by position. -/
  endpoints : List Nat := []
  /-- The clients that were told to close, in order. -/
  closings : List Nat := []

/-- A step in the life of a pool; fetchers and endpoints are named by position. -/
inductive PoolStep where
  /-- A fetcher requests a URI; the request ends with an answer or a fault. -/
  | fetch (fetcher : Nat) (uri : Text) (answer : Except FetchFault FetchResult)
  | close (fetcher : Nat)
  | closeEndpoint (endpoint : Nat)
  /-- An endpoint that was entered is left, by a fault or without. -/
  | leaveEndpoint (endpoint : Nat) (byFault : Bool)

namespace ClientPool

variable {kind : ClientKind}

/-- No clients, no fetchers and no endpoints. -/
def empty : ClientPool kind := {}

/-! ## Setting up -/

/-- A caller brings a client. -/
def bring (pool : ClientPool kind) (client : kind.Client) : ClientPool kind :=
  { pool with clients := pool.clients ++ [client] }

/-- A fetcher is given a client that is there. -/
def lend (pool : ClientPool kind) (client : Nat) : ClientPool kind :=
  { pool with fetchers := pool.fetchers ++ [⟨client, false⟩] }

/-- A fetcher makes its own client. -/
def openOwned (pool : ClientPool kind) (client : kind.Client) : ClientPool kind :=
  { pool with
    clients := pool.clients ++ [client]
    fetchers := pool.fetchers ++ [⟨pool.clients.length, true⟩] }

/-- An endpoint is given a fetcher. -/
def serve (pool : ClientPool kind) (fetcher : Nat) : ClientPool kind :=
  { pool with endpoints := pool.endpoints ++ [fetcher] }

/-! ## Running -/

/-- Whether a client is closed. -/
def isClosedAt? (pool : ClientPool kind) (client : Nat) : Option Bool :=
  (pool.clients[client]?).map kind.isClosed

/-- Whether a fetcher's client is closed. -/
def isClosed? (pool : ClientPool kind) (fetcher : Nat) : Option Bool :=
  (pool.fetchers[fetcher]?).bind fun user => pool.isClosedAt? user.client

/-- The client that closing a fetcher closes: its own, as long as that is not closed. -/
def closing? (pool : ClientPool kind) (fetcher : Nat) : Option Nat :=
  match pool.fetchers[fetcher]? with
  | some user =>
      if user.owns ∧ pool.isClosedAt? user.client = some false then some user.client else none
  | none => none

/-- Tells a client to close. -/
def tellToClose (pool : ClientPool kind) (client : Nat) : ClientPool kind :=
  { pool with
    clients := pool.clients.modify client kind.close
    closings := pool.closings ++ [client] }

/-- Closes a fetcher. -/
def close (pool : ClientPool kind) (fetcher : Nat) : ClientPool kind :=
  match pool.closing? fetcher with
  | some client => pool.tellToClose client
  | none => pool

/-- Closes the fetcher of an endpoint. -/
def closeEndpoint (pool : ClientPool kind) (endpoint : Nat) : ClientPool kind :=
  (pool.endpoints[endpoint]?).elim pool pool.close

/-- Requests a URI through the client of a fetcher. -/
def fetch (pool : ClientPool kind) (fetcher : Nat) (uri : Text)
    (answer : Except FetchFault FetchResult) : ClientPool kind :=
  match pool.fetchers[fetcher]? with
  | some user =>
      { pool with
        clients := pool.clients.modify user.client fun client =>
          kind.requested client uri answer }
  | none => pool

/-- Takes one step. -/
def step (pool : ClientPool kind) : PoolStep → ClientPool kind
  | .fetch fetcher uri answer => pool.fetch fetcher uri answer
  | .close fetcher => pool.close fetcher
  | .closeEndpoint endpoint => pool.closeEndpoint endpoint
  | .leaveEndpoint endpoint _ => pool.closeEndpoint endpoint

/-- Takes steps one after another. -/
def run (pool : ClientPool kind) (steps : List PoolStep) : ClientPool kind :=
  steps.foldl step pool

end ClientPool

end UriEndpoint
