import UriEndpoint.Http.Pool

/-! # Who closes a client

A step of a pool tells at most one client to close: the own client of the fetcher that it closes,
and only while that is not closed (`told?_eq_some_iff`). Where clients behave as fetchers rely on, a
client is therefore closed by the first step that closes its maker and by no other, however
endpoints share fetchers and fetchers share clients (`own_run`).
-/

namespace UriEndpoint.ClientPool

variable {kind : ClientKind} {pool : ClientPool kind} {fetcher client : Nat}

/-- A fetcher made a client. -/
def Owns (pool : ClientPool kind) (fetcher client : Nat) : Prop :=
  pool.fetchers[fetcher]? = some ⟨client, true⟩

instance : Decidable (pool.Owns fetcher client) :=
  inferInstanceAs (Decidable (pool.fetchers[fetcher]? = some ⟨client, true⟩))

/-! ## Pools as they are set up -/

/-- A pool as it is set up: callers bring clients, fetchers are given clients or make their own,
which are open, and endpoints are given fetchers, in any order and number. -/
inductive SetUp : ClientPool kind → Prop
  | empty : SetUp .empty
  | bring {before : ClientPool kind} (ready : SetUp before) (client : kind.Client) :
      SetUp (before.bring client)
  | lend {before : ClientPool kind} (ready : SetUp before) (client : Nat) :
      SetUp (before.lend client)
  | openOwned {before : ClientPool kind} (ready : SetUp before) {client : kind.Client}
      (unclosed : kind.isClosed client = false) : SetUp (before.openOwned client)
  | serve {before : ClientPool kind} (ready : SetUp before) (fetcher : Nat) :
      SetUp (before.serve fetcher)

/-- What setting up leaves: an own client has one maker and is open, and nothing was told to
close. -/
structure Fresh (pool : ClientPool kind) : Prop where
  own_alone : ∀ {fetcher other client}, pool.Owns fetcher client → pool.Owns other client →
    other = fetcher
  own_open : ∀ {fetcher client}, pool.Owns fetcher client → pool.isClosedAt? client = some false
  untold : pool.closings = []

/-- Only clients in the pool are open or closed. -/
theorem lt_of_isClosedAt? {closed : Bool} (status : pool.isClosedAt? client = some closed) :
    client < pool.clients.length := by
  obtain ⟨_, found, _⟩ := Option.map_eq_some_iff.mp status
  exact (List.getElem?_eq_some_iff.mp found).1

/-- Clients that come later leave the others as they are. -/
theorem isClosedAt?_of_append {other : ClientPool kind} {more : List kind.Client} {closed : Bool}
    (grown : other.clients = pool.clients ++ more)
    (status : pool.isClosedAt? client = some closed) :
    other.isClosedAt? client = some closed := by
  rw [isClosedAt?, grown, List.getElem?_append_left (lt_of_isClosedAt? status)]
  exact status

theorem owns_lend_iff {given : Nat} :
    (pool.lend given).Owns fetcher client ↔ pool.Owns fetcher client := by
  rw [Owns, Owns, lend, List.getElem?_append]
  split
  · rfl
  · rename_i bound
    rw [List.getElem?_eq_none (Nat.not_lt.mp bound)]
    cases fetcher - pool.fetchers.length <;> simp

/-- A fetcher that opens a client owns that one, and no other fetcher does. -/
theorem owns_openOwned_iff {made : kind.Client} :
    (pool.openOwned made).Owns fetcher client ↔
      pool.Owns fetcher client ∨
        fetcher = pool.fetchers.length ∧ client = pool.clients.length := by
  rw [Owns, Owns, openOwned, List.getElem?_append]
  split
  · rename_i bound
    simp [Nat.ne_of_lt bound]
  · rename_i bound
    rw [List.getElem?_eq_none (Nat.not_lt.mp bound)]
    cases gap : fetcher - pool.fetchers.length with
    | zero => simp [show fetcher = pool.fetchers.length by omega, eq_comm]
    | succ more => simp [show fetcher ≠ pool.fetchers.length by omega]

/-- **A pool that is set up is fresh**: no client has been told to close. -/
theorem SetUp.fresh (ready : SetUp pool) : pool.Fresh := by
  induction ready with
  | empty => exact ⟨nofun, nofun, rfl⟩
  | bring _ client ih =>
      exact ⟨ih.own_alone, fun own => isClosedAt?_of_append rfl (ih.own_open own), ih.untold⟩
  | lend _ client ih =>
      refine ⟨fun own others => ?_, fun own => ?_, ih.untold⟩
      · exact ih.own_alone (owns_lend_iff.mp own) (owns_lend_iff.mp others)
      · exact ih.own_open (owns_lend_iff.mp own)
  | @openOwned before _ client unclosed ih =>
      -- The new client comes after all clients that a fetcher made before.
      have new {fetcher : Nat} : ¬before.Owns fetcher before.clients.length := fun own =>
        Nat.lt_irrefl _ (lt_of_isClosedAt? (ih.own_open own))
      refine ⟨fun own others => ?_, fun own => ?_, ih.untold⟩
      · rcases owns_openOwned_iff.mp own with own | ⟨rfl, rfl⟩ <;>
          rcases owns_openOwned_iff.mp others with others | ⟨rfl, same⟩
        · exact ih.own_alone own others
        · exact absurd (same ▸ own) new
        · exact absurd others new
        · rfl
      · rcases owns_openOwned_iff.mp own with own | ⟨rfl, rfl⟩
        · exact isClosedAt?_of_append rfl (ih.own_open own)
        · rw [isClosedAt?, ClientPool.openOwned, List.getElem?_concat_length, Option.map_some,
            unclosed]
  | serve _ fetcher ih => exact ⟨ih.own_alone, ih.own_open, ih.untold⟩

/-! ## One step -/

/-- The fetcher that a step closes, directly or through an endpoint. -/
def closedFetcher? (pool : ClientPool kind) : PoolStep → Option Nat
  | .fetch .. => none
  | .close fetcher => some fetcher
  | .closeEndpoint endpoint => pool.endpoints[endpoint]?
  | .leaveEndpoint endpoint _ => pool.endpoints[endpoint]?

/-- The client that a step tells to close. -/
def told? (pool : ClientPool kind) (next : PoolStep) : Option Nat :=
  (pool.closedFetcher? next).bind pool.closing?

/-- A fetcher that is closed closes the client that it owns, if that is open. -/
theorem closing?_eq_some_iff :
    pool.closing? fetcher = some client ↔
      pool.Owns fetcher client ∧ pool.isClosedAt? client = some false := by
  rw [closing?, Owns]
  cases pool.fetchers[fetcher]? with
  | none => simp
  | some user =>
      obtain ⟨used, owns⟩ := user
      by_cases same : used = client
      · subst same
        cases owns <;> simp
      · simp [same]

/-- A step tells a client to close exactly if it closes the fetcher that owns it and it is open. -/
theorem told?_eq_some_iff {next : PoolStep} :
    pool.told? next = some client ↔
      ∃ fetcher, pool.closedFetcher? next = some fetcher ∧ pool.Owns fetcher client ∧
        pool.isClosedAt? client = some false := by
  simp only [told?, Option.bind_eq_some_iff, closing?_eq_some_iff]

/-- However a fetcher comes to be closed, a step that is no request closes that fetcher. -/
theorem step_eq (pool : ClientPool kind) (next : PoolStep) :
    (∃ fetcher uri answer, next = .fetch fetcher uri answer) ∨
      pool.step next = (pool.closedFetcher? next).elim pool pool.close := by
  cases next with
  | fetch fetcher uri answer => exact .inl ⟨fetcher, uri, answer, rfl⟩
  | close => exact .inr rfl
  | closeEndpoint => exact .inr rfl
  | leaveEndpoint => exact .inr rfl

/-- A step that closes a fetcher does nothing else. -/
theorem step_of_closes {next : PoolStep} (closes : pool.closedFetcher? next = some fetcher) :
    pool.step next = pool.close fetcher := by
  rcases step_eq pool next with ⟨_, _, _, rfl⟩ | done
  · cases closes
  · rw [done, closes, Option.elim_some]

/-- What a step does to a pool: it tells a client to close, or has one request a URI, or does
nothing at all. -/
theorem step_cases (pool : ClientPool kind) (next : PoolStep) :
    (∃ client, pool.told? next = some client ∧ pool.step next = pool.tellToClose client) ∨
    pool.told? next = none ∧
      ((∃ fetcher uri answer, pool.step next = pool.fetch fetcher uri answer) ∨
        pool.step next = pool) := by
  rcases step_eq pool next with ⟨fetcher, uri, answer, rfl⟩ | done
  · exact .inr ⟨rfl, .inl ⟨fetcher, uri, answer, rfl⟩⟩
  · rw [told?, done]
    cases pool.closedFetcher? next with
    | none => exact .inr ⟨rfl, .inr rfl⟩
    | some fetcher =>
        rw [Option.bind_some, Option.elim_some, close]
        cases pool.closing? fetcher with
        | none => exact .inr ⟨rfl, .inr rfl⟩
        | some client => exact .inl ⟨client, rfl, rfl⟩

theorem fetch_fields (pool : ClientPool kind) (fetcher : Nat) (uri : Text)
    (answer : Except FetchFault FetchResult) :
    (pool.fetch fetcher uri answer).fetchers = pool.fetchers ∧
      (pool.fetch fetcher uri answer).endpoints = pool.endpoints ∧
      (pool.fetch fetcher uri answer).closings = pool.closings := by
  rw [fetch]
  cases pool.fetchers[fetcher]? <;> exact ⟨rfl, rfl, rfl⟩

/-- A step leaves who uses what, and notes the client that it tells to close. -/
theorem step_fields (pool : ClientPool kind) (next : PoolStep) :
    (pool.step next).fetchers = pool.fetchers ∧ (pool.step next).endpoints = pool.endpoints ∧
      (pool.step next).closings = pool.closings ++ (pool.told? next).toList := by
  rcases step_cases pool next with
    ⟨client, told, done⟩ | ⟨told, ⟨fetcher, uri, answer, done⟩ | done⟩
  · rw [told, done]
    exact ⟨rfl, rfl, rfl⟩
  · obtain ⟨fetchers, endpoints, closings⟩ := fetch_fields pool fetcher uri answer
    rw [told, done]
    exact ⟨fetchers, endpoints, by rw [closings, Option.toList_none, List.append_nil]⟩
  · rw [told, done]
    exact ⟨rfl, rfl, (List.append_nil _).symm⟩

/-- Of all clients the one that is told to close is closed thereafter, the others are as before. -/
theorem isClosedAt?_tellToClose (lawful : kind.Lawful) (pool : ClientPool kind)
    (told client : Nat) :
    (pool.tellToClose told).isClosedAt? client =
      (pool.isClosedAt? client).map (· || told == client) := by
  simp only [isClosedAt?, tellToClose, List.getElem?_modify, Option.map_eq_map, Option.map_map]
  congr 1
  funext found
  by_cases same : told = client
  · simp [same, lawful.isClosed_close]
  · simp [same]

theorem isClosedAt?_fetch (lawful : kind.Lawful) (pool : ClientPool kind)
    (fetcher client : Nat) (uri : Text) (answer : Except FetchFault FetchResult) :
    (pool.fetch fetcher uri answer).isClosedAt? client = pool.isClosedAt? client := by
  rw [fetch]
  cases pool.fetchers[fetcher]? with
  | none => rfl
  | some user =>
      simp only [isClosedAt?, List.getElem?_modify, Option.map_eq_map, Option.map_map]
      congr 1
      funext found
      by_cases same : user.client = client
      · simp [same, lawful.isClosed_requested]
      · simp [same]

/-- After a step a client is closed if it was before or the step tells it to close. -/
theorem isClosedAt?_step (lawful : kind.Lawful) (pool : ClientPool kind) (next : PoolStep)
    (client : Nat) :
    (pool.step next).isClosedAt? client =
      (pool.isClosedAt? client).map (· || pool.told? next == some client) := by
  rcases step_cases pool next with
    ⟨other, told, done⟩ | ⟨told, ⟨fetcher, uri, answer, done⟩ | done⟩
  · rw [told, done]
    exact isClosedAt?_tellToClose lawful pool other client
  · rw [told, done, isClosedAt?_fetch lawful]
    simp
  · rw [told, done]
    simp

/-- A step notes a client once if it tells it to close. -/
theorem count_closings_step (pool : ClientPool kind) (next : PoolStep) (client : Nat) :
    (pool.step next).closings.count client =
      pool.closings.count client + (pool.told? next == some client).toNat := by
  rw [(step_fields pool next).2.2, List.count_append]
  cases pool.told? next with
  | none => rfl
  | some told => by_cases same : told = client <;> simp [same]

/-- Closing a fetcher changes no client but its own. -/
theorem clients_step_of_not_owns {next : PoolStep}
    (closes : pool.closedFetcher? next = some fetcher) (foreign : ¬pool.Owns fetcher client) :
    (pool.step next).clients[client]? = pool.clients[client]? := by
  rw [step_of_closes closes, close]
  cases closing : pool.closing? fetcher with
  | none => rfl
  | some told =>
      have other : told ≠ client := fun same =>
        foreign (same ▸ (closing?_eq_some_iff.mp closing).1)
      exact List.getElem?_modify_ne kind.close pool.clients other

/-! ## What is noted is what was done -/

/-- What a client has become by requests and by being told to close, so many times. -/
inductive Lived (kind : ClientKind) (start : kind.Client) : Nat → kind.Client → Prop
  | start : Lived kind start 0 start
  | requested {closes : Nat} {client : kind.Client} (lived : Lived kind start closes client)
      (uri : Text) (answer : Except FetchFault FetchResult) :
      Lived kind start closes (kind.requested client uri answer)
  | close {closes : Nat} {client : kind.Client} (lived : Lived kind start closes client) :
      Lived kind start (closes + 1) (kind.close client)

/-- A client that lives on has been closed as often as in both parts of its life. -/
theorem Lived.trans {first middle last : kind.Client} {closes more : Nat}
    (lived : Lived kind first closes middle) (later : Lived kind middle more last) :
    Lived kind first (closes + more) last := by
  induction later with
  | start => exact lived
  | requested _ uri answer ih => exact .requested ih uri answer
  | close _ ih => exact .close ih

/-- A step tells a client to close as often as it notes that. -/
theorem lived_step {found : kind.Client} (there : pool.clients[client]? = some found)
    (next : PoolStep) :
    ∃ closes after, (pool.step next).clients[client]? = some after ∧
      Lived kind found closes after ∧
      (pool.step next).closings.count client = pool.closings.count client + closes := by
  rcases step_cases pool next with
    ⟨told, _, done⟩ | ⟨_, ⟨fetcher, uri, answer, done⟩ | done⟩
  · rw [done, tellToClose]
    by_cases same : told = client
    · exact ⟨1, kind.close found, by simp [there, same], .close .start, by simp [same]⟩
    · exact ⟨0, found, by simp [there, same], .start, by simp [same]⟩
  · have noted := (fetch_fields pool fetcher uri answer).2.2
    rw [done, noted]
    rw [fetch]
    cases pool.fetchers[fetcher]? with
    | none => exact ⟨0, found, there, .start, rfl⟩
    | some user =>
        by_cases same : user.client = client
        · exact ⟨0, kind.requested found uri answer, by simp [there, same],
            .requested .start uri answer, rfl⟩
        · exact ⟨0, found, by simp [there, same], .start, rfl⟩
  · rw [done]
    exact ⟨0, found, there, .start, rfl⟩

/-! ## Runs -/

theorem run_cons (pool : ClientPool kind) (next : PoolStep) (steps : List PoolStep) :
    pool.run (next :: steps) = (pool.step next).run steps := rfl

/-- No step changes who owns a client. -/
theorem owns_step_iff {next : PoolStep} :
    (pool.step next).Owns fetcher client ↔ pool.Owns fetcher client := by
  rw [Owns, Owns, (step_fields pool next).1]

theorem closedFetcher?_congr {other : ClientPool kind} (same : other.endpoints = pool.endpoints)
    (next : PoolStep) : other.closedFetcher? next = pool.closedFetcher? next := by
  cases next <;> simp only [closedFetcher?, same]

theorem run_fields (pool : ClientPool kind) (steps : List PoolStep) :
    (pool.run steps).fetchers = pool.fetchers ∧ (pool.run steps).endpoints = pool.endpoints := by
  induction steps generalizing pool with
  | nil => exact ⟨rfl, rfl⟩
  | cons next steps ih =>
      obtain ⟨fetchers, endpoints, _⟩ := step_fields pool next
      rw [run_cons, (ih _).1, (ih _).2]
      exact ⟨fetchers, endpoints⟩

/-- **A run tells each client to close as often as it notes that**, and does nothing else to it but
have it request URIs. -/
theorem lived_run {found : kind.Client} (there : pool.clients[client]? = some found)
    (steps : List PoolStep) :
    ∃ closes after, (pool.run steps).clients[client]? = some after ∧
      Lived kind found closes after ∧
      (pool.run steps).closings.count client = pool.closings.count client + closes := by
  induction steps generalizing pool found with
  | nil => exact ⟨0, found, there, .start, rfl⟩
  | cons next steps ih =>
      obtain ⟨closes, middle, still, lived, noted⟩ := lived_step there next
      obtain ⟨more, after, remains, later, count⟩ := ih still
      refine ⟨closes + more, after, remains, lived.trans later, ?_⟩
      rw [run_cons, count, noted, Nat.add_assoc]

/-- A client that no fetcher made is not told to close, and is closed afterwards only if before. -/
theorem foreign_run (lawful : kind.Lawful) (foreign : ∀ fetcher, ¬pool.Owns fetcher client)
    (steps : List PoolStep) :
    (pool.run steps).closings.count client = pool.closings.count client ∧
      (pool.run steps).isClosedAt? client = pool.isClosedAt? client := by
  induction steps generalizing pool with
  | nil => exact ⟨rfl, rfl⟩
  | cons next steps ih =>
      have untold : (pool.told? next == some client) = false := by
        refine beq_false_of_ne fun told => ?_
        obtain ⟨fetcher, _, own, _⟩ := told?_eq_some_iff.mp told
        exact foreign fetcher own
      obtain ⟨count, status⟩ := ih fun fetcher own => foreign fetcher (owns_step_iff.mp own)
      rw [run_cons, count, status, count_closings_step, isClosedAt?_step lawful, untold]
      simp

/-- Whether a step closes a fetcher. -/
def closes (pool : ClientPool kind) (fetcher : Nat) (next : PoolStep) : Bool :=
  pool.closedFetcher? next == some fetcher

/-- A client with one maker is told to close by a step that closes its maker while it is open. -/
theorem told?_own (own : pool.Owns fetcher client)
    (alone : ∀ other, pool.Owns other client → other = fetcher) {closed : Bool}
    (status : pool.isClosedAt? client = some closed) (next : PoolStep) :
    (pool.told? next == some client) = (!closed && pool.closes fetcher next) := by
  rw [Bool.eq_iff_iff, beq_iff_eq, told?_eq_some_iff]
  simp only [status, Option.some.injEq, Bool.and_eq_true, Bool.not_eq_true', closes, beq_iff_eq]
  constructor
  · rintro ⟨other, closing, others, unclosed⟩
    exact ⟨unclosed, alone other others ▸ closing⟩
  · rintro ⟨unclosed, closing⟩
    exact ⟨fetcher, closing, own, unclosed⟩

/-- A client with one maker is closed by the first step that closes its maker, and told so once. -/
theorem own_run (lawful : kind.Lawful) (own : pool.Owns fetcher client)
    (alone : ∀ other, pool.Owns other client → other = fetcher) {closed : Bool}
    (status : pool.isClosedAt? client = some closed) (steps : List PoolStep) :
    (pool.run steps).isClosedAt? client = some (closed || steps.any (pool.closes fetcher)) ∧
      (pool.run steps).closings.count client =
        pool.closings.count client + (!closed && steps.any (pool.closes fetcher)).toNat := by
  induction steps generalizing pool closed with
  | nil => simp [run, status]
  | cons next steps ih =>
      have later : (pool.step next).closes fetcher = pool.closes fetcher := by
        funext other
        rw [closes, closes, closedFetcher?_congr (step_fields pool next).2.1]
      have after : (pool.step next).isClosedAt? client =
          some (closed || (!closed && pool.closes fetcher next)) := by
        rw [isClosedAt?_step lawful, status, told?_own own alone status, Option.map_some]
      obtain ⟨closing, count⟩ := ih (owns_step_iff.mpr own)
        (fun other others => alone other (owns_step_iff.mp others)) after
      rw [run_cons, closing, count, later, count_closings_step, told?_own own alone status,
        List.any_cons]
      -- The client is closed before, by this step, later or never.
      cases closed <;> cases pool.closes fetcher next <;> simp

/-- **Only own clients are closed, and each once.** Whatever requests are made and whatever fetchers
and endpoints are closed or left, in any order and any number of times: a client that no fetcher
made is never told to close and is closed only if it was before; a client that a fetcher made is
closed exactly if that fetcher was, directly or through an endpoint, and is told so at most once;
and closing a fetcher changes no client but its own. -/
theorem run_closes_own_clients_once (lawful : kind.Lawful) (ready : pool.SetUp)
    (steps : List PoolStep) :
    (∀ client, (∀ fetcher, ¬pool.Owns fetcher client) →
      client ∉ (pool.run steps).closings ∧
        (pool.run steps).isClosedAt? client = pool.isClosedAt? client) ∧
    (∀ fetcher client, pool.Owns fetcher client →
      ((pool.run steps).isClosedAt? client = some true ↔
        ∃ next ∈ steps, pool.closedFetcher? next = some fetcher) ∧
      (pool.run steps).closings.count client ≤ 1) ∧
    ∀ fetcher client next, pool.closedFetcher? next = some fetcher →
      ¬pool.Owns fetcher client →
      ((pool.run steps).step next).clients[client]? = (pool.run steps).clients[client]? := by
  have fresh := ready.fresh
  obtain ⟨fetchers, endpoints⟩ := run_fields pool steps
  refine ⟨?_, ?_, ?_⟩
  · intro client foreign
    obtain ⟨count, status⟩ := foreign_run lawful foreign steps
    rw [fresh.untold, List.count_nil] at count
    exact ⟨List.count_eq_zero.mp count, status⟩
  · intro fetcher client own
    obtain ⟨status, count⟩ :=
      own_run lawful own (fun _ others => fresh.own_alone own others) (fresh.own_open own) steps
    rw [fresh.untold, List.count_nil, Nat.zero_add] at count
    constructor
    · simp [status, closes]
    · rw [count]
      exact Bool.toNat_le _
  · intro fetcher client next closing foreign
    have closes : (pool.run steps).closedFetcher? next = some fetcher := by
      rw [closedFetcher?_congr endpoints, closing]
    apply clients_step_of_not_owns closes
    rw [Owns, fetchers]
    exact foreign

/-- One client of a caller that two fetchers use, two fetchers with clients of their own, and
endpoints that share the first of these. -/
def shared : ClientPool ClientLife.kind :=
  let lent := ((empty.bring ClientLife.unopened).lend 0).lend 0
  let owned := (lent.openOwned ClientLife.unopened).openOwned ClientLife.unopened
  ((owned.serve 2).serve 2).serve 0

theorem setUp_shared : shared.SetUp :=
  .serve (.serve (.serve (.openOwned (.openOwned (.lend (.lend (.bring .empty _) 0) 0) rfl) rfl)
    2) 2) 0

/-- An endpoint is left by a fault, then its sibling closed, then their fetcher, which fetches once
more; the endpoint and the fetcher of the caller's client are closed too. -/
def closedAllAround : List PoolStep :=
  [.fetch 2 ['a'] (.error .noAnswer), .leaveEndpoint 0 true, .closeEndpoint 1, .close 2,
    .fetch 2 ['a'] (.error .noAnswer), .leaveEndpoint 2 false, .close 1]

/-- The caller's client stays open, the client of the fetcher that was closed three times is closed
by one call, and that of the other fetcher is not closed. -/
theorem run_closes_own_clients_once_of_shared :
    (0 ∉ (shared.run closedAllAround).closings ∧
        (shared.run closedAllAround).isClosedAt? 0 = some false) ∧
      ((shared.run closedAllAround).isClosedAt? 1 = some true ∧
        (shared.run closedAllAround).closings.count 1 ≤ 1) ∧
      (shared.run closedAllAround).isClosedAt? 2 ≠ some true ∧
      ((shared.run closedAllAround).step (.close 3)).clients[1]? =
        (shared.run closedAllAround).clients[1]? := by
  obtain ⟨foreign, own, apart⟩ :=
    run_closes_own_clients_once ClientLife.lawful setUp_shared closedAllAround
  have callers : ∀ fetcher, ¬shared.Owns fetcher 0 := fun _ owns =>
    absurd (List.mem_of_getElem? owns) (by decide)
  refine ⟨foreign 0 callers, ⟨(own 2 1 rfl).1.mpr (by decide), (own 2 1 rfl).2⟩, ?_, ?_⟩
  · exact mt (own 3 2 rfl).1.mp (by decide)
  · exact apart 3 1 (.close 3) rfl (by decide)

end UriEndpoint.ClientPool
