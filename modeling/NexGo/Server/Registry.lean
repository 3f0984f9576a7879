import NexGo.Server.Dispatch

/-!
# The peer registry under concurrent listeners (`prudp_server.go`)

`Listen` (lines 60-80) starts `runtime.NumCPU()` goroutines that each loop on
`handleSocketMessage` (lines 94-133): `clients.Get` of the datagram's address; on a miss
`NewPRUDPClient` and `startHeartbeat`, then `clients.Set`; then `processPacket` for each packet
of the datagram against that peer. A DISCONNECT reaches `handleDisconnect` (lines 329-340),
which calls `cleanup` and `clients.Delete`.

An `Execution` is one call of `handleSocketMessage`, a `Listener` the registry together with
every execution, and `Listener.step` one atomic action of one execution: its `Get` (with the
peer it makes on a miss, which touches nothing shared), its `Set`, or one packet processed
(with its `Delete`). A schedule is any list of execution numbers, and `Listener.run` follows it.

Two executions for a new address that both miss before either sets make two peers; the second
`Set` leaves the first outside the registry with its heartbeat running, and the first
execution's packets are processed against it. The spec's single writer per key (§5) rules that
out: under `Exclusive`, `Listener.Inv` holds from `start` on, along every schedule.
-/

namespace NexGo
set_option autoImplicit false

/-- Modelled from the spec: the server's `clients`, a concurrent map from the address string to
the peer; a peer is named by the number of the `NewPRUDPClient` call that made it. -/
structure MutexMap where
  get : String → Option Nat

namespace MutexMap

/-- The registry of a server that has heard from no one. -/
def empty : MutexMap := ⟨fun _ => none⟩

/-- `Set(key, client)`. -/
def set (m : MutexMap) (key : String) (client : Nat) : MutexMap :=
  ⟨fun k => if k = key then some client else m.get k⟩

/-- `Delete(key)`. -/
def delete (m : MutexMap) (key : String) : MutexMap :=
  ⟨fun k => if k = key then none else m.get k⟩

@[simp] theorem get_empty (k : String) : empty.get k = none := rfl

@[simp] theorem get_set (m : MutexMap) (key : String) (client : Nat) (k : String) :
    (m.set key client).get k = if k = key then some client else m.get k := rfl

@[simp] theorem get_delete (m : MutexMap) (key : String) (k : String) :
    (m.delete key).get k = if k = key then none else m.get k := rfl

end MutexMap

/-- `processPacket` reaches `handleDisconnect`, which calls `cleanup` and `clients.Delete`. -/
def deletesClient (packet : Packet) : Bool :=
  !(packet.hasFlag .ack || packet.hasFlag .multiAck) && decide (packet.packetType = .disconnect)

/-- The packets on which `processPacket` calls `handleDisconnect` are those `deletesClient`
names. -/
theorem processPacket_of_deletesClient (keystream : List (BitVec 8) → Nat → BitVec 8)
    (prims : ConnectPrimitives) (now : Nat) (server : PRUDPServer) (client : PRUDPClient)
    {packet : Packet} (h : deletesClient packet = true) :
    processPacket keystream prims now server client packet = handleDisconnect keystream client packet := by
  simp only [deletesClient, Bool.and_eq_true, Bool.not_eq_true', decide_eq_true_eq] at h
  simp only [processPacket, h.1, h.2, Bool.false_eq_true, if_false]

/-- How far one `handleSocketMessage` has got. -/
inductive Phase
  /-- Before `clients.Get`, with the datagram's packets. -/
  | lookup (packets : List Packet)
  /-- After a miss: the new peer is made and its heartbeat started; before `clients.Set`. -/
  | store (client : Nat) (packets : List Packet)
  /-- Processing the packets left against `client`. -/
  | process (client : Nat) (packets : List Packet)
  /-- Returned. -/
  | done

/-- One call of `handleSocketMessage`, on a datagram from `address`. -/
structure Execution where
  address : String
  phase : Phase

/-- Between its `Get` and its return. -/
def Execution.inFlight (e : Execution) : Bool :=
  match e.phase with
  | .store .. | .process .. => true
  | _ => false

/-- What happened to the registry, in order. -/
inductive RegistryEvent
  | created (address : String) (client : Nat)
  | removed (address : String)

/-- The registry, every peer made, and every execution of `handleSocketMessage`. -/
structure Listener where
  clients : MutexMap
  /-- The address of each peer made, in order: peer `c` is entry `c`; each has its heartbeat
  started. -/
  created : List String
  /-- The peers `cleanup` stopped. -/
  cleanedUp : List Nat
  history : List RegistryEvent
  executions : Nat → Option Execution

/-- How many peers were made for `address` since its entry was last removed. -/
def creationsSinceRemoval (address : String) (history : List RegistryEvent) : Nat :=
  history.foldl (fun n e => match e with
    | .created a _ => if a = address then n + 1 else n
    | .removed a => if a = address then 0 else n) 0

namespace Listener

/-- Execution `i`, found as `e`, moves to `phase`. -/
def setPhase (s : Listener) (i : Nat) (e : Execution) (phase : Phase) : Listener :=
  { s with executions := fun j => if j = i then some { e with phase := phase } else s.executions j }

/-- `NewPRUDPClient(addr)` and `startHeartbeat`: the next peer, made for `address`. -/
def create (s : Listener) (address : String) : Listener :=
  { s with
    created := s.created ++ [address]
    history := s.history ++ [.created address s.created.length] }

/-- `cleanup` of `client` and `clients.Delete` of its address. -/
def remove (s : Listener) (address : String) (client : Nat) : Listener :=
  { s with
    clients := s.clients.delete address
    cleanedUp := s.cleanedUp ++ [client]
    history := s.history ++ [.removed address] }

/-- One atomic action of execution `i`. The key `Delete` gets is the peer's address, which is
the datagram's: the peer was found under it or made for it. -/
def step (s : Listener) (i : Nat) : Listener :=
  match s.executions i with
  | none => s
  | some e =>
    match e.phase with
    | .lookup packets =>
      match s.clients.get e.address with
      | some client => s.setPhase i e (.process client packets)
      | none => (s.create e.address).setPhase i e (.store s.created.length packets)
    | .store client packets =>
      { s with clients := s.clients.set e.address client }.setPhase i e (.process client packets)
    | .process _ [] => s.setPhase i e .done
    | .process client (packet :: packets) =>
      if deletesClient packet then (s.remove e.address client).setPhase i e (.process client packets)
      else s.setPhase i e (.process client packets)
    | .done => s

/-- The executions' actions in the order of `schedule`. -/
def run (s : Listener) (schedule : List Nat) : Listener := schedule.foldl step s

/-- A server that has heard from no one, with one execution per datagram, none started. -/
def start (datagrams : List (String × List Packet)) : Listener where
  clients := .empty
  created := []
  cleanedUp := []
  history := []
  executions := fun i => (datagrams[i]?).map fun d => ⟨d.1, .lookup d.2⟩

/-- The spec's single writer per key (§5): execution `i` starts, with its `Get`, only while no
other execution for its address is in flight. -/
def Exclusive (s : Listener) (i : Nat) : Prop :=
  ∀ e, s.executions i = some e → e.inFlight = false →
    ∀ j e', j ≠ i → s.executions j = some e' → e'.address = e.address → e'.inFlight = false

/-- A schedule each of whose steps keeps to a single writer per key. -/
def Admissible : Listener → List Nat → Prop
  | _, [] => True
  | s, i :: schedule => Exclusive s i ∧ Admissible (s.step i) schedule

/-- No execution is in flight. -/
def Quiescent (s : Listener) : Prop := ∀ i e, s.executions i = some e → e.inFlight = false

end Listener

/-! ## The invariant under a single writer per key -/

@[simp] theorem creationsSinceRemoval_created (a b : String) (c : Nat) (h : List RegistryEvent) :
    creationsSinceRemoval a (h ++ [.created b c]) =
      if b = a then creationsSinceRemoval a h + 1 else creationsSinceRemoval a h := by
  simp [creationsSinceRemoval, List.foldl_append]

@[simp] theorem creationsSinceRemoval_removed (a b : String) (h : List RegistryEvent) :
    creationsSinceRemoval a (h ++ [.removed b]) = if b = a then 0 else creationsSinceRemoval a h := by
  simp [creationsSinceRemoval, List.foldl_append]

namespace Listener

variable {s : Listener} {i j : Nat} {e e' : Execution} {phase : Phase}

@[simp] theorem executions_setPhase_self :
    (s.setPhase i e phase).executions i = some { e with phase := phase } := by
  simp [setPhase]

theorem executions_setPhase_of_ne (h : j ≠ i) : (s.setPhase i e phase).executions j = s.executions j := by
  simp [setPhase, h]

@[simp] theorem clients_setPhase : (s.setPhase i e phase).clients = s.clients := rfl
@[simp] theorem created_setPhase : (s.setPhase i e phase).created = s.created := rfl
@[simp] theorem cleanedUp_setPhase : (s.setPhase i e phase).cleanedUp = s.cleanedUp := rfl
@[simp] theorem history_setPhase : (s.setPhase i e phase).history = s.history := rfl

section Fields

variable (a : String) (c : Nat)

@[simp] theorem clients_create : (s.create a).clients = s.clients := rfl
@[simp] theorem created_create : (s.create a).created = s.created ++ [a] := rfl
@[simp] theorem cleanedUp_create : (s.create a).cleanedUp = s.cleanedUp := rfl
@[simp] theorem history_create : (s.create a).history = s.history ++ [.created a s.created.length] := rfl
@[simp] theorem executions_create : (s.create a).executions = s.executions := rfl
@[simp] theorem clients_remove : (s.remove a c).clients = s.clients.delete a := rfl
@[simp] theorem created_remove : (s.remove a c).created = s.created := rfl
@[simp] theorem cleanedUp_remove : (s.remove a c).cleanedUp = s.cleanedUp ++ [c] := rfl
@[simp] theorem history_remove : (s.remove a c).history = s.history ++ [.removed a] := rfl
@[simp] theorem executions_remove : (s.remove a c).executions = s.executions := rfl

end Fields

theorem executions_setPhase_eq_some :
    (s.setPhase i e phase).executions j = some e' ↔
      j = i ∧ e' = { e with phase := phase } ∨ j ≠ i ∧ s.executions j = some e' := by
  by_cases h : j = i
  · subst h; simp [eq_comm]
  · simp [executions_setPhase_of_ne h, h]

/-- The seven things one action can do. -/
inductive Action (s : Listener) (i : Nat) : Listener → Prop
  | idle : Action s i s
  | hit (e : Execution) (packets : List Packet) (c : Nat) (he : s.executions i = some e)
      (hp : e.phase = .lookup packets) (hc : s.clients.get e.address = some c) :
      Action s i (s.setPhase i e (.process c packets))
  | miss (e : Execution) (packets : List Packet) (he : s.executions i = some e)
      (hp : e.phase = .lookup packets) (hc : s.clients.get e.address = none) :
      Action s i ((s.create e.address).setPhase i e (.store s.created.length packets))
  | store (e : Execution) (c : Nat) (packets : List Packet) (he : s.executions i = some e)
      (hp : e.phase = .store c packets) :
      Action s i ({ s with clients := s.clients.set e.address c }.setPhase i e (.process c packets))
  | finish (e : Execution) (c : Nat) (he : s.executions i = some e) (hp : e.phase = .process c []) :
      Action s i (s.setPhase i e .done)
  | keep (e : Execution) (c : Nat) (packet : Packet) (packets : List Packet)
      (he : s.executions i = some e) (hp : e.phase = .process c (packet :: packets)) :
      Action s i (s.setPhase i e (.process c packets))
  | remove (e : Execution) (c : Nat) (packet : Packet) (packets : List Packet)
      (he : s.executions i = some e) (hp : e.phase = .process c (packet :: packets)) :
      Action s i ((s.remove e.address c).setPhase i e (.process c packets))

theorem action_step (s : Listener) (i : Nat) : Action s i (s.step i) := by
  unfold step
  split
  · exact .idle
  rename_i e he
  split
  · rename_i packets hp
    split
    · rename_i c hc; exact .hit e packets c he hp hc
    · rename_i hc; exact .miss e packets he hp hc
  · rename_i c packets hp; exact .store e c packets he hp
  · rename_i c hp; exact .finish e c he hp
  · rename_i c packet packets hp
    split
    · exact .remove e c packet packets he hp
    · exact .keep e c packet packets he hp
  · exact .idle

/-- At most one execution per address is in flight. -/
def OneInFlight (executions : Nat → Option Execution) : Prop :=
  ∀ i j e e', i ≠ j → executions i = some e → executions j = some e' →
    e'.address = e.address → e.inFlight = true → e'.inFlight = false

/-- Execution `i` starts under `Exclusive`: still at most one in flight per address. -/
theorem oneInFlight_start (h : OneInFlight s.executions) (hx : s.Exclusive i)
    (he : s.executions i = some e) (hidle : e.inFlight = false) (t : Listener)
    (ht : t.executions = s.executions) : OneInFlight (t.setPhase i e phase).executions := by
  intro i₁ j₁ e₁ e₂ hne h₁ h₂ haddr hf
  rw [executions_setPhase_eq_some, ht] at h₁ h₂
  rcases h₁ with ⟨rfl, rfl⟩ | ⟨hi, h₁⟩ <;> rcases h₂ with ⟨rfl, rfl⟩ | ⟨hj, h₂⟩
  · exact absurd rfl hne
  · exact hx e he hidle j₁ e₂ hj h₂ haddr
  · simp [hx e he hidle i₁ e₁ hi h₁ haddr.symm] at hf
  · exact h i₁ j₁ e₁ e₂ hne h₁ h₂ haddr hf

/-- Execution `i` was in flight and moves on: still at most one in flight per address. -/
theorem oneInFlight_continue (h : OneInFlight s.executions) (he : s.executions i = some e)
    (hflight : e.inFlight = true) (t : Listener) (ht : t.executions = s.executions) :
    OneInFlight (t.setPhase i e phase).executions := by
  intro i₁ j₁ e₁ e₂ hne h₁ h₂ haddr hf
  rw [executions_setPhase_eq_some, ht] at h₁ h₂
  rcases h₁ with ⟨rfl, rfl⟩ | ⟨hi, h₁⟩ <;> rcases h₂ with ⟨rfl, rfl⟩ | ⟨hj, h₂⟩
  · exact absurd rfl hne
  · exact h i₁ j₁ e e₂ hne he h₂ haddr hflight
  · simp [h j₁ i₁ e e₁ (Ne.symm hne) he h₁ haddr.symm hflight] at hf
  · exact h i₁ j₁ e₁ e₂ hne h₁ h₂ haddr hf

/-- Some execution for `a` is about to `Set` peer `c`. -/
def Storing (s : Listener) (a : String) (c : Nat) : Prop :=
  ∃ i e packets, s.executions i = some e ∧ e.address = a ∧ e.phase = .store c packets

/-- What holds of the registry along every schedule with a single writer per key. -/
structure Inv (s : Listener) : Prop where
  one_in_flight : OneInFlight s.executions
  cleanedUp_lt : ∀ c ∈ s.cleanedUp, c < s.created.length
  /-- A registered peer was made for its key and is not cleaned up. -/
  registered : ∀ a c, s.clients.get a = some c → s.created[c]? = some a ∧ c ∉ s.cleanedUp
  /-- A peer about to be set was made for its address, which has no entry. -/
  storing : ∀ a c, s.Storing a c → s.clients.get a = none ∧ s.created[c]? = some a ∧ c ∉ s.cleanedUp
  /-- An execution processing against `c` finds `c` registered, or removed by its own
  DISCONNECT. -/
  processing : ∀ i e c packets, s.executions i = some e → e.phase = .process c packets →
    s.clients.get e.address = some c ∨ c ∈ s.cleanedUp ∧ s.clients.get e.address = none
  /-- Every peer made and not cleaned up is registered, or about to be. -/
  no_orphan : ∀ c a, s.created[c]? = some a → c ∉ s.cleanedUp → s.clients.get a = some c ∨ s.Storing a c
  one_creation : ∀ a, creationsSinceRemoval a s.history ≤ 1
  /-- An address with no entry and no peer about to be set has had no peer made since its last
  removal. -/
  vacant_fresh : ∀ a, s.clients.get a = none → (∀ c, ¬ s.Storing a c) →
    creationsSinceRemoval a s.history = 0

theorem phase_start {ds : List (String × List Packet)} (h : (start ds).executions i = some e) :
    ∃ packets, e.phase = .lookup packets := by
  simp only [start, Option.map_eq_some'] at h
  obtain ⟨d, -, rfl⟩ := h
  exact ⟨d.2, rfl⟩

theorem Inv.start (ds : List (String × List Packet)) : (start ds).Inv where
  one_in_flight _ _ e _ _ he _ _ hf := by
    obtain ⟨_, hp⟩ := phase_start he
    simp [Execution.inFlight, hp] at hf
  cleanedUp_lt c hc := absurd hc (List.not_mem_nil c)
  registered a c h := by simp [Listener.start] at h
  storing _ _ := by
    rintro ⟨_, e, _, he, -, hp⟩
    obtain ⟨_, hp'⟩ := phase_start he
    rw [hp] at hp'; cases hp'
  processing _ e _ _ he hp := by
    obtain ⟨_, hp'⟩ := phase_start he
    rw [hp] at hp'; cases hp'
  no_orphan c a h := by simp [Listener.start] at h
  one_creation a := by simp [Listener.start, creationsSinceRemoval]
  vacant_fresh _ _ _ := rfl

theorem inFlight_of_store {c : Nat} {packets : List Packet} (hp : e.phase = .store c packets) :
    e.inFlight = true := by
  simp [Execution.inFlight, hp]

theorem inFlight_of_process {c : Nat} {packets : List Packet} (hp : e.phase = .process c packets) :
    e.inFlight = true := by
  simp [Execution.inFlight, hp]

/-- While execution `i` is in flight, every other execution in flight is for another address. -/
theorem Inv.address_ne (hinv : s.Inv) (he : s.executions i = some e) (hflight : e.inFlight = true)
    {j : Nat} {e₁ : Execution} (hj : j ≠ i) (h₁ : s.executions j = some e₁)
    (hf : e₁.inFlight = true) : e₁.address ≠ e.address := fun ha => by
  simp [hinv.one_in_flight i j e e₁ (Ne.symm hj) he h₁ ha hflight] at hf

/-- Moving execution `i` keeps every pending `Set` for `a` but one of its own. -/
theorem storing_setPhase {t : Listener} (ht : t.executions = s.executions)
    (he : s.executions i = some e) {a : String} (hi : ∀ c ps, e.phase = .store c ps → e.address ≠ a)
    {c : Nat} : s.Storing a c → (t.setPhase i e phase).Storing a c := by
  rintro ⟨j, e₁, ps, h₁, rfl, hp₁⟩
  have hj : j ≠ i := by rintro rfl; rw [he] at h₁; cases h₁; exact hi _ _ hp₁ rfl
  exact ⟨j, e₁, ps, by rw [executions_setPhase_of_ne hj, ht, h₁], rfl, hp₁⟩

/-- Moving execution `i` to a phase other than `store` adds no pending `Set`. -/
theorem storing_of_setPhase {t : Listener} (ht : t.executions = s.executions)
    (hph : ∀ c ps, phase ≠ .store c ps) {a : String} {c : Nat} :
    (t.setPhase i e phase).Storing a c → s.Storing a c := by
  rintro ⟨j, e₁, ps, h₁, ha, hp₁⟩
  rcases executions_setPhase_eq_some.1 h₁ with ⟨-, rfl⟩ | ⟨-, h₁⟩
  · exact absurd hp₁ (hph _ _)
  · exact ⟨j, e₁, ps, ht ▸ h₁, ha, hp₁⟩

section Preservation

/-- A `Get` that finds `c` registered. -/
theorem Inv.hit (hinv : s.Inv) (hx : s.Exclusive i) (he : s.executions i = some e) {packets : List Packet}
    {c : Nat} (hp : e.phase = .lookup packets)
    (hc : s.clients.get e.address = some c) : (s.setPhase i e (.process c packets)).Inv where
  one_in_flight := oneInFlight_start hinv.one_in_flight hx he (by simp [Execution.inFlight, hp]) s rfl
  cleanedUp_lt := hinv.cleanedUp_lt
  registered := hinv.registered
  storing a c₁ h := hinv.storing a c₁ (storing_of_setPhase rfl (by simp) h)
  processing j e₁ c₁ ps h₁ hp₁ := by
    rcases executions_setPhase_eq_some.1 h₁ with ⟨-, rfl⟩ | ⟨-, h₁⟩
    · cases hp₁; exact .inl hc
    · exact hinv.processing j e₁ c₁ ps h₁ hp₁
  no_orphan c₁ a h hcl := (hinv.no_orphan c₁ a h hcl).imp id (storing_setPhase rfl he (by simp [hp]))
  one_creation := hinv.one_creation
  vacant_fresh a hnone hstore :=
    hinv.vacant_fresh a hnone fun c₁ h => hstore c₁ (storing_setPhase rfl he (by simp [hp]) h)

/-- A `Get` that misses: the peer made for the address is the only one since its last
removal, because no other execution for the address is in flight. -/
theorem Inv.miss (hinv : s.Inv) (hx : s.Exclusive i) (he : s.executions i = some e)
    {packets : List Packet} (hp : e.phase = .lookup packets) (hc : s.clients.get e.address = none) :
    ((s.create e.address).setPhase i e (.store s.created.length packets)).Inv := by
  have hidle : e.inFlight = false := by simp [Execution.inFlight, hp]
  have hkeep : ∀ {a c}, s.Storing a c →
      ((s.create e.address).setPhase i e (.store s.created.length packets)).Storing a c :=
    storing_setPhase rfl he (by simp [hp])
  -- under `Exclusive`, no other execution for the address is about to `Set`
  have hnostore : ∀ c, ¬ s.Storing e.address c := by
    rintro c ⟨j, e₁, ps, h₁, ha, hp₁⟩
    by_cases hj : j = i
    · subst hj; rw [he] at h₁; cases h₁; rw [hp] at hp₁; cases hp₁
    · simpa [inFlight_of_store hp₁] using hx e he hidle j e₁ hj h₁ ha
  have hold : ∀ {c a}, s.created[c]? = some a → (s.created ++ [e.address])[c]? = some a :=
    fun h => by rw [List.getElem?_append_left (List.getElem?_eq_some_iff.1 h).1, h]
  constructor
  case one_in_flight => exact oneInFlight_start hinv.one_in_flight hx he hidle _ rfl
  case cleanedUp_lt =>
    intro c hc'
    simp only [cleanedUp_setPhase, cleanedUp_create, created_setPhase, created_create,
      List.length_append, List.length_singleton] at hc' ⊢
    exact Nat.lt_succ_of_lt (hinv.cleanedUp_lt c hc')
  case registered =>
    intro a c h
    obtain ⟨h₁, h₂⟩ := hinv.registered a c h
    exact ⟨hold h₁, h₂⟩
  case storing =>
    rintro a c₁ ⟨j, e₁, ps, h₁, rfl, hp₁⟩
    rcases executions_setPhase_eq_some.1 h₁ with ⟨-, rfl⟩ | ⟨-, h₁⟩
    · cases hp₁
      exact ⟨hc, by simp, fun hm => Nat.lt_irrefl _ (hinv.cleanedUp_lt _ hm)⟩
    · obtain ⟨h₂, h₃, h₄⟩ := hinv.storing _ c₁ ⟨j, e₁, ps, h₁, rfl, hp₁⟩
      exact ⟨h₂, hold h₃, h₄⟩
  case processing =>
    intro j e₁ c₁ ps h₁ hp₁
    rcases executions_setPhase_eq_some.1 h₁ with ⟨-, rfl⟩ | ⟨-, h₁⟩
    · cases hp₁
    · exact hinv.processing j e₁ c₁ ps h₁ hp₁
  case no_orphan =>
    intro c a h hcl
    simp only [created_setPhase, created_create, cleanedUp_setPhase, cleanedUp_create,
      clients_setPhase, clients_create] at h hcl ⊢
    rw [List.getElem?_append] at h
    split_ifs at h with hc'
    · exact (hinv.no_orphan c a h hcl).imp id hkeep
    · obtain ⟨hlt, rfl⟩ := List.getElem?_eq_some_iff.1 h
      obtain rfl : c = s.created.length := by simp at hlt; omega
      exact .inr ⟨i, _, packets, executions_setPhase_self, by simp, by simp⟩
  case one_creation =>
    intro a
    simp only [history_setPhase, history_create, creationsSinceRemoval_created]
    split_ifs with ha
    · subst ha; rw [hinv.vacant_fresh _ hc hnostore]
    · exact hinv.one_creation a
  case vacant_fresh =>
    intro a hnone hstore
    simp only [history_setPhase, history_create, creationsSinceRemoval_created]
    split_ifs with ha
    · exact absurd ⟨i, _, packets, executions_setPhase_self, ha, rfl⟩ (hstore _)
    · exact hinv.vacant_fresh a hnone fun c h => hstore c (hkeep h)

/-- A `Set` of the peer an execution made. -/
theorem Inv.store (hinv : s.Inv) (he : s.executions i = some e) {c : Nat} {packets : List Packet}
    (hp : e.phase = .store c packets) :
    ({ s with clients := s.clients.set e.address c }.setPhase i e (.process c packets)).Inv := by
  obtain ⟨hnone, hmade, hlive⟩ := hinv.storing _ c ⟨i, e, packets, he, rfl, hp⟩
  have hflight := inFlight_of_store hp
  constructor
  case one_in_flight => exact oneInFlight_continue hinv.one_in_flight he hflight _ rfl
  case cleanedUp_lt => exact hinv.cleanedUp_lt
  case registered =>
    intro a c₁ h
    simp only [clients_setPhase, MutexMap.get_set] at h
    split_ifs at h with ha
    · cases h; subst ha; exact ⟨hmade, hlive⟩
    · exact hinv.registered a c₁ h
  case storing =>
    rintro a c₁ ⟨j, e₁, ps, h₁, rfl, hp₁⟩
    rcases executions_setPhase_eq_some.1 h₁ with ⟨-, rfl⟩ | ⟨hj, h₁⟩
    · cases hp₁
    · obtain ⟨h₂, h₃, h₄⟩ := hinv.storing _ c₁ ⟨j, e₁, ps, h₁, rfl, hp₁⟩
      exact ⟨by simp [hinv.address_ne he hflight hj h₁ (inFlight_of_store hp₁), h₂], h₃, h₄⟩
  case processing =>
    intro j e₁ c₁ ps h₁ hp₁
    rcases executions_setPhase_eq_some.1 h₁ with ⟨-, rfl⟩ | ⟨hj, h₁⟩
    · cases hp₁; exact .inl (by simp)
    · simpa [hinv.address_ne he hflight hj h₁ (inFlight_of_process hp₁)] using
        hinv.processing j e₁ c₁ ps h₁ hp₁
  case no_orphan =>
    intro c₁ a h hcl
    rcases hinv.no_orphan c₁ a h hcl with hr | ⟨j, e₁, ps, h₁, rfl, hp₁⟩
    · have ha : a ≠ e.address := by rintro rfl; rw [hnone] at hr; cases hr
      exact .inl (by simp [ha, hr])
    · by_cases hj : j = i
      · subst hj; rw [he] at h₁; cases h₁; rw [hp] at hp₁; cases hp₁
        exact .inl (by simp)
      · exact .inr ⟨j, e₁, ps, by rwa [executions_setPhase_of_ne hj], rfl, hp₁⟩
  case one_creation => exact hinv.one_creation
  case vacant_fresh =>
    intro a hnone' hstore
    have ha : a ≠ e.address := by rintro rfl; simp at hnone'
    exact hinv.vacant_fresh a (by simpa [ha] using hnone') fun c₁ h =>
      hstore c₁ (storing_setPhase rfl he (fun _ _ _ => Ne.symm ha) h)

/-- A packet processed without removing the peer, or the return after the last. -/
theorem Inv.advance (hinv : s.Inv) (he : s.executions i = some e) {c : Nat} {packets : List Packet}
    (hp : e.phase = .process c packets) (hph : phase = .done ∨ ∃ rest, phase = .process c rest) :
    (s.setPhase i e phase).Inv where
  one_in_flight := oneInFlight_continue hinv.one_in_flight he (inFlight_of_process hp) _ rfl
  cleanedUp_lt := hinv.cleanedUp_lt
  registered := hinv.registered
  storing a c₁ h :=
    hinv.storing a c₁ (storing_of_setPhase rfl (by rcases hph with rfl | ⟨_, rfl⟩ <;> simp) h)
  processing j e₁ c₁ ps h₁ hp₁ := by
    rcases executions_setPhase_eq_some.1 h₁ with ⟨-, rfl⟩ | ⟨-, h₁⟩
    · rcases hph with rfl | ⟨rest, rfl⟩ <;> cases hp₁
      exact hinv.processing i e c packets he hp
    · exact hinv.processing j e₁ c₁ ps h₁ hp₁
  no_orphan c₁ a h hcl := (hinv.no_orphan c₁ a h hcl).imp id (storing_setPhase rfl he (by simp [hp]))
  one_creation := hinv.one_creation
  vacant_fresh a hnone hstore :=
    hinv.vacant_fresh a hnone fun c₁ h => hstore c₁ (storing_setPhase rfl he (by simp [hp]) h)

/-- A DISCONNECT processed: `cleanup` of the peer and `Delete` of its address. -/
theorem Inv.remove (hinv : s.Inv) (he : s.executions i = some e) {c : Nat} {packet : Packet}
    {packets : List Packet} (hp : e.phase = .process c (packet :: packets)) :
    ((s.remove e.address c).setPhase i e (.process c packets)).Inv := by
  have hflight := inFlight_of_process hp
  have hkeep : ∀ {a c₁}, s.Storing a c₁ → ((s.remove e.address c).setPhase i e (.process c packets)).Storing a c₁ :=
    storing_setPhase rfl he (by simp [hp])
  have hpr := hinv.processing i e c _ he hp
  -- a live peer made for another address is not `c`
  have hne : ∀ b c₁, s.created[c₁]? = some b → b ≠ e.address → c₁ ∉ s.cleanedUp → c₁ ≠ c := by
    rintro b c₁ h₁ hb hl rfl
    rcases hpr with hr | ⟨hm, -⟩
    · rw [(hinv.registered _ _ hr).1] at h₁; cases h₁; exact hb rfl
    · exact hl hm
  constructor
  case one_in_flight => exact oneInFlight_continue hinv.one_in_flight he hflight _ rfl
  case cleanedUp_lt =>
    intro c₁ hc₁
    simp only [cleanedUp_setPhase, cleanedUp_remove, List.mem_append, List.mem_singleton] at hc₁
    rcases hc₁ with hc₁ | rfl
    · exact hinv.cleanedUp_lt c₁ hc₁
    · rcases hpr with hr | ⟨hm, -⟩
      · exact (List.getElem?_eq_some_iff.1 (hinv.registered _ _ hr).1).1
      · exact hinv.cleanedUp_lt _ hm
  case registered =>
    intro a c₁ h
    simp only [clients_setPhase, clients_remove, MutexMap.get_delete] at h
    split_ifs at h with ha
    obtain ⟨h₁, h₂⟩ := hinv.registered a c₁ h
    exact ⟨h₁, by simpa [h₂] using hne a c₁ h₁ ha h₂⟩
  case storing =>
    rintro a c₁ ⟨j, e₁, ps, h₁, rfl, hp₁⟩
    rcases executions_setPhase_eq_some.1 h₁ with ⟨-, rfl⟩ | ⟨hj, h₁⟩
    · cases hp₁
    · obtain ⟨h₂, h₃, h₄⟩ := hinv.storing _ c₁ ⟨j, e₁, ps, h₁, rfl, hp₁⟩
      have ha := hinv.address_ne he hflight hj h₁ (inFlight_of_store hp₁)
      exact ⟨by simp [ha, h₂], h₃, by simpa [h₄] using hne _ c₁ h₃ ha h₄⟩
  case processing =>
    intro j e₁ c₁ ps h₁ hp₁
    rcases executions_setPhase_eq_some.1 h₁ with ⟨-, rfl⟩ | ⟨hj, h₁⟩
    · cases hp₁; exact .inr (by simp)
    · have ha := hinv.address_ne he hflight hj h₁ (inFlight_of_process hp₁)
      rcases hinv.processing j e₁ c₁ ps h₁ hp₁ with hr | ⟨hm, hr⟩
      · exact .inl (by simp [ha, hr])
      · exact .inr (by simp [ha, hr, hm])
  case no_orphan =>
    intro c₁ a h hcl
    simp only [cleanedUp_setPhase, cleanedUp_remove, List.mem_append, List.mem_singleton,
      not_or] at hcl
    refine (hinv.no_orphan c₁ a h hcl.1).imp (fun hr => ?_) hkeep
    have ha : a ≠ e.address := by
      rintro rfl
      rcases hpr with hr' | ⟨-, hr'⟩ <;> rw [hr'] at hr <;> cases hr
      exact hcl.2 rfl
    simp [ha, hr]
  case one_creation =>
    intro a
    simp only [history_setPhase, history_remove, creationsSinceRemoval_removed]
    split_ifs
    · exact Nat.zero_le 1
    · exact hinv.one_creation a
  case vacant_fresh =>
    intro a hnone hstore
    simp only [history_setPhase, history_remove, creationsSinceRemoval_removed]
    split_ifs with ha
    · rfl
    · exact hinv.vacant_fresh a (by simpa [Ne.symm ha] using hnone) fun c₁ h => hstore c₁ (hkeep h)

end Preservation

/-- Every action of an execution that starts only under `Exclusive` keeps the invariant. -/
theorem Inv.of_action (hinv : s.Inv) (hx : s.Exclusive i) {s' : Listener} (h : Action s i s') :
    s'.Inv := by
  cases h with
  | idle => exact hinv
  | hit e packets c he hp hc => exact hinv.hit hx he hp hc
  | miss e packets he hp hc => exact hinv.miss hx he hp hc
  | store e c packets he hp => exact hinv.store he hp
  | finish e c he hp => exact hinv.advance he hp (.inl rfl)
  | keep e c packet packets he hp => exact hinv.advance he hp (.inr ⟨packets, rfl⟩)
  | remove e c packet packets he hp => exact hinv.remove he hp

/-- The invariant holds after every admissible schedule. -/
theorem Inv.run : ∀ {s : Listener} {schedule : List Nat}, s.Inv → s.Admissible schedule →
    (s.run schedule).Inv
  | _, [], hinv, _ => hinv
  | s, i :: _, hinv, ⟨hx, h⟩ => (hinv.of_action hx (action_step s i)).run h


end Listener

/-- Under the spec's single writer per key, in every run from a fresh server: at most one peer
is made for an address between two removals of its entry; every packet is processed against the
peer the registry holds for its address, or against the peer a DISCONNECT earlier in its own
datagram removed; and once no execution is in flight, every peer made and not cleaned up is the
one the registry holds for its address. -/
theorem registry_single_writer (datagrams : List (String × List Packet)) (schedule : List Nat)
    (h : (Listener.start datagrams).Admissible schedule) :
    let s := (Listener.start datagrams).run schedule
    (∀ a, creationsSinceRemoval a s.history ≤ 1) ∧
    (∀ i e c packet packets, s.executions i = some e → e.phase = .process c (packet :: packets) →
      s.clients.get e.address = some c ∨ c ∈ s.cleanedUp ∧ s.clients.get e.address = none) ∧
    (s.Quiescent → ∀ c a, s.created[c]? = some a → c ∉ s.cleanedUp → s.clients.get a = some c) := by
  have hinv := (Listener.Inv.start datagrams).run h
  refine ⟨hinv.one_creation, fun i e c _ _ he hp => hinv.processing i e c _ he hp, fun hq c a hc hl => ?_⟩
  rcases hinv.no_orphan c a hc hl with hr | ⟨j, e, ps, he, -, hp⟩
  · exact hr
  · simpa [Listener.inFlight_of_store hp] using hq j e he

/-- Two datagrams from one address, the second started once the first has returned: the SYN's
`Get` misses, and its execution makes the peer and registers it; the PING's `Get` finds that peer. -/
theorem registry_single_writer_of_two_datagrams :
    (Listener.start [("10.0.0.1:3000", [{ newPRUDPPacketV1 with packetType := .syn }]),
        ("10.0.0.1:3000", [{ newPRUDPPacketV1 with packetType := .ping }])]).Admissible [0, 0, 0, 0, 1, 1, 1] ∧
    let s := (Listener.start [("10.0.0.1:3000", [{ newPRUDPPacketV1 with packetType := .syn }]),
        ("10.0.0.1:3000", [{ newPRUDPPacketV1 with packetType := .ping }])]).run [0, 0, 0, 0, 1, 1, 1]
    (∀ a, creationsSinceRemoval a s.history ≤ 1) ∧
    (∀ i e c packet packets, s.executions i = some e → e.phase = .process c (packet :: packets) →
      s.clients.get e.address = some c ∨ c ∈ s.cleanedUp ∧ s.clients.get e.address = none) ∧
    (s.Quiescent → ∀ c a, s.created[c]? = some a → c ∉ s.cleanedUp → s.clients.get a = some c) := by
  -- each `Get` finds the other execution for the address not in flight; every other step is of an
  -- execution in flight
  have hadm : (Listener.start [("10.0.0.1:3000", [{ newPRUDPPacketV1 with packetType := .syn }]),
      ("10.0.0.1:3000", [{ newPRUDPPacketV1 with packetType := .ping }])]).Admissible [0, 0, 0, 0, 1, 1, 1] := by
    refine ⟨?_, ?_, ?_, ?_, ?_, ?_, ?_, trivial⟩ <;> intro e he hidle j e' hj h' _ <;>
      obtain rfl := Option.some.inj he.symm <;>
      first
      | exact absurd hidle Bool.true_eq_false
      | match j, h' with
        | 0, h' => first | exact absurd rfl hj | (obtain rfl := Option.some.inj h'.symm; rfl)
        | 1, h' => first | exact absurd rfl hj | (obtain rfl := Option.some.inj h'.symm; rfl)
        | _ + 2, h' => cases h'
  exact ⟨hadm, registry_single_writer _ _ hadm⟩

/-- The exception is real: a datagram whose DISCONNECT comes before another packet has that
packet processed against the peer just removed. -/
example :
    ∃ e, (Listener.run (Listener.start [("10.0.0.1:3000", [{ newPRUDPPacketV1 with packetType := .disconnect },
        { newPRUDPPacketV1 with packetType := .ping }])]) [0, 0, 0]).executions 0 = some e ∧
      e.phase = .process 0 [{ newPRUDPPacketV1 with packetType := .ping }] ∧
      (Listener.run (Listener.start [("10.0.0.1:3000", [{ newPRUDPPacketV1 with packetType := .disconnect },
        { newPRUDPPacketV1 with packetType := .ping }])]) [0, 0, 0]).clients.get "10.0.0.1:3000" = none :=
  ⟨_, rfl, rfl, rfl⟩

/-- Two datagrams with one SYN each from a new address, both read before either is registered:
both executions miss, both make a peer, both set. -/
def racingDatagrams : List (String × List Packet) :=
  [("10.0.0.1:3000", [{ newPRUDPPacketV1 with packetType := .syn }]),
   ("10.0.0.1:3000", [{ newPRUDPPacketV1 with packetType := .syn }])]

/-- The race: after both `Get`s and both `Set`s the registry holds peer `1`, while execution `0`
is about to process its SYN against peer `0`; at the end two peers were made for the address
with no removal between, and peer `0`, whose heartbeat runs, is outside the registry. -/
theorem registry_race_orphans_peer :
    let racing := Listener.run (Listener.start racingDatagrams) [0, 1, 0, 1]
    let final := Listener.run racing [0, 0, 1, 1]
    racing.clients.get "10.0.0.1:3000" = some 1 ∧
      (∃ e, racing.executions 0 = some e ∧ ∃ packets, e.phase = .process 0 packets ∧ packets ≠ []) ∧
      creationsSinceRemoval "10.0.0.1:3000" final.history = 2 ∧
      final.Quiescent ∧ final.created[0]? = some "10.0.0.1:3000" ∧ 0 ∉ final.cleanedUp ∧
      final.clients.get "10.0.0.1:3000" = some 1 := by
  refine ⟨rfl, ⟨_, rfl, _, rfl, List.cons_ne_nil _ _⟩, rfl, ?_, rfl, List.not_mem_nil 0, rfl⟩
  intro i e h
  match i, h with
  | 0, h => obtain rfl := Option.some.inj h; rfl
  | 1, h => obtain rfl := Option.some.inj h; rfl
  | _ + 2, h => exact absurd (h.symm.trans rfl) (Option.some_ne_none e)

end NexGo
