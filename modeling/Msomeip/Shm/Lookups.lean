import Msomeip.Library.Maps
import Msomeip.Library.Runs
import Msomeip.Shm.Responses

namespace Msomeip.Shm

open BigEndian Std

/-- The text of a `std::string`, one character a byte. -/
def addressOf (bytes : List UInt8) : String :=
  String.ofList (bytes.map fun byte => Char.ofNat byte.toNat)

def addressBytes (address : String) : List UInt8 :=
  address.toList.map fun character => UInt8.ofNat character.toNat

/-- The loop over the endpoints of a result; `rest` are the bytes from the offset on. -/
def parseEndpoints : Nat → List UInt8 → List Endpoint
  | 0, _ => []
  | count + 1, rest =>
    if rest.length < 4 then []
    else
      match rest with
      | [] => []
      | addressLength :: rest =>
        if rest.length < addressLength.toNat + 3 then []
        else
          match rest.drop addressLength.toNat with
          | port0 :: port1 :: protocol :: later =>
            ⟨addressOf (rest.take addressLength.toNat), word16 port0 port1, ⟨protocol⟩⟩ ::
              parseEndpoints count later
          | _ => []

/-- What `lookup_subscribers` makes of an element of `response_queue_`. -/
def parseLookupResult : PayloadData → List Endpoint
  | type :: c0 :: c1 :: c2 :: c3 :: rest =>
    if type = RouteResponseType.lookupResult.value ∧ rest ≠ [] then
      parseEndpoints (word32 c0 c1 c2 c3).toNat rest
    else []
  | _ => []

def encodeEndpoint (endpoint : Endpoint) : List UInt8 :=
  UInt8.ofNat (addressBytes endpoint.address).length ::
    (addressBytes endpoint.address ++ bytes16 endpoint.port ++ [endpoint.protocol.value])

def encodeEndpoints (endpoints : List Endpoint) : PayloadData :=
  bytes32 (UInt32.ofNat endpoints.length) ++ endpoints.flatMap encodeEndpoint

/-- A list of endpoints that a response has room for. -/
def WellFormed (endpoints : List Endpoint) : Prop :=
  (∀ endpoint ∈ endpoints, ∀ character ∈ endpoint.address.toList, character.toNat < 256) ∧
    (encodeEndpoints endpoints).length ≤ payloadSize

theorem addressOf_bytes {address : String}
    (bytes : ∀ character ∈ address.toList, character.toNat < 256) :
    addressOf (addressBytes address) = address := by
  have same : (addressBytes address).map (fun byte => Char.ofNat byte.toNat) = address.toList := by
    rw [addressBytes, List.map_map]
    conv => rhs; rw [← List.map_id address.toList]
    apply List.map_congr_left
    intro character member
    have small := bytes character member
    simp only [Function.comp_apply, UInt8.toNat_ofNat', Nat.mod_eq_of_lt small, Char.ofNat_toNat, id]
  rw [addressOf, same, String.ofList_toList]

theorem encodeEndpoint_length (endpoint : Endpoint) :
    (encodeEndpoint endpoint).length = (addressBytes endpoint.address).length + 4 := by
  simp [encodeEndpoint]

theorem parseEndpoints_encode {endpoints : List Endpoint}
    (bytes : ∀ endpoint ∈ endpoints, ∀ character ∈ endpoint.address.toList, character.toNat < 256)
    (short : ∀ endpoint ∈ endpoints, (addressBytes endpoint.address).length < 256) :
    parseEndpoints endpoints.length (endpoints.flatMap encodeEndpoint) = endpoints := by
  induction endpoints with
  | nil => rfl
  | cons endpoint rest ih =>
    obtain ⟨own, later⟩ := List.forall_mem_cons.mp bytes
    obtain ⟨small, smallLater⟩ := List.forall_mem_cons.mp short
    have count : (UInt8.ofNat (addressBytes endpoint.address).length).toNat =
        (addressBytes endpoint.address).length := by
      rw [UInt8.toNat_ofNat', Nat.mod_eq_of_lt small]
    have tail := ih later smallLater
    have room : ¬ (encodeEndpoint endpoint ++ rest.flatMap encodeEndpoint).length < 4 := by
      rw [List.length_append, encodeEndpoint_length]
      omega
    have enough : ¬ (addressBytes endpoint.address ++ bytes16 endpoint.port ++
        [endpoint.protocol.value] ++ rest.flatMap encodeEndpoint).length <
          (addressBytes endpoint.address).length + 3 := by
      simp only [List.length_append, bytes16_length, List.length_singleton]
      omega
    rw [List.flatMap_cons, List.length_cons]
    generalize rest.flatMap encodeEndpoint = following at tail room enough ⊢
    unfold encodeEndpoint at room ⊢
    rw [List.cons_append] at room ⊢
    rw [parseEndpoints, if_neg room, count, if_neg enough]
    simp only [bytes16, List.append_assoc, List.cons_append, List.nil_append, List.drop_left,
      List.take_left, addressOf_bytes own, word16_bytes, tail]

theorem length_le_encoded (endpoints : List Endpoint) :
    endpoints.length ≤ (endpoints.flatMap encodeEndpoint).length := by
  induction endpoints with
  | nil => exact Nat.le_refl _
  | cons endpoint rest ih =>
    rw [List.flatMap_cons, List.length_append, encodeEndpoint_length, List.length_cons]
    omega

/-- What stands in `response_queue_` would be read as the endpoints that the daemon encoded. -/
theorem parseLookupResult_encode {endpoints : List Endpoint} (formed : WellFormed endpoints) :
    parseLookupResult (RouteResponseType.lookupResult.value :: encodeEndpoints endpoints) =
      endpoints := by
  obtain ⟨bytes, fits⟩ := formed
  have total : (endpoints.flatMap encodeEndpoint).length ≤ payloadSize := by
    rw [encodeEndpoints, List.length_append] at fits
    omega
  have each (endpoint : Endpoint) (member : endpoint ∈ endpoints) :
      (encodeEndpoint endpoint).length ≤ (endpoints.flatMap encodeEndpoint).length :=
    (List.sublist_flatten_of_mem (List.mem_map_of_mem member)).length_le
  have short (endpoint : Endpoint) (member : endpoint ∈ endpoints) :
      (addressBytes endpoint.address).length < 256 := by
    have fitting := each endpoint member
    rw [encodeEndpoint_length] at fitting
    unfold payloadSize at total
    omega
  have count : (UInt32.ofNat endpoints.length).toNat = endpoints.length := by
    have fewer := length_le_encoded endpoints
    apply UInt32.toNat_ofNat_of_lt'
    exact Nat.lt_of_le_of_lt (fewer.trans total) (by decide)
  simp only [encodeEndpoints, bytes32, List.cons_append, List.nil_append, parseLookupResult,
    word32_bytes, count, true_and]
  split
  · exact parseEndpoints_encode bytes short
  · rename_i empty
    have none : endpoints.flatMap encodeEndpoint = [] := by simpa using empty
    have fewer := length_le_encoded endpoints
    rw [none, List.length_nil, Nat.le_zero_eq, List.length_eq_zero_iff] at fewer
    exact fewer.symm

/-- A call of `lookup_subscribers`: the number it records as pending, the number in its command
    slot, the first result for that number that is processed before it returns, and what it
    returns. -/
structure Lookup where
  call : Call
  key : UInt32
  sequence : Option UInt32 := none
  answer : Option PayloadData := none
  result : Option (List Endpoint) := none
deriving DecidableEq, Repr

def Lookup.hear (lookup : Lookup) (response : Response) : Lookup :=
  if response.type = .lookupResult ∧ lookup.sequence = some response.sequence ∧
    lookup.answer = none ∧ lookup.result = none then
    { lookup with answer := some response.payload }
  else lookup

/-- An agent with its part of the shared memory and the calls of `lookup_subscribers` so far. -/
structure Client where
  agent : ShmAgent
  handlers : Handlers := {}
  commands : Region
  responses : ResponseRegion
  pendingRequests : ExtTreeMap UInt32 RouteCommandType := ∅
  responseQueue : List PayloadData := []
  lookups : List Lookup := []

namespace Client

inductive Action
  | send (call : Call) (locked : Bool)
  | lookup (service : ServiceId) (instance' : InstanceId) (eventgroup : EventgroupId)
  | sendLookup (index : Nat) (locked : Bool)
  | daemon (commands : Region) (responses : ResponseRegion)
  | processResponses (locked : Bool) (beyond : Nat → Nat → UInt8)
  | wake (index : Nat)
  | timeout (index : Nat)

def setLookup (client : Client) (index : Nat) (lookup : Lookup) : Client :=
  { client with lookups := client.lookups.set index lookup }

def sendCommand (client : Client) (locked : Bool) (call : Call) : Bool × Client :=
  let (sent, commands, agent) := Shm.sendCommand client.commands client.agent locked call.request
  (sent, { client with commands := commands, agent := agent })

/-- The first part of `lookup_subscribers`: a number is drawn and recorded. -/
def lookup (client : Client) (call : Call) : Client :=
  let sequence := client.agent.sequence
  { client with
    agent := client.agent.number
    pendingRequests := client.pendingRequests.insert sequence call.type
    lookups := client.lookups ++ [{ call := call, key := sequence }] }

/-- The call of `send_command`, which draws a number of its own. -/
def sendLookup (client : Client) (index : Nat) (lookup : Lookup) (locked : Bool) : Client :=
  let (sent, after) := client.sendCommand locked lookup.call
  if sent then after.setLookup index { lookup with sequence := some client.agent.sequence }
  else
    { after.setLookup index { lookup with result := some [] } with
      pendingRequests := after.pendingRequests.erase lookup.key }

/-- The worker thread: nothing it handles goes to `response_queue_`. -/
def processResponses (client : Client) (locked : Bool) (beyond : Nat → Nat → UInt8) :
    Client × List ResponseEffect :=
  let (handled, responses) :=
    Shm.processResponses client.agent.connected locked client.handlers client.responses beyond
  ({ client with
      responses := responses
      lookups := client.lookups.map fun lookup =>
        handled.foldl (fun lookup response => lookup.hear response.response) lookup },
    handled.flatMap Handled.effects)

/-- The wait of a call ends where there is something in `response_queue_`, or in a timeout where
    there is not. The daemon may leave anything in the shared memory. -/
def step : Runs.Step Client Action ResponseEffect := fun client action =>
  match action with
  | .send call locked => some ((client.sendCommand locked call).2, [])
  | .lookup service instance' eventgroup =>
    if client.agent.connected then
      some (client.lookup (.lookupSubscribers service instance' eventgroup), [])
    else none
  | .sendLookup index locked =>
    match client.lookups[index]? with
    | none => none
    | some lookup =>
      if lookup.sequence = none ∧ lookup.result = none then
        some (client.sendLookup index lookup locked, [])
      else none
  | .daemon commands responses =>
    some ({ client with commands := commands, responses := responses }, [])
  | .processResponses locked beyond => some (client.processResponses locked beyond)
  | .wake index =>
    match client.lookups[index]?, client.responseQueue with
    | some lookup, front :: later =>
      if lookup.sequence ≠ none ∧ lookup.result = none then
        some ({ client.setLookup index { lookup with result := some (parseLookupResult front) } with
          responseQueue := later }, [])
      else none
    | _, _ => none
  | .timeout index =>
    match client.lookups[index]?, client.responseQueue with
    | some lookup, [] =>
      if lookup.sequence ≠ none ∧ lookup.result = none then
        some ({ client.setLookup index { lookup with result := some [] } with
          pendingRequests := client.pendingRequests.erase lookup.key }, [])
      else none
    | _, _ => none

/-- The key that is recorded is the number in the slot, and what is returned is what a well-formed
    answer holds. -/
structure Lookup.Own (lookup : Lookup) : Prop where
  key : ∀ sequence, lookup.sequence = some sequence → lookup.key = sequence
  result : ∀ endpoints returned, WellFormed endpoints →
    lookup.answer = some (encodeEndpoints endpoints) → lookup.result = some returned →
    returned = endpoints

def OwnAnswers (client : Client) : Prop := ∀ lookup ∈ client.lookups, Lookup.Own lookup

/-- The number that a lookup gets into its slot is the one it has drawn before, which takes a whole
    turn of the counter, and no lookup has been answered with endpoints when its time is over. -/
def Matches (client : Client) : Action → Prop
  | .sendLookup index locked => ∀ lookup, client.lookups[index]? = some lookup →
      client.agent.connected = true → locked = true → client.commands.isFull = false →
      lookup.key = client.agent.sequence
  | .timeout index => ∀ lookup, client.lookups[index]? = some lookup →
      ∀ endpoints, WellFormed endpoints → lookup.answer = some (encodeEndpoints endpoints) →
        endpoints = []
  | _ => True

/-- Nothing ever is in `response_queue_`, and only a command in the queue is answered. -/
structure Quiet (client : Client) : Prop where
  empty : client.responseQueue = []
  unasked : ∀ lookup ∈ client.lookups, lookup.sequence = none → lookup.answer = none

theorem hear_fields (lookup : Lookup) (response : Response) :
    (lookup.hear response).key = lookup.key ∧
      (lookup.hear response).sequence = lookup.sequence ∧
      (lookup.hear response).result = lookup.result ∧
      ((lookup.hear response).answer = lookup.answer ∨
        lookup.sequence ≠ none ∧ lookup.result = none) := by
  unfold Lookup.hear
  split
  · rename_i hears
    have asked : lookup.sequence ≠ none := by simp [hears.2.1]
    exact ⟨rfl, rfl, rfl, .inr ⟨asked, hears.2.2.2⟩⟩
  · exact ⟨rfl, rfl, rfl, .inl rfl⟩

theorem heard_fields (lookup : Lookup) (handled : List Handled) :
    let heard := handled.foldl (fun lookup response => lookup.hear response.response) lookup
    heard.key = lookup.key ∧ heard.sequence = lookup.sequence ∧ heard.result = lookup.result ∧
      (heard.answer = lookup.answer ∨ lookup.sequence ≠ none ∧ lookup.result = none) := by
  induction handled generalizing lookup with
  | nil => exact ⟨rfl, rfl, rfl, .inl rfl⟩
  | cons first later ih =>
    obtain ⟨key, sequence, result, answer⟩ := hear_fields lookup first.response
    obtain ⟨laterKey, laterSequence, laterResult, laterAnswer⟩ := ih (lookup.hear first.response)
    refine ⟨laterKey.trans key, laterSequence.trans sequence, laterResult.trans result, ?_⟩
    rw [sequence, result] at laterAnswer
    rcases laterAnswer with same | waits
    · rcases answer with same' | waits
      · exact .inl (same.trans same')
      · exact .inr waits
    · exact .inr waits

theorem own_heard {lookup : Lookup} (own : Lookup.Own lookup) (handled : List Handled) :
    Lookup.Own (handled.foldl (fun lookup response => lookup.hear response.response) lookup) := by
  obtain ⟨key, sequence, result, answer⟩ := heard_fields lookup handled
  constructor
  · rw [key, sequence]
    exact own.key
  · intro endpoints returned formed answered ended
    rw [result] at ended
    rcases answer with same | waits
    · rw [same] at answered
      exact own.result endpoints returned formed answered ended
    · rw [waits.2] at ended
      cases ended

theorem sendCommand_sent (client : Client) (locked : Bool) (call : Call) :
    (client.sendCommand locked call).1 = true ↔
      client.agent.connected = true ∧ locked = true ∧ client.commands.isFull = false :=
  sendCommand_accepted client.commands client.agent locked call.request

theorem sendCommand_rest (client : Client) (locked : Bool) (call : Call) :
    (client.sendCommand locked call).2.lookups = client.lookups ∧
      (client.sendCommand locked call).2.responseQueue = client.responseQueue := ⟨rfl, rfl⟩

theorem forall_set {lookups : List Lookup} {index : Nat} {old new : Lookup}
    {holds : Lookup → Prop} (found : lookups[index]? = some old)
    (all : ∀ lookup ∈ lookups, holds lookup) :
    (∀ lookup ∈ lookups.set index new, holds lookup) ↔ holds new := by
  have inside : index < lookups.length := (List.getElem?_eq_some_iff.mp found).1
  constructor
  · intro every
    exact every new (List.mem_set inside new)
  · intro held lookup member
    rcases List.mem_or_eq_of_mem_set member with before | rfl
    · exact all lookup before
    · exact held

theorem processResponses_rest (client : Client) (locked : Bool) (beyond : Nat → Nat → UInt8) :
    ∃ handled : List Handled, (client.processResponses locked beyond).1.lookups =
        client.lookups.map (fun lookup =>
          handled.foldl (fun lookup response => lookup.hear response.response) lookup) ∧
      (client.processResponses locked beyond).1.responseQueue = client.responseQueue :=
  ⟨_, rfl, rfl⟩

/-- A step that changes one lookup. -/
theorem set_lookups {client next : Client} {index : Nat} {old new : Lookup}
    (quiet : Quiet client) (own : client.OwnAnswers) (found : client.lookups[index]? = some old)
    (lookups : next.lookups = client.lookups.set index new)
    (queue : next.responseQueue = client.responseQueue)
    (unasked : new.sequence = none → new.answer = none) :
    Quiet next ∧ (next.OwnAnswers ↔ Lookup.Own new) := by
  refine ⟨⟨queue.trans quiet.empty, ?_⟩, ?_⟩
  · rw [lookups]
    exact (forall_set found quiet.unasked).mpr unasked
  · rw [OwnAnswers, lookups]
    exact forall_set found own

theorem sendLookup_rest (client : Client) (index : Nat) (lookup : Lookup) (locked : Bool) :
    (client.sendLookup index lookup locked).responseQueue = client.responseQueue ∧
      (client.sendLookup index lookup locked).lookups = client.lookups.set index
        (if (client.sendCommand locked lookup.call).1 then
          { lookup with sequence := some client.agent.sequence }
        else { lookup with result := some [] }) := by
  have rest := sendCommand_rest client locked lookup.call
  change (if (client.sendCommand locked lookup.call).1 then _ else _ : Client).responseQueue = _ ∧
    (if (client.sendCommand locked lookup.call).1 then _ else _ : Client).lookups = _
  split
  · exact ⟨rest.2, congrArg (List.set · index _) rest.1⟩
  · exact ⟨rest.2, congrArg (List.set · index _) rest.1⟩

theorem step_sendLookup {client : Client} {index : Nat} {lookup : Lookup} {locked : Bool}
    (quiet : Quiet client) (own : client.OwnAnswers) (found : client.lookups[index]? = some lookup)
    (unsent : lookup.sequence = none) :
    Quiet (client.sendLookup index lookup locked) ∧
      ((client.sendLookup index lookup locked).OwnAnswers ↔
        Matches client (.sendLookup index locked)) := by
  have unanswered := quiet.unasked lookup (List.mem_of_getElem? found) unsent
  have sends := sendCommand_sent client locked lookup.call
  have same (other : Lookup) (found' : client.lookups[index]? = some other) : lookup = other :=
    Option.some.inj (found.symm.trans found')
  obtain ⟨queue, lookups⟩ := sendLookup_rest client index lookup locked
  by_cases sent : (client.sendCommand locked lookup.call).1 = true
  · rw [if_pos sent] at lookups
    obtain ⟨kept, exactly⟩ := set_lookups quiet own found lookups queue (by simp)
    refine ⟨kept, exactly.trans ?_⟩
    constructor
    · rintro owned other found' - - -
      rw [← same other found']
      exact owned.key _ rfl
    · intro met
      obtain ⟨connected, gotLock, room⟩ := sends.mp sent
      refine ⟨?_, ?_⟩
      · rintro sequence ⟨⟩
        exact met lookup found connected gotLock room
      · intro endpoints returned _ answered
        rw [unanswered] at answered
        cases answered
  · rw [if_neg sent] at lookups
    obtain ⟨kept, exactly⟩ := set_lookups quiet own found lookups queue fun _ => unanswered
    refine ⟨kept, exactly.trans (iff_of_true ⟨?_, ?_⟩ ?_)⟩
    · simp [unsent]
    · intro endpoints returned _ answered
      rw [unanswered] at answered
      cases answered
    · rintro other found' connected gotLock room
      exact (sent (sends.mpr ⟨connected, gotLock, room⟩)).elim

theorem step_timeout {client next : Client} {index : Nat} {lookup : Lookup}
    (quiet : Quiet client) (own : client.OwnAnswers) (found : client.lookups[index]? = some lookup)
    (lookups : next.lookups = client.lookups.set index { lookup with result := some [] })
    (queue : next.responseQueue = client.responseQueue) :
    Quiet next ∧ (next.OwnAnswers ↔ Matches client (.timeout index)) := by
  have member := List.mem_of_getElem? found
  obtain ⟨kept, exactly⟩ := set_lookups quiet own found lookups queue (quiet.unasked lookup member)
  refine ⟨kept, exactly.trans ?_⟩
  constructor
  · intro owned other found' endpoints formed answered
    obtain rfl := Option.some.inj (found.symm.trans found')
    exact (owned.result endpoints [] formed answered rfl).symm
  · intro met
    refine ⟨(own lookup member).key, ?_⟩
    rintro endpoints returned formed answered ⟨⟩
    exact (met lookup found endpoints formed answered).symm

/-- A step keeps the queue empty, and keeps the lookups' own answers exactly when it meets the
    condition. -/
theorem step_lookups {client next : Client} {action : Action} {emitted : List ResponseEffect}
    (quiet : Quiet client) (own : client.OwnAnswers)
    (stepped : step client action = some (next, emitted)) :
    Quiet next ∧ (next.OwnAnswers ↔ Matches client action) := by
  cases action with
  | send call locked =>
    obtain ⟨rfl, -⟩ := Prod.mk.inj (Option.some.inj stepped)
    have rest := sendCommand_rest client locked call
    refine ⟨⟨rest.2.trans quiet.empty, ?_⟩, iff_of_true ?_ True.intro⟩
    · rw [rest.1]
      exact quiet.unasked
    · rw [OwnAnswers, rest.1]
      exact own
  | lookup service instance' eventgroup =>
    simp only [step] at stepped
    split at stepped
    · obtain ⟨rfl, -⟩ := Prod.mk.inj (Option.some.inj stepped)
      refine ⟨⟨quiet.empty, ?_⟩, iff_of_true ?_ True.intro⟩
      · refine List.forall_mem_append.mpr ⟨quiet.unasked, ?_⟩
        simp
      · refine List.forall_mem_append.mpr ⟨own, ?_⟩
        intro lookup new
        obtain rfl := List.mem_singleton.mp new
        exact ⟨by simp, by simp⟩
    · cases stepped
  | sendLookup index locked =>
    simp only [step] at stepped
    split at stepped
    · cases stepped
    · rename_i lookup found
      split at stepped
      · rename_i waits
        obtain ⟨rfl, -⟩ := Prod.mk.inj (Option.some.inj stepped)
        exact step_sendLookup quiet own found waits.1
      · cases stepped
  | daemon commands responses =>
    obtain ⟨rfl, -⟩ := Prod.mk.inj (Option.some.inj stepped)
    exact ⟨⟨quiet.empty, quiet.unasked⟩, iff_of_true own True.intro⟩
  | processResponses locked beyond =>
    have moved : client.processResponses locked beyond = (next, emitted) := Option.some.inj stepped
    obtain ⟨handled, lookups, queue⟩ := processResponses_rest client locked beyond
    rw [moved] at lookups queue
    refine ⟨⟨queue.trans quiet.empty, ?_⟩, iff_of_true ?_ True.intro⟩
    · rw [lookups]
      intro heard member unasked
      obtain ⟨lookup, before, rfl⟩ := List.mem_map.mp member
      obtain ⟨-, sequence, -, answer⟩ := heard_fields lookup handled
      rw [sequence] at unasked
      rcases answer with same | asked
      · exact same.trans (quiet.unasked lookup before unasked)
      · exact (asked.1 unasked).elim
    · rw [OwnAnswers, lookups]
      intro heard member
      obtain ⟨lookup, before, rfl⟩ := List.mem_map.mp member
      exact own_heard (own lookup before) handled
  | wake index =>
    -- the wait finds nothing: `response_queue_` is empty
    simp only [step, quiet.empty] at stepped
    cases found : client.lookups[index]? <;> simp [found] at stepped
  | timeout index =>
    simp only [step, quiet.empty] at stepped
    split at stepped
    · rename_i lookup found _
      split at stepped
      · obtain ⟨rfl, -⟩ := Prod.mk.inj (Option.some.inj stepped)
        exact step_timeout quiet own found rfl rfl
      · cases stepped
    · cases stepped

/-- An agent none of whose lookups has begun. -/
def fresh (agent : ShmAgent) (handlers : Handlers) (commands : Region)
    (responses : ResponseRegion) : Client :=
  { agent := agent, handlers := handlers, commands := commands, responses := responses }

theorem guarded_lookups {start client : Client} {actions : List Action}
    {emitted : List ResponseEffect} (quiet : Quiet start) (own : start.OwnAnswers)
    (guarded : Runs.Guarded step Matches start actions emitted client) :
    Quiet client ∧ client.OwnAnswers := by
  apply guarded.invariant (fun _ _ client => Quiet client ∧ client.OwnAnswers) ⟨quiet, own⟩
  intro _ _ client action next _ before met stepped
  obtain ⟨kept, exactly⟩ := step_lookups before.1 before.2 stepped
  exact ⟨kept, exactly.mpr met⟩

/-- Along a run every lookup has its own answer exactly when every step of the run meets the
    condition. -/
theorem ownAnswers_iff_matches {agent : ShmAgent} {handlers : Handlers} {commands : Region}
    {responses : ResponseRegion} {actions : List Action} {emitted : List ResponseEffect}
    {client : Client}
    (run : Runs.Run step (fresh agent handlers commands responses) actions emitted client) :
    Runs.Always step (fresh agent handlers commands responses)
        (fun _ _ client => client.OwnAnswers) actions ↔
      Runs.Guarded step Matches (fresh agent handlers commands responses) actions emitted
        client := by
  have quiet : Quiet (fresh agent handlers commands responses) := ⟨rfl, by simp [fresh]⟩
  have own : (fresh agent handlers commands responses).OwnAnswers := by simp [OwnAnswers, fresh]
  apply Runs.always_iff_guarded _ _ run
  · intro _ _ client guarded
    exact (guarded_lookups quiet own guarded).2
  · intro _ _ client action next _ guarded stepped owned
    obtain ⟨kept, before⟩ := guarded_lookups quiet own guarded
    exact (step_lookups kept before stepped).2.mp owned

def noCommands : Region := ⟨⟨0, 0, 0, 1⟩, fun _ => 0⟩
def noResponses : ResponseRegion := ⟨⟨0, 0, 0, 1⟩, fun _ => 0⟩

/-- A lookup whose command does not get the lock. -/
def refused : List Action := [.lookup 0x1234 1 0x10, .sendLookup 0 false]

theorem refused_own : ∃ emitted client,
    Runs.Run step (fresh { connected := true } {} noCommands noResponses) refused emitted client ∧
      client.lookups.map Lookup.result = [some []] ∧
      Runs.Always step (fresh { connected := true } {} noCommands noResponses)
        (fun _ _ client => client.OwnAnswers) refused := by
  have begun : Runs.Guarded step Matches (fresh { connected := true } {} noCommands noResponses)
      [.lookup 0x1234 1 0x10] _ _ := Runs.Guarded.head True.intro rfl
  have unlocked : Matches ((fresh { connected := true } {} noCommands noResponses).lookup
      (.lookupSubscribers 0x1234 1 0x10)) (.sendLookup 0 false) := by
    rintro lookup - - ⟨⟩
  have guarded := begun.snoc unlocked rfl
  exact ⟨_, _, guarded.run, rfl, (ownAnswers_iff_matches guarded.run).mpr guarded⟩

def subscriber : Endpoint := ⟨"10.0.0.1", 30509, .udp⟩

/-- The daemon's answer to the command with the number 2. -/
def answer : ResponseRegion :=
  ⟨⟨1, 0, 0, 1⟩, Memory.write (fun _ => 0) 0 (bytes32 2 ++ [RouteResponseType.lookupResult.value] ++
    bytes32 (UInt32.ofNat (encodeEndpoints [subscriber]).length) ++ encodeEndpoints [subscriber])⟩

def answered : List Action :=
  [.lookup 0x1234 1 0x10, .sendLookup 0 true, .daemon noCommands answer,
    .processResponses true (fun _ _ => 0), .timeout 0]

/-- The lookup waits for the number 1, its command has the number 2, and the answer to that is
    dropped. -/
theorem answered_dropped : ∃ emitted client,
    Runs.Run step (fresh { connected := true } {} noCommands noResponses) answered emitted client ∧
      client.lookups = [⟨.lookupSubscribers 0x1234 1 0x10, 1, some 2,
        some (encodeEndpoints [subscriber]), some []⟩] ∧
      ¬ client.OwnAnswers := by
  have executed : (Runs.execute step (fun _ _ => True)
      (fresh { connected := true } {} noCommands noResponses) answered).map
        (fun reached => reached.1.lookups) =
        some [⟨.lookupSubscribers 0x1234 1 0x10, 1, some 2, some (encodeEndpoints [subscriber]),
          some []⟩] := by
    decide +kernel
  obtain ⟨⟨client, emitted⟩, found, lookups⟩ := Option.map_eq_some_iff.mp executed
  refine ⟨emitted, client, Runs.guarded_of_execute found, lookups, ?_⟩
  intro own
  have equal := (own _ (lookups ▸ List.mem_singleton_self _)).key 2 rfl
  cases equal

end Client
end Msomeip.Shm
