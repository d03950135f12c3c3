import Mathlib.Data.List.TakeWhile
import Msomeip.Sd.LiveOffers

namespace Msomeip.Sd

open BigEndian

namespace ServiceEntry

/-- The two runs of option indices, each of which may be empty; they may overlap. -/
def refersTo (entry : ServiceEntry) (index : Nat) : Bool :=
  (entry.indexFirstOption.toNat ≤ index &&
      index < entry.indexFirstOption.toNat + entry.numFirstOptions.toNat) ||
    (entry.indexSecondOption.toNat ≤ index &&
      index < entry.indexSecondOption.toNat + entry.numSecondOptions.toNat)

end ServiceEntry

/-- An option on the wire: one of the two kinds that have a class, or one of another kind. -/
inductive WireOption
  | known (option : SdOption)
  | other (type : SdOptionType) (contents : PayloadData)
deriving DecidableEq, Repr

namespace WireOption

def serialize : WireOption → PayloadData
  | known option => option.serialize
  | other type contents => bytes16 (UInt16.ofNat contents.length) ++ [type.value] ++ contents

def Fits : WireOption → Prop
  | known _ => True
  | other type contents => type ≠ .ipv4Endpoint ∧ type ≠ .ipv4Multicast ∧ contents.length < 2 ^ 16

instance : (option : WireOption) → Decidable option.Fits
  | known _ => inferInstanceAs (Decidable True)
  | other _ _ => inferInstanceAs (Decidable (_ ∧ _ ∧ _))

def sdOption : WireOption → Option SdOption
  | known option => some option
  | other _ _ => none

def endpoint (option : WireOption) : Option Endpoint := option.sdOption.bind SdOption.endpoint

end WireOption

/-- The options ahead of the first one of another kind. -/
def ahead (options : List WireOption) : List WireOption :=
  options.takeWhile fun option => option.sdOption.isSome

/-- The endpoints of the endpoint options whose index is chosen, in the order of the options. -/
def endpointsAt (options : List WireOption) (chosen : Nat → Bool) : List Endpoint :=
  (options.zipIdx.filter fun numbered => chosen numbered.2).filterMap fun numbered =>
    numbered.1.endpoint

/-- A message in the documented format, with whatever follows the options array. -/
structure WellFormedSd where
  flags : UInt8
  reserved0 : UInt8
  reserved1 : UInt8
  reserved2 : UInt8
  entries : List ServiceEntry
  options : List WireOption
  trailing : PayloadData
  typed : ∀ entry ∈ entries, entry.type ∈ entryTypes
  fits : ∀ entry ∈ entries, entry.Fits
  optionsFit : ∀ option ∈ options, option.Fits
  entriesRoom : ServiceEntry.entrySize * entries.length < 2 ^ 32
  optionsRoom : (options.flatMap WireOption.serialize).length < 2 ^ 32

namespace WellFormedSd

def encode (frame : WellFormedSd) : PayloadData :=
  encodeSections frame.flags frame.reserved0 frame.reserved1 frame.reserved2 frame.entries
    (frame.options.flatMap WireOption.serialize) frame.trailing

/-- The options that the parser gets to: it stops at the first one it has no class for. -/
def parsed (frame : WellFormedSd) : List SdOption :=
  (ahead frame.options).filterMap WireOption.sdOption

def inReach (frame : WellFormedSd) (index : Nat) : Bool := index < (ahead frame.options).length

/-- What is recorded for the service of each offer are the endpoints its own entry refers to. -/
def KeepsEndpoints (frame : WellFormedSd) (sd : ServiceDiscovery) : Prop :=
  ∀ entry ∈ frame.entries, entry.type = .offerService →
    (sd.getServiceEndpoints entry.serviceId entry.instanceId).Perm
      (endpointsAt frame.options entry.refersTo)

/-- The endpoints that the parser gets to and the entry does not refer to. -/
def leftOut (frame : WellFormedSd) (entry : ServiceEntry) : List Endpoint :=
  endpointsAt frame.options fun index => frame.inReach index && !entry.refersTo index

/-- The endpoints that the entry refers to and the parser does not get to. -/
def outOfReach (frame : WellFormedSd) (entry : ServiceEntry) : List Endpoint :=
  endpointsAt frame.options fun index => entry.refersTo index && !frame.inReach index

end WellFormedSd

theorem endpointsAt_split (options : List WireOption) (chosen kept : Nat → Bool) :
    (endpointsAt options (fun index => chosen index && kept index) ++
      endpointsAt options fun index => chosen index && !kept index).Perm
        (endpointsAt options chosen) := by
  have split := List.filter_append_perm (fun numbered : WireOption × Nat => kept numbered.2)
    (options.zipIdx.filter fun numbered => chosen numbered.2)
  have endpoints := split.filterMap fun numbered => numbered.1.endpoint
  simpa only [endpointsAt, List.filterMap_append, List.filter_filter, Bool.and_comm] using endpoints

theorem filter_before (options : List WireOption) (count start : Nat) :
    ((options.zipIdx start).filter fun numbered => decide (numbered.2 < start + count)).map
      Prod.fst = options.take count := by
  induction options generalizing count start with
  | nil => simp
  | cons option options ih =>
    cases count with
    | zero =>
      have none : ∀ numbered ∈ (option :: options).zipIdx start, ¬ numbered.2 < start := by
        intro numbered member
        have later := List.le_snd_of_mem_zipIdx member
        omega
      simpa using none
    | succ count =>
      have later := ih count (start + 1)
      rw [show start + 1 + count = start + (count + 1) by omega] at later
      simp [List.zipIdx_cons, later]

theorem WellFormedSd.endpointsAt_inReach (frame : WellFormedSd) :
    endpointsAt frame.options frame.inReach = frame.parsed.filterMap SdOption.endpoint := by
  have shortens : ahead frame.options <+: frame.options := List.takeWhile_prefix _
  have front := filter_before frame.options (ahead frame.options).length 0
  rw [Nat.zero_add, ← List.prefix_iff_eq_take.mp shortens] at front
  rw [parsed, List.filterMap_filterMap, ← front, List.filterMap_map]
  rfl

theorem parseOptions_other {memory : Nat → UInt8} {size optionsEnd offset : Nat}
    {type : SdOptionType} {contents : PayloadData} (fits : (WireOption.other type contents).Fits)
    (stands : Tracked.Holds memory offset (WireOption.other type contents).serialize) :
    (parseOptions memory size optionsEnd offset).val = [] := by
  simp only [WireOption.serialize, bytes16, List.cons_append, List.nil_append, Tracked.holds_cons,
    Nat.add_assoc, Nat.reduceAdd] at stands
  have unknown : ¬ SdOption.IPv4At memory offset := by
    intro known
    rcases known.2 with endpoint | multicast
    · exact fits.1 (congrArg SdOptionType.mk (stands.2.2.1.symm.trans endpoint))
    · exact fits.2.1 (congrArg SdOptionType.mk (stands.2.2.1.symm.trans multicast))
  have absent : (SdOption.deserialize memory offset (optionsEnd - offset)).val = none := by
    rw [← Option.not_isSome_iff_eq_none, SdOption.deserialize_isSome_iff]
    exact fun found => unknown found.2
  rw [parseOptions]
  split
  · simp only [Tracked.val_bind, absent, Tracked.val_pure]
  · rfl

theorem parseOptions_ahead {memory : Nat → UInt8} {size optionsEnd offset : Nat}
    {options : List WireOption} (fits : ∀ option ∈ options, option.Fits)
    (stands : Tracked.Holds memory offset (options.flatMap WireOption.serialize))
    (inside : offset + (options.flatMap WireOption.serialize).length = optionsEnd)
    (room : optionsEnd ≤ size) :
    (parseOptions memory size optionsEnd offset).val =
      (ahead options).filterMap WireOption.sdOption := by
  induction options generalizing offset with
  | nil =>
    have finished : ¬ (offset < optionsEnd ∧ offset < size) := by simp at inside; omega
    rw [parseOptions, if_neg finished]
    rfl
  | cons option options ih =>
    rw [List.flatMap_cons, Tracked.holds_append] at stands
    rw [List.flatMap_cons, List.length_append] at inside
    cases option with
    | known option =>
      rw [WireOption.serialize, SdOption.serialize_length] at stands inside
      have later := ih (fun other member => fits other (List.mem_cons_of_mem _ member)) stands.2
        (by omega)
      rw [parseOptions_cons stands.1 (by omega) (by omega), later]
      rfl
    | other type contents =>
      exact parseOptions_other (fits _ List.mem_cons_self) stands.1

/-- Every entry of the message is handled with the options that the parser gets to. -/
theorem WellFormedSd.parse (frame : WellFormedSd) {message : Message}
    (carries : message.payload = some (.ofData frame.encode)) (beyond : Nat → UInt8) :
    (parseSdMessage message beyond).val =
      (frame.entries.map ServiceEntry.received).filterMap (handlerCall frame.parsed) :=
  parse_sections frame.flags frame.reserved0 frame.reserved1 frame.reserved2 frame.trailing
    frame.fits frame.entriesRoom frame.optionsRoom
    (fun _ _ _ stands room => parseOptions_ahead frame.optionsFit stands rfl room) carries beyond

/-- The handling of a received entry; an offer is handled with these options. -/
def Action.Hears (options : List SdOption) : Action → Prop
  | .handle (.offerService _ parsed) _ => parsed = options
  | .handle _ _ => True
  | _ => False

theorem handlerCall_hears {options : List SdOption} {entry : ServiceEntry} {call : HandlerCall}
    (called : handlerCall options entry = some call) (moment : Moment) :
    (Action.handle call moment).Hears options := by
  unfold handlerCall at called
  split_ifs at called <;> cases called
  exacts [True.intro, rfl, True.intro, True.intro]

namespace ServiceDiscovery

theorem endpoints_perform {options : List SdOption} {action : Action}
    (hears : action.Hears options) (sd : ServiceDiscovery) (service : ServiceId)
    (instance' : InstanceId) :
    (sd.perform action).1.getServiceEndpoints service instance' =
      if (action.offerFor (service, instance')).isSome then options.filterMap SdOption.endpoint
      else sd.getServiceEndpoints service instance' := by
  cases action with
  | handle call moment =>
    cases call with
    | offerService entry parsed =>
      obtain rfl : parsed = options := hears
      simp only [perform, handle, handleOfferService, updateServiceInfo, getServiceEndpoints,
        Maps.lookup_insert, Action.offerFor, offeredInfo]
      by_cases same : (entry.serviceId, entry.instanceId) = (service, instance')
      · simp only [if_pos same, Option.isSome_some, if_true]
      · simp only [if_neg same, Option.isSome_none, Bool.false_eq_true, if_false]
    | subscribeEventgroup entry parsed =>
      simp only [perform, handle, getServiceEndpoints, discovered_handleSubscribeEventgroup]
      rfl
    | _ => rfl
  | _ => exact hears.elim

/-- Whatever was offered in between has the endpoints of all the options; what was not offered is
    as it was. -/
theorem endpoints_run {options : List SdOption} {start sd : ServiceDiscovery}
    {actions : List Action} {effects : List Effect} (run : Runs.Run step start actions effects sd)
    (hears : ∀ action ∈ actions, action.Hears options) (service : ServiceId)
    (instance' : InstanceId) :
    sd.getServiceEndpoints service instance' =
      if (latestOffer actions (service, instance')).isSome then
        options.filterMap SdOption.endpoint
      else start.getServiceEndpoints service instance' := by
  have guarded := run.guarded_iff.mpr hears
  apply guarded.invariant fun actions _ sd => sd.getServiceEndpoints service instance' =
    if (latestOffer actions (service, instance')).isSome then options.filterMap SdOption.endpoint
    else start.getServiceEndpoints service instance'
  · rfl
  · intro actions _ sd action next emitted earlier heard stepped
    obtain ⟨rfl, -⟩ := step_some stepped
    rw [endpoints_perform heard, earlier, latestOffer_snoc]
    cases action.offerFor (service, instance') with
    | some entry => rfl
    | none => rfl

end ServiceDiscovery

namespace WellFormedSd

variable (frame : WellFormedSd) {message : Message}

theorem handlers_hear (carries : message.payload = some (.ofData frame.encode))
    (beyond : Nat → UInt8) (moments : Nat → Moment) :
    ∀ action ∈ (ServiceDiscovery.handlersOf message beyond moments).map
      fun (call, moment) => Action.handle call moment, action.Hears frame.parsed := by
  intro action member
  rw [ServiceDiscovery.handlersOf, frame.parse carries, List.mem_map] at member
  obtain ⟨⟨call, moment⟩, handled, rfl⟩ := member
  obtain ⟨index, inside, indexed⟩ := List.mem_mapIdx.mp handled
  obtain ⟨rfl, -⟩ := Prod.mk.inj indexed
  obtain ⟨entry, -, called⟩ := List.mem_filterMap.mp (List.getElem_mem inside)
  exact handlerCall_hears called moment

theorem offer_handled (carries : message.payload = some (.ofData frame.encode))
    (beyond : Nat → UInt8) (moments : Nat → Moment) {entry : ServiceEntry}
    (contained : entry ∈ frame.entries) (offer : entry.type = .offerService) :
    (latestOffer ((ServiceDiscovery.handlersOf message beyond moments).map
      fun (call, moment) => Action.handle call moment)
      (entry.serviceId, entry.instanceId)).isSome := by
  have same : entry.received.type = .offerService := offer
  have called : handlerCall frame.parsed entry.received =
      some (.offerService entry.received frame.parsed) := by
    rw [handlerCall, same]
    rfl
  have parsed : .offerService entry.received frame.parsed ∈
      (parseSdMessage message beyond).val := by
    rw [frame.parse carries]
    exact List.mem_filterMap.mpr ⟨_, List.mem_map_of_mem contained, called⟩
  obtain ⟨index, inside, found⟩ := List.getElem_of_mem parsed
  have handled : (.offerService entry.received frame.parsed, moments index) ∈
      ServiceDiscovery.handlersOf message beyond moments :=
    List.mem_mapIdx.mpr ⟨index, inside, by rw [found]⟩
  have offered : (Action.handle (.offerService entry.received frame.parsed)
      (moments index)).offerFor (entry.serviceId, entry.instanceId) = some entry.received :=
    if_pos rfl
  rw [latestOffer, List.getLast?_isSome]
  exact List.ne_nil_of_mem (List.mem_filterMap.mpr ⟨_, List.mem_map_of_mem handled, offered⟩)

/-- Every offer of a message is recorded with every endpoint that the parser gets to. -/
theorem endpoints_recorded (sd : ServiceDiscovery)
    (carries : message.payload = some (.ofData frame.encode)) (beyond : Nat → UInt8)
    (moments : Nat → Moment) {entry : ServiceEntry} (contained : entry ∈ frame.entries)
    (offer : entry.type = .offerService) :
    (sd.processSdMessage message beyond moments).1.getServiceEndpoints entry.serviceId
      entry.instanceId = endpointsAt frame.options frame.inReach := by
  have run := sd.processSdMessage_run message beyond moments
  rw [ServiceDiscovery.endpoints_run run (frame.handlers_hear carries beyond moments),
    if_pos (frame.offer_handled carries beyond moments contained offer), endpointsAt_inReach]

theorem inReach_perm_iff (entry : ServiceEntry) :
    (endpointsAt frame.options frame.inReach).Perm (endpointsAt frame.options entry.refersTo) ↔
      (frame.leftOut entry).Perm (frame.outOfReach entry) := by
  have recorded := endpointsAt_split frame.options frame.inReach entry.refersTo
  have referred := endpointsAt_split frame.options entry.refersTo frame.inReach
  have common : (fun index => entry.refersTo index && frame.inReach index) =
      fun index => frame.inReach index && entry.refersTo index :=
    funext fun index => Bool.and_comm _ _
  rw [common] at referred
  constructor
  · intro same
    exact (List.perm_append_left_iff _).mp (recorded.trans (same.trans referred.symm))
  · intro same
    exact recorded.symm.trans (((List.perm_append_left_iff _).mpr same).trans referred)

/-- The offers of a message keep their own endpoints exactly when what each leaves out ahead of the
    first option of another kind is what it refers to from there on. -/
theorem keepsEndpoints_iff (sd : ServiceDiscovery)
    (carries : message.payload = some (.ofData frame.encode)) (beyond : Nat → UInt8)
    (moments : Nat → Moment) :
    frame.KeepsEndpoints (sd.processSdMessage message beyond moments).1 ↔
      ∀ entry ∈ frame.entries, entry.type = .offerService →
        (frame.leftOut entry).Perm (frame.outOfReach entry) := by
  apply forall₃_congr
  intro entry contained offer
  rw [frame.endpoints_recorded sd carries beyond moments contained offer, frame.inReach_perm_iff]

theorem mem_endpointsAt {options : List WireOption} {chosen : Nat → Bool} {endpoint : Endpoint} :
    endpoint ∈ endpointsAt options chosen ↔ ∃ index option,
      options[index]? = some option ∧ chosen index ∧ option.endpoint = some endpoint := by
  simp only [endpointsAt, List.mem_filterMap, List.mem_filter, Prod.exists,
    List.mk_mem_zipIdx_iff_getElem?]
  grind

/-- Where every option has a class, an entry keeps its own endpoints exactly when it refers to every
    endpoint option of the message. -/
theorem leftOut_perm_outOfReach_iff (known : ∀ option ∈ frame.options, option.sdOption.isSome)
    (entry : ServiceEntry) :
    (frame.leftOut entry).Perm (frame.outOfReach entry) ↔
      ∀ index option, frame.options[index]? = some option → option.endpoint.isSome →
        entry.refersTo index := by
  have whole : ahead frame.options = frame.options := List.takeWhile_eq_self_iff.mpr known
  have reached : ∀ index option, frame.options[index]? = some option → frame.inReach index := by
    intro index option found
    rw [inReach, whole]
    exact decide_eq_true (List.getElem?_eq_some_iff.mp found).1
  have none : frame.outOfReach entry = [] := by
    rw [List.eq_nil_iff_forall_not_mem]
    intro endpoint member
    obtain ⟨index, option, found, chosen, -⟩ := mem_endpointsAt.mp member
    simp [reached index option found] at chosen
  rw [none, List.perm_nil, List.eq_nil_iff_forall_not_mem]
  constructor
  · intro covered index option found isEndpoint
    obtain ⟨endpoint, isEndpoint⟩ := Option.isSome_iff_exists.mp isEndpoint
    by_contra unreferred
    apply covered endpoint
    exact mem_endpointsAt.mpr
      ⟨index, option, found, by simp [reached index option found, unreferred], isEndpoint⟩
  · intro covers endpoint member
    obtain ⟨index, option, found, chosen, isEndpoint⟩ := mem_endpointsAt.mp member
    simp [covers index option found (by simp [isEndpoint])] at chosen

def secondEndpoint : SdOption := .ipv4Endpoint ⟨⟨192, 168, 1, 2⟩, 30510, .tcp⟩

/-- Two offers of different services, around the same two endpoint options. -/
def twoOffers (first second : ServiceEntry) (fits : first.Fits ∧ second.Fits)
    (offers : first.type = .offerService ∧ second.type = .offerService) : WellFormedSd where
  flags := 0xC0
  reserved0 := 0
  reserved1 := 0
  reserved2 := 0
  entries := [first, second]
  options := [.known offerEndpoint, .known secondEndpoint]
  trailing := []
  typed := by simp [offers.1, offers.2, entryTypes]
  fits := by simp [fits.1, fits.2]
  optionsFit := by decide
  entriesRoom := (by decide : 16 * 2 < 2 ^ 32)
  optionsRoom := by decide

/-- Each offer has one of the options. -/
def ownEndpoints : WellFormedSd :=
  twoOffers offerEntry
    { ServiceEntry.createOfferService 0x1235 0x0001 1 0 3 with
      indexFirstOption := 1, numFirstOptions := 1 }
    (by decide) (by decide)

/-- Each offer has both options: one as a single run, one as two. -/
def sharedEndpoints : WellFormedSd :=
  twoOffers { offerEntry with numFirstOptions := 2 }
    { ServiceEntry.createOfferService 0x1235 0x0001 1 0 3 with
      indexFirstOption := 1, numFirstOptions := 1, indexSecondOption := 0, numSecondOptions := 2 }
    (by decide) (by decide)

theorem sharedEndpoints_kept : sharedEndpoints.KeepsEndpoints
    ((ServiceDiscovery.create {}).processSdMessage
      { payload := some (.ofData sharedEndpoints.encode) } (fun _ => 0) fun _ => ⟨0, true⟩).1 :=
  (sharedEndpoints.keepsEndpoints_iff _ rfl _ _).mpr (by decide)

theorem ownEndpoints_not_kept : ¬ ∀ (frame : WellFormedSd) (sd : ServiceDiscovery)
    (message : Message), message.payload = some (.ofData frame.encode) → ∀ beyond moments,
      frame.KeepsEndpoints (sd.processSdMessage message beyond moments).1 := by
  intro all
  have first : offerEntry ∈ ownEndpoints.entries := List.mem_cons_self
  have kept := all ownEndpoints (.create {}) { payload := some (.ofData ownEndpoints.encode) } rfl
    (fun _ => 0) (fun _ => ⟨0, true⟩) offerEntry first rfl
  rw [ownEndpoints.endpoints_recorded _ rfl _ _ first rfl] at kept
  revert kept
  decide

end WellFormedSd

end Msomeip.Sd
