import Mathlib.Tactic.Common
import Msomeip.Service.ServiceProxy
import Msomeip.Service.ServiceSkeleton

namespace Msomeip.ServiceSkeleton

open ServiceProxy

variable {Handler : Type}

def Registered (skeleton : ServiceSkeleton) (field : FieldId) (getter : PayloadData)
    (setter : PayloadData → Bool) : Prop :=
  skeleton.fieldGetters[field]? = some (some getter) ∧
    skeleton.fieldSetters[field]? = some (some setter)

theorem registered_registerField (skeleton : ServiceSkeleton) (field : FieldId)
    (eventgroup : EventgroupId) (getter : PayloadData) (setter : PayloadData → Bool) :
    (skeleton.registerField field eventgroup (some getter) (some setter)).Registered field getter
      setter := by
  simp [Registered, registerField, registerFieldGetter, registerFieldSetter]

/-- The message makes the skeleton call the getter of the field, and nothing else. -/
def Gets (skeleton : ServiceSkeleton) (message : Message) (field : FieldId) : Prop :=
  (skeleton.onMessageReceived message).filter Effect.Invocation = [.getterInvoked field]

/-- The message makes the skeleton call the setter of the field, and nothing else; an accepted
    value is followed by a notification for the field. -/
def Sets (skeleton : ServiceSkeleton) (message : Message) (field : FieldId)
    (setter : PayloadData → Bool) (payload : PayloadData) : Prop :=
  (skeleton.onMessageReceived message).filter Effect.Invocation = [.setterInvoked field payload] ∧
    (setter payload = true →
      List.Sublist [.setterInvoked field payload, .notified field payload]
        (skeleton.onMessageReceived message))

theorem handleMethodCall_invocations {skeleton : ServiceSkeleton} {message : Message}
    {effect : Effect} (member : effect ∈ (skeleton.handleMethodCall message).filter Effect.Invocation) :
    ∃ method payload, effect = .methodInvoked method payload := by
  rw [invocations_handleMethodCall] at member
  split at member
  · exact ⟨_, _, List.mem_singleton.mp member⟩
  · cases member

/-- The ids a proxy asks for fields with lack the bit a skeleton knows field accesses by. -/
theorem fieldIds_requests (field : FieldId) :
    getterId field &&& 0x8000 = 0 ∧ setterId field &&& 0x8000 = 0 := by
  have plain : ∀ base : UInt16, base &&& 0x8000 = 0 →
      (base ||| (field &&& 0x00FF)) &&& 0x8000 = 0 := by
    intro base clear
    have low : field &&& 0x00FF &&& 0x8000 = 0 := by
      rw [UInt16.and_assoc]
      exact UInt16.and_zero
    rw [← UInt16.toNat_inj, UInt16.toNat_and] at clear low ⊢
    rw [UInt16.toNat_or, Nat.and_or_distrib_right, clear, low]
    rfl
  exact ⟨plain 0x0100 (by decide), plain 0x0200 (by decide)⟩

theorem request_handled {skeleton : ServiceSkeleton} {message : Message}
    (plain : message.methodId &&& 0x8000 = 0) :
    skeleton.onMessageReceived message = skeleton.handleMethodCall message := by
  simp [onMessageReceived, Message.isRequest, plain]

/-- No request of a proxy reaches the getter or the setter of a field: both are taken for method
    calls. -/
theorem fieldRequests_misdirected (skeleton : ServiceSkeleton) (proxy : ServiceProxy)
    (app : Application Handler) (field : FieldId) (setter : PayloadData → Bool)
    (payload : PayloadData) :
    (∀ request, proxy.getField app field = some request → ¬ skeleton.Gets request field) ∧
      ∀ request, proxy.setField app field payload = some request →
        ¬ skeleton.Sets request field setter payload := by
  obtain ⟨getterPlain, setterPlain⟩ := fieldIds_requests field
  constructor
  · intro request built gets
    obtain ⟨method, -⟩ := callMethod_some built
    rw [Gets, request_handled (by rwa [method])] at gets
    have member := List.mem_singleton_self (Effect.getterInvoked field)
    obtain ⟨_, _, other⟩ := handleMethodCall_invocations (gets ▸ member)
    cases other
  · intro request built sets
    obtain ⟨method, -⟩ := callMethod_some built
    have called := sets.1
    rw [request_handled (by rwa [method])] at called
    have member := List.mem_singleton_self (Effect.setterInvoked field payload)
    obtain ⟨_, _, other⟩ := handleMethodCall_invocations (called ▸ member)
    cases other

def temperature : ServiceSkeleton :=
  ({ serviceId := 0x1234, instanceId := 1 } : ServiceSkeleton).registerField 0x0001 0x0001
    (some [0x2A]) (some fun _ => true)

def client : ServiceProxy := { serviceId := 0x1234, instanceId := 1, available := true }

theorem temperature_misdirected :
    let app : Application Unit := Application.create 1
    (∃ request, client.getField app 0x0001 = some request ∧
      ¬ temperature.Gets request 0x0001) ∧
    ∃ request, client.setField app 0x0001 [0x2B] = some request ∧
      ¬ temperature.Sets request 0x0001 (fun _ => true) [0x2B] := by
  intro app
  obtain ⟨gets, sets⟩ :=
    fieldRequests_misdirected temperature client app 0x0001 (fun _ => true) [0x2B]
  exact ⟨⟨_, rfl, gets _ rfl⟩, ⟨_, rfl, sets _ rfl⟩⟩

theorem temperature_unreadable : ¬ ∀ (skeleton : ServiceSkeleton) (proxy : ServiceProxy)
    (app : Application Unit) (field : FieldId) (getter : PayloadData)
    (setter : PayloadData → Bool) (payload : PayloadData),
    skeleton.Registered field getter setter →
      (∀ request, proxy.getField app field = some request → skeleton.Gets request field) ∧
        ∀ request, proxy.setField app field payload = some request →
          skeleton.Sets request field setter payload := by
  intro all
  have reached := (all temperature client (Application.create 1) 0x0001 [0x2A] (fun _ => true) []
    (registered_registerField _ _ _ _ _)).1 _ rfl
  unfold Gets at reached
  revert reached
  decide +kernel

end Msomeip.ServiceSkeleton
