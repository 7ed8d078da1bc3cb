import Atlas.Lib.EventMachine
import Mathlib.Data.List.Perm.Basic

/-! # Notifications that are sent again

A push notification that Firebase does not accept is remembered: its token goes into the retry set,
under the monitor of the service. From time to time a task sends to all tokens of the set again. It
holds the monitor meanwhile, calls `sendPushNotification` for each token, and clears the set at the
end. A token whose notification fails again was added by the nested call, to the set that is then
cleared, so it is forgotten.

Calls of `sendPushNotification` run in threads of their own: their sends return at any time, and
what they add waits for the monitor. The model interleaves them with the task, one event for each
send and for each change of the set.

Reference: `FirebaseServiceImpl.java`.
-/

namespace Atlas.Cloud

open EventMachine

/-- How `FirebaseMessaging.send` ends. The service catches the first kind of exception only. -/
inductive SendResult where
  | delivered
  | firebaseMessagingException
  | otherException
deriving DecidableEq

/-- What the calls share, with the last result of each token. -/
structure FirebaseService where
  retrySet : List String := []
  /-- the most recent send to the token failed -/
  lastFailed : String → Bool := fun _ => false
  /-- calls whose send failed and that have not added their token yet -/
  adding : List String := []
  /-- the tokens that a running `sendRetryNotifications` has still to send to -/
  retrying : Option (List String) := none

/-- What a thread does next. -/
inductive FirebaseEvent where
  /-- the send of a call of `sendPushNotification` returns -/
  | send (firebaseToken : String) (result : SendResult)
  /-- the call enters the monitor and adds its token -/
  | add (firebaseToken : String)
  /-- `sendRetryNotifications` enters the monitor; the set is iterated in this order -/
  | enterRetry (order : List String)
  /-- the send for the next token returns -/
  | resend (result : SendResult)
  /-- after the last token -/
  | leaveRetry
deriving DecidableEq

namespace FirebaseService

/-- A send to a token has returned. -/
def record (service : FirebaseService) (firebaseToken : String) (result : SendResult) :
    FirebaseService :=
  { service with
    lastFailed := fun t => if t = firebaseToken then result ≠ .delivered else service.lastFailed t }

/-- `sendPushNotification` called by the retry task, which holds the monitor already. An exception
that is not caught ends the iteration before the set is cleared. -/
def resend (service : FirebaseService) (firebaseToken : String) (rest : List String) :
    SendResult → FirebaseService
  | .delivered => { service.record firebaseToken .delivered with retrying := some rest }
  | .firebaseMessagingException =>
    { service.record firebaseToken .firebaseMessagingException with
      retrySet := service.retrySet.insert firebaseToken
      retrying := some rest }
  | .otherException =>
    { service.record firebaseToken .otherException with
      retrySet := service.retrySet.insert firebaseToken
      retrying := none }

/-- One event. What needs the monitor does not happen while the retry task holds it. -/
def step (service : FirebaseService) : FirebaseEvent → FirebaseService × List Empty
  | .send firebaseToken .delivered => (service.record firebaseToken .delivered, [])
  | .send firebaseToken result =>
    ({ service.record firebaseToken result with adding := firebaseToken :: service.adding }, [])
  | .add firebaseToken =>
    if service.retrying = none ∧ firebaseToken ∈ service.adding then
      ({ service with
        retrySet := service.retrySet.insert firebaseToken
        adding := service.adding.erase firebaseToken }, [])
    else (service, [])
  | .enterRetry order =>
    if service.retrying = none ∧ order.Perm service.retrySet then
      ({ service with retrying := some order }, [])
    else (service, [])
  | .resend result =>
    match service.retrying with
    | some (firebaseToken :: rest) => (service.resend firebaseToken rest result, [])
    | _ => (service, [])
  | .leaveRetry =>
    if service.retrying = some [] then ({ service with retrySet := [], retrying := none }, [])
    else (service, [])

/-- No call is under way. -/
def BetweenCalls (service : FirebaseService) : Prop := service.adding = [] ∧ service.retrying = none

/-- Between calls, a token whose most recent send failed is in the retry set. -/
def Remembers (service : FirebaseService) : Prop :=
  service.BetweenCalls → ∀ t, service.lastFailed t = true → t ∈ service.retrySet

/-- The event is not a notification that the retry task cannot deliver again. -/
def NotRefusedAgain (_ : FirebaseService) (e : FirebaseEvent) : Prop :=
  e ≠ .resend .firebaseMessagingException

instance (service : FirebaseService) (e : FirebaseEvent) : Decidable (service.NotRefusedAgain e) :=
  inferInstanceAs (Decidable (e ≠ .resend .firebaseMessagingException))

/-! ## Where a token is kept -/

/-- A token is about to be added by its call, or in the set; while the set is iterated, it is one of
those still to be sent to. -/
def Held (service : FirebaseService) (t : String) : Prop :=
  t ∈ service.adding ∨ t ∈ service.retrying.getD service.retrySet

/-- Every token whose most recent send failed is held, and the tokens that are iterated are in the
set. -/
structure HoldsFailed (service : FirebaseService) : Prop where
  held : ∀ t, service.lastFailed t = true → service.Held t
  iterated : ∀ t ∈ service.retrying.getD [], t ∈ service.retrySet

theorem HoldsFailed.remembers {service : FirebaseService} (h : service.HoldsFailed) :
    service.Remembers := by
  rintro ⟨hadding, hretrying⟩ t ht
  have hheld := h.held t ht
  rw [Held, hadding, hretrying] at hheld
  exact hheld.resolve_left List.not_mem_nil

section

variable {service : FirebaseService} {t firebaseToken : String} {result : SendResult}

theorem lastFailed_record_self :
    (service.record firebaseToken result).lastFailed firebaseToken = decide (result ≠ .delivered) :=
  if_pos rfl

theorem lastFailed_record_of_ne (h : t ≠ firebaseToken) :
    (service.record firebaseToken result).lastFailed t = service.lastFailed t :=
  if_neg h

/-- After a send that was delivered, a failed token is another one. -/
theorem of_lastFailed_record_delivered
    (h : (service.record firebaseToken .delivered).lastFailed t = true) :
    t ≠ firebaseToken ∧ service.lastFailed t = true := by
  by_cases hne : t = firebaseToken
  · rw [hne, lastFailed_record_self] at h
    cases h
  · exact ⟨hne, lastFailed_record_of_ne hne ▸ h⟩

/-- After any send, a failed token is that of the send or was one before. -/
theorem of_lastFailed_record (h : (service.record firebaseToken result).lastFailed t = true) :
    t = firebaseToken ∨ service.lastFailed t = true := by
  by_cases hne : t = firebaseToken
  · exact Or.inl hne
  · exact Or.inr (lastFailed_record_of_ne hne ▸ h)

end

section

variable {service : FirebaseService}

theorem HoldsFailed.record_delivered (h : service.HoldsFailed) (firebaseToken : String) :
    (service.record firebaseToken .delivered).HoldsFailed where
  held t ht := h.held t (of_lastFailed_record_delivered ht).2
  iterated := h.iterated

/-- A call whose send failed is about to add its token. -/
theorem HoldsFailed.send (h : service.HoldsFailed) (firebaseToken : String) (result : SendResult) :
    { service.record firebaseToken result with
      adding := firebaseToken :: service.adding }.HoldsFailed where
  held t ht := by
    obtain rfl | hbefore := of_lastFailed_record ht
    · exact Or.inl List.mem_cons_self
    · exact (h.held t hbefore).imp_left (List.mem_cons_of_mem _)
  iterated := h.iterated

theorem HoldsFailed.add (h : service.HoldsFailed) (hfree : service.retrying = none)
    (firebaseToken : String) :
    { service with
      retrySet := service.retrySet.insert firebaseToken
      adding := service.adding.erase firebaseToken }.HoldsFailed where
  held t ht := by
    have hheld := h.held t ht
    rw [Held, hfree] at hheld
    by_cases hne : t = firebaseToken
    · right
      rw [hne, hfree]
      exact List.mem_insert_self
    · refine hheld.imp (List.mem_erase_of_ne hne).mpr fun hmem => ?_
      rw [hfree]
      exact List.mem_insert_of_mem hmem
  iterated t ht := List.mem_insert_of_mem (h.iterated t ht)

theorem HoldsFailed.enterRetry (h : service.HoldsFailed) (hfree : service.retrying = none)
    {order : List String} (horder : order.Perm service.retrySet) :
    { service with retrying := some order }.HoldsFailed where
  held t ht := by
    have hheld := h.held t ht
    rw [Held, hfree] at hheld
    exact hheld.imp_right horder.mem_iff.mpr
  iterated t ht := horder.mem_iff.mp ht

/-- A token that was sent to again is no longer among those to be sent to, which is right as long as
it was delivered. -/
theorem HoldsFailed.resend (h : service.HoldsFailed) {firebaseToken : String} {rest : List String}
    (hretrying : service.retrying = some (firebaseToken :: rest)) {result : SendResult}
    (hresult : result ≠ .firebaseMessagingException) :
    (service.resend firebaseToken rest result).HoldsFailed := by
  have hiterated : ∀ t ∈ firebaseToken :: rest, t ∈ service.retrySet := by
    have := h.iterated
    rwa [hretrying] at this
  have hheld (t : String) (ht : service.lastFailed t = true) :
      t ∈ service.adding ∨ t ∈ firebaseToken :: rest := by
    have := h.held t ht
    rwa [Held, hretrying] at this
  cases result with
  | delivered =>
    refine ⟨fun t ht => ?_, fun t ht => hiterated t (List.mem_cons_of_mem _ ht)⟩
    obtain ⟨hne, hbefore⟩ := of_lastFailed_record_delivered ht
    exact (hheld t hbefore).imp_right fun hmem => (List.mem_cons.mp hmem).resolve_left hne
  | firebaseMessagingException => exact absurd rfl hresult
  | otherException =>
    refine ⟨fun t ht => ?_, nofun⟩
    obtain rfl | hbefore := of_lastFailed_record ht
    · exact Or.inr List.mem_insert_self
    · exact (hheld t hbefore).imp_right fun hmem => List.mem_insert_of_mem (hiterated t hmem)

/-- When nothing is left to be sent to, the set is not needed any more. -/
theorem HoldsFailed.leaveRetry (h : service.HoldsFailed) (hretrying : service.retrying = some []) :
    { service with retrySet := [], retrying := none }.HoldsFailed where
  held t ht := by
    have hheld := h.held t ht
    rwa [Held, hretrying] at hheld
  iterated := nofun

theorem HoldsFailed.step (h : service.HoldsFailed) {e : FirebaseEvent}
    (he : service.NotRefusedAgain e) : (service.step e).1.HoldsFailed := by
  cases e with
  | send firebaseToken result =>
    cases result with
    | delivered => exact h.record_delivered firebaseToken
    | firebaseMessagingException => exact h.send firebaseToken .firebaseMessagingException
    | otherException => exact h.send firebaseToken .otherException
  | add firebaseToken =>
    rw [FirebaseService.step]
    split
    case isTrue hadd => exact h.add hadd.1 firebaseToken
    case isFalse => exact h
  | enterRetry order =>
    rw [FirebaseService.step]
    split
    case isTrue henter => exact h.enterRetry henter.1 henter.2
    case isFalse => exact h
  | resend result =>
    rw [FirebaseService.step]
    split
    case h_1 firebaseToken rest hretrying =>
      exact h.resend hretrying fun hresult => he (congrArg FirebaseEvent.resend hresult)
    case h_2 => exact h
  | leaveRetry =>
    rw [FirebaseService.step]
    split
    case isTrue hretrying => exact h.leaveRetry hretrying
    case isFalse => exact h

end

/-- In every interleaving in which the retry task has no notification refused again, a token whose
most recent send failed is in the retry set between any two calls. -/
theorem remembers_of_notRefusedAgain (es : List FirebaseEvent)
    (h : AllSteps step NotRefusedAgain {} es) : AllStates step Remembers {} es :=
  allStates_of_invariant (I := HoldsFailed) (fun _ _ hheld he => hheld.step he)
    (fun _ hheld => hheld.remembers) ⟨nofun, nofun⟩ h

/-- A notification fails, is added, and is delivered by the retry task, while another one fails. -/
theorem remembers_two_tokens :
    AllStates step Remembers {}
      [.send "phone" .firebaseMessagingException, .add "phone", .enterRetry ["phone"],
        .send "tablet" .firebaseMessagingException, .resend .delivered, .leaveRetry,
        .add "tablet"] :=
  remembers_of_notRefusedAgain _ (by decide)

/-- A notification fails again in the retry task, and its token is forgotten. -/
theorem forgotten_when_refused_again :
    (run step {} [.send "phone" .firebaseMessagingException, .add "phone", .enterRetry ["phone"],
      .resend .firebaseMessagingException, .leaveRetry]).BetweenCalls ∧
    (run step {} [.send "phone" .firebaseMessagingException, .add "phone", .enterRetry ["phone"],
      .resend .firebaseMessagingException, .leaveRetry]).lastFailed "phone" = true ∧
    (run step {} [.send "phone" .firebaseMessagingException, .add "phone", .enterRetry ["phone"],
      .resend .firebaseMessagingException, .leaveRetry]).retrySet = [] := by
  refine ⟨⟨?_, ?_⟩, ?_, ?_⟩ <;> decide

end FirebaseService

end Atlas.Cloud
