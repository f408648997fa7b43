import CallingService.Backend.Call.MembershipTimes
import CallingService.Foundation.Timeline

/-!
# The time of a call

Before its clients change, a call adds the time since the last change to the
bucket of the number of its active clients.  An operation that moves several
clients does so more than once, but after the first time no time has passed.
-/

namespace CallingService.Backend

open Foundation Rtp

variable {externals : CallExternals}

namespace CallTimeStats

/-- The bucket of a number of active clients. -/
def bucket (stats : CallTimeStats) : Nat → Duration
  | 0 => stats.empty
  | 1 => stats.solo
  | 2 => stats.pair
  | _ => stats.many

def total (stats : CallTimeStats) : Duration :=
  stats.empty + stats.solo + stats.pair + stats.many

end CallTimeStats

/-- The numbers of active clients have the same bucket. -/
def SameBucket (first second : Nat) : Prop := min first 3 = min second 3

instance (first : Nat) : DecidablePred (SameBucket first) :=
  fun second => inferInstanceAs (Decidable (min first 3 = min second 3))

namespace Call

theorem bucket_addCallTime (stats : CallTimeStats) (clientCount other : Nat)
    (increment : Duration) :
    (addCallTime stats clientCount increment).bucket other =
      stats.bucket other +
        if SameBucket other clientCount then increment else 0 := by
  rcases clientCount with _ | _ | _ | clientCount <;>
    rcases other with _ | _ | _ | other <;>
    simp [SameBucket, addCallTime, CallTimeStats.bucket]

theorem total_addCallTime (stats : CallTimeStats) (clientCount : Nat)
    (increment : Duration) :
    (addCallTime stats clientCount increment).total =
      stats.total + increment := by
  unfold addCallTime CallTimeStats.total
  split
  · dsimp only
    ac_rfl
  · dsimp only
    ac_rfl
  · dsimp only
    ac_rfl
  · dsimp only
    ac_rfl

end Call

/-! ## Charging once -/

namespace Ledger

/-- The time of the call, and until when it is accounted for. -/
def account (ledger : Ledger) : CallTimeStats × Instant :=
  (ledger.callTime, ledger.clientAddedOrRemoved)

theorem account_charge_congr {ledger other : Ledger}
    (same : ledger.account = other.account) (clientCount : Nat)
    (now : Instant) :
    (ledger.charge clientCount now).account =
      (other.charge clientCount now).account := by
  have sameTime : ledger.callTime = other.callTime := congrArg Prod.fst same
  have sameMoment : ledger.clientAddedOrRemoved =
      other.clientAddedOrRemoved := congrArg Prod.snd same
  unfold charge account
  dsimp only
  rw [sameTime, sameMoment]

theorem account_recalculate (ledger : Ledger)
    (newActiveSpeaker : Option DemuxId) (now : Instant) :
    (ledger.recalculate newActiveSpeaker now).account = ledger.account := by
  unfold recalculate
  split
  · rfl
  · rfl

theorem account_noteUpdate (ledger : Ledger) (now : Instant) :
    (ledger.noteUpdate now).account = ledger.account := by
  unfold noteUpdate
  split
  · rfl
  · rfl

theorem RequestsNoted.account {before after : Ledger}
    (noted : before.RequestsNoted after) : after.account = before.account := by
  obtain ⟨_, _, rfl⟩ := noted
  rfl

end Ledger

namespace Call

/-- The number of active clients stays, or the time is charged with the number
before the operation. -/
inductive Charges (now : Instant) (before after : Call externals) : Prop where
  | kept : after.clients.length = before.clients.length →
      after.ledger.account = before.ledger.account → Charges now before after
  | charged : after.ledger.account =
      (before.ledger.charge before.clients.length now).account →
      Charges now before after

theorem length_clients_of_roster {before after : Call externals}
    (same : after.roster = before.roster) :
    after.clients.length = before.clients.length := by
  have lengths := congrArg (fun roster => roster.active.length) same
  simpa [roster] using lengths

namespace Charges

variable {now : Instant} {first second third before after : Call externals}

theorem refl (call : Call externals) : Charges now call call := .kept rfl rfl

theorem of_same (roster : after.roster = before.roster)
    (ledger : after.ledger = before.ledger) : Charges now before after :=
  .kept (length_clients_of_roster roster) (congrArg Ledger.account ledger)

theorem trans (one : Charges now first second)
    (two : Charges now second third) : Charges now first third := by
  cases one with
  | kept sameCount sameAccount =>
      cases two with
      | kept laterCount laterAccount =>
          exact .kept (laterCount.trans sameCount)
            (laterAccount.trans sameAccount)
      | charged account =>
          rw [sameCount, Ledger.account_charge_congr sameAccount] at account
          exact .charged account
  | charged account =>
      cases two with
      | kept _ laterAccount => exact .charged (laterAccount.trans account)
      | charged again =>
          rw [Ledger.account_charge_congr account, Ledger.charge_charge]
            at again
          exact .charged again

end Charges

theorem charges_addClient (call : Call externals) (demuxId : DemuxId)
    (userId : UserId) (isAdmin : Bool) (regionRelation : RegionRelation)
    (now : Instant) :
    Charges now call
      (call.addClient demuxId userId isAdmin regionRelation now).2 := by
  have ledger := @ledger_addClient _ now call demuxId userId isAdmin
    regionRelation
  by_cases blocked : userId ∈ call.blockedUsers
  · rw [if_pos blocked] at ledger
    refine .kept ?_ (congrArg Ledger.account ledger)
    simp [addClient, blocked]
  · rw [if_neg blocked] at ledger
    exact .charged (congrArg Ledger.account ledger)

theorem messageRelation_charges (now : Instant) :
    MessageRelation now (@Charges externals now) where
  refl := Charges.refl
  trans := Charges.trans
  handleVideoRequest := fun call sender request =>
    .of_same (call.roster_handleVideoRequest sender request now)
      (call.ledger_handleVideoRequest sender request now)
  setMrpStream := fun _ _ _ =>
    .of_same (roster_modifyClient fun _ => rfl) rfl
  approvePendingClient := by
    intro call target
    cases found : call.findPending target with
    | none =>
        simp only [approvePendingClient, found]
        exact .refl call
    | some client =>
        apply Charges.charged
        rw [ledger_approvePendingClient, found, Option.isSome_some, if_pos rfl]
  denyPendingClient := by
    intro call target
    cases found : call.findPending target with
    | none =>
        simp only [denyPendingClient, found]
        exact .refl call
    | some client =>
        apply Charges.charged
        rw [ledger_denyPendingClient, found, Option.isSome_some, if_pos rfl]
  forceRemoveClient := by
    intro call target
    cases removed : call.removeClient target now with
    | none =>
        simp only [forceRemoveClient, removed]
        exact .refl call
    | some pair =>
        apply Charges.charged
        rw [ledger_forceRemoveClient, removed]
        rfl
  blockClient := by
    intro call target
    cases found : call.findClient target with
    | none =>
        simp only [blockClient, found]
        exact .refl call
    | some client =>
        apply Charges.charged
        rw [ledger_blockClient found]
        rfl
  dropClient := by
    intro call demuxId
    cases removed : call.removeClient demuxId now with
    | none =>
        have dropped : (call.dropClient demuxId now).ledger =
            (call.dropNonParticipant demuxId now).ledger := by
          rw [ledger_dropClient, removed]
        cases position :
            call.pendingClients.findIdx? (·.demuxId = demuxId) with
        | none =>
            rw [ledger_dropNonParticipant, position] at dropped
            refine .kept ?_ (congrArg Ledger.account dropped)
            have lowered : (call.dropClient demuxId now).clients.length =
                (call.dropNonParticipant demuxId now).clients.length := by
              unfold dropClient
              rw [removed]
              exact length_clients_of_roster (roster_lowerRaisedHand _ _ _)
            rw [lowered, clients_dropNonParticipant]
        | some index =>
            apply Charges.charged
            rw [dropped, ledger_dropNonParticipant, position,
              Option.isSome_some, if_pos rfl]
    | some pair =>
        apply Charges.charged
        rw [ledger_dropClient, removed]
        rfl
  handleRaiseHand := fun call message sender =>
    .of_same (call.roster_handleRaiseHand now message sender)
      (call.ledger_handleRaiseHand now message sender)

end Call

/-! ## Operations -/

variable {messaging : ServerMessaging externals}
variable {before after : Call externals}

/-- What an operation does to the account, if it has a time. -/
theorem charges_of_step {operation : CallOperation externals} {now : Instant}
    (step : OperationStep messaging before operation after)
    (timed : operation.time = some now) : Call.Charges now before after := by
  cases operation with
  | event event =>
      cases timed
      cases event with
      | addClient demuxId userId isAdmin regionRelation now =>
          rw [show after = _ from step]
          exact before.charges_addClient demuxId userId isAdmin regionRelation
            now
      | dropClient demuxId now =>
          rw [show after = _ from step]
          exact (Call.messageRelation_charges now).dropClient before demuxId
      | handleDeviceToSfu proto sender now =>
          rw [show after = _ from step]
          exact (Call.messageRelation_charges now).handleDeviceToSfu before
            proto sender
      | handleMediaRtp sender incomingRtp now result =>
          exact .of_same (Call.roster_handleMediaRtp step)
            (Call.ledger_handleMediaRtp step)
      | tickForwarding now =>
          rw [show after = _ from step]
          refine .kept (Call.length_clients_of_roster
            (before.roster_tickForwarding now)) ?_
          rw [Call.ledger_tickForwarding, Ledger.account_recalculate]
  | setTargetSendRate receiver newTargetSendRate now =>
      rw [show after = _ from step]
      exact .of_same (before.roster_setTargetSendRate receiver
        newTargetSendRate _) (before.ledger_setTargetSendRate receiver
          newTargetSendRate _)
  | setOutgoingQueueDrainRate receiver outgoingQueueDrainRate => cases timed
  | handleKeyFrameRequests requester keyFrameRequests now =>
      rw [show after = _ from step]
      exact .kept (Call.length_clients_of_roster
        (before.roster_handleKeyFrameRequests requester keyFrameRequests _))
        (before.requestsNoted_handleKeyFrameRequests requester
          keyFrameRequests _).account
  | tick now sent =>
      have noted := Call.ledger_tick step
      have counted := (Call.continues_tick step).roster.active.length_eq
      refine .kept ?_ ?_
      · simpa [Call.roster] using counted.symm
      · rw [noted.account, Ledger.account_noteUpdate,
          Ledger.account_recalculate]

/-- An operation without a time changes no client and no account. -/
theorem kept_of_untimed {operation : CallOperation externals}
    (step : OperationStep messaging before operation after)
    (untimed : operation.time = none) :
    after.clients.length = before.clients.length ∧
      after.ledger.account = before.ledger.account := by
  cases operation with
  | setOutgoingQueueDrainRate receiver outgoingQueueDrainRate =>
      rw [show after = _ from step]
      exact ⟨Call.length_clients_of_roster
        (before.roster_setOutgoingQueueDrainRate receiver
          outgoingQueueDrainRate), rfl⟩
  | _ => cases untimed

/-! ## Runs -/

/-- A run, with the number of active clients from the time of each operation
on. -/
inductive ActiveCounts (messaging : ServerMessaging externals)
    (start : Call externals) : List (CallOperation externals) →
      Call externals → List (Instant × Nat) → Prop where
  | nil : ActiveCounts messaging start [] start []
  | timed {operations : List (CallOperation externals)}
      {before after : Call externals} {counts : List (Instant × Nat)}
      {operation : CallOperation externals} {now : Instant} :
      ActiveCounts messaging start operations before counts →
      OperationStep messaging before operation after →
      operation.time = some now →
      ActiveCounts messaging start (operations ++ [operation]) after
        (counts ++ [(now, after.clients.length)])
  | untimed {operations : List (CallOperation externals)}
      {before after : Call externals} {counts : List (Instant × Nat)}
      {operation : CallOperation externals} :
      ActiveCounts messaging start operations before counts →
      OperationStep messaging before operation after →
      operation.time = none →
      ActiveCounts messaging start (operations ++ [operation]) after counts

/-- How many clients are active at a moment; a new call has none. -/
def activeClientsAt (counts : List (Instant × Nat)) (moment : Instant) : Nat :=
  Timeline.valueAt 0 counts moment

/-- The account is about the time until the last change, since which the number
of active clients is what it is now. -/
structure Accounted (created : Instant) (counts : List (Instant × Nat))
    (call : Call externals) : Prop where
  begun : created ≤ call.clientAddedOrRemoved
  total : created + call.callTime.total = call.clientAddedOrRemoved
  buckets : ∀ clientCount, call.callTime.bucket clientCount =
    Timeline.timeWith (SameBucket clientCount) (activeClientsAt counts)
      created call.clientAddedOrRemoved
  current : ∀ moment, call.clientAddedOrRemoved ≤ moment →
    activeClientsAt counts moment = call.clients.length

namespace Accounted

variable {created now : Instant} {counts : List (Instant × Nat)}

theorem activeClientsAt_before {clientCount moment : Nat}
    (early : moment < now) :
    activeClientsAt (counts ++ [(now, clientCount)]) moment =
      activeClientsAt counts moment := by
  unfold activeClientsAt
  rw [Timeline.valueAt_snoc, if_neg (Nat.not_le_of_lt early)]

theorem activeClientsAt_after {clientCount moment : Nat}
    (late : now ≤ moment) :
    activeClientsAt (counts ++ [(now, clientCount)]) moment = clientCount := by
  unfold activeClientsAt
  rw [Timeline.valueAt_snoc, if_pos late]

theorem kept (accounted : Accounted created counts before)
    (ordered : before.clientAddedOrRemoved ≤ now)
    (sameCount : after.clients.length = before.clients.length)
    (sameAccount : after.ledger.account = before.ledger.account) :
    Accounted created (counts ++ [(now, after.clients.length)]) after := by
  have sameTime : after.callTime = before.callTime :=
    congrArg Prod.fst sameAccount
  have sameMoment : after.clientAddedOrRemoved =
      before.clientAddedOrRemoved := congrArg Prod.snd sameAccount
  constructor
  · rw [sameMoment]
    exact accounted.begun
  · rw [sameMoment, sameTime]
    exact accounted.total
  · intro clientCount
    rw [sameMoment, sameTime, accounted.buckets]
    apply Timeline.timeWith_congr
    intro moment early
    exact (activeClientsAt_before (Nat.lt_of_lt_of_le early ordered)).symm
  · intro moment late
    rw [sameMoment] at late
    by_cases atNow : now ≤ moment
    · exact activeClientsAt_after atNow
    · rw [activeClientsAt_before (Nat.lt_of_not_le atNow), sameCount]
      exact accounted.current moment late

theorem charged (accounted : Accounted created counts before)
    (ordered : before.clientAddedOrRemoved ≤ now)
    (account : after.ledger.account =
      (before.ledger.charge before.clients.length now).account) :
    Accounted created (counts ++ [(now, after.clients.length)]) after := by
  have time : after.callTime = Call.addCallTime before.callTime
      before.clients.length (now - before.clientAddedOrRemoved) :=
    congrArg Prod.fst account
  have moment : after.clientAddedOrRemoved = now := congrArg Prod.snd account
  constructor
  · rw [moment]
    exact Nat.le_trans accounted.begun ordered
  · rw [moment, time, Call.total_addCallTime, ← Nat.add_assoc,
      accounted.total]
    exact Nat.add_sub_cancel' ordered
  · intro clientCount
    have later : Timeline.timeWith (SameBucket clientCount)
        (activeClientsAt counts) before.clientAddedOrRemoved now =
        if SameBucket clientCount before.clients.length then
          now - before.clientAddedOrRemoved
        else 0 := by
      apply Timeline.timeWith_of_constant
      exact fun moment late _ => accounted.current moment late
    rw [moment, time, Call.bucket_addCallTime, accounted.buckets, ← later,
      ← Timeline.timeWith_add _ _ accounted.begun ordered]
    apply Timeline.timeWith_congr
    intro moment early
    exact (activeClientsAt_before early).symm
  · intro other late
    rw [moment] at late
    exact activeClientsAt_after late

theorem charges (accounted : Accounted created counts before)
    (ordered : before.clientAddedOrRemoved ≤ now)
    (charges : Call.Charges now before after) :
    Accounted created (counts ++ [(now, after.clients.length)]) after := by
  cases charges with
  | kept sameCount sameAccount =>
      exact accounted.kept ordered sameCount sameAccount
  | charged account => exact accounted.charged ordered account

/-- Nothing has changed, and no time is known to have passed. -/
theorem of_untimed (accounted : Accounted created counts before)
    (sameCount : after.clients.length = before.clients.length)
    (sameAccount : after.ledger.account = before.ledger.account) :
    Accounted created counts after := by
  have sameTime : after.callTime = before.callTime :=
    congrArg Prod.fst sameAccount
  have sameMoment : after.clientAddedOrRemoved =
      before.clientAddedOrRemoved := congrArg Prod.snd sameAccount
  obtain ⟨begun, total, buckets, current⟩ := accounted
  constructor
  · rw [sameMoment]
    exact begun
  · rw [sameMoment, sameTime]
    exact total
  · rw [sameMoment, sameTime]
    exact buckets
  · rw [sameMoment, sameCount]
    exact current

theorem of_isNewCall {start : Call externals} (isNew : IsNewCall start) :
    Accounted start.clientAddedOrRemoved [] start := by
  obtain ⟨_, _, _, _, _, _, _, _, _, _, rfl⟩ := isNew
  constructor
  · exact Nat.le_refl _
  · rfl
  · intro clientCount
    unfold Timeline.timeWith
    rw [Finset.Ico_self, Finset.filter_empty, Finset.card_empty]
    unfold CallTimeStats.bucket
    split
    · rfl
    · rfl
    · rfl
    · rfl
  · exact fun _ _ => rfl

end Accounted

variable {start finish : Call externals} {counts : List (Instant × Nat)}
variable {operations : List (CallOperation externals)}

/-- The times of the operations do not decrease from the creation on. -/
def TimesNondecreasing (start : Call externals)
    (operations : List (CallOperation externals)) : Prop :=
  (start.clientAddedOrRemoved ::
    operations.filterMap CallOperation.time).Pairwise (· ≤ ·)

theorem accounted_of_run (isNew : IsNewCall start)
    (run : ActiveCounts messaging start operations finish counts)
    (ordered : TimesNondecreasing start operations) :
    Accounted start.clientAddedOrRemoved counts finish ∧
      finish.clientAddedOrRemoved ∈ start.clientAddedOrRemoved ::
        operations.filterMap CallOperation.time := by
  induction run with
  | nil => exact ⟨.of_isNewCall isNew, List.mem_cons_self⟩
  | @timed operations before after counts operation now _ step timed ih =>
      unfold TimesNondecreasing at ordered
      rw [List.filterMap_append, ← List.cons_append] at ordered
      obtain ⟨earlier, _, later⟩ := List.pairwise_append.mp ordered
      obtain ⟨accounted, known⟩ := ih earlier
      have single : [operation].filterMap CallOperation.time = [now] := by
        simp [timed]
      rw [single] at later
      have inOrder := later _ known now (List.mem_singleton_self now)
      have charges := charges_of_step step timed
      refine ⟨accounted.charges inOrder charges, ?_⟩
      rw [List.filterMap_append, ← List.cons_append, single]
      cases charges with
      | kept _ sameAccount =>
          have sameMoment : after.clientAddedOrRemoved =
              before.clientAddedOrRemoved := congrArg Prod.snd sameAccount
          rw [sameMoment]
          exact List.mem_append_left _ known
      | charged account =>
          have atNow : after.clientAddedOrRemoved = now :=
            congrArg Prod.snd account
          rw [atNow]
          exact List.mem_append_right _ (List.mem_singleton_self now)
  | @untimed operations before after counts operation _ step untimed ih =>
      have noTime : [operation].filterMap CallOperation.time = [] := by
        simp [untimed]
      unfold TimesNondecreasing at ordered
      rw [List.filterMap_append, noTime, List.append_nil] at ordered ⊢
      obtain ⟨accounted, known⟩ := ih ordered
      obtain ⟨sameCount, sameAccount⟩ := kept_of_untimed step untimed
      have sameMoment : after.clientAddedOrRemoved =
          before.clientAddedOrRemoved := congrArg Prod.snd sameAccount
      rw [sameMoment]
      exact ⟨accounted.of_untimed sameCount sameAccount, known⟩

/-- The buckets are the times with no, one, two and more active clients from
the creation of the call to the last change. -/
theorem call_time_of_run (isNew : IsNewCall start)
    (run : ActiveCounts messaging start operations finish counts)
    (ordered : TimesNondecreasing start operations) :
    finish.callTime.empty + finish.callTime.solo + finish.callTime.pair +
        finish.callTime.many =
      finish.clientAddedOrRemoved - start.clientAddedOrRemoved ∧
    finish.callTime.empty = Timeline.timeWith (· = 0)
      (activeClientsAt counts) start.clientAddedOrRemoved
        finish.clientAddedOrRemoved ∧
    finish.callTime.solo = Timeline.timeWith (· = 1)
      (activeClientsAt counts) start.clientAddedOrRemoved
        finish.clientAddedOrRemoved ∧
    finish.callTime.pair = Timeline.timeWith (· = 2)
      (activeClientsAt counts) start.clientAddedOrRemoved
        finish.clientAddedOrRemoved ∧
    finish.callTime.many = Timeline.timeWith (3 ≤ ·)
      (activeClientsAt counts) start.clientAddedOrRemoved
        finish.clientAddedOrRemoved := by
  have accounted := (accounted_of_run isNew run ordered).1
  have total : finish.callTime.total =
      finish.clientAddedOrRemoved - start.clientAddedOrRemoved :=
    Nat.eq_sub_of_add_eq' accounted.total
  refine ⟨total, (accounted.buckets 0).trans ?_,
    (accounted.buckets 1).trans ?_, (accounted.buckets 2).trans ?_,
    (accounted.buckets 3).trans ?_⟩
  · apply Timeline.timeWith_of_iff
    unfold SameBucket
    omega
  · apply Timeline.timeWith_of_iff
    unfold SameBucket
    omega
  · apply Timeline.timeWith_of_iff
    unfold SameBucket
    omega
  · apply Timeline.timeWith_of_iff
    unfold SameBucket
    omega

/-! ## A concrete run -/

def aliceAlone : Call directExternals :=
  (moderatedCall.addClient (DemuxId.fromSsrc 80) "alice" true .unknown 1).2

def twoDevices : Call directExternals :=
  (aliceAlone.addClient (DemuxId.fromSsrc 96) "bob" true .unknown 3).2

/-- Two of the devices are of the same user. -/
def threeDevices : Call directExternals :=
  (twoDevices.addClient (DemuxId.fromSsrc 112) "bob" true .unknown 3).2

def blocksBob : DeviceToSfu :=
  { DeviceToSfu.default with block := [⟨some 96⟩] }

/-- Alice removes both devices by one message. -/
def bobBlocked : Call directExternals :=
  (threeDevices.handleDeviceToSfu blocksBob (DemuxId.fromSsrc 80) 7).2

theorem activeCounts_bobBlocked :
    ActiveCounts directMessaging moderatedCall
      [.event (.addClient (DemuxId.fromSsrc 80) "alice" true .unknown 1),
        .event (.addClient (DemuxId.fromSsrc 96) "bob" true .unknown 3),
        .event (.addClient (DemuxId.fromSsrc 112) "bob" true .unknown 3),
        .event (.handleDeviceToSfu blocksBob (DemuxId.fromSsrc 80) 7)]
      bobBlocked
      [(1, aliceAlone.clients.length), (3, twoDevices.clients.length),
        (3, threeDevices.clients.length), (7, bobBlocked.clients.length)] := by
  have first : OperationStep directMessaging moderatedCall
      (.event (.addClient (DemuxId.fromSsrc 80) "alice" true .unknown 1))
      aliceAlone := rfl
  have second : OperationStep directMessaging aliceAlone
      (.event (.addClient (DemuxId.fromSsrc 96) "bob" true .unknown 3))
      twoDevices := rfl
  have third : OperationStep directMessaging twoDevices
      (.event (.addClient (DemuxId.fromSsrc 112) "bob" true .unknown 3))
      threeDevices := rfl
  have last : OperationStep directMessaging threeDevices
      (.event (.handleDeviceToSfu blocksBob (DemuxId.fromSsrc 80) 7))
      bobBlocked := rfl
  exact .timed (.timed (.timed (.timed .nil first rfl) second rfl) third rfl)
    last rfl

/-- Nobody is active for one nanosecond, one client for two, and three for
four. -/
theorem call_time_of_run_bob_blocked :
    ∃ counts : List (Instant × Nat),
      bobBlocked.callTime.empty + bobBlocked.callTime.solo +
          bobBlocked.callTime.pair + bobBlocked.callTime.many = 7 ∧
      bobBlocked.callTime.many =
        Timeline.timeWith (3 ≤ ·) (activeClientsAt counts) 0 7 ∧
      bobBlocked.callTime.many = 4 := by
  have ordered : TimesNondecreasing moderatedCall
      [.event (.addClient (DemuxId.fromSsrc 80) "alice" true .unknown 1),
        .event (.addClient (DemuxId.fromSsrc 96) "bob" true .unknown 3),
        .event (.addClient (DemuxId.fromSsrc 112) "bob" true .unknown 3),
        .event (.handleDeviceToSfu blocksBob (DemuxId.fromSsrc 80) 7)] := by
    change List.Pairwise _ [0, 1, 3, 3, 7]
    decide
  have lastChange : bobBlocked.clientAddedOrRemoved = 7 := by decide +kernel
  have created : moderatedCall.clientAddedOrRemoved = 0 := rfl
  obtain ⟨total, _, _, _, many⟩ := call_time_of_run isNewCall_moderatedCall
    activeCounts_bobBlocked ordered
  rw [lastChange, created] at total many
  exact ⟨_, total, many, by decide +kernel⟩

end CallingService.Backend
