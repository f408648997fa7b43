import CallingService.Backend.Rtp.ControlEndpoint
import CallingService.Backend.Rtp.EndpointRun

/-!
# SRTCP indices

The packets of all kinds of control sends carry increasing indices, and so
their nonces differ; at `2 ^ 31` the sends stop.
-/

namespace CallingService.Backend.Rtp

open Foundation

/-- The one counter of the control packets. -/
def indexCounter (index : UInt32) : Unit → Nat := fun _ => index.toNat

/-- What a control send emits while the index moves from `before` to
`after`. -/
structure Emits (aead : Aead) (keys : KeyAndSalt) (before : UInt32)
    (packets : List Bytes) (after : UInt32) : Prop where
  issued : Issued (indexCounter before)
    (packets.map fun packet => ((), (ControlPacket.srtcpIndex packet).toNat))
    (indexCounter after)
  sealed : ∀ packet ∈ packets, ControlPacket.Sealed aead keys packet

namespace Emits

variable {aead : Aead} {keys : KeyAndSalt} {before middle after : UInt32}
variable {packets later : List Bytes}

theorem nil (index : UInt32) : Emits aead keys index [] index where
  issued := .nil
  sealed := fun _ member => absurd member List.not_mem_nil

theorem append (first : Emits aead keys before packets middle)
    (second : Emits aead keys middle later after) :
    Emits aead keys before (packets ++ later) after where
  issued := by
    rw [List.map_append]
    exact first.issued.append second.issued
  sealed := by
    intro packet member
    rcases List.mem_append.mp member with inFirst | inSecond
    · exact first.sealed packet inFirst
    · exact second.sealed packet inSecond

theorem single {profile : BuildProfile} {index next : UInt32} {packet : Bytes}
    (sealed : ControlPacket.Sealed aead keys packet)
    (same : ControlPacket.srtcpIndex packet = index)
    (small : index.toNat < 2 ^ 31)
    (incremented : profile.addU32 index 1 = .ok next) :
    Emits aead keys index [packet] next where
  issued := by
    have moved : indexCounter next =
        Function.update (indexCounter index) () (indexCounter index () + 1) := by
      funext key
      cases key
      rw [Function.update_self, BuildProfile.addU32_eq_ok incremented]
      unfold indexCounter
      rw [UInt32.toNat_add]
      exact Nat.mod_eq_of_lt (by change index.toNat + 1 < 2 ^ 32; omega)
    rw [moved, List.map_singleton, same]
    exact .single (indexCounter index) ()
  sealed := by
    intro other member
    rw [List.mem_singleton.mp member]
    exact sealed

theorem index_lt (emits : Emits aead keys before packets after)
    {packet : Bytes} (member : packet ∈ packets) :
    (ControlPacket.srtcpIndex packet).toNat < 2 ^ 31 := by
  obtain ⟨_, _, _, _, _, computed, _⟩ := emits.sealed packet member
  exact (rtcpIv_eq_some computed).1

theorem pairwise_index (emits : Emits aead keys before packets after) :
    (packets.map ControlPacket.srtcpIndex).Pairwise (· < ·) := by
  have ordered := List.pairwise_map.mp emits.issued.pairwise_lt
  rw [List.pairwise_map]
  apply ordered.imp
  intro left right less
  exact UInt32.lt_iff_toNat_lt.mpr (less rfl)

/-- From `2 ^ 31` on nothing is emitted. -/
theorem eq_nil (emits : Emits aead keys before packets after)
    (exhausted : 2 ^ 31 ≤ before.toNat) : packets = [] := by
  cases packets with
  | nil => rfl
  | cons packet rest =>
      have small := emits.index_lt List.mem_cons_self
      have large := emits.issued.ge_of_mem
        (List.mem_map_of_mem (f := fun packet =>
          ((), (ControlPacket.srtcpIndex packet).toNat)) List.mem_cons_self)
      change before.toNat ≤ _ at large
      omega

end Emits

/-! ## The sends -/

section Sends

variable {profile : BuildProfile} {aead : Aead} {keys : KeyAndSalt}

/-- What `encrypt` returns for the SSRC in the header, with the next index. -/
theorem emits_of_encrypt {packet serialized : Bytes} {senderSsrc : Ssrc}
    {index next : UInt32}
    (named : ControlPacket.senderSsrc packet = senderSsrc)
    (encrypted : ControlPacket.encrypt aead packet senderSsrc index keys =
      .ok (some serialized))
    (incremented : profile.addU32 index 1 = .ok next) :
    Emits aead keys index [serialized] next := by
  subst named
  obtain ⟨sealed, same, small⟩ := ControlPacket.encrypt_eq_some encrypted
  exact .single sealed same small incremented

theorem emits_of_sendRtcpAndIncrementIndex {pt countOrFormat : UInt8}
    {isPadded : Bool} {senderSsrc : Ssrc} {payload : Bytes}
    {index next : UInt32} {packet : Option Bytes}
    (sent : sendRtcpAndIncrementIndex profile aead pt countOrFormat isPadded
      senderSsrc payload index keys = .ok (next, packet)) :
    Emits aead keys index packet.toList next := by
  obtain ⟨serialized, encrypted, later⟩ := bind_eq_ok_iff.mp sent
  cases serialized with
  | none =>
      cases later
      exact .nil index
  | some bytes =>
      obtain ⟨incremented, added, returned⟩ := bind_eq_ok_iff.mp later
      cases returned
      unfold ControlPacket.serializeAndEncrypt at encrypted
      dsimp only at encrypted
      rw [List.append_assoc _ payload, List.append_assoc _ (toBigEndian 4 _)]
        at encrypted
      refine emits_of_encrypt ?_ encrypted added
      exact ControlPacket.senderSsrc_of_bytes _ _ (by simp)

end Sends

namespace ControlEndpoint

/-- A control send leaves the keys and the numbers of media packets alone. -/
structure Sends (aead : Aead) (before : ControlEndpoint)
    (packets : List Bytes) (after : ControlEndpoint) : Prop where
  encrypt : after.encrypt = before.encrypt
  rtxSender : after.rtxSender = before.rtxSender
  emits : Emits aead before.encrypt.rtcp before.nextOutgoingSrtcpIndex packets
    after.nextOutgoingSrtcpIndex

namespace Sends

variable {aead : Aead} {before middle after : ControlEndpoint}
variable {packets later : List Bytes}

theorem nothing (encrypt : after.encrypt = before.encrypt)
    (rtxSender : after.rtxSender = before.rtxSender)
    (index : after.nextOutgoingSrtcpIndex = before.nextOutgoingSrtcpIndex) :
    Sends aead before [] after where
  encrypt := encrypt
  rtxSender := rtxSender
  emits := by
    rw [index]
    exact .nil _

theorem trans (first : Sends aead before packets middle)
    (second : Sends aead middle later after) :
    Sends aead before (packets ++ later) after where
  encrypt := second.encrypt.trans first.encrypt
  rtxSender := second.rtxSender.trans first.rtxSender
  emits := by
    have emits := second.emits
    rw [first.encrypt] at emits
    exact first.emits.append emits

end Sends

section Functions

variable {profile : BuildProfile} {aead : Aead}
variable {before after : ControlEndpoint}

theorem emits_sendAckPackets {rtcpSenderSsrc : Ssrc} {keys : KeyAndSalt}
    {asked : Nat} {writer finish : Tcc.FeedbackWriter} {index next : UInt32}
    {packets : List Bytes}
    (sent : sendAckPackets profile aead rtcpSenderSsrc keys asked writer
      index = .ok (finish, next, packets)) :
    Emits aead keys index packets next := by
  induction asked generalizing writer index packets with
  | zero =>
      cases sent
      exact .nil _
  | succ asked ih =>
      obtain ⟨written, _, later⟩ := bind_eq_ok_iff.mp sent
      cases written with
      | none =>
          cases later
          exact .nil _
      | some result =>
          obtain ⟨one, sealed, more⟩ := bind_eq_ok_iff.mp later
          obtain ⟨rest, others, returned⟩ := bind_eq_ok_iff.mp more
          cases returned
          exact (emits_of_sendRtcpAndIncrementIndex sealed).append (ih others)

theorem sends_sendAcks {asked : Nat} {packets : List Bytes}
    (sent : before.sendAcks profile aead asked = .ok (after, packets)) :
    Sends aead before packets after := by
  obtain ⟨⟨writer, index, emitted⟩, written, returned⟩ :=
    bind_eq_ok_iff.mp sent
  cases returned
  exact ⟨rfl, rfl, emits_sendAckPackets written⟩

theorem sends_sendNack {ssrc : Ssrc}
    {seqnums : Option (List FullSequenceNumber)} {packet : Option Bytes}
    (sent : before.sendNack profile aead ssrc seqnums = .ok (after, packet)) :
    Sends aead before packet.toList after := by
  cases seqnums with
  | none =>
      cases sent
      exact .nothing rfl rfl rfl
  | some missing =>
      obtain ⟨one, sealed, returned⟩ := bind_eq_ok_iff.mp sent
      cases returned
      exact ⟨rfl, rfl, emits_of_sendRtcpAndIncrementIndex sealed⟩

theorem sends_sendNacks {now : Instant} {rtt : Duration}
    {visited : List Ssrc} {packets : List Bytes}
    (sent : sendNacks profile aead now rtt visited before =
      .ok (after, packets)) : Sends aead before packets after := by
  induction visited generalizing before packets with
  | nil =>
      cases sent
      exact .nothing rfl rfl rfl
  | cons ssrc visited ih =>
      unfold sendNacks at sent
      split at sent
      · exact ih sent
      · rename_i state found
        obtain ⟨⟨nackSender, seqnums⟩, _, later⟩ := bind_eq_ok_iff.mp sent
        obtain ⟨one, nack, more⟩ := bind_eq_ok_iff.mp later
        obtain ⟨rest, others, returned⟩ := bind_eq_ok_iff.mp more
        cases returned
        have marked : Sends aead before [] (before.setState ssrc
            { state with nackSender := nackSender }) :=
          .nothing rfl rfl rfl
        exact (marked.trans (sends_sendNack nack)).trans (ih others)

theorem sends_sendPli {pliSsrc : Ssrc} {packet : Option Bytes}
    (sent : before.sendPli profile aead pliSsrc = .ok (after, packet)) :
    Sends aead before packet.toList after := by
  obtain ⟨one, sealed, returned⟩ := bind_eq_ok_iff.mp sent
  cases returned
  exact ⟨rfl, rfl, emits_of_sendRtcpAndIncrementIndex sealed⟩

/-! ### Reports -/

/-- The block of an SSRC begins with its number, after the header. -/
def BeginsWith (ssrc : Ssrc) (bytes : Bytes) : Prop :=
  ∃ header rest, header.length = rtcpHeaderLength ∧
    bytes = header ++ (toBigEndian 4 ssrc.toNat ++ rest)

theorem beginsWith_bytes {written : RtcpReportSender.WrittenBlock}
    {ssrc : Ssrc} {rest : Bytes}
    (block : written.block = toBigEndian 4 ssrc.toNat ++ rest)
    (long : 4 ≤ written.reportLength) : BeginsWith ssrc written.bytes := by
  refine ⟨written.header.write, rest.take (written.reportLength - 4),
    RtcpHeader.length_write _, ?_⟩
  unfold RtcpReportSender.WrittenBlock.bytes
  rw [block, List.take_append, length_toBigEndian,
    List.take_of_length_le (by rw [length_toBigEndian]; exact long)]

theorem beginsWith_writeReportBlock {report : RtcpReportSender}
    {history : SenderReportHistory} {ssrc : Ssrc} {now : Instant}
    {written : RtcpReportSender.WrittenBlock}
    (wrote : report.writeReportBlock profile history ssrc now =
      .ok (some written)) : BeginsWith ssrc written.bytes := by
  have senderLong : 4 ≤ SenderInfo.length := by decide
  have receiverLong : 4 ≤ rtcpReceiverReportBlockLen := by decide
  unfold RtcpReportSender.writeReportBlock at wrote
  split at wrote
  · cases wrote
  · rename_i payloadType due
    split at wrote
    · cases wrote
      exact beginsWith_bytes rfl senderLong
    · rename_i notSender
      split at wrote
      · obtain ⟨block, received, returned⟩ := bind_eq_ok_iff.mp wrote
        cases returned
        obtain ⟨maxSeqnum, inLast, isMax, isInLast⟩ :=
          RtcpReportSender.received_of_payloadType due notSender
        unfold RtcpReportSender.writeReceiverReportBlock at received
        rw [isMax, isInLast] at received
        obtain ⟨fraction, _, receivedReturned⟩ := bind_eq_ok_iff.mp received
        cases receivedReturned
        exact beginsWith_bytes rfl receiverLong
      · cases wrote

theorem sends_writeReports {now : Instant} {order : List Ssrc}
    {blocks : List (Ssrc × Bytes)}
    (wrote : writeReports profile now order before = .ok (after, blocks)) :
    Sends aead before [] after ∧
      ∀ block ∈ blocks, BeginsWith block.1 block.2 := by
  induction order generalizing before blocks with
  | nil =>
      cases wrote
      exact ⟨.nothing rfl rfl rfl, fun _ member =>
        absurd member List.not_mem_nil⟩
  | cons ssrc order ih =>
      unfold writeReports at wrote
      split at wrote
      · exact ih wrote
      · rename_i state found
        obtain ⟨written, block, later⟩ := bind_eq_ok_iff.mp wrote
        cases written with
        | none => exact ih later
        | some written =>
            obtain ⟨rest, others, returned⟩ := bind_eq_ok_iff.mp later
            cases returned
            obtain ⟨sends, begin⟩ := ih others
            have one : Sends aead before []
                (before.setReport ssrc state written) :=
              .nothing rfl rfl rfl
            refine ⟨one.trans sends, ?_⟩
            intro entry member
            rcases List.mem_cons.mp member with rfl | inRest
            · exact beginsWith_writeReportBlock block
            · exact begin entry inRest

/-- The nonce of a compound packet is made of the SSRC in its first header. -/
theorem senderSsrc_of_reports {blocks : List (Ssrc × Bytes)} {capacity : Nat}
    (begin : ∀ block ∈ blocks, BeginsWith block.1 block.2) :
    ControlPacket.senderSsrc (blocks.flatMap Prod.snd ++
        List.replicate (capacity - (blocks.flatMap Prod.snd).length) 0) =
      (blocks.head?.map Prod.fst).getD 0 := by
  cases blocks with
  | nil =>
      unfold ControlPacket.senderSsrc
      rw [List.flatMap_nil, List.nil_append, List.drop_replicate,
        List.take_replicate, fromBigEndian_replicate_zero]
      rfl
  | cons block rest =>
      obtain ⟨header, tail, length, split⟩ := begin block List.mem_cons_self
      rw [List.flatMap_cons, split, List.append_assoc, List.append_assoc,
        List.append_assoc]
      exact ControlPacket.senderSsrc_of_bytes block.1 _ length

theorem sends_sendRtcpReport {order : List Ssrc} {spare : Nat} {now : Instant}
    {packet : Option Bytes}
    (sent : before.sendRtcpReport profile aead order spare now =
      .ok (after, packet)) : Sends aead before packet.toList after := by
  unfold sendRtcpReport at sent
  split at sent
  · cases sent
    exact .nothing rfl rfl rfl
  · obtain ⟨⟨written, blocks⟩, wrote, encrypting⟩ := bind_eq_ok_iff.mp sent
    obtain ⟨reports, begin⟩ := sends_writeReports wrote
    obtain ⟨encrypted, sealed, later⟩ := bind_eq_ok_iff.mp encrypting
    apply reports.trans
    cases encrypted with
    | none =>
        cases later
        exact .nothing rfl rfl rfl
    | some serialized =>
        obtain ⟨incremented, added, returned⟩ := bind_eq_ok_iff.mp later
        cases returned
        exact ⟨rfl, rfl,
          emits_of_encrypt (senderSsrc_of_reports begin) sealed added⟩

end Functions

end ControlEndpoint

/-! ## Runs -/

inductive ControlEvent where
  | sendAcks (asked : Nat) (packets : List Bytes)
  | sendNacks (visited : List Ssrc) (now : Instant) (rtt : Duration)
      (packets : List Bytes)
  | sendPli (pliSsrc : Ssrc) (packet : Option Bytes)
  | sendRtcpReport (order : List Ssrc) (spare : Nat) (now : Instant)
      (packet : Option Bytes)
  | other (event : EndpointEvent)

def ControlEvent.emitted : ControlEvent → List Bytes
  | .sendAcks _ packets => packets
  | .sendNacks _ _ _ packets => packets
  | .sendPli _ packet => packet.toList
  | .sendRtcpReport _ _ _ packet => packet.toList
  | .other _ => []

/-- The control sends, between any other operations of the endpoint. -/
def ControlStep (profile : BuildProfile) (aead : Aead)
    (before : ControlEndpoint) (event : ControlEvent)
    (after : ControlEndpoint) : Prop :=
  match event with
  | .sendAcks asked packets =>
      before.sendAcks profile aead asked = .ok (after, packets)
  | .sendNacks visited now rtt packets =>
      (∃ unvisited,
        (visited ++ unvisited).Perm before.stateByIncomingSsrc.keys) ∧
      ControlEndpoint.sendNacks profile aead now rtt visited before =
        .ok (after, packets)
  | .sendPli pliSsrc packet =>
      before.sendPli profile aead pliSsrc = .ok (after, packet)
  | .sendRtcpReport order spare now packet =>
      order.Perm before.stateByIncomingSsrc.keys ∧
      before.sendRtcpReport profile aead order spare now = .ok (after, packet)
  | .other event =>
      ∃ endpoint history, EndpointStep aead before.toEndpoint event endpoint ∧
        after = { before with
          toEndpoint := endpoint
          senderReportHistoryBySsrc := history }

namespace ControlStep

variable {profile : BuildProfile} {aead : Aead}
variable {before after : ControlEndpoint} {event : ControlEvent}

/-- The keys stay, the packets are emitted in order. -/
structure Effect (aead : Aead) (before : ControlEndpoint)
    (packets : List Bytes) (after : ControlEndpoint) : Prop where
  encrypt : after.encrypt = before.encrypt
  filed : after.rtxSender.FiledBySsrc
  emits : Emits aead before.encrypt.rtcp before.nextOutgoingSrtcpIndex packets
    after.nextOutgoingSrtcpIndex

theorem effect_of_sends {packets : List Bytes}
    (filed : before.rtxSender.FiledBySsrc)
    (sends : ControlEndpoint.Sends aead before packets after) :
    Effect aead before packets after where
  encrypt := sends.encrypt
  filed := by
    rw [sends.rtxSender]
    exact filed
  emits := sends.emits

theorem effect (filed : before.rtxSender.FiledBySsrc)
    (step : ControlStep profile aead before event after) :
    Effect aead before event.emitted after := by
  cases event with
  | sendAcks asked packets =>
      exact effect_of_sends filed (ControlEndpoint.sends_sendAcks step)
  | sendNacks visited now rtt packets =>
      exact effect_of_sends filed (ControlEndpoint.sends_sendNacks step.2)
  | sendPli pliSsrc packet =>
      exact effect_of_sends filed (ControlEndpoint.sends_sendPli step)
  | sendRtcpReport order spare now packet =>
      exact effect_of_sends filed (ControlEndpoint.sends_sendRtcpReport step.2)
  | other event =>
      obtain ⟨endpoint, history, media, rfl⟩ := step
      have changed := media.effect filed
      exact ⟨changed.encrypt, changed.filed, .nil _⟩

theorem effect_nil (endpoint : ControlEndpoint)
    (filed : endpoint.rtxSender.FiledBySsrc) :
    Effect aead endpoint [] endpoint where
  encrypt := rfl
  filed := filed
  emits := .nil _

theorem Effect.snoc {start : ControlEndpoint} {past : List ControlEvent}
    (earlier : Effect aead start (past.flatMap ControlEvent.emitted) before)
    (step : ControlStep profile aead before event after) :
    Effect aead start ((past ++ [event]).flatMap ControlEvent.emitted)
      after := by
  have last := step.effect earlier.filed
  have emits := last.emits
  rw [earlier.encrypt] at emits
  refine ⟨last.encrypt.trans earlier.encrypt, last.filed, ?_⟩
  rw [List.flatMap_append, List.flatMap_singleton]
  exact earlier.emits.append emits

/-- What has been emitted in a whole run. -/
theorem effect_of_run {start finish : ControlEndpoint}
    {events : List ControlEvent} (filed : start.rtxSender.FiledBySsrc)
    (run : Run (ControlStep profile aead) start events finish) :
    Effect aead start (events.flatMap ControlEvent.emitted) finish := by
  induction run with
  | nil => exact effect_nil start filed
  | snoc _ last ih => exact ih.snoc last

end ControlStep

/-- The nonce under which a control packet was encrypted. -/
def ControlPacket.iv (salt : Salt) (serialized : Bytes) : Option Bytes :=
  rtcpIv (ControlPacket.senderSsrc serialized)
    (ControlPacket.srtcpIndex serialized) salt

theorem Emits.nodup_iv {aead : Aead} {keys : KeyAndSalt}
    {before after : UInt32} {packets : List Bytes}
    (emits : Emits aead keys before packets after) :
    (packets.map (ControlPacket.iv keys.salt)).Nodup := by
  have ordered := List.pairwise_map.mp emits.pairwise_index
  unfold List.Nodup
  rw [List.pairwise_map]
  apply ordered.imp_of_mem
  intro left right leftMember _ less same
  obtain ⟨_, iv, _, _, _, computed, _⟩ := emits.sealed left leftMember
  have other : ControlPacket.iv keys.salt right = some iv :=
    same.symm.trans computed
  rw [rtcpIv_injective computed other] at less
  exact Nat.lt_irrefl _ (UInt32.lt_iff_toNat_lt.mp less)

theorem srtcp_indices_never_reused {profile : BuildProfile} {aead : Aead}
    {decrypt encrypt : KeysAndSalts} {now : Instant}
    {rtcpSenderSsrc ackSenderSsrc : Ssrc} {events : List ControlEvent}
    {finish : ControlEndpoint}
    (run : Run (ControlStep profile aead)
      (ControlEndpoint.new decrypt encrypt now rtcpSenderSsrc ackSenderSsrc)
      events finish) :
    ((events.flatMap ControlEvent.emitted).map
      ControlPacket.srtcpIndex).Pairwise (· < ·) ∧
    ((events.flatMap ControlEvent.emitted).map
      (ControlPacket.iv encrypt.rtcp.salt)).Nodup ∧
    (∀ packet ∈ events.flatMap ControlEvent.emitted,
      ControlPacket.Sealed aead encrypt.rtcp packet) ∧
    (2 ^ 31 ≤ finish.nextOutgoingSrtcpIndex.toNat → ∀ event after,
      ControlStep profile aead finish event after → event.emitted = []) := by
  have effect := ControlStep.effect_of_run
    (RtxSender.filedBySsrc_new packetLifetime now) run
  refine ⟨effect.emits.pairwise_index, effect.emits.nodup_iv,
    effect.emits.sealed, ?_⟩
  intro exhausted event after step
  exact (step.effect effect.filed).emits.eq_nil exhausted

/-! ## Two requests for key frames -/

/-- AES-128-GCM under the zero key on the two requests below. -/
def pliVectors : List GcmVector :=
  [{ key := zeroKeys.rtcp.key
     nonce := [0, 0, 0, 0, 0, 1, 0, 0, 0, 0, 0, 1]
     aad := [129, 206, 0, 2, 0, 0, 0, 1, 128, 0, 0, 1]
     plaintext := [0, 0, 0, 7]
     ciphertext := [7, 171, 81, 138]
     tag := [58, 129, 126, 74, 82, 42, 246, 0,
       166, 166, 188, 29, 114, 67, 215, 201] },
   { key := zeroKeys.rtcp.key
     nonce := [0, 0, 0, 0, 0, 1, 0, 0, 0, 0, 0, 2]
     aad := [129, 206, 0, 2, 0, 0, 0, 1, 128, 0, 0, 2]
     plaintext := [0, 0, 0, 7]
     ciphertext := [94, 58, 78, 99]
     tag := [112, 60, 213, 114, 249, 135, 119, 214,
       181, 150, 223, 174, 176, 99, 139, 123] }]

def pliAead : Aead := .ofVectors pliVectors (by decide) (by decide)

def pliStart : ControlEndpoint := .new zeroKeys zeroKeys 0 1 1

def pliPacket (index : UInt8) (vector : GcmVector) : Bytes :=
  [129, 206, 0, 2, 0, 0, 0, 1] ++ vector.ciphertext ++ vector.tag ++
    [128, 0, 0, index]

def pliPackets : List Bytes :=
  pliVectors.zipWith (fun vector index => pliPacket index vector) [1, 2]

theorem srtcp_indices_never_reused_pli :
    (pliPackets.map ControlPacket.srtcpIndex).Pairwise (· < ·) ∧
      (pliPackets.map (ControlPacket.iv zeroKeys.rtcp.salt)).Nodup := by
  have first : ControlStep .debug pliAead pliStart
      (.sendPli 7 pliPackets[0]?) (pliStart.setIndex 2) := rfl
  have second : ControlStep .debug pliAead (pliStart.setIndex 2)
      (.sendPli 7 pliPackets[1]?) (pliStart.setIndex 3) := rfl
  have run := (Run.nil.snoc first).snoc second
  obtain ⟨ordered, distinct, _⟩ := srtcp_indices_never_reused run
  exact ⟨ordered, distinct⟩

end CallingService.Backend.Rtp
