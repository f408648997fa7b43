import CallingService.Backend.Rtp.EndpointRun

/-!
# Nonces of retransmissions and padding

Forwarded retransmissions, resent packets and padding draw their sequence
numbers from the same counter of their SSRC, and the nonce of a packet is an
injective function of its SSRC and the low 48 bits of its number.
-/

namespace CallingService.Backend.Rtp

open Foundation

/-- The retransmissions and padding packets that a run hands to the cipher. -/
def rtxAndPaddingPackets (events : List EndpointEvent) : List Packet :=
  ((events.filterMap EndpointEvent.encryption?).filter
    Encryption.isRtxOrPadding).map Encryption.outgoing

/-- The numbers that a nonce is made of. -/
def Packet.numbersInHeader (packet : Packet) : Ssrc × Nat :=
  (packet.ssrcInHeader, packet.seqnumInHeader)

/-- The nonce under which a packet is encrypted. -/
def Packet.iv (packet : Packet) (salt : Salt) : Bytes :=
  rtpIv packet.ssrcInHeader packet.seqnumInHeader salt

theorem flatMap_drawnRtxNumbers (events : List EndpointEvent) :
    events.flatMap EndpointEvent.drawnRtxNumbers =
      (rtxAndPaddingPackets events).map Packet.numbersInHeader := by
  induction events with
  | nil => rfl
  | cons event rest ih =>
      rw [List.flatMap_cons, ih]
      cases event with
      | other => rfl
      | encrypts encryption =>
          by_cases counted : encryption.isRtxOrPadding
          · simp [EndpointEvent.drawnRtxNumbers, rtxAndPaddingPackets,
              EndpointEvent.encryption?, counted, Packet.numbersInHeader]
          · simp [EndpointEvent.drawnRtxNumbers, rtxAndPaddingPackets,
              EndpointEvent.encryption?, counted]

/-- The numbers issued on one SSRC stay below `2 ^ 48` while there are fewer
than `2 ^ 48` of them. -/
theorem seqnumInHeader_lt {start after : Ssrc → Nat} {packets : List Packet}
    {packet : Packet} (first : ∀ ssrc, start ssrc = 1)
    (issued : Issued start (packets.map Packet.numbersInHeader) after)
    (few : ∀ ssrc, (packets.filter (·.ssrcInHeader = ssrc)).length < 2 ^ 48)
    (member : packet ∈ packets) : packet.seqnumInHeader < 2 ^ 48 := by
  have below : packet.seqnumInHeader < after packet.ssrcInHeader :=
    issued.lt_of_mem (List.mem_map_of_mem member)
  have total := issued.eq_add_count packet.ssrcInHeader
  have counted : ((packets.map Packet.numbersInHeader).map Prod.fst).count
      packet.ssrcInHeader =
        (packets.filter (·.ssrcInHeader = packet.ssrcInHeader)).length := by
    rw [List.map_map, List.count_eq_countP, List.countP_map,
      List.countP_eq_length_filter]
    rfl
  have bound := few packet.ssrcInHeader
  rw [first, counted] at total
  apply Nat.lt_of_lt_of_le below
  rw [total]
  omega

theorem nodup_map_iv {packets : List Packet} (salt : Salt)
    (distinct : (packets.map Packet.numbersInHeader).Nodup)
    (small : ∀ packet ∈ packets, packet.seqnumInHeader < 2 ^ 48) :
    (packets.map (·.iv salt)).Nodup := by
  rw [List.nodup_map_iff_inj_on distinct.of_map]
  intro left leftMember right rightMember same
  obtain ⟨sameSsrc, sameSeqnum⟩ := rtpIv_eq_iff.mp same
  rw [Nat.mod_eq_of_lt (small left leftMember),
    Nat.mod_eq_of_lt (small right rightMember)] at sameSeqnum
  exact List.inj_on_of_nodup_map distinct leftMember rightMember
    (Prod.ext sameSsrc sameSeqnum)

theorem rtxNonces_unique {aead : Aead} {decrypt encrypt : KeysAndSalts}
    {now : Instant} {ackSenderSsrc : Ssrc} {events : List EndpointEvent}
    {finish : Endpoint}
    (run : Run (EndpointStep aead)
      (Endpoint.new decrypt encrypt now ackSenderSsrc) events finish) :
    ((rtxAndPaddingPackets events).map Packet.numbersInHeader).Nodup ∧
    (∀ ssrc seqnum salt, rtpIv ssrc seqnum salt =
      rfc7714Iv ssrc (seqnum / 2 ^ 16 % 2 ^ 32) (seqnum % 2 ^ 16) salt) ∧
    (∀ salt firstSsrc firstSeqnum secondSsrc secondSeqnum,
      rtpIv firstSsrc firstSeqnum salt = rtpIv secondSsrc secondSeqnum salt →
        firstSsrc = secondSsrc ∧
          firstSeqnum % 2 ^ 48 = secondSeqnum % 2 ^ 48) ∧
    ((∀ ssrc, ((rtxAndPaddingPackets events).filter
        (·.ssrcInHeader = ssrc)).length < 2 ^ 48) →
      ∀ salt, ((rtxAndPaddingPackets events).map (·.iv salt)).Nodup) := by
  have issued := (runEffect_of_run (RtxSender.filedBySsrc_new _ _) run).rtxIssued
  rw [flatMap_drawnRtxNumbers] at issued
  refine ⟨issued.nodup, rtpIv_eq_rfc7714Iv, ?_, ?_⟩
  · intro salt firstSsrc firstSeqnum secondSsrc secondSeqnum same
    exact rtpIv_eq_iff.mp same
  · intro few salt
    apply nodup_map_iv salt issued.nodup
    intro packet member
    exact seqnumInHeader_lt (fun _ => rfl) issued few member

/-! ## Two forwarded retransmissions -/

/-- AES-128-GCM under the zero key on the two packets below. -/
def rtxVectors : List GcmVector :=
  [{ key := zeroKeys.rtp.key
     nonce := [0, 0, 0, 0, 0, 3, 0, 0, 0, 0, 0, 1]
     aad := [128, 118, 0, 1, 0, 0, 0, 0, 0, 0, 0, 3]
     plaintext := [0, 7]
     ciphertext := [200, 33]
     tag := [80, 33, 85, 65, 171, 183, 154, 109,
       231, 226, 159, 182, 155, 135, 41, 180] },
   { key := zeroKeys.rtp.key
     nonce := [0, 0, 0, 0, 0, 3, 0, 0, 0, 0, 0, 2]
     aad := [128, 118, 0, 2, 0, 0, 0, 0, 0, 0, 0, 3]
     plaintext := [0, 7]
     ciphertext := [143, 84]
     tag := [68, 229, 133, 233, 35, 234, 42, 226,
       235, 58, 35, 208, 228, 185, 163, 222] }]

def rtxAead : Aead := .ofVectors rtxVectors (by decide) (by decide)

/-- A retransmission of packet 7 of the SSRC 2, as a client sends it. -/
def forwardedRtx : Packet :=
  { Packet.withEmptyTag 118 0 0 3 none none [0, 7] with
    seqnumInPayload := some 7 }

def rtxStart : Endpoint := .new zeroKeys zeroKeys 0 1

def rtxSent (seqnum : UInt8) (body : Bytes) (encrypted : Bool) : Packet :=
  { forwardedRtx with
    seqnumInHeader := seqnum.toNat
    encrypted := encrypted
    serialized := [128, 118, 0, seqnum, 0, 0, 0, 0, 0, 0, 0, 3] ++ body }

def rtxEvent (seqnum : UInt8) (vector : GcmVector) : EndpointEvent :=
  .encrypts {
    origin := .sendRtp
    outgoing := rtxSent seqnum (vector.plaintext ++ List.replicate 16 0) false
    result := some (rtxSent seqnum (vector.ciphertext ++ vector.tag) true) }

def rtxAfterFirst : Endpoint :=
  { rtxStart with rtxSender := rtxStart.rtxSender.setNextSeqnum 3 2 }

def rtxAfterSecond : Endpoint :=
  { rtxAfterFirst with rtxSender := rtxAfterFirst.rtxSender.setNextSeqnum 3 3 }

theorem rtxRun : Run (EndpointStep rtxAead) rtxStart
    (rtxVectors.zipWith (fun vector seqnum => rtxEvent seqnum vector) [1, 2])
    rtxAfterSecond := by
  have first : EndpointStep rtxAead rtxStart _ rtxAfterFirst :=
    @EndpointStep.sendRtp rtxAead _ rtxAfterFirst _ forwardedRtx _ 5 _ rfl rfl
  have second : EndpointStep rtxAead rtxAfterFirst _ rtxAfterSecond :=
    @EndpointStep.sendRtp rtxAead _ rtxAfterSecond _ forwardedRtx _ 6 _ rfl rfl
  exact .snoc (.snoc .nil first) second

theorem rtxNonces_unique_two_forwarded :
    ∃ events : List EndpointEvent,
      (rtxAndPaddingPackets events).map Packet.numbersInHeader =
        [(3, 1), (3, 2)] ∧
      ((rtxAndPaddingPackets events).map Packet.numbersInHeader).Nodup ∧
      ∀ salt, ((rtxAndPaddingPackets events).map (·.iv salt)).Nodup := by
  have unique := rtxNonces_unique rtxRun
  refine ⟨_, rfl, unique.1, unique.2.2.2 ?_⟩
  intro ssrc
  exact Nat.lt_of_le_of_lt (List.length_filter_le _ _) (by decide)

end CallingService.Backend.Rtp
