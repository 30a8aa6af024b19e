import DeepSpark.Eplb.MoveBuffers

/-!
A rearrangement of expert weights over all ranks.

Owns how the sends and receives that the ranks post independently pair up, what a communicator
delivers, and that every slot ends with the weights of its new expert.
-/

namespace DeepSpark

open Lib

variable {ranks numLocal : Nat} {α : Type}

def Send.key (send : Send ranks α) : Fin ranks × Int := (send.dst, send.expertId)

def Recv.key (recv : Recv ranks numLocal) : Fin ranks × Int := (recv.src, recv.expertId)

/-- Every send has exactly one matching receive, and every receive one send. -/
structure PairedUp (posted : Fin ranks → Posted ranks numLocal α) : Prop where
  sends : ∀ rank, ∀ send ∈ (posted rank).sends,
    ((posted send.dst).recvs.map Recv.key).count (rank, send.expertId) = 1
  recvs : ∀ rank, ∀ recv ∈ (posted rank).recvs,
    ((posted recv.src).sends.map Send.key).count (rank, recv.expertId) = 1

/-- `communicator.execute` delivers each send to its receive, and writes no other row. -/
structure Delivers (posted : Fin ranks → Posted ranks numLocal α) (delivered : Fin ranks → Fin numLocal → α) : Prop where
  received : ∀ rank, ∀ recv ∈ (posted rank).recvs, ∀ send ∈ (posted recv.src).sends,
    send.key = (rank, recv.expertId) → delivered rank recv.dstRow = send.tensors
  kept : ∀ rank row, (∀ recv ∈ (posted rank).recvs, recv.dstRow ≠ row) → delivered rank row = (posted rank).buffer row

/-! ## The posts of a rank -/

def Assigned (senders receivers : List (Fin ranks)) (sender receiver : Fin ranks) : Prop :=
  ∃ position, receivers[position]? = some receiver ∧
    senders[shareOwner senders.length receivers.length position]? = some sender

theorem recvRanks_spec {senders receivers : List (Fin ranks)} (distinct : senders.Nodup)
    (distinctReceivers : receivers.Nodup) {epRank : Fin ranks} (isSender : epRank ∈ senders) :
    ∃ assigned, recvRanks senders receivers epRank = .ok assigned ∧ assigned.Nodup ∧
      ∀ receiver, receiver ∈ assigned ↔ Assigned senders receivers epRank receiver := by
  have notEmpty : senders ≠ [] := List.ne_nil_of_mem isSender
  by_cases noReceiver : receivers = []
  · subst noReceiver
    refine ⟨[], by simp [recvRanks], List.nodup_nil, fun receiver => ?_⟩
    simp [Assigned]
  · obtain ⟨senderPos, isPos⟩ := List.mem_iff_getElem?.mp isSender
    have below := (List.getElem?_eq_some_iff.mp isPos).1
    have isIdx := idxOf?_of_nodup distinct isPos
    refine ⟨share senders.length receivers senderPos, ?_, nodup_share distinctReceivers below, fun receiver => ?_⟩
    · rw [recvRanks, if_neg (not_or.mpr ⟨notEmpty, noReceiver⟩), isIdx]
    · rw [mem_share below, Assigned]
      constructor
      · rintro ⟨position, isAt, rfl⟩
        exact ⟨position, isAt, isPos⟩
      · rintro ⟨position, isAt, isOwner⟩
        exact ⟨position, isAt, (List.getElem?_inj below distinct).mp (isPos.trans isOwner.symm) |>.symm⟩

theorem sourceRank_spec {senders receivers : List (Fin ranks)} (distinct : receivers.Nodup) {epRank : Fin ranks}
    (isReceiver : epRank ∈ receivers) :
    ∃ source, sourceRank senders receivers epRank = .ok source ∧
      ∀ sender, source = some sender ↔ Assigned senders receivers sender epRank := by
  have notEmpty : receivers ≠ [] := List.ne_nil_of_mem isReceiver
  by_cases noSender : senders = []
  · subst noSender
    refine ⟨none, by simp [sourceRank], fun sender => ?_⟩
    simp [Assigned]
  · obtain ⟨recverPos, isPos⟩ := List.mem_iff_getElem?.mp isReceiver
    have below := (List.getElem?_eq_some_iff.mp isPos).1
    have isIdx := idxOf?_of_nodup distinct isPos
    have ownerBelow := shareOwner_lt (List.length_pos_of_ne_nil noSender) below
    have isOwner := List.getElem?_eq_getElem ownerBelow
    refine ⟨senders[shareOwner senders.length receivers.length recverPos], ?_, fun sender => ?_⟩
    · rw [sourceRank, if_neg (not_or.mpr ⟨noSender, notEmpty⟩), isIdx]
      dsimp only
      rw [isOwner]
    · rw [Assigned]
      constructor
      · intro isSender
        exact ⟨recverPos, isPos, isOwner.trans isSender⟩
      · rintro ⟨position, isAt, isSender⟩
        have same := (List.getElem?_inj below distinct).mp (isPos.trans isAt.symm)
        rw [← same] at isSender
        exact isOwner.symm.trans isSender

theorem nodup_posts {Post κ ι : Type} {rows : List (Int × ι)} (sorted : (rows.map Prod.fst).Pairwise (· < ·))
    {posts : Int × ι → List Post} {peer : Post → κ} {expertId : Post → Int}
    (ofExpert : ∀ entry ∈ rows, ∀ post ∈ posts entry, expertId post = entry.1)
    (distinct : ∀ entry ∈ rows, ((posts entry).map peer).Nodup) :
    ((rows.flatMap posts).map fun post => (peer post, expertId post)).Nodup := by
  rw [List.map_flatMap, List.nodup_flatMap]
  constructor
  · intro entry isEntry
    have peers := distinct entry isEntry
    rw [List.Nodup, List.pairwise_map] at peers ⊢
    exact peers.imp fun differ same => differ (Prod.ext_iff.mp same).1
  · refine (List.pairwise_map.mp sorted).imp_of_mem fun {first second} isFirst isSecond below => ?_
    intro key ofFirst ofSecond
    obtain ⟨firstPost, isFirstPost, rfl⟩ := List.mem_map.mp ofFirst
    obtain ⟨secondPost, isSecondPost, same⟩ := List.mem_map.mp ofSecond
    have sameExpert := (Prod.ext_iff.mp same).2
    rw [ofExpert first isFirst firstPost isFirstPost, ofExpert second isSecond secondPost isSecondPost] at sameExpert
    exact absurd sameExpert.symm (ne_of_lt below)

section Rank

variable {old new : IndexMap ranks numLocal} {epRank : Fin ranks}

/-- What a rank sends: each expert it had, to the receivers that are its share. -/
theorem postSends_spec (old new : IndexMap ranks numLocal) (weights : Fin numLocal → α) (epRank : Fin ranks) :
    ∃ sends, postSends old new weights epRank = .ok sends ∧ (sends.map Send.key).Nodup ∧
      (∀ send ∈ sends, ∃ src, old (slot epRank src) = send.expertId ∧ send.expertId ≠ -1 ∧
        send.tensors = weights src) ∧
      ∀ receiver expert, (receiver, expert) ∈ sends.map Send.key ↔
        expert ≠ -1 ∧ Assigned (ranksToSend old expert) (ranksToRecv old new expert) epRank receiver := by
  have spec : ∀ entry ∈ sendRows old epRank, ∃ assigned,
      recvRanks (ranksToSend old entry.1) (ranksToRecv old new entry.1) epRank = .ok assigned ∧ assigned.Nodup ∧
        ∀ receiver, receiver ∈ assigned ↔
          Assigned (ranksToSend old entry.1) (ranksToRecv old new entry.1) epRank receiver := by
    intro entry isEntry
    have hasExpert : epRank ∈ ranksToSend old entry.1 := mem_ranksToSend.mpr ⟨entry.2, (of_mem_sendRows isEntry).2⟩
    exact recvRanks_spec (nodup_ranksToSend old _) (nodup_ranksToRecv old new _) hasExpert
  choose! assigned isOk distinct isAssigned using spec
  let posts (entry : Int × Fin numLocal) : List (Send ranks α) :=
    (assigned entry).map fun dst => ⟨weights entry.2, dst, entry.1⟩
  have sorted := sorted_sendRows old epRank
  refine ⟨(sendRows old epRank).flatMap posts, ?_, ?_, ?_, ?_⟩
  · rw [postSends, insertionSort_of_sorted sorted]
    refine bind_eq_ok.mpr ⟨(sendRows old epRank).map posts, mapM_ok fun entry isEntry => ?_, rfl⟩
    exact bind_eq_ok.mpr ⟨_, isOk entry isEntry, rfl⟩
  · apply nodup_posts sorted
    · intro entry _ post isPost
      obtain ⟨dst, _, rfl⟩ := List.mem_map.mp isPost
      rfl
    · intro entry isEntry
      rw [List.map_map]
      exact (List.map_id _).symm ▸ distinct entry isEntry
  · intro send isSend
    obtain ⟨entry, isEntry, isPost⟩ := List.mem_flatMap.mp isSend
    obtain ⟨dst, _, rfl⟩ := List.mem_map.mp isPost
    obtain ⟨valid, isExpert⟩ := of_mem_sendRows isEntry
    exact ⟨entry.2, isExpert, valid, rfl⟩
  · intro receiver expert
    rw [List.mem_map]
    constructor
    · rintro ⟨send, isSend, isKey⟩
      obtain ⟨entry, isEntry, isPost⟩ := List.mem_flatMap.mp isSend
      obtain ⟨dst, isDst, rfl⟩ := List.mem_map.mp isPost
      cases isKey
      exact ⟨(of_mem_sendRows isEntry).1, (isAssigned entry isEntry dst).mp isDst⟩
    · rintro ⟨valid, assignedTo⟩
      obtain ⟨position, isAt, isOwner⟩ := assignedTo
      obtain ⟨src, isEntry⟩ := exists_sendRow valid (List.mem_of_getElem? isOwner)
      refine ⟨⟨weights src, receiver, expert⟩, List.mem_flatMap.mpr ⟨_, isEntry, ?_⟩, rfl⟩
      exact List.mem_map.mpr ⟨receiver, (isAssigned _ isEntry receiver).mpr ⟨position, isAt, isOwner⟩, rfl⟩

theorem postRecvs_spec (old new : IndexMap ranks numLocal) (epRank : Fin ranks) :
    ∃ recvs, postRecvs old new epRank = .ok recvs ∧ (recvs.map Recv.key).Nodup ∧
      ∀ recv, recv ∈ recvs ↔ (recv.expertId, recv.dstRow) ∈ recvRows old new epRank ∧
        Assigned (ranksToSend old recv.expertId) (ranksToRecv old new recv.expertId) recv.src epRank := by
  have spec : ∀ entry ∈ recvRows old new epRank, ∃ source,
      sourceRank (ranksToSend old entry.1) (ranksToRecv old new entry.1) epRank = .ok source ∧
        ∀ sender, source = some sender ↔
          Assigned (ranksToSend old entry.1) (ranksToRecv old new entry.1) sender epRank := by
    intro entry isEntry
    have lacksExpert : epRank ∈ ranksToRecv old new entry.1 :=
      (mem_ranksToRecv_iff (of_mem_recvRows isEntry).1).mpr ⟨entry.2, isEntry⟩
    exact sourceRank_spec (nodup_ranksToRecv old new _) lacksExpert
  choose! source isOk isAssigned using spec
  let posts (entry : Int × Fin numLocal) : List (Recv ranks numLocal) :=
    (source entry).toList.map fun src => ⟨entry.2, src, entry.1⟩
  have sorted := sorted_recvRows old new epRank
  refine ⟨(recvRows old new epRank).flatMap posts, ?_, ?_, fun recv => ?_⟩
  · rw [postRecvs, insertionSort_of_sorted sorted]
    refine bind_eq_ok.mpr ⟨(recvRows old new epRank).map posts, mapM_ok fun entry isEntry => ?_, rfl⟩
    exact bind_eq_ok.mpr ⟨_, isOk entry isEntry, rfl⟩
  · apply nodup_posts sorted
    · intro entry _ post isPost
      obtain ⟨src, _, rfl⟩ := List.mem_map.mp isPost
      rfl
    · intro entry _
      cases isSource : source entry <;> simp [posts, isSource]
  · rw [List.mem_flatMap]
    constructor
    · rintro ⟨entry, isEntry, isPost⟩
      obtain ⟨src, isSource, rfl⟩ := List.mem_map.mp isPost
      exact ⟨isEntry, (isAssigned entry isEntry src).mp (Option.mem_toList.mp isSource)⟩
    · rintro ⟨isEntry, assignedTo⟩
      exact ⟨_, isEntry, List.mem_map.mpr
        ⟨recv.src, Option.mem_toList.mpr ((isAssigned _ isEntry recv.src).mpr assignedTo), rfl⟩⟩

theorem mem_recvKeys {recvs : List (Recv ranks numLocal)}
    (isRecv : ∀ recv, recv ∈ recvs ↔ (recv.expertId, recv.dstRow) ∈ recvRows old new epRank ∧
      Assigned (ranksToSend old recv.expertId) (ranksToRecv old new recv.expertId) recv.src epRank)
    (sender : Fin ranks) (expert : Int) : (sender, expert) ∈ recvs.map Recv.key ↔
      expert ≠ -1 ∧ Assigned (ranksToSend old expert) (ranksToRecv old new expert) sender epRank := by
  rw [List.mem_map]
  constructor
  · rintro ⟨recv, isPosted, isKey⟩
    cases isKey
    obtain ⟨isEntry, assignedTo⟩ := (isRecv recv).mp isPosted
    exact ⟨(of_mem_recvRows isEntry).1, assignedTo⟩
  · rintro ⟨valid, assignedTo⟩
    obtain ⟨position, isAt, _⟩ := id assignedTo
    obtain ⟨dst, isEntry⟩ := (mem_ranksToRecv_iff valid).mp (List.mem_of_getElem? isAt)
    exact ⟨⟨dst, sender, expert⟩, (isRecv _).mpr ⟨isEntry, assignedTo⟩, rfl⟩

/-- What a rank has posted when it comes to `communicator.execute`. -/
structure Posts (old new : IndexMap ranks numLocal) (weights buffer : Fin numLocal → α) (epRank : Fin ranks)
    (posted : Posted ranks numLocal α) : Prop where
  buffer : posted.buffer = localMoves old new epRank weights buffer
  metadata : posted.metadata = transferMetadata old new epRank
  sendKeys : (posted.sends.map Send.key).Nodup
  recvKeys : (posted.recvs.map Recv.key).Nodup
  sent : ∀ send ∈ posted.sends, ∃ src, old (slot epRank src) = send.expertId ∧ send.expertId ≠ -1 ∧
    send.tensors = weights src
  isSend : ∀ receiver expert, (receiver, expert) ∈ posted.sends.map Send.key ↔
    expert ≠ -1 ∧ Assigned (ranksToSend old expert) (ranksToRecv old new expert) epRank receiver
  isRecv : ∀ recv, recv ∈ posted.recvs ↔ (recv.expertId, recv.dstRow) ∈ recvRows old new epRank ∧
    Assigned (ranksToSend old recv.expertId) (ranksToRecv old new recv.expertId) recv.src epRank

theorem moveToBuffer_posts (old new : IndexMap ranks numLocal) (weights buffer : Fin numLocal → α) (epRank : Fin ranks) :
    ∃ posted, moveToBuffer old new weights buffer epRank = .ok posted ∧ Posts old new weights buffer epRank posted := by
  obtain ⟨sends, sendsOk, sendKeys, sent, isSend⟩ := postSends_spec old new weights epRank
  obtain ⟨recvs, recvsOk, recvKeys, isRecv⟩ := postRecvs_spec old new epRank
  refine ⟨⟨localMoves old new epRank weights buffer, sends, recvs, transferMetadata old new epRank⟩, ?_,
    rfl, rfl, sendKeys, recvKeys, sent, isSend, isRecv⟩
  rw [moveToBuffer, sendsOk, recvsOk]
  rfl

end Rank

/-! ## All ranks -/

section Group

variable {old new : IndexMap ranks numLocal} {weights buffers : Fin ranks → Fin numLocal → α}
  {posted : Fin ranks → Posted ranks numLocal α}

theorem posts_pairedUp (posts : ∀ rank, Posts old new (weights rank) (buffers rank) rank (posted rank)) :
    PairedUp posted := by
  constructor
  · intro rank send isPosted
    have assigned := ((posts rank).isSend send.dst send.expertId).mp (List.mem_map_of_mem isPosted)
    exact List.count_eq_one_of_mem (posts send.dst).recvKeys
      ((mem_recvKeys (posts send.dst).isRecv rank send.expertId).mpr assigned)
  · intro rank recv isPosted
    have assigned := (mem_recvKeys (posts rank).isRecv recv.src recv.expertId).mp (List.mem_map_of_mem isPosted)
    exact List.count_eq_one_of_mem (posts recv.src).sendKeys (((posts recv.src).isSend rank recv.expertId).mpr assigned)

theorem Posts.recv_of_row {epRank : Fin ranks} {posted : Posted ranks numLocal α} {weights buffer : Fin numLocal → α}
    (posts : Posts old new weights buffer epRank posted) {recv other : Recv ranks numLocal}
    (isPosted : recv ∈ posted.recvs) (isOther : other ∈ posted.recvs) (same : other.dstRow = recv.dstRow) :
    other = recv := by
  have isEntry := ((posts.isRecv recv).mp isPosted).1
  have isOtherEntry := ((posts.isRecv other).mp isOther).1
  have sameExpert : other.expertId = recv.expertId := by
    rw [← (of_mem_recvRows isEntry).2.1, ← (of_mem_recvRows isOtherEntry).2.1, same]
  -- the source of an expert is one rank
  obtain ⟨position, isAt, isOwner⟩ := ((posts.isRecv recv).mp isPosted).2
  obtain ⟨otherPosition, isOtherAt, isOtherOwner⟩ := ((posts.isRecv other).mp isOther).2
  rw [sameExpert] at isOtherAt isOtherOwner
  have samePosition := (List.getElem?_inj (List.getElem?_eq_some_iff.mp isAt).1 (nodup_ranksToRecv old new _)).mp
    (isAt.trans isOtherAt.symm)
  rw [← samePosition] at isOtherOwner
  cases recv
  cases other
  simp_all

theorem exists_delivers (posts : ∀ rank, Posts old new (weights rank) (buffers rank) rank (posted rank)) :
    ∃ delivered, Delivers posted delivered := by
  let delivered (rank : Fin ranks) (row : Fin numLocal) : α :=
    match (posted rank).recvs.find? (·.dstRow = row) with
    | none => (posted rank).buffer row
    | some recv =>
      match (posted recv.src).sends.find? (·.key = (rank, recv.expertId)) with
      | none => (posted rank).buffer row
      | some send => send.tensors
  refine ⟨delivered, fun rank recv isPosted send isSend isKey => ?_, fun rank row noRecv => ?_⟩
  · have foundRecv : (posted rank).recvs.find? (·.dstRow = recv.dstRow) = some recv := by
      obtain ⟨found, isFound⟩ : ∃ found, (posted rank).recvs.find? (·.dstRow = recv.dstRow) = some found := by
        rw [← Option.isSome_iff_exists, List.find?_isSome]
        exact ⟨recv, isPosted, decide_eq_true rfl⟩
      have sameRow := List.find?_some isFound
      rw [isFound, (posts rank).recv_of_row isPosted (List.mem_of_find?_eq_some isFound) (of_decide_eq_true sameRow)]
    have foundSend : (posted recv.src).sends.find? (·.key = send.key) = some send :=
      find?_key (posts recv.src).sendKeys isSend
    rw [isKey] at foundSend
    show (match (posted rank).recvs.find? (·.dstRow = recv.dstRow) with
      | none => _
      | some recv => _) = _
    rw [foundRecv]
    dsimp only
    rw [foundSend]
  · show (match (posted rank).recvs.find? (·.dstRow = row) with
      | none => _
      | some recv => _) = _
    have none : (posted rank).recvs.find? (·.dstRow = row) = none :=
      List.find?_eq_none.mpr fun recv isPosted => by simpa using noRecv recv isPosted
    rw [none]

theorem delivered_primary (posts : ∀ rank, Posts old new (weights rank) (buffers rank) rank (posted rank))
    {delivered : Fin ranks → Fin numLocal → α} (delivers : Delivers posted delivered) {logical : Int → α}
    (before : ∀ rank row, old (slot rank row) ≠ -1 → weights rank row = logical (old (slot rank row)))
    {rank : Fin ranks} {expert : Int} {dst : Fin numLocal} (isEntry : (expert, dst) ∈ recvRows old new rank)
    (isOld : ∃ position, old position = expert) : delivered rank dst = logical expert := by
  obtain ⟨valid, _, _⟩ := of_mem_recvRows isEntry
  obtain ⟨sourcePosition, isSource⟩ := isOld
  obtain ⟨sourceRow, isSourceRow⟩ := exists_slot sourcePosition
  have someSender : slotRank sourcePosition ∈ ranksToSend old expert :=
    mem_ranksToSend.mpr ⟨sourceRow, (congrArg old isSourceRow).trans isSource⟩
  have isReceiver : rank ∈ ranksToRecv old new expert := (mem_ranksToRecv_iff valid).mpr ⟨dst, isEntry⟩
  obtain ⟨position, isAt⟩ := List.mem_iff_getElem?.mp isReceiver
  have ownerBelow := shareOwner_lt (List.length_pos_of_mem someSender) (List.getElem?_eq_some_iff.mp isAt).1
  have assigned : Assigned (ranksToSend old expert) (ranksToRecv old new expert) _ rank :=
    ⟨position, isAt, List.getElem?_eq_getElem ownerBelow⟩
  have isRecv := ((posts rank).isRecv ⟨dst, _, expert⟩).mpr ⟨isEntry, assigned⟩
  obtain ⟨send, isSend, isKey⟩ := List.mem_map.mp (((posts _).isSend rank expert).mpr ⟨valid, assigned⟩)
  obtain ⟨src, isExpert, isValid, isTensors⟩ := (posts _).sent send isSend
  have sameExpert : send.expertId = expert := congrArg Prod.snd isKey
  rw [delivers.received rank _ isRecv send isSend isKey, isTensors, before _ src (isExpert.trans_ne isValid), isExpert,
    sameExpert]

/-- All ranks can post their sends and receives, which pair up; and with a communicator that
delivers them every slot ends with the weights of its new expert. -/
theorem rearranged (old new : IndexMap ranks numLocal) (weights buffers : Fin ranks → Fin numLocal → α) (logical : Int → α)
    (covered : ∀ position, new position ≠ -1 → ∃ source, old source = new position)
    (before : ∀ rank row, old (slot rank row) ≠ -1 → weights rank row = logical (old (slot rank row))) :
    ∃ posted, (∀ rank, moveToBuffer old new (weights rank) (buffers rank) rank = .ok (posted rank)) ∧
      PairedUp posted ∧ (∃ delivered, Delivers posted delivered) ∧
      ∀ delivered, Delivers posted delivered → ∀ rank row, new (slot rank row) ≠ -1 →
        moveFromBuffer (weights rank) (delivered rank) (posted rank).metadata new rank row =
          logical (new (slot rank row)) := by
  choose posted posted_ok posts using fun rank => moveToBuffer_posts old new (weights rank) (buffers rank) rank
  refine ⟨posted, posted_ok, posts_pairedUp posts, exists_delivers posts, fun delivered delivers rank row valid => ?_⟩
  rw [(posts rank).metadata]
  cases isSame : isUnchanged old new rank row with
  | true =>
    have same : old (slot rank row) = new (slot rank row) := of_decide_eq_true isSame
    rw [moveFromBuffer_unchanged _ _ isSame, before rank row (same.trans_ne valid), same]
  | false =>
    cases isLocal : isReceivedLocally old new rank row with
    | true =>
      obtain ⟨src, isExpert, isMoved⟩ := localMoves_spec (weights rank) (buffers rank) isSame isLocal
      have noRecv : ∀ recv ∈ (posted rank).recvs, recv.dstRow ≠ row := by
        intro recv isPosted sameRow
        have notLocal := (of_mem_recvRows (((posts rank).isRecv recv).mp isPosted).1).2.2
        rw [sameRow, isLocal] at notLocal
        exact Bool.noConfusion notLocal
      rw [moveFromBuffer_moved _ _ isSame isLocal, delivers.kept rank row noRecv, (posts rank).buffer, isMoved,
        before rank src (isExpert.trans_ne valid), isExpert]
    | false =>
      obtain ⟨dst, isEntry⟩ := exists_recvRow valid isLocal
      rw [moveFromBuffer_received _ _ isLocal isEntry,
        delivered_primary posts delivers before isEntry (covered (slot rank row) valid)]

end Group

/-! ## Two ranks trade their experts -/

def ownExpert : IndexMap 2 1 := fun position => position.val

def otherExpert : IndexMap 2 1 := fun position => 1 - position.val

def rankWeights (rank : Fin 2) (_ : Fin 1) : Int := 5 + rank.val

/-- Each of the two ranks then has the weights of the other. -/
theorem traded : ∃ posted : Fin 2 → Posted 2 1 Int,
    (∀ rank, moveToBuffer ownExpert otherExpert (rankWeights rank) (fun _ => 0) rank = .ok (posted rank)) ∧
      PairedUp posted ∧ (∃ delivered, Delivers posted delivered) ∧
      ∀ delivered, Delivers posted delivered → ∀ rank row, otherExpert (slot rank row) ≠ -1 →
        moveFromBuffer (rankWeights rank) (delivered rank) (posted rank).metadata otherExpert rank row =
          5 + otherExpert (slot rank row) :=
  rearranged ownExpert otherExpert rankWeights (fun _ _ => 0) (5 + ·) (by decide) (by decide)

end DeepSpark
