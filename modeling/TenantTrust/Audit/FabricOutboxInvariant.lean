import TenantTrust.Audit.FabricOutboxSteps

/-! The rows and the attempts of the outbox tell one history of every delivery. -/

namespace TenantTrust.Audit

open Library Identity

/-- What the current attempt of a row says of the status of the row. -/
def Reflects : AuditOutboxState → AttemptState → Prop
  | .confirming, .submitted | .submitted, .submitted | .committed, .committed
  | .failed, .failed => True
  | _, _ => False

/-- An earlier attempt has failed; the current one has the transaction of the row. -/
def FabricCommitmentAttempt.BelongsTo (attempt : FabricCommitmentAttempt)
    (row : FabricCommitmentRow) : Prop :=
  (attempt.attemptNumber < row.attemptCount ∧ attempt.state = .failed) ∨
  (attempt.attemptNumber = row.attemptCount ∧
    row.transactionId = some attempt.transactionId ∧ Reflects row.status attempt.state)

structure DeliveryHistory (db : CommitmentDatabase) : Prop where
  valid : ∀ row ∈ db.outbox, row.Valid
  checked : ∀ attempt ∈ db.attempts, attempt.checks = true
  unresolved : ∀ row ∈ db.outbox, row.status = .submitting ∨ row.status = .confirming →
    row.validationCode = none
  claimed : ∀ row ∈ db.outbox, row.Claimed
  transactions : ∀ left ∈ db.attempts, ∀ right ∈ db.attempts,
    left.transactionId = right.transactionId → left = right
  owned : ∀ attempt ∈ db.attempts, ∃ row ∈ db.outbox, row.key = attempt.rowKey ∧
    attempt.BelongsTo row
  recorded : ∀ row ∈ db.outbox, ∀ transactionId, row.transactionId = some transactionId →
    ∃ attempt ∈ db.attempts, attempt.key = (row.key, row.attemptCount) ∧
      attempt.transactionId = transactionId

theorem deliveryHistory_empty : DeliveryHistory CommitmentDatabase.empty where
  valid _ member := absurd member (Table.not_mem_empty _)
  checked _ member := absurd member (Table.not_mem_empty _)
  unresolved _ member := absurd member (Table.not_mem_empty _)
  claimed _ member := absurd member (Table.not_mem_empty _)
  transactions _ member := absurd member (Table.not_mem_empty _)
  owned _ member := absurd member (Table.not_mem_empty _)
  recorded _ member := absurd member (Table.not_mem_empty _)

section Moves

variable {row next : FabricCommitmentRow} {attempt : FabricCommitmentAttempt}

theorem Reflects.submitted (flight : row.InFlight) {state : AttemptState}
    (reflects : Reflects row.status state) : state = .submitted := by
  rcases flight with confirming | submitted
  · rw [confirming] at reflects
    cases state <;> simp [Reflects] at reflects ⊢
  · rw [submitted] at reflects
    cases state <;> simp [Reflects] at reflects ⊢

theorem reflects_submitted (flight : row.InFlight) : Reflects row.status .submitted := by
  rcases flight with confirming | submitted
  · rw [confirming]
    exact trivial
  · rw [submitted]
    exact trivial

/-- An attempt still belongs to its row after the row has moved. -/
theorem FabricCommitmentAttempt.BelongsTo.move (belongs : attempt.BelongsTo row)
    (move : RowMove row next) : attempt.BelongsTo next := by
  cases move.delivery with
  | kept => exact belongs
  | carried before after transaction code count =>
      rcases belongs with earlier | ⟨number, same, reflects⟩
      · exact Or.inl ⟨by rw [count]; exact earlier.1, earlier.2⟩
      · have state := reflects.submitted before
        refine Or.inr ⟨by rw [count]; exact number, by rw [transaction]; exact same, ?_⟩
        rw [state]
        exact reflects_submitted after
  | released before after transaction count =>
      rcases belongs with earlier | ⟨number, same, reflects⟩
      · exact Or.inl ⟨by rw [count]; exact earlier.1, earlier.2⟩
      · rw [before] at reflects
        exact absurd reflects id
  | reopened before after transaction code count =>
      left
      rcases belongs with earlier | ⟨number, same, reflects⟩
      · exact ⟨by omega, earlier.2⟩
      · refine ⟨by omega, ?_⟩
        rcases before with pending | failed | submitting
        · rw [pending] at reflects
          exact absurd reflects id
        · rw [failed] at reflects
          cases state : attempt.state <;> simp [state, Reflects] at reflects ⊢
        · rw [submitting] at reflects
          exact absurd reflects id

/-- A move gives a row no transaction that it did not have. -/
theorem RowMove.transaction (move : RowMove row next) {transactionId : TransactionId}
    (has : next.transactionId = some transactionId) :
    row.transactionId = some transactionId ∧ next.attemptCount = row.attemptCount := by
  cases move.delivery with
  | kept => exact ⟨has, rfl⟩
  | carried before after transaction code count => exact ⟨transaction.symm.trans has, count⟩
  | released before after transaction count => exact ⟨transaction.symm.trans has, count⟩
  | reopened before after transaction code count =>
      rw [transaction] at has
      cases has

theorem FabricCommitmentRow.Valid.submitted_code (valid : row.Valid)
    (submitted : row.status = .submitted) : row.validationCode = none := by
  have shape := valid.shape
  simp only [FabricCommitmentRow.stateShape, submitted, Bool.and_eq_true,
    Option.isNone_iff_eq_none] at shape
  exact shape.2

theorem RowMove.unresolved (move : RowMove row next) (valid : row.Valid)
    (before : row.status = .submitting ∨ row.status = .confirming → row.validationCode = none)
    (open_ : next.status = .submitting ∨ next.status = .confirming) :
    next.validationCode = none := by
  cases move.delivery with
  | kept => exact before open_
  | carried flight after transaction code count =>
      rw [code]
      rcases flight with confirming | submitted
      · exact before (Or.inr confirming)
      · exact valid.submitted_code submitted
  | released submitting after transaction count =>
      rw [after] at open_
      rcases open_ with open_ | open_ <;> cases open_
  | reopened from_ after transaction code count => exact code

end Moves

section Effects

variable {op : OutboxOp} {before after : CommitmentDatabase}

theorem DeliveryHistory.enqueue (history : DeliveryHistory before) {p : CommitmentEnqueue}
    (inserted : before.outbox.insertNew p.row = some after.outbox)
    (attempts : after.attempts = before.attempts)
    (valid : ∀ row ∈ after.outbox, row.Valid) : DeliveryHistory after where
  valid := valid
  checked := by
    rw [attempts]
    exact history.checked
  unresolved := by
    intro row member open_
    rcases (Table.mem_insertNew inserted row).mp member with old | rfl
    · exact history.unresolved row old open_
    · rfl
  claimed := by
    intro row member
    rcases (Table.mem_insertNew inserted row).mp member with old | rfl
    · exact history.claimed row old
    · exact claimed_of_closed (by simp [CommitmentEnqueue.row]) (by simp [CommitmentEnqueue.row])
  transactions := by
    rw [attempts]
    exact history.transactions
  owned := by
    rw [attempts]
    intro attempt member
    rcases history.owned attempt member with ⟨row, present, key, belongs⟩
    exact ⟨row, (Table.mem_insertNew inserted row).mpr (Or.inl present), key, belongs⟩
  recorded := by
    rw [attempts]
    intro row member transactionId has
    rcases (Table.mem_insertNew inserted row).mp member with old | rfl
    · exact history.recorded row old transactionId has
    · cases has

theorem DeliveryHistory.move (history : DeliveryHistory before)
    {f : FabricCommitmentRow → FabricCommitmentRow}
    (outbox : after.outbox.rows = before.outbox.rows.map f)
    (attempts : after.attempts = before.attempts)
    (moves : ∀ row ∈ before.outbox, RowMove row (f row))
    (valid : ∀ row ∈ after.outbox, row.Valid) : DeliveryHistory after := by
  have source : ∀ row ∈ after.outbox, ∃ old ∈ before.outbox, f old = row := by
    intro row member
    rw [Table.mem_def, outbox] at member
    exact List.mem_map.mp member
  have image : ∀ row ∈ before.outbox, f row ∈ after.outbox := by
    intro row member
    rw [Table.mem_def, outbox]
    exact List.mem_map_of_mem member
  exact {
    valid := valid
    checked := by
      rw [attempts]
      exact history.checked
    unresolved := by
      intro row member open_
      rcases source row member with ⟨old, present, rfl⟩
      exact (moves old present).unresolved (history.valid old present)
        (history.unresolved old present) open_
    claimed := by
      intro row member
      rcases source row member with ⟨old, present, rfl⟩
      exact (moves old present).claimed (history.claimed old present)
    transactions := by
      rw [attempts]
      exact history.transactions
    owned := by
      rw [attempts]
      intro attempt member
      rcases history.owned attempt member with ⟨row, present, key, belongs⟩
      have move := moves row present
      exact ⟨f row, image row present, move.key.trans key, belongs.move move⟩
    recorded := by
      rw [attempts]
      intro row member transactionId has
      rcases source row member with ⟨old, present, rfl⟩
      have move := moves old present
      have same := move.transaction has
      rw [move.key, same.2]
      exact history.recorded old present transactionId same.1 }

theorem DeliveryHistory.record (history : DeliveryHistory before) {p : SubmissionRecord}
    {clock : Timestamp} {row : FabricCommitmentRow} (present : row ∈ before.outbox)
    (submitting : row.status = .submitting)
    (outbox : after.outbox = before.outbox.replace (p.recorded clock row))
    (unused : ∀ other ∈ before.attempts, other.transactionId ≠ p.transactionId)
    (inserted : before.attempts.insertNew (p.attempt row) = some after.attempts)
    (valid : ∀ row ∈ after.outbox, row.Valid) (checked : (p.attempt row).checks = true) :
    DeliveryHistory after := by
  have rows := Table.mem_replace before.outbox (p.recorded clock row) present rfl
  rw [← outbox] at rows
  have attempts := Table.mem_insertNew inserted
  exact {
    valid := valid
    checked := by
      intro attempt member
      rcases (attempts attempt).mp member with old | rfl
      · exact history.checked attempt old
      · exact checked
    unresolved := by
      intro other member open_
      rcases (rows other).mp member with rfl | ⟨old, _⟩
      · exact history.unresolved row present (Or.inl submitting)
      · exact history.unresolved other old open_
    claimed := by
      intro other member
      rcases (rows other).mp member with rfl | ⟨old, _⟩
      · exact fun _ => history.claimed row present (Or.inl submitting)
      · exact history.claimed other old
    transactions := by
      intro left leftMember right rightMember same
      rcases (attempts left).mp leftMember with leftOld | rfl
      · rcases (attempts right).mp rightMember with rightOld | rfl
        · exact history.transactions left leftOld right rightOld same
        · exact absurd same (unused left leftOld)
      · rcases (attempts right).mp rightMember with rightOld | rfl
        · exact absurd same.symm (unused right rightOld)
        · rfl
    owned := by
      intro attempt member
      rcases (attempts attempt).mp member with old | rfl
      · rcases history.owned attempt old with ⟨owner, ownerPresent, key, belongs⟩
        by_cases same : owner.key = row.key
        · have equal := before.outbox.unique ownerPresent present same
          rw [equal] at key belongs
          refine ⟨p.recorded clock row, (rows _).mpr (Or.inl rfl), key, ?_⟩
          rcases belongs with earlier | ⟨_, _, reflects⟩
          · exact Or.inl earlier
          · rw [submitting] at reflects
            exact absurd reflects id
        · exact ⟨owner, (rows owner).mpr (Or.inr ⟨ownerPresent, same⟩), key, belongs⟩
      · exact ⟨p.recorded clock row, (rows _).mpr (Or.inl rfl), rfl, Or.inr ⟨rfl, rfl, trivial⟩⟩
    recorded := by
      intro other member transactionId has
      rcases (rows other).mp member with rfl | ⟨old, _⟩
      · have same : p.transactionId = transactionId := Option.some.inj has
        exact ⟨p.attempt row, (attempts _).mpr (Or.inr rfl), rfl, same⟩
      · rcases history.recorded other old transactionId has with ⟨attempt, found, key, same⟩
        exact ⟨attempt, (attempts attempt).mpr (Or.inl found), key, same⟩ }

/-- Both reports of a status end the current attempt of a row and no other. -/
theorem DeliveryHistory.resolve (history : DeliveryHistory before)
    {row next : FabricCommitmentRow} {verdict : CommitVerdict} {state : AttemptState}
    {resolvedAt : Timestamp} (present : row ∈ before.outbox)
    (transaction : row.transactionId = some verdict.transactionId)
    (outbox : after.outbox = before.outbox.replace next)
    (key : next.key = row.key) (sameTransaction : next.transactionId = row.transactionId)
    (count : next.attemptCount = row.attemptCount) (reflects : Reflects next.status state)
    (closed : ¬ (next.status = .submitting ∨ next.status = .confirming))
    (attempts : after.attempts.rows =
      before.attempts.rows.map (verdict.resolve row.key state resolvedAt))
    (valid : ∀ row ∈ after.outbox, row.Valid)
    (checked : ∀ attempt ∈ after.attempts, attempt.checks = true) : DeliveryHistory after := by
  have rows := Table.mem_replace before.outbox next present key.symm
  rw [← outbox] at rows
  have source : ∀ attempt ∈ after.attempts, ∃ old ∈ before.attempts,
      verdict.resolve row.key state resolvedAt old = attempt := by
    intro attempt member
    rw [Table.mem_def, attempts] at member
    exact List.mem_map.mp member
  have image : ∀ attempt ∈ before.attempts,
      verdict.resolve row.key state resolvedAt attempt ∈ after.attempts := by
    intro attempt member
    rw [Table.mem_def, attempts]
    exact List.mem_map_of_mem member
  have sameId : ∀ attempt, (verdict.resolve row.key state resolvedAt attempt).transactionId =
      attempt.transactionId := by
    intro attempt
    unfold CommitVerdict.resolve
    split <;> rfl
  -- The transaction of the row stands in its current attempt, and in no other.
  have current := history.recorded row present verdict.transactionId transaction
  rcases current with ⟨latest, latestMember, latestKey, latestId⟩
  have isCurrent : ∀ attempt ∈ before.attempts, attempt.transactionId = verdict.transactionId →
      attempt.attemptNumber = row.attemptCount := by
    intro attempt member same
    rw [history.transactions attempt member latest latestMember (same.trans latestId.symm)]
    exact congrArg Prod.snd latestKey
  exact {
    valid := valid
    checked := checked
    unresolved := by
      intro other member open_
      rcases (rows other).mp member with rfl | ⟨old, _⟩
      · exact absurd open_ closed
      · exact history.unresolved other old open_
    claimed := by
      intro other member
      rcases (rows other).mp member with rfl | ⟨old, _⟩
      · exact fun open_ => absurd open_ closed
      · exact history.claimed other old
    transactions := by
      intro left leftMember right rightMember same
      rcases source left leftMember with ⟨leftOld, leftPresent, rfl⟩
      rcases source right rightMember with ⟨rightOld, rightPresent, rfl⟩
      rw [sameId, sameId] at same
      rw [history.transactions leftOld leftPresent rightOld rightPresent same]
    owned := by
      intro attempt member
      rcases source attempt member with ⟨old, oldPresent, rfl⟩
      rcases history.owned old oldPresent with ⟨owner, ownerPresent, ownerKey, belongs⟩
      by_cases same : owner.key = row.key
      · have equal := before.outbox.unique ownerPresent present same
        rw [equal] at ownerKey belongs
        refine ⟨next, (rows next).mpr (Or.inl rfl), ?_, ?_⟩
        · unfold CommitVerdict.resolve
          split <;> exact key.trans ownerKey
        · by_cases own : old.transactionId = verdict.transactionId
          · rw [CommitVerdict.resolve, if_pos ⟨ownerKey.symm, own⟩]
            refine Or.inr ⟨(isCurrent old oldPresent own).trans count.symm, ?_, reflects⟩
            rw [sameTransaction, transaction]
            exact congrArg some own.symm
          · rw [CommitVerdict.resolve, if_neg fun both => own both.2]
            rcases belongs with earlier | ⟨_, has, _⟩
            · exact Or.inl ⟨by rw [count]; exact earlier.1, earlier.2⟩
            · exact absurd (Option.some.inj (has.symm.trans transaction)) own
      · have apart : old.rowKey ≠ row.key := fun clash => same (ownerKey.trans clash)
        rw [CommitVerdict.resolve, if_neg fun both => apart both.1]
        refine ⟨owner, (rows owner).mpr (Or.inr ⟨ownerPresent, ?_⟩), ownerKey, belongs⟩
        rw [key]
        exact same
    recorded := by
      intro other member transactionId has
      rcases (rows other).mp member with rfl | ⟨old, _⟩
      · rw [sameTransaction] at has
        rcases history.recorded row present transactionId has with ⟨attempt, found, own, same⟩
        refine ⟨_, image attempt found, ?_, (sameId attempt).trans same⟩
        rw [CommitVerdict.resolve_key, own, key, count]
      · rcases history.recorded other old transactionId has with ⟨attempt, found, own, same⟩
        refine ⟨_, image attempt found, ?_, (sameId attempt).trans same⟩
        rw [CommitVerdict.resolve_key, own] }

theorem DeliveryHistory.effect (history : DeliveryHistory before)
    (effect : OutboxEffect op before after) : DeliveryHistory after := by
  cases effect with
  | unchanged same =>
      rw [same]
      exact history
  | enqueued p inserted attempts valid => exact history.enqueue inserted attempts valid
  | moved f outbox attempts moves valid => exact history.move outbox attempts moves valid
  | recorded p clock locked called row present submitting key outbox unused inserted
      valid checked =>
      exact history.record present submitting outbox unused inserted valid checked
  | committed p clock locked called row present confirming key transaction code outbox attempts
      valid checked =>
      refine history.resolve present transaction outbox rfl rfl rfl ?_ ?_ attempts valid checked
      · exact trivial
      · simp [CommitVerdict.committed]
  | commitFailed p clock locked called row present confirming transaction outbox attempts valid
        checked =>
      refine history.resolve present transaction outbox rfl rfl rfl ?_ ?_ attempts valid checked
      · exact trivial
      · simp [CommitVerdict.commitFailed]

end Effects

theorem deliveryHistory_run {db : CommitmentDatabase} (history : DeliveryHistory db)
    (ops : List OutboxOp) : DeliveryHistory (Transaction.run applyOutbox db ops) := by
  have step : ∀ state op next reply, DeliveryHistory state →
      applyOutbox op state = .ok (next, reply) → DeliveryHistory next :=
    fun _ _ _ _ held succeeds => held.effect (applyOutbox_effect succeeds)
  exact Transaction.run_preserves step db ops history

theorem DeliveryHistory.one_committed {db : CommitmentDatabase} (history : DeliveryHistory db)
    {left right : FabricCommitmentAttempt} (leftMember : left ∈ db.attempts)
    (rightMember : right ∈ db.attempts) (same : left.rowKey = right.rowKey)
    (leftCommitted : left.state = .committed) (rightCommitted : right.state = .committed) :
    left = right := by
  rcases history.owned left leftMember with ⟨row, present, key, belongs⟩
  rcases history.owned right rightMember with ⟨other, otherPresent, otherKey, otherBelongs⟩
  rw [db.outbox.unique otherPresent present (otherKey.trans (same.symm.trans key.symm))]
    at otherBelongs
  apply history.transactions left leftMember right rightMember
  rcases belongs with earlier | ⟨_, has, _⟩
  · cases earlier.2.symm.trans leftCommitted
  · rcases otherBelongs with earlier | ⟨_, otherHas, _⟩
    · cases earlier.2.symm.trans rightCommitted
    · exact Option.some.inj (has.symm.trans otherHas)

theorem DeliveryHistory.number_bounded {db : CommitmentDatabase} (history : DeliveryHistory db)
    {attempt : FabricCommitmentAttempt} (member : attempt ∈ db.attempts) :
    0 < attempt.attemptNumber ∧ ∃ row ∈ db.outbox, row.key = attempt.rowKey ∧
      attempt.attemptNumber ≤ row.attemptCount := by
  have checked := history.checked attempt member
  simp only [FabricCommitmentAttempt.checks, Bool.and_eq_true, decide_eq_true_eq] at checked
  rcases history.owned attempt member with ⟨row, present, key, belongs⟩
  refine ⟨checked.1.1.1, row, present, key, ?_⟩
  rcases belongs with earlier | ⟨number, _⟩
  · omega
  · omega

end TenantTrust.Audit
