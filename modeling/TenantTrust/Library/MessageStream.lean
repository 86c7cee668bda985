import Mathlib.Data.List.Basic

/-! A durable stream that stores one message under each message ID and answers a repeated
publication with the sequence number of the stored one. -/

namespace TenantTrust.Library

structure StreamMessage (MessageId Payload : Type) where
  id : MessageId
  sequence : Nat
  payload : Payload

structure MessageStream (MessageId Payload : Type) where
  messages : List (StreamMessage MessageId Payload)
  lastSequence : Nat

structure PublishAck where
  sequence : Nat
  duplicate : Bool
  deriving DecidableEq, Repr

namespace MessageStream

variable {MessageId Payload : Type} [DecidableEq MessageId]

def empty : MessageStream MessageId Payload := ⟨[], 0⟩

def find? (stream : MessageStream MessageId Payload) (id : MessageId) :
    Option (StreamMessage MessageId Payload) :=
  stream.messages.find? fun message => message.id = id

def publish (stream : MessageStream MessageId Payload) (id : MessageId) (payload : Payload) :
    MessageStream MessageId Payload × PublishAck :=
  match stream.find? id with
  | some stored => (stream, ⟨stored.sequence, true⟩)
  | none =>
      let sequence := stream.lastSequence + 1
      (⟨stream.messages ++ [⟨id, sequence, payload⟩], sequence⟩, ⟨sequence, false⟩)

/-- Messages of other subjects take sequence numbers too. -/
def advance (stream : MessageStream MessageId Payload) (count : Nat) :
    MessageStream MessageId Payload :=
  { stream with lastSequence := stream.lastSequence + count }

@[simp] theorem find?_advance (stream : MessageStream MessageId Payload) (count : Nat)
    (id : MessageId) : (stream.advance count).find? id = stream.find? id := rfl

theorem find?_id {stream : MessageStream MessageId Payload} {id : MessageId}
    {message : StreamMessage MessageId Payload} (found : stream.find? id = some message) :
    message.id = id := by
  simpa using List.find?_some found

variable {stream : MessageStream MessageId Payload} {id : MessageId} {payload : Payload}

/-- What a publication leaves in the stream under any ID. -/
theorem find?_publish (other : MessageId) :
    (stream.publish id payload).1.find? other =
      if other = id then some ((stream.find? id).getD ⟨id, stream.lastSequence + 1, payload⟩)
      else stream.find? other := by
  unfold publish
  cases found : stream.find? id with
  | some stored =>
      dsimp only
      split
      · rename_i same
        rw [same, found, Option.getD_some]
      · rfl
  | none =>
      dsimp only [find?] at found ⊢
      rw [List.find?_append]
      by_cases same : other = id
      · rw [if_pos same, same, found]
        simp
      · have apart : id ≠ other := fun equal => same equal.symm
        simp [same, apart]

/-- A stored message is never replaced. -/
theorem find?_publish_of_found {other : MessageId} {message : StreamMessage MessageId Payload}
    (found : stream.find? other = some message) :
    (stream.publish id payload).1.find? other = some message := by
  rw [find?_publish]
  split
  · rename_i same
    rw [← same, found, Option.getD_some]
  · exact found

/-- The acknowledgement names the stored message, whoever has published it. -/
theorem publish_acknowledges :
    ∃ message, (stream.publish id payload).1.find? id = some message ∧
      message.sequence = (stream.publish id payload).2.sequence ∧
      ((stream.publish id payload).2.duplicate = false → message.payload = payload) := by
  rw [find?_publish, if_pos rfl]
  refine ⟨_, rfl, ?_⟩
  unfold publish
  cases stream.find? id with
  | some stored => simp
  | none => simp

end MessageStream

end TenantTrust.Library
