import JobWatch.Client.Response
import JobWatch.Proofs.Text.Utf8

/-! What a server can answer a request with: a document that decodes, or a refusal with a message.
The client makes the same of its reply as a script that has the answer in it.
-/

namespace JobWatch

-----------------------------------------------------------------------
-- Messages
-----------------------------------------------------------------------

namespace Text

/-- The character that, at the start of a text, is a byte order mark. -/
def mark : Char :=
  '\uFEFF'

/-- The lossy reader loses nothing of a text that was encoded. -/
theorem Utf8.decodeLossy_encode (text : List Char) : decodeLossy (encode text) = text := by
  rw [decodeLossy, decode_encode, List.map_map]
  exact List.map_id _

/-- A text without a mark is told apart from all marked ones: the octets of a mark in UTF-8 would be
its first character, and those of the other marks encode no character.
-/
theorem Marked.decode_encode {text : List Char} (unmarked : text.head? ≠ some mark)
    : Marked.decode (Utf8.encode text) = text := by
  have read := Utf8.decode_encode text
  have lossy := Utf8.decodeLossy_encode text
  generalize Utf8.encode text = octets at read lossy
  unfold Marked.decode
  split
  · rename_i rest
    have marked : Utf8.decode (0xEF :: 0xBB :: 0xBF :: rest) = some mark :: Utf8.decode rest := rfl
    rw [marked] at read
    cases text with
    | nil => cases read
    | cons c behind => exact absurd (List.cons.inj read).1.symm unmarked
  · rename_i rest
    have bad : Utf8.decode (0xFF :: 0xFE :: rest) = none :: Utf8.decode (0xFE :: rest) := rfl
    rw [bad] at read
    cases text <;> cases read
  · rename_i rest
    have bad : Utf8.decode (0xFE :: 0xFF :: rest) = none :: Utf8.decode (0xFF :: rest) := rfl
    rw [bad] at read
    cases text <;> cases read
  · exact lossy

end Text

-----------------------------------------------------------------------
-- Replies
-----------------------------------------------------------------------

namespace Http.Reply

/-- A reply that is dropped, or has a status that is the last one and lets a body follow. -/
def IsOrdinary : Reply → Prop
  | .dropped => True
  | .answered status _ _ => 200 ≤ status ∧ status ≤ 999 ∧ status ≠ 204 ∧ status ≠ 304

/-- An ordinary reply arrives as it was sent. -/
theorem received_of_ordinary {reply : Reply} (ordinary : reply.IsOrdinary)
    : reply.received = reply := by
  cases reply with
  | dropped => rfl
  | answered status body complete =>
      obtain ⟨final, inRange, noContent, notModified⟩ := ordinary
      have isStatus : isStatus status = true := by simp [isStatus]; omega
      have notInterim : isInterim status = false := by simp [isInterim]; omega
      have hasBody : hasNoBody status = false := by simp [hasNoBody]; omega
      simp [received, isStatus, notInterim, hasBody]

end Http.Reply

-----------------------------------------------------------------------
-- Answers
-----------------------------------------------------------------------

namespace Client

open JobWatch.Http

variable {α : Type}

/-- An answer of a server: a document with the value that it decodes to, or a refusal. -/
inductive ServedAnswer (read : Wire.Reader α) where
  | document (text : String) (value : α)
    (decodes : Wire.document read (Json.ofText text) = .ok value)
  | refusal (status : Nat) (message : String) (refuses : 400 ≤ status ∧ status ≤ 599)
    (unmarked : message.toList.head? ≠ some Text.mark)

namespace ServedAnswer

variable {read : Wire.Reader α}

/-- The answer in a script. -/
def answer : ServedAnswer read → Except Error α
  | document _ value _ => .ok value
  | refusal status message _ _ => .error (.answered status message)

/-- The answer as it is sent: a document is granted, and a message is the body of its refusal. -/
def reply : ServedAnswer read → Reply
  | document text _ _ => .answered 200 (Text.Utf8.encode text.toList) true
  | refusal status message _ _ => .answered status (Text.Utf8.encode message.toList) true

/-- What is made of a reply is the answer that was sent, by cases of the answer. -/
theorem document_reply (answer : ServedAnswer read)
    : Client.document read answer.reply = answer.answer := by
  cases answer with
  | document text value decodes =>
      have granted : (reply (.document text value decodes)).received
          = .answered 200 (Text.Utf8.encode text.toList) true := rfl
      have isRead : Wire.document read
          (Json.read (Text.Utf8.decode (Text.Utf8.encode text.toList))) = .ok value := by
        rw [Text.Utf8.decode_encode]
        exact decodes
      simp only [Client.document, accept, granted, isRead]
      rfl
  | refusal status message refuses unmarked =>
      have refused : isSuccess status = false := by simp [isSuccess]; omega
      have arrives : Reply.received (.answered status (Text.Utf8.encode message.toList) true)
          = .answered status (Text.Utf8.encode message.toList) true :=
        Reply.received_of_ordinary ⟨by omega, by omega, by omega, by omega⟩
      have isRefusal : Client.refusal status (Text.Utf8.encode message.toList) true
          = .answered status message := by
        rw [Client.refusal, if_pos rfl, Text.Marked.decode_encode unmarked, String.ofList_toList]
      simp only [Client.document, accept, reply, arrives, refused, isRefusal, answer,
        Bool.false_eq_true, if_false]

end ServedAnswer

end Client

end JobWatch
