import StepSync.Proofs.Message.ServerMessage
import StepSync.Proofs.Session.Delivery
import StepSync.Proofs.Session.StepDatagram
import StepSync.Proofs.Session.Unchanged

namespace StepSync

/-!
# What a server says reaches the session

A datagram that is sealed under the secret of the session's connection, and bears
a number that lies ahead, brings its message to the session
(`Session.delivery_reply`), and its number is the last one then
(`Session.receiveSequence_reply`).  The connect response comes outside any
connection (`Session.delivery_greeting`).
-/

/-- The octets of an echoed time, if there is one. -/
def Octets.ofEcho : Option UInt16 → Octets
  | none => []
  | some time => pongMarker :: Octets.ofWord16 time

/-- No command is taken for the marker of an echoed time. -/
theorem Command.code_ne_pongMarker (command : Command) :
    command.code ≠ pongMarker := by
  cases command <;> decide

namespace Reader

/-- A seal that belongs to the octets behind it is passed. -/
theorem afterSeal?_make
    (secret : UInt64)
    (position : Nat)
    (covered : Octets) :
    afterSeal? secret
        ⟨position,
          Octets.ofWord32 (Seal.make secret covered) ++ covered⟩ =
      some ⟨position + 4, covered⟩ := by
  have taken := Decoder.Reads.word32 (Seal.make secret covered) position covered
  have good : Seal.verifies secret (Seal.make secret covered) covered = true :=
    beq_self_eq_true _
  rw [afterSeal?, taken]
  exact if_pos good

/-- A number that lies ahead is passed. -/
theorem afterNumber?_of_ahead
    {sequence : ReceiveSequence}
    {number : UInt16}
    (ahead : 0 < sequence.distance number)
    (position : Nat)
    (message : Octets) :
    afterNumber? sequence
        ⟨position, Octets.ofWord16 number ++ message⟩ =
      some ⟨position + 2, message⟩ := by
  have taken := Decoder.Reads.word16 number position message
  rw [afterNumber?, taken]
  exact if_pos ahead

/-- An echoed time in front of a command is passed, if there is one. -/
theorem afterEcho?_ofEcho
    (echo : Option UInt16)
    (command : Command)
    (position : Nat)
    (body : Octets) :
    afterEcho? ⟨position, Octets.ofEcho echo ++ command.code :: body⟩ =
      some ⟨position + (Octets.ofEcho echo).length, command.code :: body⟩ := by
  cases echo with
  | none => exact if_neg command.code_ne_pongMarker
  | some time =>
      have marked := Decoder.Reads.marker pongMarker position
        (Octets.ofWord16 time ++ command.code :: body)
      have taken := Decoder.Reads.word16 time (position + 1)
        (command.code :: body)
      simp only [List.singleton_append] at marked
      simp [afterEcho?, peek, Octets.ofEcho, marked, taken, Nat.add_assoc]

end Reader

namespace Delivery

/-- The message behind a command is delivered. -/
theorem ofCommandOctet_code
    (command : Command)
    (position : Nat)
    (body : Octets) :
    ofCommandOctet ⟨position, command.code :: body⟩ =
      ofCommand command ⟨position + 1, body⟩ := by
  have taken := Decoder.Reads.octet command.code position body
  rw [List.singleton_append] at taken
  rw [ofCommandOctet, taken]
  dsimp only
  rw [Command.ofCode?_code]
  rfl

/-- A message that is read back is delivered. -/
theorem ofMessage_of_reads
    {Message : Type}
    {decoder : Decoder Message}
    {written : Octets}
    {message : Message}
    (reads : decoder.Reads written message)
    (deliver : Message → Delivery)
    (position : Nat) :
    ofMessage decoder deliver ⟨position, written⟩ = deliver message := by
  have taken := reads position []
  rw [List.append_nil] at taken
  rw [ofMessage, taken]

/-- A part of a snapshot is delivered. -/
theorem ofPart_fields
    (channel : UInt16)
    {chunk : Chunk}
    (short : chunk.octets.length < UInt16.size)
    (position : Nat) :
    ofPart ⟨position, Octets.ofWord16 channel ++ chunk.fields.flatten⟩ =
      part channel chunk := by
  have named := Decoder.Reads.word16 channel position chunk.fields.flatten
  have taken := Chunk.reads_fields short (position + 2) []
  rw [List.append_nil] at taken
  rw [ofPart, named]
  dsimp only
  rw [Octets.length_ofWord16, taken]

end Delivery

namespace Session

/--
A server's message within a connection, with its number and the echo of a time
if there is one.
-/
def reply
    (connection : Connection)
    (number : UInt16)
    (echo : Option UInt16)
    (message : Octets) :
    Octets :=
  sealedDatagram connection.id connection.secret
    (Octets.ofWord16 number ++ (Octets.ofEcho echo ++ message))

/-- A server's message outside any connection. -/
def greeting (number : UInt16) (message : Octets) : Octets :=
  noConnectionId :: (Octets.ofWord16 number ++ message)

/--
Whatever connection they come on, the fields of a message bring a delivery, and
fit a datagram.
-/
structure Brings (fields : List Octets) (delivery : Delivery) : Prop where
  read : ∃ command body,
    fields.flatten = Command.code command :: body ∧
      command ≠ .connectResponse ∧
      ∀ position, Delivery.ofCommand command ⟨position, body⟩ = delivery
  short : fields.flatten.length + 10 ≤ mostDatagramOctets

theorem length_reply
    (connection : Connection)
    (number : UInt16)
    (echo : Option UInt16)
    (message : Octets) :
    7 + message.length ≤ (reply connection number echo message).length ∧
      (reply connection number echo message).length ≤
        10 + message.length := by
  cases echo <;>
    simp [reply, sealedDatagram, Octets.ofEcho] <;> omega

/-- A connect response reaches the session from outside any connection. -/
theorem delivery_greeting
    (session : Session)
    (number : UInt16)
    (body : Octets) :
    session.delivery
        (greeting number (Command.connectResponse.code :: body)) =
      Delivery.ofCommand .connectResponse ⟨4, body⟩ := by
  have long :
      ¬(greeting number
          (Command.connectResponse.code :: body)).length <
        fewestDatagramOctets := by
    simp [greeting, fewestDatagramOctets]
    omega
  have named := Decoder.Reads.octet noConnectionId 0
    (Octets.ofWord16 number ++ Command.connectResponse.code :: body)
  have numbered := Decoder.Reads.word16 number 1
    (Command.connectResponse.code :: body)
  have coded := Decoder.Reads.octet Command.connectResponse.code 3 body
  rw [List.singleton_append] at named coded
  rw [delivery, if_neg long, greeting, Reader.ofOctets, named]
  dsimp only
  rw [if_pos rfl, Delivery.ofOutOfBand]
  simp only [List.length_singleton, Nat.zero_add]
  rw [numbered]
  dsimp only
  rw [Octets.length_ofWord16, coded]
  rfl

/-- A connect response that is awaited starts the numbering anew. -/
theorem receiveSequence_greeting
    {session : Session}
    (requesting : session.stage = .requestingConnect)
    {body : Octets}
    {response : ConnectResponse}
    (reads : ConnectResponse.decode.Reads body response)
    (named : response.connectionId ≠ noConnectionId)
    (number : UInt16) :
    (session.receive
        (greeting number
          (Command.connectResponse.code :: body))).session.receiveSequence =
      ReceiveSequence.start := by
  have long :
      ¬(greeting number
          (Command.connectResponse.code :: body)).length <
        fewestDatagramOctets := by
    simp [greeting, fewestDatagramOctets]
    omega
  have outside := Decoder.Reads.octet noConnectionId 0
    (Octets.ofWord16 number ++ Command.connectResponse.code :: body)
  have numbered := Decoder.Reads.word16 number 1
    (Command.connectResponse.code :: body)
  have coded := Decoder.Reads.octet Command.connectResponse.code 3 body
  have taken := reads 4 []
  rw [List.append_nil] at taken
  rw [List.singleton_append] at outside coded
  generalize found : greeting number (Command.connectResponse.code :: body) =
    datagram at long
  have accepted :
      (Action.acceptDatagram datagram
        (session.countArrival datagram)).session.receiveSequence =
          ReceiveSequence.start := by
    have stillRequesting :
        (session.countArrival datagram).stage = .requestingConnect :=
      requesting
    generalize session.countArrival datagram = counted at stillRequesting ⊢
    rw [Action.acceptDatagram, if_neg long, ← found, greeting,
      Reader.ofOctets, Action.decoded_bind_ok outside]
    dsimp only
    rw [if_pos rfl, Action.acceptOutOfBand]
    simp only [List.length_singleton, Nat.zero_add]
    rw [Action.decoded_bind_ok numbered]
    dsimp only
    rw [Octets.length_ofWord16, Action.decoded_bind_ok coded]
    dsimp only
    rw [if_pos (Command.ofCode?_code _)]
    have accepts :
        (Action.acceptCommand .connectResponse ⟨4, body⟩
          counted).session.receiveSequence = ReceiveSequence.start := by
      rw [Action.acceptCommand, Action.acceptMessage,
        Action.decoded_bind_ok taken]
      simp [Action.acceptConnection, Action.session_bind,
        Action.result_bind, stillRequesting, named]
    rw [Action.session_bind]
    split <;> exact accepts
  unfold receive
  dsimp only
  split <;> exact accepted

section

variable
  {session : Session}
  {connection : Connection}
  {number : UInt16}
  (connected : session.connection = some connection)
  (named : connection.id ≠ noConnectionId)
  (present : session.stage ≠ .disconnected)
  (ahead : 0 < session.receiveSequence.distance number)
  (echo : Option UInt16)
  (command : Command)
  (body : Octets)

include connected named present ahead

/-- A message within the session's own connection reaches it. -/
theorem delivery_reply :
    session.delivery
        (reply connection number echo (command.code :: body)) =
      Delivery.ofCommand command
        ⟨0 + [connection.id].length + 4 + 2 + (Octets.ofEcho echo).length + 1,
          body⟩ := by
  obtain ⟨long, _⟩ :=
    length_reply connection number echo (command.code :: body)
  have enough :
      ¬(reply connection number echo (command.code :: body)).length <
        fewestDatagramOctets := by
    unfold fewestDatagramOctets
    omega
  have taken := Decoder.Reads.octet connection.id 0
    (Octets.ofWord32 (Seal.make connection.secret
        (Octets.ofWord16 number ++
          (Octets.ofEcho echo ++ command.code :: body))) ++
      (Octets.ofWord16 number ++
        (Octets.ofEcho echo ++ command.code :: body)))
  rw [List.singleton_append] at taken
  have own :
      ¬(connection.id ≠ connection.id ∨ session.stage = .disconnected) := by
    simp [present]
  rw [delivery, if_neg enough, reply, sealedDatagram, Reader.ofOctets, taken]
  dsimp only
  rw [if_neg named, afterHeader?, connected]
  dsimp only
  rw [if_neg own, Reader.afterSeal?_make, Option.bind_some,
    Reader.afterNumber?_of_ahead ahead, Option.bind_some,
    Reader.afterEcho?_ofEcho]
  exact Delivery.ofCommandOctet_code command _ body

omit connected named present in
/-- A number that lies ahead is the last one then. -/
theorem receiveSequence_checkSequence (position : Nat) (message : Octets) :
    (Action.checkSequence ⟨position, Octets.ofWord16 number ++ message⟩
      session).session.receiveSequence = ⟨some number⟩ := by
  have taken := Decoder.Reads.word16 number position message
  have late : ¬session.receiveSequence.distance number ≤ 0 :=
    Int.not_le.mpr ahead
  have accepts : session.receiveSequence.accept number = ⟨some number⟩ :=
    if_pos ahead
  unfold Action.checkSequence
  rw [Action.decoded_bind_ok taken]
  dsimp only
  rw [Action.current_bind, ← accepts, Action.session_bind]
  dsimp only [Action.modify_apply]
  rw [if_neg late, Action.session_bind]
  have keeps : Action.Keeps Session.receiveSequence
      (Action.countLost (session.receiveSequence.distance number - 1).toNat) :=
    .countLost _
  split <;> exact keeps _

omit connected named present in
/--
Behind a number that lies ahead, no message but a connect response changes
the numbering.
-/
theorem receiveSequence_acceptSealed
    (other : command ≠ .connectResponse)
    (position : Nat) :
    (Action.acceptSealed connection.secret
        ⟨position,
          Octets.ofWord32 (Seal.make connection.secret
              (Octets.ofWord16 number ++
                (Octets.ofEcho echo ++ command.code :: body))) ++
            (Octets.ofWord16 number ++
              (Octets.ofEcho echo ++ command.code :: body))⟩
        session).session.receiveSequence =
      ⟨some number⟩ := by
  unfold Action.acceptSealed
  obtain ⟨keeps, finds⟩ := Action.checkSeal_spec connection.secret
    ⟨position,
      Octets.ofWord32 (Seal.make connection.secret
          (Octets.ofWord16 number ++
            (Octets.ofEcho echo ++ command.code :: body))) ++
        (Octets.ofWord16 number ++
          (Octets.ofEcho echo ++ command.code :: body))⟩
    session
  rw [Reader.afterSeal?_make] at finds
  have sealed : Action.Leaves _ session.situation _ :=
    ⟨congrArg situation keeps, finds⟩
  rw [(sealed.apply_bind _).1, keeps]
  have numbered := Action.Leaves.checkSequence
    ⟨position + 4,
      Octets.ofWord16 number ++
        (Octets.ofEcho echo ++ command.code :: body)⟩
    session
  rw [Reader.afterNumber?_of_ahead ahead] at numbered
  rw [(numbered.apply_bind _).1]
  have sequence := receiveSequence_checkSequence ahead (position + 4)
    (Octets.ofEcho echo ++ command.code :: body)
  generalize (Action.checkSequence _ session).session = accepted at sequence ⊢
  have echoed := Action.Leaves.takeEcho
    ⟨position + 4 + 2, Octets.ofEcho echo ++ command.code :: body⟩ accepted
  have same : (Action.takeEcho _ accepted).session.receiveSequence = _ :=
    Action.Keeps.takeEcho
      ⟨position + 4 + 2, Octets.ofEcho echo ++ command.code :: body⟩ accepted
  rw [Reader.afterEcho?_ofEcho] at echoed
  rw [(echoed.apply_bind _).1, ← sequence, ← same]
  exact Action.Keeps.takeCommand_of_ne other _ body _

omit ahead in
/-- A datagram of the session's own connection is looked at behind its id. -/
theorem acceptDatagram_reply :
    Action.acceptDatagram (reply connection number echo (command.code :: body))
        session =
      Action.acceptSealed connection.secret
        ⟨0 + [connection.id].length,
          Octets.ofWord32 (Seal.make connection.secret
              (Octets.ofWord16 number ++
                (Octets.ofEcho echo ++ command.code :: body))) ++
            (Octets.ofWord16 number ++
              (Octets.ofEcho echo ++ command.code :: body))⟩
        session := by
  obtain ⟨long, _⟩ :=
    length_reply connection number echo (command.code :: body)
  have enough :
      ¬(reply connection number echo (command.code :: body)).length <
        fewestDatagramOctets := by
    unfold fewestDatagramOctets
    omega
  have taken := Decoder.Reads.octet connection.id 0
    (Octets.ofWord32 (Seal.make connection.secret
        (Octets.ofWord16 number ++
          (Octets.ofEcho echo ++ command.code :: body))) ++
      (Octets.ofWord16 number ++
        (Octets.ofEcho echo ++ command.code :: body)))
  rw [List.singleton_append] at taken
  have own : ¬connection.id ≠ connection.id := fun other => other rfl
  rw [Action.acceptDatagram, if_neg enough, reply, sealedDatagram,
    Reader.ofOctets, Action.decoded_bind_ok taken]
  dsimp only
  rw [if_neg named, Action.acceptConnected, Action.current_bind, connected]
  dsimp only
  rw [if_neg own, if_neg present]
  rfl

/-- The number of a message that was heeded is the last one. -/
theorem receiveSequence_reply
    (other : command ≠ .connectResponse) :
    (session.receive
        (reply connection number echo
          (command.code :: body))).session.receiveSequence =
      ⟨some number⟩ := by
  generalize found : reply connection number echo (command.code :: body) =
    datagram
  have accepted :
      (Action.acceptDatagram datagram
        (session.countArrival datagram)).session.receiveSequence =
          ⟨some number⟩ := by
    have stillConnected :
        (session.countArrival datagram).connection = some connection :=
      connected
    have stillPresent : (session.countArrival datagram).stage ≠ .disconnected :=
      present
    have stillAhead :
        0 < (session.countArrival datagram).receiveSequence.distance number :=
      ahead
    generalize session.countArrival datagram = counted
      at stillConnected stillPresent stillAhead ⊢
    rw [← found, acceptDatagram_reply stillConnected named stillPresent]
    exact receiveSequence_acceptSealed stillAhead echo command body other _
  unfold receive
  dsimp only
  split <;> exact accepted

end

end Session

end StepSync
