import StepSync.Proofs.Session.Reply

namespace StepSync

/-!
# Adapted answers

Two clients that do the same differ in the nonce of their join request and in the
id of their snapshot requests, by a `Shift`.  What a server says to one of them is
adapted to the other when the nonce or the id in it is moved by that shift, and
the datagram is sealed anew (`Shift.adapt`).  Nothing else in it changes, so what
was refused before, is refused for the same reason.
-/

/-- How far the nonce and the request id of one client lie ahead of another's. -/
structure Shift where
  nonce : UInt64
  requestId : UInt8
  deriving Repr, DecidableEq

namespace Shift

/-- The other client's join request. -/
def joinRequest (shift : Shift) (request : JoinRequest) : JoinRequest :=
  { request with nonce := request.nonce + shift.nonce }

/-- The answer to the other client's join request. -/
def joinResponse (shift : Shift) (response : JoinResponse) : JoinResponse :=
  { response with nonce := response.nonce + shift.nonce }

/-- The answer to the other client's join request, if there is no slot. -/
def outOfSlots (shift : Shift) (answer : OutOfSlots) : OutOfSlots :=
  ⟨answer.nonce + shift.nonce⟩

/-- The answer to the other client's request for a snapshot. -/
def downloadResponse (shift : Shift) (response : DownloadResponse) :
    DownloadResponse :=
  { response with requestId := response.requestId + shift.requestId }

/-- A message that begins with a nonce, if it is long enough. -/
def nonceFirst (shift : Shift) (body : Octets) : Octets :=
  if 8 ≤ body.length then
    Octets.ofWord64 (UInt64.ofNat (Octets.value (body.take 8)) + shift.nonce) ++
      body.drop 8
  else body

/-- A message that begins with a request id. -/
def requestIdFirst (shift : Shift) : Octets → Octets
  | [] => []
  | id :: rest => (id + shift.requestId) :: rest

/-- The message behind a command. -/
def body (shift : Shift) (command? : Option Command) (body : Octets) :
    Octets :=
  match command? with
  | some .joinGameResponse | some .joinGameOutOfParticipantSlots =>
      shift.nonceFirst body
  | some .downloadGameStateResponse => shift.requestIdFirst body
  | _ => body

/-- A message with its command in front. -/
def message (shift : Shift) : Octets → Octets
  | [] => []
  | code :: body => code :: shift.body (Command.ofCode? code) body

/-- A message with an echoed time in front, if there is one. -/
def echoed (shift : Shift) (octets : Octets) : Octets :=
  match octets with
  | marker :: first :: second :: rest =>
      if marker = pongMarker then
        marker :: first :: second :: shift.message rest
      else shift.message octets
  | octets => shift.message octets

/-- Behind a marker, the echoed time stays as it is, and the message is adapted. -/
theorem echoed_marker (shift : Shift) (first second : UInt8) (rest : Octets) :
    shift.echoed (pongMarker :: first :: second :: rest) =
      pongMarker :: first :: second :: shift.message rest := by
  simp [echoed]

/-- The marker is no command, so nothing behind it is adapted if it is cut short. -/
theorem echoed_marker_of_short
    (shift : Shift)
    {rest : Octets}
    (short : rest.length < 2) :
    shift.echoed (pongMarker :: rest) = pongMarker :: rest := by
  match rest, short with
  | [], _ => rfl
  | [_], _ => rfl

/-- Without a marker there is nothing but the message to adapt. -/
theorem echoed_unmarked
    (shift : Shift)
    {octet : UInt8}
    (unmarked : octet ≠ pongMarker)
    (rest : Octets) :
    shift.echoed (octet :: rest) = shift.message (octet :: rest) := by
  match rest with
  | [] => rfl
  | [_] => rfl
  | _ :: _ :: _ => simp [echoed, unmarked]

/-- What a seal covers: the number, and what follows. -/
def covered (shift : Shift) : Octets → Octets
  | first :: second :: rest => first :: second :: shift.echoed rest
  | octets => octets

/-- Octets that do not even hold a number stay as they are. -/
theorem covered_of_short
    (shift : Shift)
    {octets : Octets}
    (short : octets.length < 2) :
    shift.covered octets = octets := by
  match octets, short with
  | [], _ => rfl
  | [_], _ => rfl

/--
A datagram as the other client is to find it; the seal is good if it
was good before.
-/
def adapt (shift : Shift) (connection? : Option Connection) :
    Octets → Octets
  | [] => []
  | id :: rest =>
      match connection? with
      | none => id :: rest
      | some connection =>
          if id = noConnectionId then id :: rest
          else
            match Reader.afterSeal? connection.secret ⟨1, rest⟩ with
            | none => id :: rest
            | some reader =>
                Session.sealedDatagram id connection.secret
                  (shift.covered reader.rest)

/-- The id in front is not adapted. -/
theorem exists_adapt
    (shift : Shift)
    (connection? : Option Connection)
    (id : UInt8)
    (rest : Octets) :
    ∃ adapted, shift.adapt connection? (id :: rest) = id :: adapted := by
  unfold adapt
  cases connection? with
  | none => exact ⟨_, rfl⟩
  | some connection =>
      dsimp only
      split
      · exact ⟨_, rfl⟩
      · split <;> exact ⟨_, rfl⟩

/-- Outside any connection there is nothing to adapt. -/
theorem adapt_outOfBand
    (shift : Shift)
    (connection? : Option Connection)
    {id : UInt8}
    (outOfBand : id = noConnectionId)
    (rest : Octets) :
    shift.adapt connection? (id :: rest) = id :: rest := by
  cases connection? with
  | none => rfl
  | some connection => exact if_pos outOfBand

/-! ## Lengths -/

variable (shift : Shift)

/-- A nonce takes the place of a nonce. -/
@[simp] theorem length_nonceFirst (body : Octets) :
    (shift.nonceFirst body).length = body.length := by
  unfold nonceFirst
  split
  · simp
    omega
  · rfl

@[simp] theorem length_requestIdFirst (body : Octets) :
    (shift.requestIdFirst body).length = body.length := by
  cases body <;> rfl

/-- Whatever the command says, its body keeps its length. -/
@[simp] theorem length_body (command? : Option Command) (body : Octets) :
    (shift.body command? body).length = body.length := by
  unfold Shift.body
  split <;> simp

@[simp] theorem length_message (octets : Octets) :
    (shift.message octets).length = octets.length := by
  cases octets <;> simp [message]

@[simp] theorem length_echoed (octets : Octets) :
    (shift.echoed octets).length = octets.length := by
  unfold echoed
  split
  · split <;> simp
  · simp

@[simp] theorem length_covered (octets : Octets) :
    (shift.covered octets).length = octets.length := by
  unfold covered
  split <;> simp

end Shift

/-- Behind a good seal stand the octets that it was made for. -/
theorem Reader.exists_of_afterSeal?
    {secret : UInt64}
    {position : Nat}
    {octets : Octets}
    {reader : Reader}
    (found : afterSeal? secret ⟨position, octets⟩ = some reader) :
    reader.position = position + 4 ∧
      octets = Octets.ofWord32 (Seal.make secret reader.rest) ++ reader.rest := by
  by_cases enough : 4 ≤ octets.length
  · obtain ⟨claimed, written⟩ :=
      Octets.exists_ofWord32 (List.length_take_of_le enough)
    have parts : octets = Octets.ofWord32 claimed ++ octets.drop 4 := by
      rw [written, List.take_append_drop]
    have taken := Decoder.Reads.word32 claimed position (octets.drop 4)
    rw [← parts] at taken
    rw [afterSeal?, taken] at found
    dsimp only at found
    by_cases good : Seal.verifies secret claimed (octets.drop 4)
    · rw [if_pos good] at found
      obtain rfl := Option.some.inj found
      refine ⟨by simp, ?_⟩
      rw [show Seal.make secret (octets.drop 4) = claimed from
        beq_iff_eq.mp good]
      exact parts
    · rw [if_neg good] at found
      cases found
  · have missed :
        Decoder.word32 ⟨position, octets⟩ =
          (.error (Reader.underflow ⟨position, octets⟩ 4),
            ⟨position, octets⟩) :=
      Decoder.map_number_of_short (Nat.not_le.mp enough) UInt32.ofNat
    rw [afterSeal?, missed] at found
    cases found

/-- What is adapted for another client is as long as before. -/
@[simp] theorem Shift.length_adapt
    (shift : Shift)
    (connection? : Option Connection)
    (datagram : Octets) :
    (shift.adapt connection? datagram).length = datagram.length := by
  cases datagram with
  | nil => rfl
  | cons id rest =>
      cases connection? with
      | none => rfl
      | some connection =>
          simp only [adapt]
          split
          · rfl
          · split
            case h_1 => rfl
            case h_2 reader found =>
              obtain ⟨_, parts⟩ := Reader.exists_of_afterSeal? found
              have length := congrArg List.length parts
              simp [Session.sealedDatagram] at length ⊢
              omega

/-! ## Reading adapted messages -/

namespace Decoder

variable {First Result : Type}

/--
The second decoder finds what the first does, but for a change; both take
the same octets.
-/
def Mapped
    (change : Result → Result)
    (first second : Decoder Result) :
    Prop :=
  ∀ reader,
    second reader = ((first reader).1.map change, (first reader).2)

namespace Mapped

variable {change : Result → Result}

/-- What is found without reading is changed as it should be. -/
theorem pure (found : Result) :
    Mapped change (Pure.pure found) (Pure.pure (change found)) :=
  fun _ => rfl

/-- A decoder that goes on differently with what was found gives what is changed. -/
theorem bind
    (decoder : Decoder First)
    {first second : First → Decoder Result}
    (mapped : ∀ found, Mapped change (first found) (second found)) :
    Mapped change (decoder >>= first) (decoder >>= second) := by
  intro reader
  rw [bind_apply, bind_apply]
  rcases decoder reader with ⟨failure | found, rest⟩
  · rfl
  · exact mapped found rest

end Mapped

/-- What a decoder makes of adapted octets: the same, but for a change. -/
def Adapts
    (decoder : Decoder Result)
    (change : Result → Result)
    (adapted octets : Octets) :
    Prop :=
  ∀ position,
    decoder ⟨position, adapted⟩ =
      ((decoder ⟨position, octets⟩).1.map change,
        (decoder ⟨position, octets⟩).2)

theorem Adapts.refl (decoder : Decoder Result) (octets : Octets) :
    Adapts decoder id octets octets := by
  intro position
  rcases decoder ⟨position, octets⟩ with ⟨failure | found, rest⟩ <;> rfl

end Decoder

namespace Shift

open Decoder

variable (shift : Shift)

/-- A message that begins with a nonce is read with another nonce. -/
theorem adapts_nonceFirst
    {Result : Type}
    {change : Result → Result}
    {next : UInt64 → Decoder Result}
    (mapped : ∀ nonce,
      Mapped change (next nonce) (next (nonce + shift.nonce)))
    (body : Octets) :
    Adapts (Decoder.word64 >>= next) change (shift.nonceFirst body) body := by
  intro position
  by_cases enough : 8 ≤ body.length
  · have written := Octets.ofWord64_value (List.length_take_of_le enough)
    generalize found : UInt64.ofNat (Octets.value (body.take 8)) = nonce
      at written
    have parts : body = Octets.ofWord64 nonce ++ body.drop 8 := by
      rw [written, List.take_append_drop]
    have taken := Reads.word64 nonce position (body.drop 8)
    have moved := Reads.word64 (nonce + shift.nonce) position (body.drop 8)
    rw [← parts] at taken
    rw [nonceFirst, if_pos enough, found, bind_of_ok taken, bind_of_ok moved,
      Octets.length_ofWord64, Octets.length_ofWord64]
    exact mapped nonce _
  · rw [nonceFirst, if_neg enough]
    have missed :
        Decoder.word64 ⟨position, body⟩ =
          (.error (Reader.underflow ⟨position, body⟩ 8),
            ⟨position, body⟩) :=
      map_number_of_short (Nat.not_le.mp enough) UInt64.ofNat
    rw [bind_of_error missed]
    rfl

/-- A message that begins with a request id is read with another id. -/
theorem adapts_requestIdFirst
    {Result : Type}
    {change : Result → Result}
    {next : UInt8 → Decoder Result}
    (mapped : ∀ id,
      Mapped change (next id) (next (id + shift.requestId)))
    (body : Octets) :
    Adapts (Decoder.octet >>= next) change (shift.requestIdFirst body)
      body := by
  intro position
  cases body with
  | nil => rfl
  | cons id rest =>
      have taken := Reads.octet id position rest
      have moved := Reads.octet (id + shift.requestId) position rest
      rw [List.singleton_append] at taken moved
      rw [requestIdFirst, bind_of_ok taken, bind_of_ok moved]
      exact mapped id _

/--
A join response with another nonce is read as that one with its nonce shifted.
-/
theorem adapts_joinResponse (body : Octets) :
    Adapts JoinResponse.decode shift.joinResponse (shift.nonceFirst body)
      body := by
  unfold JoinResponse.decode
  refine shift.adapts_nonceFirst (fun nonce => ?_) body
  refine .bind _ fun connectionIndex => .bind _ fun sessionSecret => ?_
  refine .bind _ fun count => .bind _ fun participants => ?_
  exact .pure
    (JoinResponse.mk nonce connectionIndex sessionSecret participants)

/-- The same of the answer that there is no room for more participants. -/
theorem adapts_outOfSlots (body : Octets) :
    Adapts OutOfSlots.decode shift.outOfSlots (shift.nonceFirst body)
      body := by
  unfold OutOfSlots.decode
  refine shift.adapts_nonceFirst (fun nonce => ?_) body
  exact .pure (OutOfSlots.mk nonce)

/-- A download response with another id is read as that one with its id shifted. -/
theorem adapts_downloadResponse (body : Octets) :
    Adapts DownloadResponse.decode shift.downloadResponse
      (shift.requestIdFirst body) body := by
  unfold DownloadResponse.decode
  refine shift.adapts_requestIdFirst (fun id => ?_) body
  refine .bind _ fun stepId => .bind _ fun octetCount => ?_
  refine .bind _ fun channel => ?_
  exact .pure (DownloadResponse.mk id stepId octetCount channel)

end Shift

end StepSync
