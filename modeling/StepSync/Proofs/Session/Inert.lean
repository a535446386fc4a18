import StepSync.Proofs.Octets.Codec
import StepSync.Proofs.Session.Counting

namespace StepSync.Session

/-!
# Inert datagrams

A datagram that is too short, from outside any connection or from another one,
unsealed, not ahead in the sequence, or too late for a disconnected session is
`Inert`: it is counted, and nothing else changes.
-/

/-- The datagram bears the seal that belongs to the octets behind it. -/
def SealedUnder (secret : UInt64) (datagram : Octets) : Prop :=
  ∃ id covered, datagram = sealedDatagram id secret covered

/-- The answer to a connect request that a datagram outside any connection holds. -/
def connectResponse? (datagram : Octets) : Option ConnectResponse :=
  if datagram[3]? = some Command.connectResponse.code then
    (ConnectResponse.decode ⟨4, datagram.drop 4⟩).1.toOption
  else none

/-- A datagram that the session has no reason to heed. -/
inductive Inert (session : Session) (datagram : Octets) : Prop where
  | short (few : datagram.length < fewestDatagramOctets)
  | outOfBand
      (outside : datagram.head? = some noConnectionId)
      (unasked :
        session.stage = .requestingConnect →
          connectResponse? datagram = none)
  | foreign
      (id : UInt8)
      (bears : datagram.head? = some id)
      (inside : id ≠ noConnectionId)
      (other : session.connection.map Connection.id ≠ some id)
  | unsealed
      (inside : datagram.head? ≠ some noConnectionId)
      (broken :
        ∀ connection ∈ session.connection,
          ¬SealedUnder connection.secret datagram)
  | stale
      (id : UInt8)
      (claimed : UInt32)
      (number : UInt16)
      (message : Octets)
      (inside : id ≠ noConnectionId)
      (made :
        datagram =
          id :: (Octets.ofWord32 claimed ++
            (Octets.ofWord16 number ++ message)))
      (late : session.receiveSequence.distance number ≤ 0)
  | disconnected (gone : session.stage = .disconnected)

namespace Action

variable {First Result : Type} {session : Session}

/-- The action leaves the session as it is. -/
def Still (action : Action Result) (session : Session) : Prop :=
  (action session).session = session

namespace Still

theorem bind
    {action : Action First}
    {next : First → Action Result}
    (first : Still action session)
    (second : ∀ found, (action session).result = .ok found →
      Still (next found) session) :
    Still (action >>= next) session := by
  unfold Still
  rw [session_bind]
  cases result : (action session).result with
  | error refusal => exact first
  | ok found =>
      have continues := second found result
      dsimp only
      rw [first]
      exact continues

theorem current
    {next : Session → Action Result}
    (continues : Still (next session) session) :
    Still (Action.current >>= next) session :=
  continues

theorem decoded (decoder : Decoder Result) (reader : Reader) :
    Still (Action.decoded decoder reader) session := by
  unfold Action.decoded
  split
  · rfl
  · rfl

/-- Taking an answer to a connect request that the session has not made. -/
theorem acceptConnectResponse
    {reader : Reader}
    (unasked :
      session.stage = .requestingConnect →
        (ConnectResponse.decode reader).1.toOption = none) :
    Still (Action.acceptCommand .connectResponse reader) session := by
  change Still (acceptMessage ConnectResponse.decode acceptConnection reader) _
  unfold Still acceptMessage
  rcases taken : ConnectResponse.decode reader with
    ⟨failure | response, rest⟩
  · rw [decoded_bind_error taken]
  · rw [decoded_bind_ok taken]
    have elsewhere : session.stage ≠ .requestingConnect := by
      intro asked
      have missing := unasked asked
      rw [taken] at missing
      cases missing
    refine bind (current ?_) fun _ _ => rfl
    rw [if_pos elsewhere]
    rfl

/-- A datagram outside any connection that answers no request. -/
theorem acceptOutOfBand
    {id first second code : UInt8}
    {message : Octets}
    (unasked :
      session.stage = .requestingConnect →
        connectResponse? (id :: first :: second :: code :: message) = none) :
    Still (Action.acceptOutOfBand ⟨1, first :: second :: code :: message⟩)
      session := by
  have numbered :
      Decoder.word16 ⟨1, first :: second :: code :: message⟩ =
        (.ok (UInt16.ofNat (Octets.value [first, second])),
          ⟨3, code :: message⟩) :=
    (Decoder.Reads.number [first, second]).map UInt16.ofNat 1
      (code :: message)
  have commanded :
      Decoder.octet ⟨3, code :: message⟩ = (.ok code, ⟨4, message⟩) :=
    Decoder.Reads.octet code 3 message
  unfold Still Action.acceptOutOfBand
  rw [decoded_bind_ok numbered]
  dsimp only
  rw [decoded_bind_ok commanded]
  dsimp only
  by_cases answers : Command.ofCode? code = some .connectResponse
  · rw [if_pos answers]
    have coded := Command.code_of_ofCode? answers
    refine bind (acceptConnectResponse fun asked => ?_) fun _ _ => rfl
    have found :
        connectResponse? (id :: first :: second :: code :: message) =
          (ConnectResponse.decode ⟨4, message⟩).1.toOption :=
      if_pos (congrArg some coded.symm)
    exact found.symm.trans (unasked asked)
  · rw [if_neg answers]
    rfl

/-- Only what comes behind the header of its own connection can change a session. -/
theorem acceptConnected
    {id : UInt8}
    {reader : Reader}
    (ends : ∀ connection ∈ session.connection,
      connection.id = id →
        session.stage ≠ .disconnected →
          Still
            (do
              let reader ← Action.checkSeal connection.secret reader
              let reader ← Action.checkSequence reader
              let reader ← Action.takeEcho reader
              Action.takeCommand reader)
            session) :
    Still (Action.acceptConnected id reader) session := by
  refine current ?_
  cases connected : session.connection with
  | none => rfl
  | some connection =>
      dsimp only
      by_cases foreign : connection.id ≠ id
      · rw [if_pos foreign]
        rfl
      · rw [if_neg foreign]
        by_cases gone : session.stage = .disconnected
        · rw [if_pos gone]
          rfl
        · rw [if_neg gone]
          exact ends connection connected (Decidable.not_not.mp foreign) gone

theorem checkSeal (secret : UInt64) (reader : Reader) :
    Still (Action.checkSeal secret reader) session := by
  refine bind (decoded _ _) fun (claimed, rest) _ => ?_
  dsimp only
  split
  · rfl
  · rfl

end Still

/-- Behind a seal that is passed stand the octets that it belongs to. -/
theorem of_checkSeal
    {secret : UInt64}
    {claimed : UInt32}
    {covered : Octets}
    {found : Reader}
    (passes :
      (checkSeal secret ⟨1, Octets.ofWord32 claimed ++ covered⟩
        session).result = .ok found) :
    found = ⟨5, covered⟩ ∧ Seal.make secret covered = claimed := by
  have taken :
      Decoder.word32 ⟨1, Octets.ofWord32 claimed ++ covered⟩ =
        (.ok claimed, ⟨5, covered⟩) :=
    Decoder.Reads.word32 claimed 1 covered
  unfold checkSeal at passes
  rw [decoded_bind_ok taken] at passes
  dsimp only at passes
  by_cases good : Seal.verifies secret claimed covered
  · rw [if_pos good] at passes
    exact ⟨(Except.ok.inj passes).symm, beq_iff_eq.mp good⟩
  · rw [if_neg good] at passes
    cases passes

/-- Only a sealed datagram passes. -/
theorem sealedUnder_of_checkSeal
    {secret : UInt64}
    {octets : Octets}
    {found : Reader}
    (passes :
      (checkSeal secret ⟨1, octets⟩ session).result = .ok found)
    (id : UInt8) :
    SealedUnder secret (id :: octets) := by
  by_cases enough : 4 ≤ octets.length
  · obtain ⟨claimed, written⟩ :=
      Octets.exists_ofWord32 (List.length_take_of_le enough)
    have parts : octets = Octets.ofWord32 claimed ++ octets.drop 4 := by
      rw [written, List.take_append_drop]
    rw [parts] at passes
    obtain ⟨_, belongs⟩ := of_checkSeal passes
    refine ⟨id, octets.drop 4, ?_⟩
    rw [sealedDatagram, belongs, ← parts]
  · have unread :
        Decoder.word32 ⟨1, octets⟩ =
          (.error (Reader.underflow ⟨1, octets⟩ 4), ⟨1, octets⟩) :=
      Decoder.map_number_of_short (Nat.not_le.mp enough) UInt32.ofNat
    unfold checkSeal at passes
    rw [decoded_bind_error unread] at passes
    cases passes

namespace Still

/-- A number that does not lie ahead is refused, and not taken over. -/
theorem checkSequence_of_late
    {number : UInt16}
    (late : session.receiveSequence.distance number ≤ 0)
    (position : Nat)
    (message : Octets) :
    Still
        (Action.checkSequence ⟨position, Octets.ofWord16 number ++ message⟩)
        session ∧
      (Action.checkSequence ⟨position, Octets.ofWord16 number ++ message⟩
        session).result =
          .error (.stale (session.receiveSequence.distance number)) := by
  have numbered :
      Decoder.word16 ⟨position, Octets.ofWord16 number ++ message⟩ =
        (.ok number, ⟨position + 2, message⟩) :=
    Decoder.Reads.word16 number position message
  have keeps :
      session.receiveSequence.accept number = session.receiveSequence :=
    if_neg (Int.not_lt.mpr late)
  unfold Still Action.checkSequence
  rw [decoded_bind_ok numbered]
  dsimp only
  rw [current_bind, if_pos late]
  exact
    ⟨congrArg (fun sequence => { session with receiveSequence := sequence })
      keeps, rfl⟩

/-- From outside any connection an inert datagram does not get through. -/
theorem acceptOutOfBand_of_inert
    {octets : Octets}
    (enough : 3 ≤ octets.length)
    (inert : session.Inert (noConnectionId :: octets)) :
    Still (Action.acceptOutOfBand ⟨1, octets⟩) session := by
  have unasked :
      session.stage = .requestingConnect →
        connectResponse? (noConnectionId :: octets) = none := by
    intro asked
    cases inert with
    | short few =>
        exact absurd (Nat.succ_le_succ enough) (Nat.not_le.mpr few)
    | outOfBand _ unasked => exact unasked asked
    | foreign id bears inside _ =>
        exact absurd (Option.some.inj bears).symm inside
    | unsealed inside _ => exact absurd rfl inside
    | stale id _ _ _ inside made _ =>
        exact absurd (List.cons.inj made).1.symm inside
    | disconnected gone =>
        rw [gone] at asked
        cases asked
  match octets, enough with
  | first :: second :: code :: message, _ => exact acceptOutOfBand unasked

/-- Within a connection an inert datagram does not get past its header. -/
theorem acceptConnected_of_inert
    {id : UInt8}
    {octets : Octets}
    (inside : id ≠ noConnectionId)
    (enough : 3 ≤ octets.length)
    (inert : session.Inert (id :: octets)) :
    Still (Action.acceptConnected id ⟨1, octets⟩) session := by
  cases inert with
  | short few => exact absurd (Nat.succ_le_succ enough) (Nat.not_le.mpr few)
  | outOfBand outside _ => exact absurd (Option.some.inj outside) inside
  | foreign other bears _ differs =>
      refine acceptConnected fun connection connected own _ => ?_
      have same : session.connection.map Connection.id = some other := by
        rw [connected, Option.map_some, own]
        exact bears
      exact absurd same differs
  | disconnected gone =>
      exact acceptConnected fun _ _ _ remains => absurd gone remains
  | unsealed _ broken =>
      refine acceptConnected fun connection connected _ _ => ?_
      refine bind (checkSeal _ _) fun found passes => ?_
      exact absurd (sealedUnder_of_checkSeal passes id)
        (broken connection connected)
  | stale other claimed number message _ made late =>
      obtain ⟨rfl, rfl⟩ := List.cons.inj made
      refine acceptConnected fun connection connected _ _ => ?_
      refine bind (checkSeal _ _) fun found passes => ?_
      obtain ⟨rfl, _⟩ := of_checkSeal passes
      obtain ⟨still, refused⟩ := checkSequence_of_late late 5 message
      refine bind still fun _ accepted => ?_
      rw [refused] at accepted
      cases accepted

/-- An inert datagram is not heeded. -/
theorem acceptDatagram
    {datagram : Octets}
    (inert : session.Inert datagram) :
    Still (Action.acceptDatagram datagram) session := by
  unfold Action.acceptDatagram
  by_cases few : datagram.length < fewestDatagramOctets
  · rw [if_pos few]
    rfl
  · rw [if_neg few]
    cases datagram with
    | nil => exact absurd (by decide) few
    | cons id octets =>
        have enough : 3 ≤ octets.length :=
          Nat.le_of_succ_le_succ (Nat.not_lt.mp few)
        have named :
            Decoder.octet (Reader.ofOctets (id :: octets)) =
              (.ok id, ⟨1, octets⟩) :=
          Decoder.Reads.octet id 0 octets
        unfold Still
        rw [decoded_bind_ok named]
        dsimp only
        by_cases outside : id = noConnectionId
        · rw [if_pos outside]
          rw [outside] at inert
          exact acceptOutOfBand_of_inert enough inert
        · rw [if_neg outside]
          exact acceptConnected_of_inert outside enough inert

end Still

end Action

variable {session : Session} {datagram : Octets}

/-- The counts of arrivals do not show in whether a datagram is inert. -/
theorem Inert.countArrival (inert : session.Inert datagram) :
    (session.countArrival datagram).Inert datagram := by
  cases inert with
  | short few => exact .short few
  | outOfBand outside unasked => exact .outOfBand outside unasked
  | foreign id bears inside other => exact .foreign id bears inside other
  | unsealed inside broken => exact .unsealed inside broken
  | stale id claimed number message inside made late =>
      exact .stale id claimed number message inside made late
  | disconnected gone => exact .disconnected gone

/-- An inert datagram changes nothing but the counts of arrivals. -/
theorem Inert.receive (inert : session.Inert datagram) :
    Alike (session.receive datagram).session session := by
  have unheeded :
      (Action.acceptDatagram datagram
        (session.countArrival datagram)).session =
          session.countArrival datagram :=
    Action.Still.acceptDatagram inert.countArrival
  have counted := Alike.of_countArrival session datagram
  unfold Session.receive
  dsimp only
  split
  · rw [unheeded]
    exact counted
  · rw [unheeded]
    exact (Alike.of_countRefused _).trans counted

end StepSync.Session
