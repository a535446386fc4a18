import StepSync.Proofs.Datagram.Sequence
import StepSync.Proofs.Session.Lifecycle
import StepSync.Proofs.Session.Unchanged

namespace StepSync

/-!
# The account of lost datagrams

A datagram of the session's own connection bears a number behind its seal.  If the
number lies ahead it is taken, and the numbers that were skipped are counted as
lost, whatever becomes of the message behind it (`Session.tally_receive`).
Nothing else counts losses, so from the answer to the connect request on the count
is what the strides of the numbers say (`Session.sequence_account`).
-/

/-- The state of the numbering, and how many datagrams are counted as lost. -/
structure Tally where
  sequence : ReceiveSequence
  lost : Nat
  deriving Repr, DecidableEq

namespace Tally

/-- A number that lies ahead is taken, and those in between are lost. -/
def take (tally : Tally) (number : UInt16) : Tally where
  sequence := tally.sequence.accept number
  lost := tally.lost + (tally.sequence.distance number - 1).toNat

/--
What lies between the accepted numbers is lost, and what is refused
counts for nothing.
-/
theorem foldl_take (tally : Tally) (numbers : List UInt16) :
    numbers.foldl take tally =
      ⟨tally.sequence.acceptAll numbers,
        tally.lost +
          ((tally.sequence.strides numbers).map (· - 1)).sum⟩ := by
  induction numbers generalizing tally with
  | nil => rfl
  | cons number numbers inductionHypothesis =>
      rw [List.foldl_cons, inductionHypothesis, take,
        ReceiveSequence.strides]
      by_cases further : 0 < tally.sequence.distance number
      · have skipped :
            (tally.sequence.distance number - 1).toNat =
              (tally.sequence.distance number).toNat - 1 := by
          omega
        rw [if_pos further, List.map_cons, List.sum_cons, ← Nat.add_assoc,
          skipped]
        rfl
      · have skipped :
            (tally.sequence.distance number - 1).toNat = 0 := by
          omega
        rw [if_neg further, skipped]
        rfl

end Tally

/-- A session that asks for a connection has none. -/
theorem Situation.Coherent.lone
    {situation : Situation}
    (coherent : situation.Coherent)
    (requesting : situation.stage = .requestingConnect) :
    situation.connection = none := by
  have lacks := coherent.atStage
  rw [requesting] at lacks
  exact lacks.1

namespace Session

/-- The tally of a session. -/
def tally (session : Session) : Tally :=
  ⟨session.receiveSequence, session.traffic.datagramsLost⟩

instance : IgnoresContents tally where
  same _ _ sameLosses _ sameSequence := by
    unfold tally
    rw [sameLosses, sameSequence]

/--
The number in a datagram of the session's own connection: same id, not
disconnected, and a good seal.
-/
def number? (session : Session) (datagram : Octets) : Option UInt16 :=
  if datagram.length < fewestDatagramOctets then none
  else
    match Decoder.octet (Reader.ofOctets datagram) with
    | (.error _, _) => none
    | (.ok id, reader) =>
        if id = noConnectionId then none
        else
          match session.connection with
          | none => none
          | some connection =>
              if connection.id ≠ id ∨ session.stage = .disconnected then none
              else
                (reader.afterSeal? connection.secret).bind fun reader =>
                  (Decoder.word16 reader).1.toOption

/-- The datagram is the answer to the connect request, and is taken. -/
def ConnectedBy (session : Session) (datagram : Octets) : Prop :=
  session.stage = .requestingConnect ∧
    (session.receive datagram).session.stage = .connected

instance (session : Session) (datagram : Octets) :
    Decidable (session.ConnectedBy datagram) := by
  unfold ConnectedBy
  infer_instance

/--
Nothing has changed in the tally, or the awaited answer has made it begin anew.
-/
def Answers (before after : Session) : Prop :=
  after.tally = before.tally ∧ after.stage = before.stage ∨
    before.stage = .requestingConnect ∧ after.stage = .connected ∧
      after.tally = ⟨ReceiveSequence.start, before.traffic.datagramsLost⟩

namespace Action

/-- Skipped datagrams are counted, and the numbering goes on. -/
theorem tally_countLost (lost : Nat) (session : Session) :
    (countLost lost session).session.tally =
      ⟨session.receiveSequence, session.traffic.datagramsLost + lost⟩ := by
  have judged : (updateHealth (fun health => health.dropped lost)
      session).session.tally = session.tally :=
    Keeps.updateHealth _ session
  exact congrArg (fun tally => Tally.mk tally.sequence (tally.lost + lost))
    judged

/-- The number decides, if it is there. -/
theorem tally_checkSequence (reader : Reader) (session : Session) :
    (checkSequence reader session).session.tally =
      (Decoder.word16 reader).1.toOption.elim session.tally
        session.tally.take := by
  unfold checkSequence
  rcases numbered : Decoder.word16 reader with ⟨failure | number, rest⟩
  · rw [decoded_bind_error numbered]
    rfl
  · rw [decoded_bind_ok numbered]
    dsimp only
    rw [current_bind, session_bind, modify_apply]
    dsimp only
    by_cases late : session.receiveSequence.distance number ≤ 0
    · have skipped :
          (session.receiveSequence.distance number - 1).toNat = 0 := by
        omega
      have taken :
          session.tally.take number =
            ⟨session.receiveSequence.accept number,
              session.traffic.datagramsLost⟩ :=
        congrArg (fun skipped => Tally.mk _ (_ + skipped)) skipped
      rw [if_pos late]
      exact taken.symm
    · rw [if_neg late, session_bind]
      have counted := tally_countLost
        (session.receiveSequence.distance number - 1).toNat
        { session with
          receiveSequence := session.receiveSequence.accept number }
      split <;> exact counted

/-- The answer to a connect request starts the numbering anew, if it is awaited. -/
theorem answers_acceptConnection
    (response : ConnectResponse)
    (session : Session) :
    session.Answers (acceptConnection response session).session := by
  unfold acceptConnection
  rw [current_bind]
  by_cases requesting : session.stage = .requestingConnect
  · rw [if_neg (not_not_intro requesting)]
    by_cases nameless : response.connectionId = noConnectionId
    · rw [if_pos nameless]
      exact .inl ⟨rfl, rfl⟩
    · rw [if_neg nameless]
      exact .inr ⟨requesting, rfl, rfl⟩
  · rw [if_pos requesting]
    exact .inl ⟨rfl, rfl⟩

theorem answers_acceptCommand (reader : Reader) (session : Session) :
    session.Answers
      (acceptCommand .connectResponse reader session).session := by
  rw [acceptCommand, acceptMessage]
  rcases decodes : ConnectResponse.decode reader with
    ⟨failure | response, rest⟩
  · rw [decoded_bind_error decodes]
    exact .inl ⟨rfl, rfl⟩
  · rw [decoded_bind_ok decodes, session_bind]
    have accepted := answers_acceptConnection response session
    split <;> exact accepted

theorem answers_acceptOutOfBand (reader : Reader) (session : Session) :
    session.Answers (acceptOutOfBand reader session).session := by
  unfold acceptOutOfBand
  rcases numbered : Decoder.word16 reader with ⟨failure | number, rest⟩
  · rw [decoded_bind_error numbered]
    exact .inl ⟨rfl, rfl⟩
  · rw [decoded_bind_ok numbered]
    dsimp only
    rcases taken : Decoder.octet rest with ⟨failure | code, rest⟩
    · rw [decoded_bind_error taken]
      exact .inl ⟨rfl, rfl⟩
    · rw [decoded_bind_ok taken]
      dsimp only
      by_cases answers : Command.ofCode? code = some .connectResponse
      · rw [if_pos answers, session_bind]
        have accepted := answers_acceptCommand rest session
        split <;> exact accepted
      · rw [if_neg answers]
        exact .inl ⟨rfl, rfl⟩

/-- Behind the number, a session that has its connection counts nothing. -/
theorem tally_takeCommand
    {session : Session}
    (away : session.stage ≠ .requestingConnect)
    (reader : Reader) :
    (takeCommand reader session).session.tally = session.tally := by
  unfold takeCommand
  rcases taken : Decoder.octet reader with ⟨failure | code, rest⟩
  · rw [decoded_bind_error taken]
  · rw [decoded_bind_ok taken]
    dsimp only
    cases Command.ofCode? code with
    | none => rfl
    | some command =>
        have accepted :
            (acceptCommand command rest session).session.tally =
              session.tally := by
          by_cases answers : command = .connectResponse
          · rw [answers]
            rcases answers_acceptCommand rest session with
              ⟨same, _⟩ | ⟨requesting, _⟩
            · exact same
            · exact absurd requesting away
          · exact Keeps.acceptCommand_of_ne answers rest session
        rw [session_bind, note_apply]
        dsimp only
        rw [session_bind]
        split <;> exact accepted

/-- The same behind the number, from the echoed time on. -/
theorem tally_takeEcho
    {session : Session}
    (away : session.stage ≠ .requestingConnect)
    (reader : Reader) :
    ((takeEcho reader >>= takeCommand) session).session.tally =
      session.tally := by
  have echoed : (takeEcho reader session).session.tally = session.tally :=
    Keeps.takeEcho reader session
  have sameStage : (takeEcho reader session).session.stage = session.stage :=
    congrArg Situation.stage (Leaves.takeEcho reader session).situation
  rw [session_bind]
  split
  · exact (tally_takeCommand (sameStage ▸ away) _).trans echoed
  · exact echoed

/-- Behind the seal, the number decides, if it is there. -/
theorem tally_acceptSealed
    {session : Session}
    (away : session.stage ≠ .requestingConnect)
    (secret : UInt64)
    (reader : Reader) :
    (acceptSealed secret reader session).session.tally =
      ((reader.afterSeal? secret).bind fun reader =>
        (Decoder.word16 reader).1.toOption).elim session.tally
          session.tally.take := by
  obtain ⟨keeps, finds⟩ := checkSeal_spec secret reader session
  unfold acceptSealed
  rw [session_bind, keeps]
  cases checked : (checkSeal secret reader session).result with
  | error refusal =>
      rw [← finds, checked]
      rfl
  | ok behind =>
      have counted := tally_checkSequence behind session
      have sameStage :
          (checkSequence behind session).session.stage = session.stage :=
        congrArg Situation.stage
          (Leaves.checkSequence behind session).situation
      rw [← finds, checked, Except.toOption, Option.bind_some, ← counted]
      dsimp only
      rw [session_bind]
      split
      · exact tally_takeEcho (sameStage ▸ away) _
      · rfl

end Action

/--
A number counts behind a good seal; where it does not, an answer may
have been awaited.
-/
theorem acceptDatagram_cases
    {session : Session}
    (lone : session.stage = .requestingConnect → session.connection = none)
    (datagram : Octets) :
    let after := (Action.acceptDatagram datagram session).session
    session.number? datagram = none ∧ session.Answers after ∨
      session.stage ≠ .requestingConnect ∧
        after.tally =
          (session.number? datagram).elim session.tally
            session.tally.take := by
  unfold number? Action.acceptDatagram
  by_cases short : datagram.length < fewestDatagramOctets
  · rw [if_pos short, if_pos short]
    exact .inl ⟨rfl, .inl ⟨rfl, rfl⟩⟩
  · rw [if_neg short, if_neg short]
    rcases named : Decoder.octet (Reader.ofOctets datagram) with
      ⟨failure | id, reader⟩
    · rw [Action.decoded_bind_error named]
      exact .inl ⟨rfl, .inl ⟨rfl, rfl⟩⟩
    · rw [Action.decoded_bind_ok named]
      dsimp only
      by_cases outOfBand : id = noConnectionId
      · rw [if_pos outOfBand, if_pos outOfBand]
        exact .inl ⟨rfl, Action.answers_acceptOutOfBand reader session⟩
      · rw [if_neg outOfBand, if_neg outOfBand, Action.acceptConnected,
          Action.current_bind]
        cases connected : session.connection with
        | none => exact .inl ⟨rfl, .inl ⟨rfl, rfl⟩⟩
        | some connection =>
            have away : session.stage ≠ .requestingConnect :=
              fun requesting => by
                cases connected.symm.trans (lone requesting)
            refine .inr ⟨away, ?_⟩
            by_cases foreign : connection.id ≠ id
            · simp [foreign]
            · by_cases gone : session.stage = .disconnected
              · simp [foreign, gone]
              · simp only [foreign, gone, or_self, ↓reduceIte]
                exact Action.tally_acceptSealed away connection.secret reader

/--
What a datagram does to the tally: if it is the answer to the connect request the
numbering begins anew, else its number is taken, if it bears one that counts.
-/
theorem tally_receive
    {session : Session}
    (lone : session.stage = .requestingConnect → session.connection = none)
    (datagram : Octets) :
    (session.receive datagram).session.tally =
      if session.ConnectedBy datagram then
        ⟨ReceiveSequence.start, session.traffic.datagramsLost⟩
      else
        (session.number? datagram).elim session.tally session.tally.take := by
  obtain ⟨sameTally, sameStage⟩ :
      (session.receive datagram).session.tally =
          (Action.acceptDatagram datagram
            (session.countArrival datagram)).session.tally ∧
        (session.receive datagram).session.stage =
          (Action.acceptDatagram datagram
            (session.countArrival datagram)).session.stage := by
    unfold receive
    dsimp only
    split <;> exact ⟨rfl, rfl⟩
  -- Counting the arrival changes nothing that is looked at here.
  have stillLone :
      (session.countArrival datagram).stage = .requestingConnect →
        (session.countArrival datagram).connection = none :=
    lone
  rw [sameTally]
  rcases acceptDatagram_cases stillLone datagram with
    ⟨unnumbered, ⟨same, stays⟩ | ⟨requesting, connected, anew⟩⟩ |
      ⟨away, counted⟩
  · have noNumber : session.number? datagram = none := unnumbered
    have waits : ¬session.ConnectedBy datagram := by
      rintro ⟨requesting, connected⟩
      cases requesting.symm.trans
        ((sameStage.trans stays).symm.trans connected)
    rw [if_neg waits, noNumber]
    exact same
  · have connects : session.ConnectedBy datagram :=
      ⟨requesting, sameStage.trans connected⟩
    rw [if_pos connects]
    exact anew
  · have waits : ¬session.ConnectedBy datagram :=
      fun connects => away connects.1
    rw [if_neg waits]
    exact counted

/-! ## The account -/

/-- The numbers that came since the numbering began, and what was lost before. -/
structure Arrivals where
  lostBefore : Nat
  numbers : List UInt16
  deriving Repr, DecidableEq

/--
The numbering begins with the answer to the connect request, and when the
session starts over.
-/
def noteArrival (arrivals : Arrivals) (session : Session) :
    Event → Arrivals
  | .received datagram =>
      if session.ConnectedBy datagram then
        ⟨(session.receive datagram).session.traffic.datagramsLost, []⟩
      else
        { arrivals with
          numbers :=
            arrivals.numbers ++ (session.number? datagram).toList }
  | .asked .reset => ⟨(session.ask .reset).2.traffic.datagramsLost, []⟩
  | _ => arrivals

/-- What has arrived in a run. -/
def arrivalsOf (settings : Settings) (events : List Event) : Arrivals :=
  watch noteArrival ⟨0, []⟩ (create settings).1 events

/-- The tally is what the numbers make of one that begins. -/
structure Tallied (arrivals : Arrivals) (session : Session) : Prop where
  coherent : session.situation.Coherent
  tally :
    session.tally =
      arrivals.numbers.foldl Tally.take
        ⟨ReceiveSequence.start, arrivals.lostBefore⟩

theorem tally_beginTick (now : Nat) (session : Session) :
    (Action.beginTick now session).session.tally = session.tally := by
  obtain ⟨_, begun⟩ := session_beginTick now session
  rw [begun]
  rfl

namespace Tallied

variable {arrivals : Arrivals} {session : Session}

theorem received
    (tallied : Tallied arrivals session)
    (datagram : Octets) :
    (session.receive datagram).session.tally =
      (noteArrival arrivals session (.received datagram)).numbers.foldl
        Tally.take
        ⟨ReceiveSequence.start,
          (noteArrival arrivals session (.received datagram)).lostBefore⟩ := by
  have counts := tally_receive tallied.coherent.lone datagram
  rw [counts, noteArrival]
  by_cases connects : session.ConnectedBy datagram
  · rw [if_pos connects] at counts
    rw [if_pos connects, if_pos connects]
    exact congrArg (Tally.mk ReceiveSequence.start)
      (congrArg Tally.lost counts).symm
  · rw [if_neg connects, if_neg connects, List.foldl_append,
      ← tallied.tally]
    cases session.number? datagram <;> rfl

theorem after
    (tallied : Tallied arrivals session)
    (event : Event) :
    Tallied (noteArrival arrivals session event) (session.after event) := by
  refine ⟨(coherent_after tallied.coherent event).1, ?_⟩
  cases event with
  | tickBegun now => exact (tally_beginTick now session).trans tallied.tally
  | tickEnded now refusal =>
      have judged := (field_endTick Session.tally session now refusal).trans
        (Action.Keeps.judgeLink session)
      exact judged.trans tallied.tally
  | received datagram => exact tallied.received datagram
  | asked request =>
      by_cases startsOver : request = .reset
      · rw [startsOver]
        rfl
      · have goesOn :
            noteArrival arrivals session (.asked request) = arrivals := by
          cases request <;> first | rfl | exact absurd rfl startsOver
        rw [goesOn]
        exact (field_ask Session.tally session startsOver).trans
          tallied.tally

end Tallied

theorem tallied_afterAll (settings : Settings) (events : List Event) :
    Tallied (arrivalsOf settings events)
      ((create settings).1.afterAll events) := by
  refine keeps_watch Tallied (fun _ _ event tallied => tallied.after event)
    ⟨coherent_afterAll settings [], ?_⟩ events
  rw [session_create]
  rfl

/-- The count of lost datagrams, told from the numbers that came. -/
structure Accounted (arrivals : Arrivals) (session : Session) : Prop where
  sequence :
    session.receiveSequence =
      ReceiveSequence.start.acceptAll arrivals.numbers
  grown :
    session.traffic.datagramsLost =
      arrivals.lostBefore +
        ((ReceiveSequence.start.strides arrivals.numbers).map
          (· - 1)).sum
  total :
    ReceiveSequence.start.strides arrivals.numbers ≠ [] →
      (ReceiveSequence.start.strides arrivals.numbers).length +
          (session.traffic.datagramsLost - arrivals.lostBefore) =
        1 + (ReceiveSequence.start.strides arrivals.numbers).tail.sum

theorem Tallied.accounted
    {arrivals : Arrivals}
    {session : Session}
    (tallied : Tallied arrivals session) :
    Accounted arrivals session := by
  have counts := tallied.tally
  rw [Tally.foldl_take] at counts
  have grown := congrArg Tally.lost counts
  refine ⟨congrArg Tally.sequence counts, grown, fun taken => ?_⟩
  have whole := ReceiveSequence.start.length_add_skipped arrivals.numbers
  cases given : arrivals.numbers with
  | nil => exact absurd (congrArg ReceiveSequence.start.strides given) taken
  | cons first later =>
      rw [given] at whole grown
      rw [ReceiveSequence.strides_start] at whole grown ⊢
      rw [List.sum_cons] at whole
      have lost :
          session.traffic.datagramsLost =
            arrivals.lostBefore +
              ((1 :: ReceiveSequence.strides ⟨some first⟩ later).map
                (· - 1)).sum :=
        grown
      rw [lost, List.tail_cons, Nat.add_sub_cancel_left]
      exact whole

/--
A receiver that was made anew takes the first number, and from then on those on
the half of the circle that is ahead of the last one.  What a session counts as
lost since the answer to its connect request is what was skipped between the
numbers that it has taken.
-/
theorem sequence_account :
    (∀ numbers, ReceiveSequence.Windowed numbers) ∧
      ∀ settings events,
        Accounted (arrivalsOf settings events)
          ((create settings).1.afterAll events) :=
  ⟨ReceiveSequence.windowed,
    fun settings events => (tallied_afterAll settings events).accounted⟩

/--
Behind the numbers 1 and 2 the number 7 has skipped four, though its
message is cut short.
-/
theorem sequence_account_skipping :
    let cut := numberedMessage 7 [[Command.gameStepResponse.code]]
    let events := eventsOf (syncing ++ [.receive cut])
    let session := (create Settings.standard).1.afterAll events
    arrivalsOf Settings.standard events = ⟨0, [1, 2, 7]⟩ ∧
      session.traffic.datagramsRejected = 1 ∧
      session.traffic.datagramsLost = 4 ∧
      Accounted (arrivalsOf Settings.standard events) session := by
  intro cut events session
  refine ⟨by decide +kernel, by decide +kernel, by decide +kernel, ?_⟩
  exact sequence_account.2 Settings.standard events

end Session

end StepSync
